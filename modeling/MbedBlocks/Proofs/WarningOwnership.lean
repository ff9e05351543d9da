import MbedBlocks.Proofs.RecordedWarnings
import MbedBlocks.Proofs.RepeatedChecks

/-!
# Checking after compiling

Compilation and checking both warn of a setup block whose unit is unknown, under one tag. A check
keeps what a compilation has reported, with one exception: it judges a setup block by the pin that
tells its unit and takes away the report on its other pin.
-/

namespace MbedBlocks

namespace Update

lemma warning?_foldl_of_untouched {us : List Update} {tag : String}
    (h : tag ∉ us.filterMap tag?) (b : Block) :
    (us.foldl applyTo b).warning? tag = b.warning? tag := by
  induction us generalizing b with
  | nil => rfl
  | cons u us ih =>
    have hu : u.tag? ≠ some tag := fun htag =>
      h (List.mem_filterMap.mpr ⟨u, List.mem_cons_self, htag⟩)
    have hus : tag ∉ us.filterMap tag? := by
      intro htag
      obtain ⟨v, hv, hvtag⟩ := List.mem_filterMap.mp htag
      exact h (List.mem_filterMap.mpr ⟨v, List.mem_cons_of_mem u hv, hvtag⟩)
    rw [List.foldl_cons, ih hus, warning?_applyTo, if_neg hu]

/-- Where each tag is touched once, every change has its way. -/
lemma warning?_foldl_of_mem {us : List Update} (hus : (us.filterMap tag?).Nodup) {u : Update}
    (hu : u ∈ us) {tag : String} (htag : u.tag? = some tag) (b : Block) :
    (us.foldl applyTo b).warning? tag = u.message? := by
  induction us generalizing b with
  | nil => cases hu
  | cons v us ih =>
    rw [List.foldl_cons]
    rcases List.mem_cons.mp hu with rfl | hu
    · rw [List.filterMap_cons_some htag] at hus
      rw [warning?_foldl_of_untouched (List.nodup_cons.mp hus).1, warning?_applyTo, if_pos htag]
    · refine ih ?_ hu _
      cases hv : v.tag? with
      | none => rwa [List.filterMap_cons_none hv] at hus
      | some tag' =>
        rw [List.filterMap_cons_some hv] at hus
        exact (List.nodup_cons.mp hus).2

end Update

/-! ### Storing the warnings of a compilation -/

/-- The change that stores a warning. -/
def Warning.update (w : Warning) : Update := .warn w.tag w.message

namespace Graph

variable {g : Graph} {board : Board}

/-- What storing warnings changes on a block: tags that are not reported any more go, then the
reported ones come. -/
def annotations (warnings : List Warning) (b : Block) : List Update :=
  (outdatedTags warnings b).map .clear ++
    (warnings.filter fun w => w.blockId == b.id).map Warning.update

lemma foldl_modify (warnings : List Warning) (g : Graph) (r : CheckReport) :
    warnings.foldl
        (fun g w => g.modify w.blockId fun b => b.setWarning w.tag (some w.message)) g =
      ((warnings.map fun w => (w.blockId, w.update)).foldl Check.write (g, r)).1 := by
  induction warnings generalizing g r with
  | nil => rfl
  | cons w warnings ih =>
    rw [List.foldl_cons, List.map_cons, List.foldl_cons]
    exact ih _ _

lemma addressed_warnings (warnings : List Warning) (id : String) :
    Check.addressed (warnings.map fun w => (w.blockId, w.update)) id =
      (warnings.filter fun w => w.blockId == id).map Warning.update := by
  unfold Check.addressed
  rw [List.filter_map, List.map_map]
  rfl

lemma id_foldl_applyTo (us : List Update) (b : Block) : (us.foldl Update.applyTo b).id = b.id := by
  induction us generalizing b with
  | nil => rfl
  | cons u us ih => rw [List.foldl_cons, ih, Check.id_applyTo]

lemma blocks_applyWarnings (hg : g.Distinct) (warnings : List Warning) :
    (g.applyWarnings warnings).1.blocks =
      g.blocks.map fun b => (annotations warnings b).foldl Update.applyTo b := by
  have hcleaned (b : Block) : (outdatedTags warnings b).foldl (fun b tag => b.setWarning tag none) b =
      ((outdatedTags warnings b).map Update.clear).foldl Update.applyTo b := by
    rw [List.foldl_map]
    rfl
  have hdistinct : ({ g with blocks := g.blocks.map fun b =>
      (outdatedTags warnings b).foldl (fun b tag => b.setWarning tag none) b } : Graph).Distinct := by
    have hids : ∀ b : Block,
        ((outdatedTags warnings b).foldl (fun b tag => b.setWarning tag none) b).id = b.id := by
      intro b
      rw [hcleaned, id_foldl_applyTo]
    unfold Distinct
    rw [List.map_map]
    exact (List.map_congr_left fun b _ => hids b).symm ▸ hg
  unfold applyWarnings
  dsimp only
  rw [foldl_modify _ _ {}, Check.blocks_foldl_write _ hdistinct, List.map_map]
  refine List.map_congr_left fun b _ => ?_
  rw [Function.comp_apply, hcleaned, id_foldl_applyTo, addressed_warnings, annotations,
    List.foldl_append]

lemma tags_annotations (warnings : List Warning) (b : Block) :
    (annotations warnings b).filterMap Update.tag? =
      outdatedTags warnings b ++ (warnings.filter fun w => w.blockId == b.id).map Warning.tag := by
  have hclear : Update.tag? ∘ Update.clear = some := rfl
  have hwarn : Update.tag? ∘ Warning.update = some ∘ Warning.tag := rfl
  rw [annotations, List.filterMap_append, List.filterMap_map, List.filterMap_map, hclear, hwarn,
    List.filterMap_some, List.filterMap_eq_map]

lemma nodup_tags_annotations {warnings : List Warning} (h : (warnings.map Warning.key).Nodup)
    (b : Block) : ((annotations warnings b).filterMap Update.tag?).Nodup := by
  have hgeneration : Tag.generation.Nodup := by decide
  have hreported : ((warnings.filter fun w => w.blockId == b.id).map Warning.tag).Nodup := by
    have hkeys : (warnings.filter fun w => w.blockId == b.id).map Warning.key =
        ((warnings.filter fun w => w.blockId == b.id).map Warning.tag).map fun tag => (b.id, tag) := by
      rw [List.map_map]
      refine List.map_congr_left fun w hw => ?_
      have hid : w.blockId = b.id := by simpa using (List.mem_filter.mp hw).2
      simp [Warning.key, hid]
    refine List.Nodup.of_map (fun tag => (b.id, tag)) ?_
    rw [← hkeys]
    exact h.sublist (List.filter_sublist.map Warning.key)
  rw [tags_annotations]
  refine List.nodup_append.mpr ⟨hgeneration.filter _, hreported, ?_⟩
  rintro tag houtdated _ hreported rfl
  -- A tag that is reported is not outdated.
  obtain ⟨w, hw, rfl⟩ := List.mem_map.mp hreported
  obtain ⟨hw, hid⟩ := List.mem_filter.mp hw
  have hunreported : (warnings.any fun v => v.blockId == b.id && v.tag == w.tag) = false := by
    simpa using (Bool.and_eq_true_iff.mp (List.mem_filter.mp houtdated).2).2
  have hany : (warnings.any fun v => v.blockId == b.id && v.tag == w.tag) = true :=
    List.any_eq_true.mpr ⟨w, hw, by simpa using hid⟩
  rw [hunreported] at hany
  cases hany

/-- A warning that is reported once is stored on its block. -/
lemma warning?_annotations {warnings : List Warning} (h : (warnings.map Warning.key).Nodup)
    {w : Warning} (hw : w ∈ warnings) {b : Block} (hid : b.id = w.blockId) :
    ((annotations warnings b).foldl Update.applyTo b).warning? w.tag = some w.message := by
  refine Update.warning?_foldl_of_mem (u := w.update) (nodup_tags_annotations h b) ?_ rfl b
  refine List.mem_append_right _ (List.mem_map_of_mem (List.mem_filter.mpr ⟨hw, ?_⟩))
  exact beq_iff_eq.mpr hid.symm

lemma Distinct.applyWarnings (hg : g.Distinct) (warnings : List Warning) :
    (g.applyWarnings warnings).1.Distinct := by
  unfold Distinct
  rw [blocks_applyWarnings hg, List.map_map]
  exact (List.map_congr_left fun b _ => id_foldl_applyTo _ b).symm ▸ hg

lemma stored_applyWarnings (hg : g.Distinct) (warnings : List Warning) {b : Block}
    (hb : b ∈ g.blocks) (tag : String) :
    (g.applyWarnings warnings).1.stored b.id tag =
      ((annotations warnings b).foldl Update.applyTo b).warning? tag := by
  rw [stored_of_map (blocks_applyWarnings hg warnings) fun b => id_foldl_applyTo _ b,
    hg.get?_eq hb]
  rfl

/-- What a check makes of a block whose warnings have been stored. -/
lemma stored_check_applyWarnings (hg : g.Distinct) (warnings : List Warning) {b : Block}
    (hb : b ∈ g.blocks) (tag : String) :
    ((g.applyWarnings warnings).1.checkFor board).1.stored b.id tag =
      ((Check.ownUpdates g board b).foldl Update.applyTo
        (((annotations warnings b).foldl Update.applyTo b).refresh board)).warning? tag := by
  have hbare : ((annotations warnings b).foldl Update.applyTo b).bare = b.bare := by
    refine bare_foldl_applyTo (fun u hu => ?_) b
    rcases List.mem_append.mp hu with hu | hu <;> obtain ⟨_, -, rfl⟩ := List.mem_map.mp hu <;> trivial
  -- The check asks for the same changes, since it sees the same bare graph.
  have hupdates : Check.ownUpdates (g.applyWarnings warnings).1 board
      ((annotations warnings b).foldl Update.applyTo b) = Check.ownUpdates g board b := by
    rw [← Check.ownUpdates_bare, bare_applyWarnings, hbare, Check.ownUpdates_bare]
  rw [stored_of_map (blocks_checkFor (hg.applyWarnings warnings)) fun b => by
      rw [id_foldl_applyTo, Block.id_refresh],
    get?_of_map (blocks_applyWarnings hg warnings) fun b => id_foldl_applyTo _ b, hg.get?_eq hb,
    Option.map_some, Option.bind_some, hupdates]

end Graph

/-! ### The tags of compilation in a check -/

namespace Check

lemma generation_tags_of_entry :
    ∀ info ∈ catalogue, ∀ tag ∈ info.capabilities.flatMap Capability.tags, tag ∈ Tag.generation →
      tag = Tag.unknownResource ∧ info.pairedSetup?.isSome := by
  decide

/-- The only tag of compilation that a check touches is that of unknown units, on setup blocks. -/
lemma setup_of_generation_tag {b : Block} {tag : String} (h : tag ∈ b.checkTags)
    (hgeneration : tag ∈ Tag.generation) :
    tag = Tag.unknownResource ∧ ∃ setup, .pairedSetup setup ∈ b.capabilities := by
  unfold Block.checkTags Block.capabilities at h
  unfold Block.capabilities
  cases hinfo : b.info? with
  | none =>
    rw [hinfo] at h
    cases h
  | some info =>
    rw [hinfo] at h
    obtain ⟨htag, hsetup⟩ :=
      generation_tags_of_entry info (b.mem_of_info? hinfo).1 tag h hgeneration
    obtain ⟨setup, hsetup⟩ := Option.isSome_iff_exists.mp hsetup
    exact ⟨htag, setup, info.mem_of_pairedSetup? hsetup⟩

end Check

/-- The pin that tells the unit of the setup block has one. -/
def Block.Paired (b : Block) (board : Board) : Prop :=
  ∃ setup unit, .pairedSetup setup ∈ b.capabilities ∧
    board.unit (b.text setup.primary) setup.mapper = .ok unit

namespace Check

variable {g : Graph} {board : Board} {b : Block}

lemma ownUpdates_of_setup {setup : PairedSetup} (h : .pairedSetup setup ∈ b.capabilities) :
    ownUpdates g board b = pairing board b setup := by
  rw [ownUpdates, Proofs.capabilities_eq h]
  exact List.append_nil _

/-- A check takes the report on unknown pins from a setup block that has its unit. -/
lemma warning?_of_paired (h : b.Paired board) (c : Block) :
    ((ownUpdates g board b).foldl Update.applyTo c).warning? Tag.unknownResource = none := by
  obtain ⟨setup, unit, hsetup, hunit⟩ := h
  refine Update.warning?_foldl_of_mem (u := .clear Tag.unknownResource) ?_ ?_ rfl c
  · rw [tags_ownUpdates]
    exact (checkTags_separate b).1
  · rw [ownUpdates_of_setup hsetup, pairing, hunit]
    exact List.mem_cons_self

/-- A check reports a setup block without its unit, as a compilation does. -/
lemma warning?_of_unpaired {message : String} (h : b.Unpaired board message) (c : Block) :
    ((ownUpdates g board b).foldl Update.applyTo c).warning? Tag.unknownResource =
      some message := by
  obtain ⟨setup, e, hsetup, hunit, rfl⟩ := h
  refine Update.warning?_foldl_of_mem (u := .warn Tag.unknownResource e.message) ?_ ?_ rfl c
  · rw [tags_ownUpdates]
    exact (checkTags_separate b).1
  · rw [ownUpdates_of_setup hsetup, pairing, hunit]
    exact List.mem_cons_self

end Check

namespace Proofs

variable {g : Graph} {board : Board}

lemma paired_or_unpaired {b : Block} (board : Board) {setup : PairedSetup}
    (h : .pairedSetup setup ∈ b.capabilities) :
    b.Paired board ∨ ∃ message, b.Unpaired board message := by
  cases hunit : board.unit (b.text setup.primary) setup.mapper with
  | ok unit => exact .inl ⟨setup, unit, h, hunit⟩
  | error e => exact .inr ⟨e.message, setup, e, h, hunit, rfl⟩

/-- A warning that is accurate is in force after a check, unless it is one of a setup block that has
its unit. -/
lemma stored_of_accurate (hg : g.Distinct) {warnings : List Warning}
    (hwarnings : Filed (Accurate g board) warnings) {w : Warning} (hw : w ∈ warnings) {b : Block}
    (hb : b ∈ g.blocks) (hid : b.id = w.blockId)
    (hkept : ¬(w.tag = Tag.unknownResource ∧ b.Paired board)) :
    ((g.applyWarnings warnings).1.checkFor board).1.stored w.blockId w.tag = some w.message := by
  have haccurate := hwarnings.each w hw
  rw [← hid, Graph.stored_check_applyWarnings hg warnings hb]
  by_cases htag : w.tag ∈ b.checkTags
  · obtain ⟨hunknown, setup, hsetup⟩ := Check.setup_of_generation_tag htag haccurate.tag
    rcases paired_or_unpaired board hsetup with hpaired | ⟨message, hunpaired⟩
    · exact absurd ⟨hunknown, hpaired⟩ hkept
    · rw [hunknown, Check.warning?_of_unpaired hunpaired,
        haccurate.message hunknown b hb hid message hunpaired]
  · have hstale : w.tag ≠ Tag.staleOption := by
      intro hstale
      exact absurd (hstale ▸ haccurate.tag) (by decide)
    rw [← Check.tags_ownUpdates g board b] at htag
    rw [Update.warning?_foldl_of_untouched htag, Block.warning?_refresh,
      if_neg fun h => hstale h.2, Graph.warning?_annotations hwarnings.once hw hid]

/-- The report on an unknown pin of a setup block that has its unit is cleared. -/
lemma cleared_of_paired (hg : g.Distinct) {warnings : List Warning}
    (hwarnings : (warnings.map Warning.key).Nodup) {w : Warning} (hw : w ∈ warnings) {b : Block}
    (hb : b ∈ g.blocks) (hid : b.id = w.blockId) (htag : w.tag = Tag.unknownResource)
    (hpaired : b.Paired board) :
    ((g.applyWarnings warnings).1.checkFor board).1.stored w.blockId w.tag = none ∧
      { blockId := w.blockId, tag := w.tag } ∈
        ((g.applyWarnings warnings).1.checkFor board).2.cleared := by
  have hbefore : (g.applyWarnings warnings).1.stored w.blockId w.tag = some w.message := by
    rw [← hid, Graph.stored_applyWarnings hg warnings hb,
      Graph.warning?_annotations hwarnings hw hid]
  have hafter :
      ((g.applyWarnings warnings).1.checkFor board).1.stored w.blockId w.tag = none := by
    rw [← hid, Graph.stored_check_applyWarnings hg warnings hb, htag,
      Check.warning?_of_paired hpaired]
  have hexplains : ((g.applyWarnings warnings).1.checkFor board).2.Explains _ _ :=
    Graph.explains_checkFor (hg.applyWarnings warnings)
  exact ⟨hafter, hexplains.mem_cleared hbefore hafter⟩

/-- After its warnings are stored, a graph is checked for the same board. The check keeps every
warning of the compilation but those on unknown pins of setup blocks that have their unit; these it
takes away, and says so. -/
theorem check_keeps_unless_paired (g : Graph) (hg : g.Distinct) (options : Options)
    (boards : Boards) {p : Program} (hp : compile g options boards = .ok p) :
    ∃ board checked report, boards.get options.board = .ok board ∧
      (g.applyWarnings p.warnings).1.check options boards = .ok (checked, report) ∧
      ∀ w ∈ p.warnings, ∃ b ∈ g.blocks, b.id = w.blockId ∧
        (¬(w.tag = Tag.unknownResource ∧ b.Paired board) →
          checked.stored w.blockId w.tag = some w.message) ∧
        (w.tag = Tag.unknownResource ∧ b.Paired board →
          checked.stored w.blockId w.tag = none ∧
          { blockId := w.blockId, tag := w.tag } ∈ report.cleared) := by
  unfold compile at hp
  cases hboard : boards.get options.board with
  | error e =>
    rw [hboard] at hp
    cases hp
  | ok board =>
    rw [hboard] at hp
    have hprogram : (Generator.new g board options).program = p := Except.ok.inj hp
    have hfiled : Filed (Accurate g board) p.warnings := hprogram ▸ filed_program hg options
    refine ⟨board, _, _, rfl, Graph.check_of_board hboard, fun w hw => ?_⟩
    obtain ⟨b, hb, hid⟩ := (hfiled.each w hw).block
    refine ⟨b, hb, hid, stored_of_accurate hg hfiled hw hb hid, fun ⟨htag, hpaired⟩ => ?_⟩
    exact cleared_of_paired hg hfiled.once hw hb hid htag hpaired

/-- A serial line and a sensor with a pin that the board does not have: the other pin of the line,
which still has its unit, and the pin that should tell the bus of the sensor. -/
def miswired : Graph :=
  { blocks :=
      [{ id := "line"
         kind := "serial_setup"
         fields :=
          Dict.insert (Dict.insert {} "SERIAL_ID" (.text "PA_10")) "SERIAL_ID_TX" (.text "XX") },
       { id := "sensor"
         kind := "bh1750_setup"
         fields :=
          Dict.insert (Dict.insert {} "I2C_SDA" (.text "XX")) "I2C_SCL" (.text "PB_8") }] }

/-- The program of the miswired graph. -/
def miswiredProgram : Program := (Generator.new miswired Board.Nucleo.profile {}).program

lemma distinct_miswired : miswired.Distinct := by
  unfold Graph.Distinct
  decide

lemma builtin_profile : Boards.builtin.get ({} : Options).board = .ok Board.Nucleo.profile := rfl

lemma compile_miswired : compile miswired {} .builtin = .ok miswiredProgram := by
  unfold compile
  rw [builtin_profile]
  rfl

theorem check_keeps_unless_paired_miswired :
    miswired.Distinct ∧ compile miswired {} .builtin = .ok miswiredProgram ∧
      miswiredProgram.warnings.map Warning.key =
        [("line", Tag.unknownResource), ("sensor", Tag.unknownResource),
          ("sensor", Tag.pinConflict)] ∧
      ∃ checked report,
        (miswired.applyWarnings miswiredProgram.warnings).1.check {} .builtin =
          .ok (checked, report) ∧
        ∀ w ∈ miswiredProgram.warnings,
          (w.tag = Tag.pinConflict → checked.stored w.blockId w.tag = some w.message) ∧
          (w.key = ("line", Tag.unknownResource) →
            checked.stored w.blockId w.tag = none ∧
            { blockId := w.blockId, tag := w.tag } ∈ report.cleared) := by
  obtain ⟨board, checked, report, hboard, hcheck, hwarnings⟩ :=
    check_keeps_unless_paired miswired distinct_miswired {} .builtin compile_miswired
  obtain rfl : Board.Nucleo.profile = board := Except.ok.inj hboard
  refine ⟨distinct_miswired, compile_miswired, by decide +kernel, checked, report, hcheck, fun w hw => ?_⟩
  obtain ⟨b, hb, hid, hkept, hcleared⟩ := hwarnings w hw
  constructor
  · intro htag
    refine hkept fun h => ?_
    rw [htag] at h
    exact absurd h.1 (by decide)
  · intro hkey
    obtain ⟨hline, htag⟩ := Prod.mk.inj hkey
    obtain rfl : b = miswired.blocks.head (by decide) :=
      distinct_miswired.eq_of_id hb (List.head_mem _) (hid.trans hline)
    refine hcleared ⟨htag, _, "Serial_1", List.mem_singleton_self _, ?_⟩
    decide +kernel

/-- The unknown pin of the line is reported by the compilation, and the check takes the report
away. -/
theorem check_drops_pin_report :
    miswired.Distinct ∧ compile miswired {} .builtin = .ok miswiredProgram ∧
      { blockId := "line"
        tag := Tag.unknownResource
        message := "Pin XX is not available on board nucleo_f103rb" } ∈ miswiredProgram.warnings ∧
      ∃ checked report,
        (miswired.applyWarnings miswiredProgram.warnings).1.check {} .builtin =
          .ok (checked, report) ∧
        checked.stored "line" Tag.unknownResource = none := by
  refine ⟨distinct_miswired, compile_miswired, by decide +kernel, _, _,
    Graph.check_of_board builtin_profile, ?_⟩
  decide +kernel

end Proofs

end MbedBlocks
