import MbedBlocks.Proofs.CheckReports
import MbedBlocks.Proofs.CheckedUses

/-!
# Repeated checks

What a check reads of a graph is not among what it writes: the rules read no label, option or
warning. So a second check asks for the same changes as the first. Changes with different targets
commute, and a change that is made twice is made once; hence the changes of a check are all in force
after it, and the second check leaves the graph as it is.
-/

namespace MbedBlocks

/-! ### Changes commute -/

namespace Update

/-- What a change writes: a warning or a field. -/
inductive Target where
  | warning (tag : String)
  | field (name : String)
deriving DecidableEq

def target : Update → Target
  | warn tag _ => .warning tag
  | clear tag => .warning tag
  | label field _ => .field field

/-- A change of a warning or of a field. -/
lemma applyTo_cases (u : Update) :
    (∃ tag message, u.target = .warning tag ∧ ∀ b, u.applyTo b = b.setWarning tag message) ∨
    ∃ name value, u.target = .field name ∧ ∀ b, u.applyTo b = b.setField name value := by
  cases u with
  | warn tag message => exact .inl ⟨tag, some message, rfl, fun b => rfl⟩
  | clear tag => exact .inl ⟨tag, none, rfl, fun b => rfl⟩
  | label field text => exact .inr ⟨field, .text text, rfl, fun b => rfl⟩

lemma applyTo_applyTo (u : Update) (b : Block) : u.applyTo (u.applyTo b) = u.applyTo b := by
  rcases u.applyTo_cases with ⟨tag, message, -, hu⟩ | ⟨name, value, -, hu⟩
  · simp only [hu, Block.setWarning_eq, Dict.assign_assign]
  · simp only [hu, Block.setField_eq, Dict.assign_assign]

lemma applyTo_comm {u v : Update} (h : u.target ≠ v.target) (b : Block) :
    u.applyTo (v.applyTo b) = v.applyTo (u.applyTo b) := by
  rcases u.applyTo_cases with ⟨tag, message, hut, hu⟩ | ⟨name, value, hut, hu⟩ <;>
    rcases v.applyTo_cases with ⟨tag', message', hvt, hv⟩ | ⟨name', value', hvt, hv⟩
  · have hne : tag ≠ tag' := fun htag => h (by rw [hut, hvt, htag])
    simp only [hu, hv, Block.setWarning_eq, Dict.assign_comm b.warnings hne]
  · simp only [hu, hv, Block.setWarning_eq, Block.setField_eq]
  · simp only [hu, hv, Block.setWarning_eq, Block.setField_eq]
  · have hne : name ≠ name' := fun hname => h (by rw [hut, hvt, hname])
    simp only [hu, hv, Block.setField_eq, Dict.assign_comm b.fields hne]

/-- A change passes through changes with other targets. -/
lemma applyTo_foldl {u : Update} {us : List Update} (h : ∀ v ∈ us, u.target ≠ v.target)
    (b : Block) : u.applyTo (us.foldl applyTo b) = us.foldl applyTo (u.applyTo b) := by
  induction us generalizing b with
  | nil => rfl
  | cons v us ih =>
    rw [List.foldl_cons, List.foldl_cons, ih fun w hw => h w (List.mem_cons_of_mem v hw),
      applyTo_comm (h v List.mem_cons_self)]

/-- Changes with different targets, made twice in a row, are made once. -/
theorem foldl_applyTo_twice {us : List Update} (h : (us.map target).Nodup) (b : Block) :
    us.foldl applyTo (us.foldl applyTo b) = us.foldl applyTo b := by
  induction us generalizing b with
  | nil => rfl
  | cons u us ih =>
    obtain ⟨hu, hus⟩ := List.nodup_cons.mp h
    have happly : ∀ v ∈ us, u.target ≠ v.target := fun v hv heq =>
      hu (heq ▸ List.mem_map_of_mem hv)
    simp only [List.foldl_cons]
    rw [applyTo_foldl happly, applyTo_applyTo, ih hus]

end Update

namespace Check

lemma targets_pairing (board : Board) (b : Block) (setup : PairedSetup) :
    ((pairing board b setup).map Update.target).Nodup := by
  obtain ⟨family, primary, secondary, mapper, label⟩ := setup
  unfold pairing
  cases board.unit (b.text primary) mapper with
  | error e =>
    cases label <;> cases mapper <;>
      simp [neutralLabel, Update.target, PairedSetup.mismatchTag, Tag.unknownResource]
  | ok unit =>
    dsimp only
    split_ifs <;> cases label <;> cases mapper <;>
      simp [neutralLabel, unitLabel, Update.target, PairedSetup.mismatchTag, Tag.unknownResource]

lemma targets_capabilityUpdates (g : Graph) (board : Board) (configured : List (Family × String))
    (b : Block) (capability : Capability) :
    ((capabilityUpdates g board configured b capability).map Update.target).Nodup := by
  cases capability with
  | pairedSetup setup => exact targets_pairing board b setup
  | namedSetup setup => exact List.nodup_nil
  | uses use =>
    dsimp only [capabilityUpdates, usage]
    split_ifs <;> exact List.nodup_singleton _
  | toneFrequency =>
    dsimp only [capabilityUpdates, tone]
    cases literalFrequency? g b with
    | none => exact List.nodup_singleton _
    | some frequency =>
      dsimp only
      split_ifs <;> exact List.nodup_singleton _

lemma targets_ownUpdates (g : Graph) (board : Board) (b : Block) :
    ((ownUpdates g board b).map Update.target).Nodup := by
  unfold ownUpdates
  cases hcapabilities : b.capabilities with
  | nil => exact List.nodup_nil
  | cons capability rest =>
    have hmem : capability ∈ b.capabilities := hcapabilities ▸ List.mem_cons_self
    rw [← hcapabilities, Proofs.capabilities_eq hmem, List.flatMap_singleton]
    exact targets_capabilityUpdates g board _ b capability

end Check

/-! ### No rule reads what a check writes -/

/-- The fields that a capability reads. -/
def Capability.fields : Capability → List String
  | pairedSetup setup => [setup.primary, setup.secondary]
  | namedSetup setup => [setup.field]
  | uses use => [use.field]
  | toneFrequency => []

lemma fields_of_entry :
    ∀ info ∈ catalogue,
      (∀ capability ∈ info.capabilities, ∀ field ∈ capability.fields, field ∉ labelFields) ∧
        ∀ f ∈ info.optionFields, f.1 ∉ labelFields := by
  decide

namespace Block

lemma fields_not_labels {b : Block} {capability : Capability} (h : capability ∈ b.capabilities)
    {field : String} (hfield : field ∈ capability.fields) : field ∉ labelFields := by
  obtain ⟨info, hinfo, -, hmem⟩ := b.exists_info?_of_capability h
  exact (fields_of_entry info hinfo).1 capability hmem field hfield

lemma bound_not_label {b : Block} {f : String × Board.Category} (h : f ∈ b.optionFields) :
    f.1 ∉ labelFields := by
  unfold optionFields at h
  cases hinfo : b.info? with
  | none =>
    rw [hinfo] at h
    cases h
  | some info =>
    rw [hinfo] at h
    exact (fields_of_entry info (b.mem_of_info? hinfo).1).2 f h

lemma boundFields_bare (b : Block) : b.bare.boundFields = b.boundFields := by
  refine List.filter_congr fun f hf => ?_
  unfold Dict.contains
  rw [bare, Dict.get?_without _ (bound_not_label hf)]

lemma stale?_bare (b : Block) (board : Board) : b.bare.stale? board = b.stale? board := by
  rw [stale?_eq_getLast?, stale?_eq_getLast?, boundFields_bare]
  refine congrArg List.getLast? (List.filterMap_congr fun f hf => ?_)
  unfold staleValue?
  rw [bare_text b (bound_not_label (List.mem_filter.mp hf).1)]

end Block

namespace Check

variable {g : Graph} {board : Board}

lemma instanceOf?_bare (b : Block) : instanceOf? board b.bare = instanceOf? board b := by
  have hbare : b.bare.info? = b.info? := rfl
  unfold instanceOf?
  rw [hbare]
  cases hinfo : b.info? with
  | none => rfl
  | some info =>
    have hfields := (fields_of_entry info (b.mem_of_info? hinfo).1).1
    cases hpaired : info.pairedSetup? with
    | some setup =>
      have hfield := hfields _ (info.mem_of_pairedSetup? hpaired) setup.primary
      simp only [hpaired, b.bare_text (hfield List.mem_cons_self)]
    | none =>
      cases hnamed : info.namedSetup? with
      | none => simp only [hpaired, hnamed]
      | some setup =>
        have hfield := hfields _ (info.mem_of_namedSetup? hnamed) setup.field
        simp only [hpaired, hnamed, b.bare_text (hfield List.mem_cons_self)]

lemma instances_bare : instances g.bare board = instances g board := by
  unfold instances
  rw [Graph.bare_topBlocks, List.filterMap_map]
  congr 1
  funext b
  exact instanceOf?_bare b

lemma literalFrequency?_bare (b : Block) : literalFrequency? g.bare b.bare = literalFrequency? g b := by
  have hvalues : b.bare.values = b.values := rfl
  unfold literalFrequency?
  rw [hvalues, Graph.bare_link]
  cases (b.values.get? "FREQUENCY").bind g.get? with
  | none => rfl
  | some child =>
    have hkind : child.bare.kind = child.kind := rfl
    have hnumber : child.bare.text "NUM" = child.text "NUM" := child.bare_text (by decide)
    simp only [Option.map_some, hkind, hnumber]

lemma capabilityUpdates_bare (configured : List (Family × String)) {b : Block}
    {capability : Capability} (h : capability ∈ b.capabilities) :
    capabilityUpdates g.bare board configured b.bare capability =
      capabilityUpdates g board configured b capability := by
  have htext : ∀ field ∈ capability.fields, b.bare.text field = b.text field := fun field hfield =>
    b.bare_text (Block.fields_not_labels h hfield)
  cases capability with
  | pairedSetup setup =>
    have hprimary := htext setup.primary List.mem_cons_self
    have hsecondary := htext setup.secondary (List.mem_cons_of_mem _ List.mem_cons_self)
    simp only [capabilityUpdates, pairing, hprimary, hsecondary]
  | namedSetup setup => rfl
  | uses use => simp only [capabilityUpdates, usage, htext use.field List.mem_cons_self]
  | toneFrequency => simp only [capabilityUpdates, tone, literalFrequency?_bare]

lemma ownUpdates_bare (b : Block) : ownUpdates g.bare board b.bare = ownUpdates g board b := by
  have hcapabilities : b.bare.capabilities = b.capabilities := rfl
  unfold ownUpdates
  rw [instances_bare, hcapabilities]
  exact List.flatMap_congr fun capability h => capabilityUpdates_bare _ h

/-- The changes that follow from the rules are those of the bare graph. -/
theorem updates_bare (g : Graph) (board : Board) : updates g.bare board = updates g board := by
  change (g.blocks.map Block.bare).flatMap
      (fun b => (ownUpdates g.bare board b).map fun u => (b.id, u)) =
    g.blocks.flatMap fun b => (ownUpdates g board b).map fun u => (b.id, u)
  rw [List.flatMap_map]
  simp only [ownUpdates_bare]
  rfl

end Check

/-! ### A second refresh -/

namespace Block

lemma stale?_congr {b c : Block} (h : b.bare = c.bare) (board : Board) :
    b.stale? board = c.stale? board := by
  rw [← stale?_bare b, h, stale?_bare]

/-- The dropdown options after a refresh of bound fields. -/
def refreshedOptions (options : Dict (List String)) (board : Board)
    (fields : List (String × Board.Category)) : Dict (List String) :=
  fields.foldl (fun d f => d.assign f.1 (some (board.optionValues f.2))) options

lemma refresh_eq (b : Block) (board : Board) :
    b.refresh board =
      if b.optionFields.isEmpty then b
      else
        { b with
          options := refreshedOptions b.options board b.boundFields
          warnings := b.warnings.assign Tag.staleOption ((b.stale? board).map staleMessage) } := by
  have hfields (fields : List (String × Board.Category)) (c : Block) :
      fields.foldl (fun c f => c.refreshField board f.1 f.2) c =
        { c with options := refreshedOptions c.options board fields } := by
    induction fields generalizing c with
    | nil => rfl
    | cons f fields ih => exact ih (c.refreshField board f.1 f.2)
  rw [refresh_eq_markStale, hfields, markStale, setWarning_eq]

lemma get?_refreshedOptions (options : Dict (List String)) (board : Board)
    (fields : List (String × Board.Category)) (name : String) :
    (refreshedOptions options board fields).get? name =
      ((fields.reverse.find? fun f => f.1 == name).map fun f => board.optionValues f.2).or
        (options.get? name) := by
  induction fields generalizing options with
  | nil => rfl
  | cons f fields ih =>
    refine (ih _).trans ?_
    rw [Dict.get?_assign, List.reverse_cons, List.find?_append]
    cases fields.reverse.find? fun f => f.1 == name with
    | some f' => rfl
    | none =>
      by_cases hname : f.1 = name
      · simp [hname]
      · simp [hname, Ne.symm hname]

/-- The options of an earlier board are replaced, whatever it was. -/
lemma refreshedOptions_again (options : Dict (List String)) (earlier board : Board)
    (fields : List (String × Board.Category)) :
    refreshedOptions (refreshedOptions options earlier fields) board fields =
      refreshedOptions options board fields := by
  apply Dict.ext_get?
  intro name
  simp only [get?_refreshedOptions]
  cases fields.reverse.find? fun f => f.1 == name <;> simp

/-- What a refresh does to a block with the same bare block. -/
lemma refresh_of_bare_eq {b c : Block} (h : c.bare = b.bare) (board : Board) :
    c.refresh board =
      if b.optionFields.isEmpty then c
      else
        { c with
          options := refreshedOptions c.options board b.boundFields
          warnings := c.warnings.assign Tag.staleOption ((b.stale? board).map staleMessage) } := by
  have hfields : c.optionFields = b.optionFields := by
    change c.bare.optionFields = b.bare.optionFields
    rw [h]
  have hbound : c.boundFields = b.boundFields := by
    rw [← boundFields_bare, h, boundFields_bare]
  rw [refresh_eq c, hfields, hbound, stale?_congr h]

/-- A refresh leaves nothing of an earlier one, be it for the same board or another. -/
lemma refresh_refresh (b : Block) (earlier board : Board) :
    (b.refresh earlier).refresh board = b.refresh board := by
  rw [refresh_of_bare_eq (b.bare_refresh earlier), refresh_eq b, refresh_eq b]
  split_ifs
  · rfl
  · simp only [refreshedOptions_again, Dict.assign_assign]

lemma bare_applyTo {u : Update} (hu : Check.Annotates u) (b : Block) :
    (u.applyTo b).bare = b.bare := by
  cases u with
  | warn tag message => exact b.bare_setWarning tag (some message)
  | clear tag => exact b.bare_setWarning tag none
  | label field text => exact b.bare_setField hu (.text text)

/-- A change of another warning or of a label passes through a refresh. -/
lemma refresh_applyTo {u : Update} (hu : Check.Annotates u)
    (htarget : u.target ≠ .warning Tag.staleOption) (b : Block) (board : Board) :
    (u.applyTo b).refresh board = u.applyTo (b.refresh board) := by
  rw [refresh_of_bare_eq (bare_applyTo hu b), refresh_eq b]
  rcases u.applyTo_cases with ⟨tag, message, htag, happly⟩ | ⟨name, value, -, happly⟩
  · have hne : tag ≠ Tag.staleOption := fun h => htarget (by rw [htag, h])
    split_ifs
    · rfl
    · simp only [happly, setWarning_eq, Dict.assign_comm b.warnings hne]
  · simp only [happly, setField_eq]
    split_ifs <;> rfl

lemma refresh_foldl {us : List Update} (h : ∀ u ∈ us, Check.Annotates u)
    (htarget : ∀ u ∈ us, u.target ≠ .warning Tag.staleOption) (b : Block) (board : Board) :
    (us.foldl Update.applyTo b).refresh board = us.foldl Update.applyTo (b.refresh board) := by
  induction us generalizing b with
  | nil => rfl
  | cons u us ih =>
    rw [List.foldl_cons, List.foldl_cons, ih (fun v hv => h v (List.mem_cons_of_mem u hv))
      fun v hv => htarget v (List.mem_cons_of_mem u hv),
      refresh_applyTo (h u List.mem_cons_self) (htarget u List.mem_cons_self)]

end Block

/-! ### A second check -/

namespace Check

lemma ownUpdates_annotate {g : Graph} {board : Board} {b : Block} (hb : b ∈ g.blocks) :
    ∀ u ∈ ownUpdates g board b, Annotates u := by
  intro u hu
  refine updates_annotate g board (b.id, u) (List.mem_flatMap.mpr ⟨b, hb, ?_⟩)
  exact List.mem_map_of_mem hu

lemma ownUpdates_target {g : Graph} {board : Board} {b : Block} :
    ∀ u ∈ ownUpdates g board b, u.target ≠ .warning Tag.staleOption := by
  intro u hu htarget
  have htag : u.tag? = some Tag.staleOption := by
    cases u with
    | warn tag message => exact congrArg some (Update.Target.warning.inj htarget)
    | clear tag => exact congrArg some (Update.Target.warning.inj htarget)
    | label field text => cases htarget
  have hmem : Tag.staleOption ∈ b.checkTags := by
    rw [← tags_ownUpdates g board b]
    exact List.mem_filterMap.mpr ⟨u, hu, htag⟩
  exact (checkTags_separate b).2 hmem

/-- The warnings that changes set. -/
def warnings (changes : List (String × Update)) : List Warning :=
  changes.filterMap fun
    | (id, .warn tag message) => some { blockId := id, tag, message }
    | _ => none

lemma set_foldl_write (changes : List (String × Update)) (g : Graph) (r : CheckReport) :
    (changes.foldl write (g, r)).2.set = r.set ++ warnings changes := by
  induction changes generalizing g r with
  | nil => exact (List.append_nil _).symm
  | cons change changes ih =>
    have hstep : (write (g, r) change).2.set = r.set ++ warnings [change] := by
      obtain ⟨id, u⟩ := change
      cases u with
      | warn tag message => rfl
      | label field text => exact (List.append_nil _).symm
      | clear tag =>
        dsimp only [write]
        split_ifs <;> exact (List.append_nil _).symm
    rw [List.foldl_cons, ← List.singleton_append]
    generalize write (g, r) change = next at *
    refine (ih next.1 next.2).trans ?_
    rw [hstep, List.append_assoc]
    exact congrArg (r.set ++ ·) List.filterMap_append.symm

end Check

namespace Graph

variable {g : Graph} {board : Board}

lemma ext_blocks {g g' : Graph} (hbare : g.bare = g'.bare) (hblocks : g.blocks = g'.blocks) :
    g = g' := by
  have hmetadata : g.metadata = g'.metadata := by
    change g.bare.metadata = g'.bare.metadata
    rw [hbare]
  cases g
  cases g'
  simp_all

lemma Distinct.checkConsistency (hg : g.Distinct) : (g.checkConsistency board).1.Distinct := by
  unfold Distinct
  rw [ids_checkConsistency hg]
  exact hg

lemma bare_foldl_applyTo {us : List Update} (h : ∀ u ∈ us, Check.Annotates u) (b : Block) :
    (us.foldl Update.applyTo b).bare = b.bare := by
  induction us generalizing b with
  | nil => rfl
  | cons u us ih =>
    rw [List.foldl_cons, ih fun v hv => h v (List.mem_cons_of_mem u hv),
      Block.bare_applyTo (h u List.mem_cons_self)]

/-- The changes of a check are in force after it. -/
lemma checkConsistency_twice (hg : g.Distinct) :
    ((g.checkConsistency board).1.checkConsistency board).1 = (g.checkConsistency board).1 := by
  refine ext_blocks (bare_checkConsistency _ board) ?_
  rw [blocks_checkConsistency hg.checkConsistency]
  refine (List.map_congr_left fun c hc => ?_).trans (List.map_id _)
  rw [blocks_checkConsistency hg] at hc
  obtain ⟨b, hb, rfl⟩ := List.mem_map.mp hc
  -- The second check asks for the same changes, since it sees the same bare graph.
  have hsame : Check.ownUpdates (g.checkConsistency board).1 board
      ((Check.ownUpdates g board b).foldl Update.applyTo b) = Check.ownUpdates g board b := by
    rw [← Check.ownUpdates_bare, bare_checkConsistency,
      bare_foldl_applyTo (Check.ownUpdates_annotate hb), Check.ownUpdates_bare]
  rw [hsame, Update.foldl_applyTo_twice (Check.targets_ownUpdates g board b)]
  rfl

/-- A whole check refreshes every block and then makes the changes that its capabilities ask for. -/
lemma blocks_checkFor (hg : g.Distinct) :
    (g.checkFor board).1.blocks =
      g.blocks.map fun b => (Check.ownUpdates g board b).foldl Update.applyTo (b.refresh board) := by
  have hblocks : (g.checkFor board).1.blocks = _ := blocks_checkConsistency hg.refreshOptions board
  have hrefreshed : (g.refreshOptions board).1.blocks = g.blocks.map fun b => b.refresh board := rfl
  rw [hblocks, hrefreshed, List.map_map]
  refine List.map_congr_left fun b _ => ?_
  rw [Function.comp_apply, ← Check.ownUpdates_bare, bare_refreshOptions, Block.bare_refresh,
    Check.ownUpdates_bare]

lemma refreshOptions_checkFor (hg : g.Distinct) :
    ((g.checkFor board).1.refreshOptions board).1 = (g.checkFor board).1 := by
  refine ext_blocks (bare_refreshOptions _ board) ?_
  change (g.checkFor board).1.blocks.map (fun b => b.refresh board) = (g.checkFor board).1.blocks
  refine (List.map_congr_left fun c hc => ?_).trans (List.map_id _)
  rw [blocks_checkFor hg] at hc
  obtain ⟨b, hb, rfl⟩ := List.mem_map.mp hc
  rw [Block.refresh_foldl (Check.ownUpdates_annotate hb) Check.ownUpdates_target,
    Block.refresh_refresh]
  rfl

lemma stale_refreshOptions_congr {g g' : Graph} (h : g.bare = g'.bare) (board : Board) :
    (g.refreshOptions board).2.stale = (g'.refreshOptions board).2.stale := by
  have hbare (g : Graph) : (g.bare.refreshOptions board).2.stale =
      (g.refreshOptions board).2.stale := by
    change (g.blocks.map Block.bare).filterMap _ = g.blocks.filterMap _
    rw [List.filterMap_map]
    refine List.filterMap_congr fun b _ => ?_
    rw [Function.comp_apply, Block.stale?_bare]
    rfl
  rw [← hbare g, h, hbare]

lemma bare_checkFor (g : Graph) (board : Board) : (g.checkFor board).1.bare = g.bare :=
  (bare_checkConsistency _ board).trans (bare_refreshOptions g board)

lemma Distinct.checkFor (hg : g.Distinct) : (g.checkFor board).1.Distinct :=
  hg.refreshOptions.checkConsistency

/-- What a check sets, in the order of its report. -/
lemma set_checkFor (g : Graph) (board : Board) :
    (g.checkFor board).2.set =
      Check.warnings (Check.updates g board) ++ (g.refreshOptions board).2.stale := by
  change ((g.refreshOptions board).1.checkConsistency board).2.set ++ _ = _
  unfold checkConsistency
  rw [Check.set_foldl_write, ← Check.updates_bare, bare_refreshOptions, Check.updates_bare]
  rfl

/-- A check right after a check changes nothing, sets the same warnings and clears none. -/
theorem checkFor_twice (hg : g.Distinct) :
    (g.checkFor board).1.checkFor board =
      ((g.checkFor board).1, { (g.checkFor board).2 with cleared := [] }) := by
  have hgraph : ((g.checkFor board).1.checkFor board).1 = (g.checkFor board).1 := by
    change (((g.checkFor board).1.refreshOptions board).1.checkConsistency board).1 = _
    rw [refreshOptions_checkFor hg]
    exact checkConsistency_twice hg.refreshOptions
  have hset : ((g.checkFor board).1.checkFor board).2.set = (g.checkFor board).2.set := by
    have hbare := bare_checkFor g board
    rw [set_checkFor, set_checkFor, ← Check.updates_bare, hbare, Check.updates_bare,
      stale_refreshOptions_congr hbare]
  have hcleared : ((g.checkFor board).1.checkFor board).2.cleared = [] := by
    -- A warning cleared by the second check would be both there and not there.
    have hchecked : (g.checkFor board).1.Distinct := hg.checkFor
    have hexplains : ((g.checkFor board).1.checkFor board).2.Explains _ _ :=
      explains_checkFor hchecked
    refine List.eq_nil_iff_forall_not_mem.mpr fun c hc => ?_
    have hpresent := hexplains.present c hc
    have habsent := hexplains.stored_of_cleared c hc
    rw [hgraph] at habsent
    rw [habsent] at hpresent
    cases hpresent
  exact Prod.ext hgraph (congrArg₂ CheckReport.mk hset hcleared)

end Graph

namespace Proofs

/-- Checking reaches its fixed point in one pass. -/
theorem check_settles (g : Graph) (hg : g.Distinct) (options : Options) (boards : Boards)
    (hboard : boards.profiles.get? options.board ≠ none) :
    ∃ checked report, g.check options boards = .ok (checked, report) ∧
      checked.check options boards = .ok (checked, { report with cleared := [] }) := by
  obtain ⟨board, hfound⟩ := Option.ne_none_iff_exists'.mp hboard
  have hget : boards.get options.board = .ok board := by rw [Boards.get, hfound]
  refine ⟨(g.checkFor board).1, (g.checkFor board).2, Graph.check_of_board hget, ?_⟩
  rw [Graph.check_of_board hget, Graph.checkFor_twice hg]

theorem check_settles_rewired :
    rewired.Distinct ∧ ∃ checked report, rewired.check {} .builtin = .ok (checked, report) ∧
      report.set.map (fun w => (w.blockId, w.tag)) =
        [("line", "serial_rx_tx_mismatch"), ("lamp", "bPin")] ∧
      report.cleared = [{ blockId := "line", tag := "unknown_resource" }] ∧
      checked.check {} .builtin = .ok (checked, { report with cleared := [] }) := by
  have hids : rewired.Distinct := by
    unfold Graph.Distinct
    decide
  have hfirst : ((rewired.check {} .builtin).toOption.map fun result =>
      (result.2.set.map (fun w => (w.blockId, w.tag)), result.2.cleared)) =
      some ([("line", "serial_rx_tx_mismatch"), ("lamp", "bPin")],
        [{ blockId := "line", tag := "unknown_resource" }]) := by
    decide +kernel
  obtain ⟨checked, report, hcheck, hagain⟩ :=
    check_settles rewired hids {} .builtin (by decide +kernel)
  rw [hcheck] at hfirst
  obtain ⟨hset, hcleared⟩ := Prod.mk.inj (Option.some.inj hfirst)
  exact ⟨hids, checked, report, hcheck, hset, hcleared, hagain⟩

end Proofs

end MbedBlocks
