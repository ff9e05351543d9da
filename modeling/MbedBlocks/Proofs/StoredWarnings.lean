import MbedBlocks.Proofs.AppliedWarnings

/-!
# Storing the warnings of a compilation

When the warnings of a compilation are stored, the graph holds these under the tags of compilation
and no others. A second compilation sees the same bare graph and reports the same, and storing that
once more changes nothing.
-/

namespace MbedBlocks

namespace Warning

variable {warnings : List Warning} {id tag message : String}

lemma mem_of_last? (h : last? warnings id tag = some message) :
    { blockId := id, tag, message } ∈ warnings := by
  obtain ⟨w, hfind, rfl⟩ := Option.map_eq_some_iff.mp h
  have hkey : w.key = (id, tag) := by simpa using List.find?_some hfind
  obtain ⟨rfl, rfl⟩ := Prod.mk.inj hkey
  exact List.mem_reverse.mp (List.mem_of_find?_eq_some hfind)

/-- Where each block is reported once under a tag, the last report is the only one. -/
lemma last?_eq_some_iff (h : (warnings.map key).Nodup) :
    last? warnings id tag = some message ↔ { blockId := id, tag, message } ∈ warnings := by
  refine ⟨mem_of_last?, fun hw => ?_⟩
  cases hlast : last? warnings id tag with
  | none => exact absurd (List.mem_map_of_mem hw) (last?_eq_none_iff.mp hlast)
  | some message' =>
    have hsame := List.inj_on_of_nodup_map h (mem_of_last? hlast) hw rfl
    exact congrArg some (Warning.mk.inj hsame).2.2

end Warning

namespace Graph

variable {g : Graph} {warnings : List Warning}

/-- The warnings under tags of compilation that the blocks carry. -/
def generationWarnings (g : Graph) : List Warning :=
  g.blocks.flatMap fun b => Tag.generation.filterMap fun tag =>
    (b.warning? tag).map fun message => { blockId := b.id, tag, message }

lemma mem_generationWarnings {w : Warning} :
    w ∈ g.generationWarnings ↔ w.tag ∈ Tag.generation ∧
      ∃ b ∈ g.blocks, b.id = w.blockId ∧ b.warning? w.tag = some w.message := by
  obtain ⟨id, tag, message⟩ := w
  unfold generationWarnings
  simp only [List.mem_flatMap, List.mem_filterMap, Option.map_eq_some_iff, Warning.mk.injEq]
  constructor
  · rintro ⟨b, hb, _, htag, _, hstored, rfl, rfl, rfl⟩
    exact ⟨htag, b, hb, rfl, hstored⟩
  · rintro ⟨htag, b, hb, rfl, hstored⟩
    exact ⟨b, hb, tag, htag, message, hstored, rfl, rfl, rfl⟩

lemma nodup_generationWarnings (hg : g.Distinct) : g.generationWarnings.Nodup := by
  have hgeneration : Tag.generation.Nodup := by decide
  refine List.nodup_flatMap.mpr ⟨fun b _ => hgeneration.filterMap ?_, ?_⟩
  · intro tag tag' w hw hw'
    obtain ⟨message, -, rfl⟩ := Option.map_eq_some_iff.mp hw
    obtain ⟨message', -, hwarning⟩ := Option.map_eq_some_iff.mp hw'
    exact (Warning.mk.inj hwarning).2.1.symm
  · -- The warnings of two blocks differ in the id.
    refine (List.pairwise_map.mp hg).imp fun {b c} hne => ?_
    intro w hb hc
    obtain ⟨_, -, hb⟩ := List.mem_filterMap.mp hb
    obtain ⟨_, -, hc⟩ := List.mem_filterMap.mp hc
    obtain ⟨_, -, rfl⟩ := Option.map_eq_some_iff.mp hb
    obtain ⟨_, -, hwarning⟩ := Option.map_eq_some_iff.mp hc
    exact hne (Warning.mk.inj hwarning).1.symm

/-! ### What is stored -/

/-- Under a tag of compilation a block carries what is reported for it, and nothing else. -/
lemma warning?_annotations_iff (h : (warnings.map Warning.key).Nodup) {b : Block} {tag : String}
    (htag : tag ∈ Tag.generation) (message : String) :
    ((annotations warnings b).foldl Update.applyTo b).warning? tag = some message ↔
      { blockId := b.id, tag, message } ∈ warnings := by
  rw [warning?_annotations_eq, if_pos htag, Option.or_none, Warning.last?_eq_some_iff h]

theorem generationWarnings_applyWarnings (hg : g.Distinct) (h : (warnings.map Warning.key).Nodup)
    (hblock : ∀ w ∈ warnings, ∃ b ∈ g.blocks, b.id = w.blockId)
    (htag : ∀ w ∈ warnings, w.tag ∈ Tag.generation) :
    (g.applyWarnings warnings).1.generationWarnings.Perm warnings := by
  have hnodup : warnings.Nodup := List.Nodup.of_map Warning.key h
  refine (List.perm_ext_iff_of_nodup
    (nodup_generationWarnings (hg.applyWarnings warnings)) hnodup).mpr fun w => ?_
  rw [mem_generationWarnings, blocks_applyWarnings hg]
  constructor
  · rintro ⟨hgeneration, c, hc, hid, hstored⟩
    obtain ⟨b, -, rfl⟩ := List.mem_map.mp hc
    rw [id_foldl_applyTo] at hid
    have hw := (warning?_annotations_iff h hgeneration w.message).mp hstored
    rwa [hid] at hw
  · intro hw
    obtain ⟨b, hb, hid⟩ := hblock w hw
    refine ⟨htag w hw, _, List.mem_map_of_mem hb, ?_, warning?_annotations h hw hid⟩
    rw [id_foldl_applyTo, hid]

end Graph

namespace Proofs

/-- A compilation reports each block at most once under a tag, only blocks of the graph and only
under its own tags. When its warnings are stored, the graph carries exactly these under the tags of
compilation; it compiles to the same program again, and storing the warnings again does nothing. -/
theorem compile_apply_settles (g : Graph) (hg : g.Distinct) (options : Options) (boards : Boards)
    {board : Board} (hboard : boards.get options.board = .ok board) :
    ∃ p, compile g options boards = .ok p ∧
      (p.warnings.map Warning.key).Nodup ∧
      (∀ w ∈ p.warnings, (∃ b ∈ g.blocks, b.id = w.blockId) ∧ w.tag ∈ Tag.generation) ∧
      (g.applyWarnings p.warnings).1.generationWarnings.Perm p.warnings ∧
      compile (g.applyWarnings p.warnings).1 options boards = .ok p ∧
      (g.applyWarnings p.warnings).1.applyWarnings p.warnings =
        ((g.applyWarnings p.warnings).1, []) := by
  have hcompile (g : Graph) :
      compile g options boards = .ok (Generator.new g board options).program := by
    unfold compile
    rw [hboard]
    rfl
  have hfiled : Filed (Accurate g board) (Generator.new g board options).program.warnings :=
    filed_program hg options
  refine ⟨_, hcompile g, hfiled.once, fun w hw => ?_, ?_, ?_, ?_⟩
  · exact ⟨(hfiled.each w hw).block, (hfiled.each w hw).tag⟩
  · exact Graph.generationWarnings_applyWarnings hg hfiled.once
      (fun w hw => (hfiled.each w hw).block) fun w hw => (hfiled.each w hw).tag
  · rw [hcompile]
    exact congrArg Except.ok (program_congr (g.bare_applyWarnings _) board options)
  · exact Graph.applyWarnings_twice hg _

/-- A graph with a warning of each tag of compilation: a line with a pin that the board does not
have, a lamp on the other pin of the line, a pause in place of the lamp's state, and a block of an
unknown kind that still carries the report of an earlier conflict. -/
def troubled : Graph :=
  { blocks :=
      [{ id := "line"
         kind := "serial_setup"
         fields :=
          Dict.insert (Dict.insert {} "SERIAL_ID" (.text "PA_10")) "SERIAL_ID_TX" (.text "XX") },
       { id := "lamp"
         kind := "io_digitalwrite"
         fields := Dict.insert {} "PIN" (.text "PA_10")
         values := Dict.insert {} "STATE" "pause" },
       { id := "pause", kind := "time_delay" },
       { id := "portal"
         kind := "teleport"
         warnings := Dict.insert {} "pin_conflict" "Pin PA_10 is taken" }] }

def troubledProgram : Program := (Generator.new troubled Board.Nucleo.profile {}).program

theorem compile_apply_settles_troubled :
    troubled.Distinct ∧ Boards.builtin.get ({} : Options).board = .ok Board.Nucleo.profile ∧
      ∃ p, compile troubled {} .builtin = .ok p ∧
        p.warnings.map Warning.key =
          [("line", Tag.unknownResource), ("pause", Tag.statementInValue),
            ("lamp", Tag.pinConflict), ("portal", Tag.unknownBlock)] ∧
        (troubled.applyWarnings p.warnings).2 = [{ blockId := "portal", tag := Tag.pinConflict }] ∧
        (troubled.applyWarnings p.warnings).1.generationWarnings.Perm p.warnings ∧
        compile (troubled.applyWarnings p.warnings).1 {} .builtin = .ok p ∧
        (troubled.applyWarnings p.warnings).1.applyWarnings p.warnings =
          ((troubled.applyWarnings p.warnings).1, []) := by
  have hdistinct : troubled.Distinct := by
    unfold Graph.Distinct
    decide
  obtain ⟨p, hp, -, -, hstored, hagain, hsettled⟩ :=
    compile_apply_settles troubled hdistinct {} .builtin builtin_profile
  have hprogram : troubledProgram = p := by
    refine Except.ok.inj (Eq.trans ?_ hp)
    unfold compile
    rw [builtin_profile]
    rfl
  refine ⟨hdistinct, builtin_profile, p, hp, ?_, ?_, hstored, hagain, hsettled⟩
  · rw [← hprogram]
    decide +kernel
  · rw [← hprogram]
    decide +kernel

end Proofs

end MbedBlocks
