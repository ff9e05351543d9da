import MbedBlocks.Proofs.RepeatedChecks

/-!
# Refreshing a graph for a board

What a refresh leaves on a block is said field by field, without the order in which the fields are
refreshed: the block is marked exactly if a bound field that it carries has a value which the board
does not offer, and the mark names the last such value of the catalogue. Nothing of what an earlier
board left takes part in this, so the last board wins.
-/

namespace MbedBlocks

open Board (Category)

namespace Block

variable {b : Block} {board : Board}

/-- The block carries the field, and the board does not offer its value. -/
def StaleAt (b : Block) (board : Board) (field : String × Category) : Prop :=
  b.fields.contains field.1 = true ∧ b.text field.1 ∉ board.optionValues field.2

/-- The value is that of the last stale field, in the order of the catalogue. -/
def LastStale (b : Block) (board : Board) (value : String) : Prop :=
  ∃ before field after, b.optionFields = before ++ field :: after ∧ b.StaleAt board field ∧
    b.text field.1 = value ∧ ∀ later ∈ after, ¬b.StaleAt board later

/-- What a refresh makes of a block. -/
structure Refreshed (board : Board) (b b' : Block) : Prop where
  unbound : b.optionFields = [] → b' = b
  marked_iff : b.optionFields ≠ [] →
    ((b'.warning? Tag.staleOption).isSome ↔ ∃ field ∈ b.optionFields, b.StaleAt board field)
  message_iff : b.optionFields ≠ [] → ∀ message,
    b'.warning? Tag.staleOption = some message ↔ ∃ value, b.LastStale board value ∧
      message = "The old pin value " ++ value ++ " is no longer available."
  options : ∀ field ∈ b.optionFields, b.fields.contains field.1 = true →
    b'.options.get? field.1 = some (board.optionValues field.2)
  other_options : ∀ name,
    (∀ field ∈ b.optionFields, b.fields.contains field.1 = true → field.1 ≠ name) →
    b'.options.get? name = b.options.get? name
  other_warnings : ∀ tag, tag ≠ Tag.staleOption → b'.warning? tag = b.warning? tag
  rest : { b' with options := b.options, warnings := b.warnings } = b

/-! ### The mark -/

lemma staleValue?_eq_some_iff {field : String × Category} {value : String} :
    (if b.fields.contains field.1 then b.staleValue? board field.1 field.2 else none) = some value ↔
      b.StaleAt board field ∧ b.text field.1 = value := by
  unfold StaleAt staleValue? Board.hasOption
  split_ifs <;> simp_all

lemma staleValue?_eq_none_iff {field : String × Category} :
    (if b.fields.contains field.1 then b.staleValue? board field.1 field.2 else none) = none ↔
      ¬b.StaleAt board field := by
  unfold StaleAt staleValue? Board.hasOption
  split_ifs <;> simp_all

/-- The value that is remembered while the fields are refreshed in turn. -/
lemma stale?_eq_some_iff {value : String} :
    b.stale? board = some value ↔ b.LastStale board value := by
  rw [stale?_eq_getLast?, boundFields, List.filterMap_filter, List.getLast?_filterMap,
    List.findSome?_eq_some_iff]
  simp only [staleValue?_eq_some_iff, staleValue?_eq_none_iff]
  constructor
  · rintro ⟨behind, field, ahead, hfields, ⟨hstale, hvalue⟩, hlater⟩
    refine ⟨ahead.reverse, field, behind.reverse, ?_, hstale, hvalue, ?_⟩
    · rw [← List.reverse_reverse b.optionFields, hfields]
      simp
    · exact fun later hmem => hlater later (List.mem_reverse.mp hmem)
  · rintro ⟨before, field, after, hfields, hstale, hvalue, hlater⟩
    refine ⟨after.reverse, field, before.reverse, ?_, ⟨hstale, hvalue⟩, ?_⟩
    · rw [hfields]
      simp
    · exact fun later hmem => hlater later (List.mem_reverse.mp hmem)

lemma isSome_stale?_iff :
    (b.stale? board).isSome ↔ ∃ field ∈ b.optionFields, b.StaleAt board field := by
  rw [stale?_eq_getLast?, boundFields, List.filterMap_filter, List.getLast?_filterMap,
    List.findSome?_isSome_iff]
  simp only [List.mem_reverse, Option.isSome_iff_ne_none, ne_eq, staleValue?_eq_none_iff, not_not]

lemma warning?_refresh_of_bound (h : b.optionFields ≠ []) :
    (b.refresh board).warning? Tag.staleOption = (b.stale? board).map staleMessage := by
  rw [warning?_refresh, if_pos ⟨by simpa using h, rfl⟩]

/-! ### The options -/

lemma optionFields_nodup_of_entry :
    ∀ info ∈ catalogue, (info.optionFields.map Prod.fst).Nodup := by
  decide

/-- No kind binds a field twice. -/
lemma optionFields_nodup (b : Block) : (b.optionFields.map Prod.fst).Nodup := by
  unfold optionFields
  cases hinfo : b.info? with
  | none => exact List.nodup_nil
  | some info => exact optionFields_nodup_of_entry info (b.mem_of_info? hinfo).1

lemma options_refresh (b : Block) (board : Board) (name : String) :
    (b.refresh board).options.get? name =
      ((b.boundFields.reverse.find? fun f => f.1 == name).map fun f => board.optionValues f.2).or
        (b.options.get? name) := by
  rw [refresh_eq]
  split_ifs with hempty
  · have hbound : b.boundFields = [] := by simp [boundFields, List.isEmpty_iff.mp hempty]
    simp [hbound]
  · exact get?_refreshedOptions b.options board b.boundFields name

lemma find?_boundFields {field : String × Category} (h : field ∈ b.boundFields) :
    (b.boundFields.reverse.find? fun f => f.1 == field.1) = some field := by
  have hfound : (b.boundFields.reverse.find? fun f => f.1 == field.1).isSome :=
    List.find?_isSome.mpr ⟨field, List.mem_reverse.mpr h, beq_self_eq_true _⟩
  obtain ⟨found, hfound⟩ := Option.isSome_iff_exists.mp hfound
  have hmem := List.mem_reverse.mp (List.mem_of_find?_eq_some hfound)
  have hname : found.1 = field.1 := by simpa using List.find?_some hfound
  rw [hfound, List.inj_on_of_nodup_map b.optionFields_nodup (List.mem_filter.mp hmem).1
    (List.mem_filter.mp h).1 hname]

/-! ### The whole block -/

theorem refreshed_refresh (b : Block) (board : Board) : Refreshed board b (b.refresh board) where
  unbound h := by
    rw [refresh_eq, h]
    rfl
  marked_iff h := by rw [warning?_refresh_of_bound h, Option.isSome_map, isSome_stale?_iff]
  message_iff h message := by
    rw [warning?_refresh_of_bound h, Option.map_eq_some_iff]
    constructor
    · rintro ⟨value, hvalue, hmessage⟩
      exact ⟨value, stale?_eq_some_iff.mp hvalue, hmessage.symm⟩
    · rintro ⟨value, hvalue, hmessage⟩
      exact ⟨value, stale?_eq_some_iff.mpr hvalue, hmessage.symm⟩
  options field hfield hcarried := by
    rw [options_refresh, find?_boundFields (List.mem_filter.mpr ⟨hfield, hcarried⟩)]
    rfl
  other_options name h := by
    have hnone : (b.boundFields.reverse.find? fun f => f.1 == name) = none := by
      refine List.find?_eq_none.mpr fun field hmem hname => ?_
      obtain ⟨hfield, hcarried⟩ := List.mem_filter.mp (List.mem_reverse.mp hmem)
      exact h field hfield hcarried (eq_of_beq hname)
    rw [options_refresh, hnone]
    rfl
  other_warnings tag htag := by rw [warning?_refresh, if_neg fun h => htag h.2]
  rest := by
    rw [refresh_eq]
    split_ifs <;> rfl

lemma optionFields_refresh (b : Block) (board : Board) :
    (b.refresh board).optionFields = b.optionFields := by
  rw [refresh_eq]
  split_ifs <;> rfl

lemma losesMark_iff (b : Block) (board : Board) :
    b.losesMark board = true ↔ (b.warning? Tag.staleOption).isSome ∧
      (b.refresh board).warning? Tag.staleOption = none := by
  by_cases hfields : b.optionFields = []
  · have hkept : b.refresh board = b := (refreshed_refresh b board).unbound hfields
    rw [hkept]
    simp +contextual [losesMark, hfields, Option.isSome_iff_ne_none]
  · rw [warning?_refresh_of_bound hfields, Option.map_eq_none_iff]
    simp [losesMark, hfields]

end Block

/-! ### The lists -/

namespace Graph

variable (g : Graph) (board : Board)

/-- The mark of a block whose kind binds fields, as a report lists it. -/
def markOf? (b : Block) : Option Warning :=
  if b.optionFields.isEmpty then none
  else (b.warning? Tag.staleOption).map fun message =>
    { blockId := b.id, tag := Tag.staleOption, message }

/-- A mark that was there before and is not any more. -/
def lostMark? (b b' : Block) : Option ClearedWarning :=
  if (b.warning? Tag.staleOption).isSome ∧ b'.warning? Tag.staleOption = none then
    some { blockId := b.id, tag := Tag.staleOption }
  else none

lemma blocks_refreshOptions :
    (g.refreshOptions board).1.blocks = g.blocks.map fun b => b.refresh board := rfl

lemma stale_refreshOptions :
    (g.refreshOptions board).2.stale = (g.refreshOptions board).1.blocks.filterMap markOf? := by
  rw [blocks_refreshOptions, List.filterMap_map]
  refine List.filterMap_congr fun b _ => ?_
  rw [Function.comp_apply, markOf?, Block.optionFields_refresh, Block.id_refresh]
  by_cases hfields : b.optionFields = []
  · have hstale : b.stale? board = none := by
      cases hvalue : b.stale? board with
      | none => rfl
      | some value => simpa [hfields] using Block.optionFields_of_stale hvalue
    simp [hfields, hstale]
  · rw [if_neg (by simpa using hfields), Block.warning?_refresh_of_bound hfields, Option.map_map]
    rfl

lemma cleared_refreshOptions :
    (g.refreshOptions board).2.cleared =
      (g.blocks.zip (g.refreshOptions board).1.blocks).filterMap fun p => lostMark? p.1 p.2 := by
  have hzip : g.blocks.zip (g.refreshOptions board).1.blocks =
      g.blocks.map fun b => (b, b.refresh board) := by
    have hpairs := List.zip_map' (f := id) (g := fun b : Block => b.refresh board) (l := g.blocks)
    rwa [List.map_id] at hpairs
  rw [hzip, List.filterMap_map]
  change (g.blocks.filter fun b => b.losesMark board).map _ = _
  rw [← List.filterMap_eq_map, List.filterMap_filter]
  refine List.filterMap_congr fun b _ => ?_
  simp only [Block.losesMark_iff, lostMark?, Function.comp_apply]

end Graph

namespace Proofs

/-- A refresh leaves on every block what the board says of its fields, and it lists the marks that
it leaves and those that are gone, block by block. After a refresh for another board it does and
reports the same, up to the marks that are taken away. -/
theorem board_refresh_exact (g : Graph) (earlier board : Board) :
    let refreshed := g.refreshOptions board
    let later := (g.refreshOptions earlier).1.refreshOptions board
    refreshed.1.metadata = g.metadata ∧
    List.Forall₂ (Block.Refreshed board) g.blocks refreshed.1.blocks ∧
    refreshed.2.stale = refreshed.1.blocks.filterMap Graph.markOf? ∧
    refreshed.2.cleared =
      (g.blocks.zip refreshed.1.blocks).filterMap (fun p => Graph.lostMark? p.1 p.2) ∧
    later.1 = refreshed.1 ∧ later.2.stale = refreshed.2.stale := by
  intro refreshed later
  refine ⟨rfl, ?_, g.stale_refreshOptions board, g.cleared_refreshOptions board, ?_, ?_⟩
  · have hblocks : refreshed.1.blocks = g.blocks.map fun b => b.refresh board := rfl
    rw [hblocks, List.forall₂_map_right_iff, List.forall₂_same]
    exact fun b _ => b.refreshed_refresh board
  · have hblocks : later.1.blocks = refreshed.1.blocks := by
      simp only [later, refreshed, Graph.blocks_refreshOptions, List.map_map, Function.comp_def,
        Block.refresh_refresh]
    exact congrArg (Graph.mk g.metadata) hblocks
  · exact Graph.stale_refreshOptions_congr (g.bare_refreshOptions earlier) board

end Proofs

end MbedBlocks
