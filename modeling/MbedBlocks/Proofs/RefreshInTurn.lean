import MbedBlocks.Check.Options
import MbedBlocks.Proofs.DictLookup

/-!
# Fields refreshed in turn

A block is marked and unmarked once for each of its bound fields, in the order of the catalogue.
None of these marks lasts: what counts in the end is the last stale value that was seen on the way,
which need not be that of the last field.
-/

namespace MbedBlocks.Block

variable {board : Board}

lemma setWarning_eq (b : Block) (tag : String) (message : Option String) :
    b.setWarning tag message = { b with warnings := b.warnings.assign tag message } := by
  cases message <;> rfl

lemma setField_eq (b : Block) (name : String) (value : FieldValue) :
    b.setField name value = { b with fields := b.fields.assign name (some value) } := rfl

lemma markStale_markStale (b : Block) (stale stale' : Option String) :
    (b.markStale stale).markStale stale' = b.markStale stale' := by
  simp only [markStale, setWarning_eq, Dict.assign_assign]

lemma refreshField_markStale (b : Block) (stale : Option String) (field : String)
    (category : Board.Category) :
    (b.markStale stale).refreshField board field category =
      (b.refreshField board field category).markStale stale := by
  simp only [markStale, setWarning_eq, refreshField]

lemma foldl_refreshField_markStale (fields : List (String × Board.Category)) (b : Block)
    (stale : Option String) :
    fields.foldl (fun c f => c.refreshField board f.1 f.2) (b.markStale stale) =
      (fields.foldl (fun c f => c.refreshField board f.1 f.2) b).markStale stale := by
  induction fields generalizing b with
  | nil => rfl
  | cons f fields ih => rw [List.foldl_cons, refreshField_markStale, ih, List.foldl_cons]

/-- Step: refreshing a field does not change the value of any. -/
lemma staleValue?_refreshOption (b : Block) (field field' : String)
    (category category' : Board.Category) :
    (b.refreshOption board field category).1.staleValue? board field' category' =
      b.staleValue? board field' category' := by
  simp only [refreshOption, markStale, setWarning_eq]
  rfl

/-- Run: the value that is remembered in the end is the last stale one. -/
lemma stale_foldl_refreshBound (fields : List (String × Board.Category)) (b : Block)
    (stale : Option String) :
    (fields.foldl (refreshBound board) (b, stale)).2 =
      ((fields.filterMap fun f => b.staleValue? board f.1 f.2).getLast?).or stale := by
  induction fields generalizing b stale with
  | nil => rfl
  | cons f fields ih =>
    rw [List.foldl_cons, refreshBound, ih]
    simp only [staleValue?_refreshOption, List.filterMap_cons]
    cases b.staleValue? board f.1 f.2 with
    | none => rfl
    | some value =>
      rw [List.getLast?_cons]
      cases (fields.filterMap fun f => b.staleValue? board f.1 f.2).getLast? <;> rfl

/-- Run: a final mark hides all those that were set or taken away in turn. -/
lemma markStale_foldl_refreshBound (fields : List (String × Board.Category)) (b : Block)
    (stale mark : Option String) :
    (fields.foldl (refreshBound board) (b, stale)).1.markStale mark =
      (fields.foldl (fun c f => c.refreshField board f.1 f.2) b).markStale mark := by
  induction fields generalizing b stale with
  | nil => rfl
  | cons f fields ih =>
    rw [List.foldl_cons, refreshBound, ih, refreshOption, foldl_refreshField_markStale,
      markStale_markStale, List.foldl_cons]

lemma stale?_eq_getLast? (b : Block) (board : Board) :
    b.stale? board = (b.boundFields.filterMap fun f => b.staleValue? board f.1 f.2).getLast? := by
  unfold stale? refreshInTurn
  rw [stale_foldl_refreshBound, Option.or_none]

/-- A refresh sets the options of all bound fields and marks the block once. -/
theorem refresh_eq_markStale (b : Block) (board : Board) :
    b.refresh board =
      if b.optionFields.isEmpty then b
      else
        (b.boundFields.foldl (fun c f => c.refreshField board f.1 f.2) b).markStale
          (b.stale? board) := by
  unfold refresh refreshInTurn
  rw [markStale_foldl_refreshBound]

end MbedBlocks.Block
