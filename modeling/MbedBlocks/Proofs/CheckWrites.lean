import MbedBlocks.Check
import MbedBlocks.Proofs.DictLookup

/-!
# What a check writes

In a graph without repeated ids a check writes to every block what its own capabilities ask for, and
nothing else.
-/

namespace MbedBlocks

namespace Graph

/-- The ids of the blocks differ. -/
def Distinct (g : Graph) : Prop := (g.blocks.map Block.id).Nodup

lemma modifyLast_of_nodup {blocks : List Block} (h : (blocks.map Block.id).Nodup) (id : String)
    (f : Block → Block) :
    modifyLast id f blocks = blocks.map fun b => if b.id = id then f b else b := by
  induction blocks with
  | nil => rfl
  | cons b blocks ih =>
    obtain ⟨hb, hblocks⟩ := List.nodup_cons.mp h
    rw [modifyLast, List.map_cons, ← ih hblocks]
    split_ifs with hany hid hid
    · -- A later block with the id would repeat that of `b`.
      obtain ⟨c, hc, hcid⟩ := List.any_eq_true.mp hany
      exact absurd (List.mem_map.mpr ⟨c, hc, (eq_of_beq hcid).trans hid.symm⟩) hb
    · rfl
    all_goals
      have hrest : blocks.map (fun b => if b.id = id then f b else b) = blocks := by
        refine (List.map_congr_left fun c hc => ?_).trans (List.map_id _)
        have hne : c.id ≠ id := fun hcid =>
          hany (List.any_eq_true.mpr ⟨c, hc, beq_iff_eq.mpr hcid⟩)
        simp [hne]
      rw [ih hblocks, hrest]

lemma Distinct.eq_of_id {g : Graph} (h : g.Distinct) {b c : Block} (hb : b ∈ g.blocks)
    (hc : c ∈ g.blocks) (hid : b.id = c.id) : b = c :=
  List.inj_on_of_nodup_map h hb hc hid

lemma Distinct.get?_eq {g : Graph} (h : g.Distinct) {b : Block} (hb : b ∈ g.blocks) :
    g.get? b.id = some b := by
  cases hget : g.get? b.id with
  | none =>
    have hnone := List.find?_eq_none.mp hget b (List.mem_reverse.mpr hb)
    simp at hnone
  | some c =>
    obtain ⟨hc, hid⟩ := get?_mem hget
    rw [h.eq_of_id hc hb hid]

end Graph

/-- What a change makes of the block that it is addressed to. -/
def Update.applyTo (b : Block) : Update → Block
  | .warn tag message => b.setWarning tag (some message)
  | .clear tag => b.setWarning tag none
  | .label field text => b.setField field (.text text)

namespace Check

lemma id_applyTo (b : Block) (u : Update) : (u.applyTo b).id = b.id := by
  cases u <;> rfl

lemma kind_applyTo (b : Block) (u : Update) : (u.applyTo b).kind = b.kind := by
  cases u <;> rfl

/-- Step: a change reaches the blocks with its id. -/
lemma blocks_write {g : Graph} (hg : g.Distinct) (report : CheckReport) (id : String) (u : Update) :
    (write (g, report) (id, u)).1.blocks =
      g.blocks.map fun b => if b.id = id then u.applyTo b else b := by
  cases u with
  | warn tag message => exact Graph.modifyLast_of_nodup hg id _
  | label field text => exact Graph.modifyLast_of_nodup hg id _
  | clear tag =>
    dsimp only [write]
    split_ifs with hcarried
    · exact Graph.modifyLast_of_nodup hg id _
    · -- Taking away a warning that is not there changes nothing.
      refine ((List.map_congr_left fun b hb => ?_).trans (List.map_id _)).symm
      split_ifs with hid
      · subst hid
        rw [hg.get?_eq hb] at hcarried
        have habsent : b.warnings.get? tag = none := by simpa [Block.warning?] using hcarried
        simp [Update.applyTo, Block.setWarning, Dict.erase_of_absent habsent]
      · rfl

lemma distinct_write {g : Graph} (hg : g.Distinct) (report : CheckReport) (id : String)
    (u : Update) : (write (g, report) (id, u)).1.Distinct := by
  have hids : (write (g, report) (id, u)).1.blocks.map Block.id = g.blocks.map Block.id := by
    rw [blocks_write hg, List.map_map]
    refine List.map_congr_left fun b _ => ?_
    by_cases hid : b.id = id
    · simp [hid, id_applyTo]
    · simp [hid]
  unfold Graph.Distinct
  rw [hids]
  exact hg

/-- The changes that are addressed to a block. -/
def addressed (changes : List (String × Update)) (id : String) : List Update :=
  (changes.filter fun change => change.1 == id).map (·.2)

/-- Run: every block takes the changes that are addressed to it, in their order. -/
lemma blocks_foldl_write (changes : List (String × Update)) {g : Graph} (hg : g.Distinct)
    (report : CheckReport) :
    (changes.foldl write (g, report)).1.blocks =
      g.blocks.map fun b => (addressed changes b.id).foldl Update.applyTo b := by
  induction changes generalizing g report with
  | nil => exact (List.map_id _).symm
  | cons change changes ih =>
    obtain ⟨id, u⟩ := change
    have hstep := ih (distinct_write hg report id u) (write (g, report) (id, u)).2
    rw [List.foldl_cons]
    refine hstep.trans ?_
    rw [blocks_write hg, List.map_map]
    refine List.map_congr_left fun b _ => ?_
    by_cases hid : id = b.id
    · simp [addressed, hid, id_applyTo]
    · simp [addressed, hid, Ne.symm hid]

/-- What the capabilities of a block ask for. -/
def ownUpdates (g : Graph) (board : Board) (b : Block) : List Update :=
  b.capabilities.flatMap (capabilityUpdates g board (instances g board) b)

lemma addressed_append (changes more : List (String × Update)) (id : String) :
    addressed (changes ++ more) id = addressed changes id ++ addressed more id := by
  simp [addressed]

lemma addressed_map (updates : List Update) (id id' : String) :
    addressed (updates.map fun u => (id, u)) id' = if id = id' then updates else [] := by
  unfold addressed
  rw [List.filter_map, List.map_map]
  by_cases hid : id = id' <;> simp [hid, Function.comp_def]

lemma addressed_flatMap_of_foreign {blocks : List Block} {id : String}
    (h : ∀ c ∈ blocks, c.id ≠ id) (f : Block → List Update) :
    addressed (blocks.flatMap fun c => (f c).map fun u => (c.id, u)) id = [] := by
  induction blocks with
  | nil => rfl
  | cons c blocks ih =>
    have hrest := ih fun d hd => h d (List.mem_cons_of_mem c hd)
    rw [List.flatMap_cons, addressed_append, addressed_map, if_neg (h c List.mem_cons_self), hrest,
      List.nil_append]

/-- Where ids differ, only the changes of a block itself are addressed to it. -/
lemma addressed_flatMap {blocks : List Block} (hblocks : (blocks.map Block.id).Nodup)
    (f : Block → List Update) {b : Block} (hb : b ∈ blocks) :
    addressed (blocks.flatMap fun c => (f c).map fun u => (c.id, u)) b.id = f b := by
  induction blocks with
  | nil => cases hb
  | cons c blocks ih =>
    obtain ⟨hc, hrest⟩ := List.nodup_cons.mp hblocks
    rw [List.flatMap_cons, addressed_append, addressed_map]
    rcases List.mem_cons.mp hb with rfl | hb
    · have hforeign : ∀ d ∈ blocks, d.id ≠ b.id := fun d hd hid =>
        hc (hid ▸ List.mem_map_of_mem hd)
      rw [if_pos rfl, addressed_flatMap_of_foreign hforeign, List.append_nil]
    · have hne : c.id ≠ b.id := fun hid => hc (hid ▸ List.mem_map_of_mem hb)
      rw [if_neg hne, ih hrest hb, List.nil_append]

end Check

/-- A check writes to every block what its own capabilities ask for. -/
theorem Graph.blocks_checkConsistency {g : Graph} (hg : g.Distinct) (board : Board) :
    (g.checkConsistency board).1.blocks =
      g.blocks.map fun b => (Check.ownUpdates g board b).foldl Update.applyTo b := by
  unfold checkConsistency
  rw [Check.blocks_foldl_write _ hg]
  refine List.map_congr_left fun b hb => ?_
  rw [← Check.addressed_flatMap hg (Check.ownUpdates g board) hb]
  rfl

end MbedBlocks
