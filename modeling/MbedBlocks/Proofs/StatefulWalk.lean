import MbedBlocks.Proofs.Simulation
import Mathlib.Data.Finset.Card

/-!
# The walk with a state

A generator that carries a context and the set of blocks in progress from step to step, and enters
blocks one inside the other up to a given depth. Every depth from the number of ids outside that set
on is enough. The outcome is the one of the emission: the same code, whatever the context, the
effects worked into the context, and the blocks in progress as they were.
-/

namespace MbedBlocks.Proofs

open Code (Level Fragment)
open MbedBlocks.Graph (ChildEmitter)

/-- What a generator carries along. -/
structure Progress where
  context : Context
  visiting : Finset String

/-- Steps of a generator for a board. One that would have to go too deep has no outcome. -/
def Walk (_ : Board) (α : Type) : Type := StateT Progress Option α

namespace Walk

variable {board : Board}

instance : Monad (Walk board) := inferInstanceAs (Monad (StateT Progress Option))

instance : LawfulMonad (Walk board) := inferInstanceAs (LawfulMonad (StateT Progress Option))

instance : MonadEffect (Walk board) where
  perform e p := some ((), { p with context := p.context.apply board e })

def isVisiting (id : String) : Walk board Bool := fun p => some (decide (id ∈ p.visiting), p)

def enter (id : String) : Walk board Unit := fun p =>
  some ((), { p with visiting := insert id p.visiting })

def leave (id : String) : Walk board Unit := fun p =>
  some ((), { p with visiting := p.visiting.erase id })

def tooDeep {α : Type} : Walk board α := fun _ => none

/-- What the rules of the kind make of a block, if its kind is in the catalogue. -/
def applyRule (g : Graph) (site : Site (Walk board)) (b : Block) : Walk board (Option Fragment) :=
  match b.kind? with
  | some k => do
    let fragment ← site.emit (k.emit g b)
    return some fragment
  | none => pure none

/-- Emits a block with at most `depth` blocks one inside the other. A block in progress yields
nothing. -/
def block (g : Graph) (board : Board) (indent : String) :
    Nat → Block → Walk board (Option Fragment)
  | 0, b => do
    if ← isVisiting b.id then return none
    else tooDeep
  | depth + 1, b => do
    if ← isVisiting b.id then return none
    else do
      enter b.id
      let fragment ← applyRule g (g.site board indent (fun c _ => block g board indent depth c) b) b
      leave b.id
      if fragment = none then Graph.warnUnknown b
      return fragment

def emitter (g : Graph) (board : Board) (indent : String) (depth : Nat) :
    ChildEmitter (Walk board) g := fun c _ => block g board indent depth c

end Walk

/-- The walk has the result of the emission in every context, works its effects in and leaves the
blocks in progress as they were. -/
def Realizes {board : Board} {α : Type} (v : Finset String) (e : Emit α) (w : Walk board α) :
    Prop :=
  ∀ c, w ⟨c, v⟩ = some (e.result, ⟨c.applyAll board e.effects, v⟩)

lemma bind_apply {board : Board} {α β : Type} (w : Walk board α) (f : α → Walk board β)
    (p : Progress) : (w >>= f) p = (w p).bind fun r => f r.1 r.2 := rfl

def realization (board : Board) (v : Finset String) : Simulation Emit (Walk board) where
  rel := Realizes v
  pure a := by
    intro c
    rfl
  bind := by
    intro α β e w f k he hf c
    rw [bind_apply, he c, Option.bind_some, hf e.result, ← Context.applyAll_append]
    rfl

lemma realization_performs (board : Board) (v : Finset String) : (realization board v).Performs :=
  fun _ _ _ => rfl

def ids (g : Graph) : Finset String := (g.blocks.map Block.id).toFinset

lemma id_mem_ids {g : Graph} {b : Block} (h : b ∈ g.blocks) : b.id ∈ ids g :=
  List.mem_toFinset.mpr (List.mem_map_of_mem h)

/-- How many blocks can be entered one inside the other from a block. -/
def nesting (g : Graph) (v : Finset String) (b : Block) : Nat := (insert b.id (ids g) \ v).card

lemma nesting_insert_lt {g : Graph} {v : Finset String} {b c : Block} (hb : b.id ∉ v)
    (hc : c ∈ g.blocks) : nesting g (insert b.id v) c < nesting g v b := by
  unfold nesting
  rw [Finset.insert_eq_of_mem (id_mem_ids hc)]
  apply Finset.card_lt_card
  rw [Finset.ssubset_iff_of_subset]
  · exact ⟨b.id, by simp [hb], by simp⟩
  · intro id hid
    simp only [Finset.mem_sdiff, Finset.mem_insert, not_or] at hid ⊢
    exact ⟨.inr hid.1, hid.2.2⟩

lemma nesting_pos {g : Graph} {v : Finset String} {b : Block} (hb : b.id ∉ v) :
    0 < nesting g v b :=
  Finset.card_pos.mpr ⟨b.id, by simp [hb]⟩

section Realization

variable {g : Graph} {board : Board} {indent : String}

lemma block_of_visiting {b : Block} {p : Progress} (h : b.id ∈ p.visiting) (depth : Nat) :
    Walk.block g board indent depth b p = some (none, p) := by
  have hvisiting : (Walk.isVisiting b.id : Walk board Bool) p = some (true, p) := by
    rw [Walk.isVisiting, decide_eq_true h]
  cases depth with
  | zero =>
    rw [Walk.block, bind_apply, hvisiting]
    rfl
  | succ depth =>
    rw [Walk.block, bind_apply, hvisiting]
    rfl

lemma applyRule_realizes {b : Block} {v : Finset String} {child : ChildEmitter Emit g}
    {child' : ChildEmitter (Walk board) g} {k : Kind} (hk : b.kind? = some k)
    (hchild : ∀ c hc, Realizes v (child c hc) (child' c hc)) :
    Realizes v (do return some (← (g.site board indent child b).emit (k.emit g b)))
      (Walk.applyRule g (g.site board indent child' b) b) := by
  have hsite := Simulation.site (realization_performs board v) hchild board indent b (k.emit g b)
  rw [Walk.applyRule, hk]
  exact (realization board v).bind hsite fun _ => (realization board v).pure _

/-- A block that is not in progress is entered, its rule applied, and left. -/
lemma block_succ {b : Block} {v : Finset String} (hb : b.id ∉ v) (depth : Nat) (c : Context) :
    Walk.block g board indent (depth + 1) b ⟨c, v⟩ =
      (Walk.applyRule g (g.site board indent (Walk.emitter g board indent depth) b) b
        ⟨c, insert b.id v⟩).bind fun r =>
          (do
            if r.1 = none then Graph.warnUnknown b
            return r.1 : Walk board _) ⟨r.2.context, r.2.visiting.erase b.id⟩ := by
  have hvisiting : (Walk.isVisiting b.id : Walk board Bool) ⟨c, v⟩ = some (false, ⟨c, v⟩) := by
    rw [Walk.isVisiting, decide_eq_false hb]
  rw [Walk.block, bind_apply, hvisiting]
  rfl

lemma block_realizes_of_mem {busy : List String} {b : Block} (hb : b.id ∈ busy) (depth : Nat) :
    Realizes busy.toFinset (g.emitWithin board indent busy b)
      (Walk.block g board indent depth b) := by
  intro c
  rw [Graph.emitWithin_of_mem hb, block_of_visiting (List.mem_toFinset.mpr hb)]
  rfl

lemma block_realizes_of_children {busy : List String} {b : Block} {depth : Nat} (hb : b.id ∉ busy)
    (hchild : ∀ c hc, Realizes (insert b.id busy.toFinset)
      (g.emitter board indent (b.id :: busy) c hc) (Walk.emitter g board indent depth c hc)) :
    Realizes busy.toFinset (g.emitWithin board indent busy b)
      (Walk.block g board indent (depth + 1) b) := by
  have hv : b.id ∉ busy.toFinset := mt List.mem_toFinset.mp hb
  intro c
  rw [block_succ hv]
  cases hk : b.kind? with
  | none =>
    rw [Graph.emitWithin_of_unlisted hb hk, Walk.applyRule, hk]
    change some (none, Progress.mk _ ((insert b.id busy.toFinset).erase b.id)) = _
    rw [Finset.erase_insert hv]
    rfl
  | some k =>
    rw [Graph.emitWithin_of_kind hb hk, applyRule_realizes hk hchild c]
    change some (some _, Progress.mk _ ((insert b.id busy.toFinset).erase b.id)) = _
    rw [Finset.erase_insert hv]
    rfl

/-- The generator and the emission agree on every block, from every context, as soon as the depth
allows for the ids that are not in progress. -/
theorem block_realizes {busy : List String} {v : Finset String} (hbusy : busy.toFinset = v)
    {b : Block} {depth : Nat} (hdepth : nesting g v b ≤ depth) :
    Realizes v (g.emitWithin board indent busy b) (Walk.block g board indent depth b) := by
  subst hbusy
  -- Each block that is entered takes an id out of those that are left.
  induction depth generalizing busy b with
  | zero =>
    by_cases hb : b.id ∈ busy
    · exact block_realizes_of_mem hb 0
    · have hpos : 0 < nesting g busy.toFinset b := nesting_pos (mt List.mem_toFinset.mp hb)
      omega
  | succ depth ih =>
    by_cases hb : b.id ∈ busy
    · exact block_realizes_of_mem hb (depth + 1)
    · apply block_realizes_of_children hb
      intro c hc
      have hlt := nesting_insert_lt (mt List.mem_toFinset.mp hb) hc
      rw [← List.toFinset_cons] at hlt ⊢
      exact ih (by omega)

lemma nesting_of_mem {v : Finset String} {b : Block} (hb : b ∈ g.blocks) :
    nesting g v b = (ids g \ v).card := by
  rw [nesting, Finset.insert_eq_of_mem (id_mem_ids hb)]

theorem emitter_realizes {busy : List String} {v : Finset String} (hbusy : busy.toFinset = v)
    {depth : Nat} (hdepth : (ids g \ v).card ≤ depth) (c : Block) (hc : c ∈ g.blocks) :
    Realizes v (g.emitter board indent busy c hc) (Walk.emitter g board indent depth c hc) :=
  block_realizes hbusy (by rwa [nesting_of_mem hc])

end Realization

end MbedBlocks.Proofs
