import MbedBlocks.Proofs.DictLookup
import MbedBlocks.Proofs.StatefulWalk
import Mathlib.Data.Finset.Sum
import Mathlib.Data.Nat.Find

/-!
# Termination

On every graph, with whatever links, the walk ends: no more blocks are in progress one inside the
other than the graph has ids, and every step leaves the set of blocks in progress as it found it.
The branches of a conditional end too, at the first number without a socket.
-/

namespace MbedBlocks.Proofs

open Code (Level Fragment)
open LanguageKind (branchSocket branches hasBranch)

/-! ### Branches of a conditional -/

/-- The number behind the stem in the name of a socket. -/
def branchNumber (stem socket : String) : Nat :=
  Nat.ofDigitChars 10 (socket.toList.drop stem.toList.length) 0

lemma branchNumber_leftInverse (stem : String) :
    Function.LeftInverse (branchNumber stem) (branchSocket stem) := by
  intro n
  rw [branchNumber, branchSocket, String.toList_append, List.drop_left, String.toList_ofList,
    Nat.ofDigitChars_ten_toDigits]

/-- The sockets that the number of a branch may stand in. -/
def branchKey (b : Block) (n : Nat) : String ⊕ String :=
  if b.values.contains (branchSocket "IF" n) then .inl (branchSocket "IF" n)
  else .inr (branchSocket "DO" n)

lemma branchKey_injective (b : Block) : Function.Injective (branchKey b) := by
  intro n k h
  unfold branchKey at h
  split_ifs at h
  · exact (branchNumber_leftInverse "IF").injective (Sum.inl.inj h)
  · exact (branchNumber_leftInverse "DO").injective (Sum.inr.inj h)

/-- Each branch takes a socket of its own, so there are no more branches than sockets. -/
lemma exists_not_hasBranch (b : Block) :
    ∃ n, n ≤ b.values.size + b.statements.size ∧ hasBranch b (n + 1) = false := by
  by_contra! hall
  let sockets := b.values.keys.toFinset.disjSum b.statements.keys.toFinset
  have hmaps : Set.MapsTo (fun n => branchKey b (n + 1))
      (Finset.range (b.values.size + b.statements.size + 1)) sockets := by
    intro n hn
    have hbranch := hall n (Nat.lt_succ_iff.mp (Finset.mem_range.mp hn))
    simp only [hasBranch, ne_eq, Bool.not_eq_false, Bool.or_eq_true] at hbranch
    rw [Finset.mem_coe]
    simp only [branchKey, sockets]
    split_ifs with hvalue
    · rw [Finset.inl_mem_disjSum, List.mem_toFinset]
      exact Dict.mem_keys_iff.mpr hvalue
    · rw [Finset.inr_mem_disjSum, List.mem_toFinset]
      exact Dict.mem_keys_iff.mpr (hbranch.resolve_left hvalue)
  have hcard : sockets.card = b.values.size + b.statements.size := by
    rw [Finset.card_disjSum, Dict.card_keys, Dict.card_keys]
  obtain ⟨n, -, k, -, hne, heq⟩ :=
    Finset.exists_ne_map_eq_of_card_lt_of_maps_to (by rw [Finset.card_range]; omega) hmaps
  exact hne (Nat.succ_injective (branchKey_injective b heq))

lemma takeWhile_range' {p : Nat → Bool} {n size : Nat} (hn : n ≤ size)
    (hp : ∀ k, 0 < k → k ≤ n → p k) (hstop : p (n + 1) = false) :
    (List.range' 1 size).takeWhile p = List.range' 1 n := by
  obtain ⟨rest, rfl⟩ := Nat.exists_eq_add_of_le hn
  have hfirst : ∀ k ∈ List.range' 1 n, p k := by
    intro k hk
    obtain ⟨h1, h2⟩ := List.mem_range'_1.mp hk
    exact hp k (by omega) (by omega)
  rw [← List.range'_append_1, List.takeWhile_append_of_pos hfirst, Nat.add_comm 1 n]
  cases rest with
  | zero => simp
  | succ rest => simp [List.range'_succ, hstop]

/-- The branches are numbered from zero up to the last number before the first gap. -/
theorem branches_eq_range (b : Block) : ∃ n, branches b = List.range (n + 1) ∧
    (∀ k, 0 < k → k ≤ n → hasBranch b k) ∧ hasBranch b (n + 1) = false := by
  have hex : ∃ n, hasBranch b (n + 1) = false := by
    obtain ⟨n, -, hn⟩ := exists_not_hasBranch b
    exact ⟨n, hn⟩
  have hbefore : ∀ k, 0 < k → k ≤ Nat.find hex → hasBranch b k := by
    intro k hpos hk
    obtain ⟨k, rfl⟩ := Nat.exists_eq_succ_of_ne_zero (Nat.pos_iff_ne_zero.mp hpos)
    simpa using Nat.find_min hex hk
  have hsize : Nat.find hex ≤ b.values.size + b.statements.size := by
    obtain ⟨n, hn, hstop⟩ := exists_not_hasBranch b
    exact Nat.le_trans (Nat.find_min' hex hstop) hn
  refine ⟨Nat.find hex, ?_, hbefore, Nat.find_spec hex⟩
  rw [branches, takeWhile_range' hsize hbefore (Nat.find_spec hex), List.range_eq_range',
    List.range'_succ]

/-! ### The walk -/

/-- The step has an outcome in every context and leaves the blocks in progress as they were. -/
def Ends {board : Board} {α : Type} (visiting : Finset String) (w : Walk board α) : Prop :=
  ∀ c, ∃ a c', w ⟨c, visiting⟩ = some (a, ⟨c', visiting⟩)

lemma Realizes.ends {board : Board} {α : Type} {visiting : Finset String} {e : Emit α}
    {w : Walk board α} (h : Realizes visiting e w) : Ends visiting w :=
  fun c => ⟨_, _, h c⟩

section Ends

variable (g : Graph) (board : Board) (indent : String) (visiting : Finset String) (extra : Nat)

/-- How blocks are emitted with room for each id that is not in progress. -/
def roomyEmitter : Graph.ChildEmitter (Walk board) g :=
  Walk.emitter g board indent ((ids g \ visiting).card + extra)

lemma roomyEmitter_realizes (c : Block) (hc : c ∈ g.blocks) :
    Realizes visiting (g.emitter board indent visiting.toList c hc)
      (roomyEmitter g board indent visiting extra c hc) :=
  emitter_realizes (Finset.toList_toFinset visiting) (Nat.le_add_right _ extra) c hc

lemma block_ends (b : Block) :
    Ends visiting (Walk.block g board indent (nesting g visiting b + extra) b) := by
  apply Realizes.ends
  exact block_realizes (Finset.toList_toFinset visiting) (Nat.le_add_right _ extra)

lemma script_ends (b : Block) {α : Type} (x : Script α) :
    Ends visiting
      ((g.site board indent (roomyEmitter g board indent visiting extra) b).emit x) := by
  have hsite := Simulation.site (realization_performs board visiting)
    (roomyEmitter_realizes g board indent visiting extra) board indent b x
  exact hsite.ends

lemma socketValue_ends (b : Block) (socket : String) (slot : Level) :
    Ends visiting
      (g.socketValue (roomyEmitter g board indent visiting extra) b socket slot) := by
  have hvalue := Simulation.socketValue (realization_performs board visiting)
    (roomyEmitter_realizes g board indent visiting extra) b socket slot
  exact hvalue.ends

lemma chainCode_ends (first : String) :
    Ends visiting (g.chainCode (roomyEmitter g board indent visiting extra) first) := by
  have hchain := Simulation.chainCode (S := realization board visiting)
    (roomyEmitter_realizes g board indent visiting extra) first
  exact hchain.ends

lemma socketBody_ends (b : Block) (socket : String) :
    Ends visiting
      (g.socketBody (roomyEmitter g board indent visiting extra) indent b socket) := by
  have hbody := Simulation.socketBody (S := realization board visiting)
    (roomyEmitter_realizes g board indent visiting extra) indent b socket
  exact hbody.ends

/-- The generation of the whole program, and what it leaves. -/
lemma emitBodies_outcome (options : Options) :
    g.emitBodies (roomyEmitter g board options.indent ∅ extra) ⟨.initial options.policy, ∅⟩ =
      some ((g.emitBodies (g.emitter board options.indent [])).result,
        ⟨(Context.initial options.policy).applyAll board
          (g.emitBodies (g.emitter board options.indent [])).effects, ∅⟩) := by
  have hbodies := Simulation.emitBodies (S := realization board ∅)
    (roomyEmitter_realizes g board options.indent ∅ extra)
  rw [Finset.toList_empty] at hbodies
  exact hbodies (.initial options.policy)

end Ends

/-- Generation ends on every graph. Blocks are entered one inside the other no deeper than there are
ids not in progress, every step leaves the set of blocks in progress as it was, a block in progress
yields nothing and changes nothing, and the branches of a conditional stop at the first gap. -/
theorem generation_ends (g : Graph) (board : Board) (extra : Nat) :
    (∀ (indent : String) (visiting : Finset String),
      let child := roomyEmitter g board indent visiting extra
      (∀ c hc, Ends visiting (child c hc)) ∧
      (∀ b, Ends visiting (Walk.block g board indent (nesting g visiting b + extra) b)) ∧
      (∀ b socket slot, Ends visiting (g.socketValue child b socket slot)) ∧
      (∀ b socket, Ends visiting (g.socketBody child indent b socket)) ∧
      (∀ first, Ends visiting (g.chainCode child first)) ∧
      (∀ b name params socket,
        Ends visiting ((g.site board indent child b).callback name params socket)) ∧
      (∀ b k, Ends visiting ((g.site board indent child b).emit (Kind.emit g b k))) ∧
      ∀ depth b c, b.id ∈ visiting →
        Walk.block g board indent depth b ⟨c, visiting⟩ = some (none, ⟨c, visiting⟩)) ∧
    (∀ options : Options, ∃ bodies context,
      g.emitBodies (roomyEmitter g board options.indent ∅ extra) ⟨.initial options.policy, ∅⟩ =
        some (bodies, ⟨context, ∅⟩) ∧
      let p := (Generator.new g board options).program
      p.setupBody = bodies.setup ∧ p.loopBody = bodies.loop ∧
        p.sections = context.registry.sections ∧ p.warnings = context.warnings) ∧
    ∀ b, ∃ n, branches b = List.range (n + 1) ∧ (∀ k, 0 < k → k ≤ n → hasBranch b k) ∧
      hasBranch b (n + 1) = false := by
  refine ⟨?_, ?_, branches_eq_range⟩
  · intro indent visiting child
    refine ⟨?_, block_ends g board indent visiting extra,
      socketValue_ends g board indent visiting extra, socketBody_ends g board indent visiting extra,
      chainCode_ends g board indent visiting extra, ?_, ?_, ?_⟩
    · intro c hc
      exact (roomyEmitter_realizes g board indent visiting extra c hc).ends
    · intro b name params socket
      exact script_ends g board indent visiting extra b _
    · intro b k
      exact script_ends g board indent visiting extra b _
    · intro depth b c hb
      exact block_of_visiting hb depth
  · intro options
    exact ⟨_, _, emitBodies_outcome g board extra options, rfl, rfl, rfl, rfl⟩

/-- A ticker whose callback holds an operation, the operation being its own operand and followed by
the ticker again. -/
def tangledTicker : Block :=
  { id := "tick"
    kind := "ticker_attach"
    statements := Dict.insert {} "function_body" "sum"
    next := some "tick" }

def tangle : Graph :=
  { blocks :=
      [tangledTicker,
       { id := "sum"
         kind := "math_arithmetic"
         values := Dict.insert {} "A" "sum"
         next := some "tick" }] }

theorem generation_ends_tangle :
    Ends ∅ (Walk.block tangle Board.Nucleo.profile "  " 2 tangledTicker) ∧
      Walk.block tangle Board.Nucleo.profile "  " 0 tangledTicker
        ⟨.initial .strict, insert "tick" ∅⟩ = some (none, ⟨.initial .strict, insert "tick" ∅⟩) := by
  have hends := (generation_ends tangle Board.Nucleo.profile 0).1 "  "
  have hnesting : nesting tangle ∅ tangledTicker = 2 := by decide
  constructor
  · exact hnesting ▸ (hends ∅).2.1 tangledTicker
  · exact (hends (insert "tick" ∅)).2.2.2.2.2.2.2 0 tangledTicker (.initial .strict) (by decide)

end MbedBlocks.Proofs
