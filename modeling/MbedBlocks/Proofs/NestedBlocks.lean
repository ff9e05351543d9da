import MbedBlocks.Proofs.Simulation

/-!
# Blocks inside blocks

The sockets of a block hold the blocks that its links find and the chains that begin there. A site
looks at no other blocks, and a program is put together from top blocks and chains. So what is to be
carried through a walk need only hold of these.
-/

namespace MbedBlocks

open Code (Level Fragment)

namespace Graph

variable {g : Graph} {b c : Block}

/-- The block stands in a value socket of another one, or in the chain of a statement socket. -/
inductive Nested (g : Graph) (b c : Block) : Prop where
  | value {socket : String} (h : (b.values.get? socket).bind g.get? = some c)
  | body {socket first : String} (hfirst : b.statements.get? socket = some first)
    (h : c ∈ g.chain first)

/-- The block is the one its id means, or no link has its id. No other block is emitted. -/
def Placed (g : Graph) (b : Block) : Prop :=
  g.get? b.id = some b ∨ ∀ a ∈ g.blocks, b.id ∉ a.links

lemma placed_of_get? {id : String} (h : g.get? id = some b) : g.Placed b := by
  obtain ⟨-, rfl⟩ := get?_mem h
  exact .inl h

lemma placed_of_mem_chainFrom {seen : List String} {id : String} (h : b ∈ g.chainFrom seen id) :
    g.Placed b := by
  fun_induction chainFrom g seen id with
  | case1 => simp at h
  | case2 => simp at h
  | case3 seen id _ c hc =>
    rw [List.mem_singleton.mp h]
    exact placed_of_get? hc
  | case4 seen id _ c hc _ _ _ ih =>
    rcases List.mem_cons.mp h with rfl | h
    · exact placed_of_get? hc
    · exact ih h

lemma placed_of_mem_topBlocks (h : b ∈ g.topBlocks) : g.Placed b := by
  have hunlinked : b.id ∉ g.blocks.flatMap Block.links := by simpa using (List.mem_filter.mp h).2
  exact .inr fun a ha hlink => hunlinked (List.mem_flatMap.mpr ⟨a, ha, hlink⟩)

lemma Nested.mem (h : g.Nested b c) : c ∈ g.blocks := by
  cases h with
  | value h => exact mem_of_link h
  | body _ h => exact mem_of_mem_chain h

lemma Nested.placed (h : g.Nested b c) : g.Placed c := by
  cases h with
  | value h =>
    obtain ⟨id, -, hget⟩ := Option.bind_eq_some_iff.mp h
    exact placed_of_get? hget
  | body _ h => exact placed_of_mem_chainFrom h

/-! ### What sites and programs look at -/

section Congruence

variable {m : Type → Type} [Monad m] {child child' : ChildEmitter m g} {board : Board}
  {indent : String}

lemma chainCode_congr {first : String}
    (h : ∀ c (hc : c ∈ g.chain first), child c (mem_of_mem_chain hc) =
      child' c (mem_of_mem_chain hc)) :
    g.chainCode child first = g.chainCode child' first := by
  have hchain : (fun c : { c // c ∈ g.chain first } => child c.1 (mem_of_mem_chain c.2)) =
      fun c => child' c.1 (mem_of_mem_chain c.2) := funext fun c => h c.1 c.2
  unfold chainCode
  rw [hchain]

/-- Sites look at what is nested in their block. -/
lemma site_congr [MonadEffect m] (h : ∀ c hc, g.Nested b c → child c hc = child' c hc) :
    g.site board indent child b = g.site board indent child' b := by
  have hvalue : g.socketValue child b = g.socketValue child' b := by
    funext socket slot
    cases hc : (b.values.get? socket).bind g.get? with
    | none => rw [socketValue_of_vacant hc, socketValue_of_vacant hc]
    | some c => rw [socketValue_of_plugged hc, socketValue_of_plugged hc, h c _ (.value hc)]
  have hbody : g.socketBody child indent b = g.socketBody child' indent b := by
    funext socket
    unfold socketBody
    cases hfirst : b.statements.get? socket with
    | none => rfl
    | some first =>
      have hchain : g.chainCode child first = g.chainCode child' first :=
        chainCode_congr fun c hc => h c _ (.body hfirst hc)
      simp only [hchain]
  unfold site
  rw [hvalue, hbody]

/-- Programs look at placed blocks. -/
lemma emitBodies_congr (h : ∀ c hc, g.Placed c → child c hc = child' c hc) :
    g.emitBodies child = g.emitBodies child' := by
  have hchain (first : String) : g.chainCode child first = g.chainCode child' first :=
    chainCode_congr fun c hc => h c _ (placed_of_mem_chainFrom hc)
  have htop : (fun top : { top // top ∈ g.topBlocks } =>
      g.emitTop child top.1 (mem_of_mem_topBlocks top.2)) =
      fun top => g.emitTop child' top.1 (mem_of_mem_topBlocks top.2) := by
    funext top
    unfold emitTop emitFrame frameChain emitLoose
    simp only [hchain, h top.1 (mem_of_mem_topBlocks top.2) (placed_of_mem_topBlocks top.2)]
  unfold emitBodies
  rw [htop]

end Congruence

end Graph

namespace Proofs

open MbedBlocks.Graph (ChildEmitter)

section Simulations

variable {m n : Type → Type} [Monad m] [Monad n] {S : Simulation m n} {g : Graph} {b : Block}
  {child : ChildEmitter m g} {child' : ChildEmitter n g} {P : Block → Prop}

open Classical in
/-- Emits the blocks that have a property, and nothing for any other. -/
noncomputable def only (P : Block → Prop) (child : ChildEmitter m g) : ChildEmitter m g :=
  fun c hc => if P c then child c hc else pure none

lemma eq_only {c : Block} {hc : c ∈ g.blocks} (h : P c) : child c hc = only P child c hc :=
  (if_pos h).symm

lemma Simulation.only (hchild : ∀ c hc, P c → S.rel (child c hc) (child' c hc)) (c : Block)
    (hc : c ∈ g.blocks) : S.rel (Proofs.only P child c hc) (Proofs.only P child' c hc) := by
  unfold Proofs.only
  split_ifs with h
  · exact hchild c hc h
  · exact S.pure none

variable [LawfulMonad m] [LawfulMonad n]

/-- Scripts are related if the blocks are that are nested in theirs. -/
lemma Simulation.site_of_nested [MonadEffect m] [MonadEffect n] (hS : S.Performs)
    (hchild : ∀ c hc, g.Nested b c → S.rel (child c hc) (child' c hc)) (board : Board)
    (indent : String) {α : Type} (x : Script α) :
    S.rel ((g.site board indent child b).emit x) ((g.site board indent child' b).emit x) := by
  have hsite : g.site board indent child b =
      g.site board indent (Proofs.only (g.Nested b) child) b := Graph.site_congr fun _ _ => eq_only
  have hsite' : g.site board indent child' b =
      g.site board indent (Proofs.only (g.Nested b) child') b := Graph.site_congr fun _ _ => eq_only
  rw [hsite, hsite']
  exact Simulation.site hS (Simulation.only hchild) board indent b x

lemma Simulation.emitBodies_of_placed
    (hchild : ∀ c hc, g.Placed c → S.rel (child c hc) (child' c hc)) :
    S.rel (g.emitBodies child) (g.emitBodies child') := by
  have hbodies : g.emitBodies child = g.emitBodies (Proofs.only g.Placed child) :=
    Graph.emitBodies_congr fun _ _ => eq_only
  have hbodies' : g.emitBodies child' = g.emitBodies (Proofs.only g.Placed child') :=
    Graph.emitBodies_congr fun _ _ => eq_only
  rw [hbodies, hbodies']
  exact Simulation.emitBodies (Simulation.only hchild)

end Simulations

end Proofs

end MbedBlocks
