import MbedBlocks.Compile
import Mathlib.Tactic.Lemma
import Mathlib.Tactic.SplitIfs

/-!
# Simulations of the walk

The walk through a graph leaves open in which monad it takes place. A relation between computations
of two monads that `pure` and `bind` preserve is carried through every script and through the whole
walk, once it holds of the effects and of what the boards answer.
-/

namespace MbedBlocks.Proofs

open Code (Level Fragment)
open MbedBlocks.Graph (ChildEmitter)

/-- The effects that scripts and the walk ask for. Conflicts of pins are reported by reservations
alone. -/
def Ordinary : Effect → Prop
  | .warn w => w.tag ≠ Tag.pinConflict
  | _ => True

lemma result_mapM {α β : Type} (f : α → Emit β) (l : List α) :
    (l.mapM f).result = l.map fun a => (f a).result := by
  induction l with
  | nil => rfl
  | cons a l ih => rw [List.mapM_cons, Emit.result_bind, Emit.result_bind, ih, List.map_cons]; rfl

/-- A relation between the computations of two monads that sequencing preserves. -/
structure Simulation (m n : Type → Type) [Monad m] [Monad n] where
  rel : {α : Type} → m α → n α → Prop
  pure : ∀ {α : Type} (a : α), rel (Pure.pure a) (Pure.pure a)
  bind : ∀ {α β : Type} {x : m α} {y : n α} {f : α → m β} {k : α → n β},
    rel x y → (∀ a, rel (f a) (k a)) → rel (x >>= f) (y >>= k)

namespace Simulation

variable {m n : Type → Type} [Monad m] [Monad n]

lemma script (S : Simulation m n) {α : Type} {answer : (r : Request) → m r.Answer}
    {answer' : (r : Request) → n r.Answer} (h : ∀ r, S.rel (answer r) (answer' r))
    (x : Script α) : S.rel (x.run answer) (x.run answer') := by
  induction x with
  | done a => exact S.pure a
  | ask r next ih => exact S.bind (h r) ih

lemma mapM [LawfulMonad m] [LawfulMonad n] (S : Simulation m n) {α β : Type} {f : α → m β}
    {k : α → n β} (h : ∀ a, S.rel (f a) (k a)) (l : List α) : S.rel (l.mapM f) (l.mapM k) := by
  induction l with
  | nil =>
    rw [List.mapM_nil, List.mapM_nil]
    exact S.pure []
  | cons a l ih =>
    rw [List.mapM_cons, List.mapM_cons]
    apply S.bind (h a)
    intro b
    apply S.bind ih
    intro bs
    exact S.pure (b :: bs)

section Chains

variable [LawfulMonad m] [LawfulMonad n] {S : Simulation m n} {g : Graph}
  {child : ChildEmitter m g} {child' : ChildEmitter n g}

lemma chainCode (hchild : ∀ c hc, S.rel (child c hc) (child' c hc)) (first : String) :
    S.rel (g.chainCode child first) (g.chainCode child' first) := by
  unfold Graph.chainCode
  refine S.bind (S.mapM ?_ _) fun _ => S.pure _
  intro c
  exact hchild c.1 _

lemma socketBody (hchild : ∀ c hc, S.rel (child c hc) (child' c hc)) (indent : String) (b : Block)
    (socket : String) :
    S.rel (g.socketBody child indent b socket) (g.socketBody child' indent b socket) := by
  unfold Graph.socketBody
  cases b.statements.get? socket with
  | none => exact S.pure ""
  | some first => exact S.bind (chainCode hchild first) fun _ => S.pure _

lemma frameChain (hchild : ∀ c hc, S.rel (child c hc) (child' c hc)) (frame : Block)
    (socket : String) :
    S.rel (g.frameChain child frame socket) (g.frameChain child' frame socket) := by
  unfold Graph.frameChain
  cases frame.statements.get? socket with
  | none => exact S.pure ""
  | some first => exact chainCode hchild first

lemma emitTop (hchild : ∀ c hc, S.rel (child c hc) (child' c hc)) (top : Block)
    (h : top ∈ g.blocks) : S.rel (g.emitTop child top h) (g.emitTop child' top h) := by
  unfold Graph.emitTop
  split_ifs
  · apply S.bind (frameChain hchild top "SETUP_FUNC")
    intro setup
    apply S.bind (frameChain hchild top "LOOP_FUNC")
    intro loop
    exact S.pure _
  · exact S.bind (hchild top h) fun _ => S.pure _
  · exact S.bind (chainCode hchild top.id) fun _ => S.pure _

lemma emitBodies (hchild : ∀ c hc, S.rel (child c hc) (child' c hc)) :
    S.rel (g.emitBodies child) (g.emitBodies child') := by
  unfold Graph.emitBodies
  refine S.bind (S.mapM ?_ _) fun _ => S.pure _
  intro top
  exact emitTop hchild top.1 _

end Chains

variable [MonadEffect m] [MonadEffect n]

/-- Both sides perform ordinary effects in the same way. -/
def Performs (S : Simulation m n) : Prop :=
  ∀ e, Ordinary e → S.rel (MonadEffect.perform e) (MonadEffect.perform e)

lemma Performs.warn {S : Simulation m n} (hS : S.Performs) (b : Block) {tag : String}
    (htag : tag ≠ Tag.pinConflict) (message : String) :
    S.rel (b.warn tag message) (b.warn tag message) :=
  hS (.warn { blockId := b.id, tag, message }) htag

/-- Both sides warn of a block in the same way. -/
def Warns (S : Simulation m n) : Prop :=
  ∀ (b : Block) (tag message : String), tag ≠ Tag.pinConflict →
    S.rel (b.warn tag message) (b.warn tag message)

lemma Performs.warns {S : Simulation m n} (hS : S.Performs) : S.Warns :=
  fun b _ message htag => hS.warn b htag message

section Sites

variable {S : Simulation m n} {s : Site m} {t : Site n}

lemma unit (hS : S.Performs) (hblock : s.block = t.block) {pin : String} {mapper : Board.Mapper}
    (hunit : s.board.unit pin mapper = t.board.unit pin mapper) :
    S.rel (s.unit pin mapper) (t.unit pin mapper) := by
  unfold Site.unit Site.warn
  rw [hunit, hblock]
  cases t.board.unit pin mapper with
  | ok unit => exact S.pure unit
  | error e => exact S.bind (hS.warn _ (by decide) _) fun _ => S.pure pin

lemma bus (hS : S.Performs) (hboard : s.board = t.board) (hblock : s.block = t.block)
    (name choice : String) : S.rel (s.bus name choice) (t.bus name choice) := by
  unfold Site.bus Site.warn
  rw [hboard, hblock]
  cases t.board.busPins? name (some choice) with
  | some pins => exact S.pure pins
  | none => exact S.bind (hS.warn _ (by decide) _) fun _ => S.pure _

/-- Sites that answer alike run every script alike. -/
lemma emit (hS : S.Performs) (hblock : s.block = t.block)
    (hunit : ∀ pin mapper, S.rel (s.unit pin mapper) (t.unit pin mapper))
    (hbus : ∀ name choice, S.rel (s.bus name choice) (t.bus name choice))
    (hvalue : ∀ socket slot, S.rel (s.value socket slot) (t.value socket slot))
    (hbody : ∀ socket, S.rel (s.body socket) (t.body socket)) {α : Type} (x : Script α) :
    S.rel (s.emit x) (t.emit x) := by
  apply S.script
  intro r
  cases r with
  | register r => exact hS _ trivial
  | provide function registrations => exact hS _ trivial
  | reserve pin role purpose =>
    rw [Site.answer, Site.answer, Site.reserve, Site.reserve, hblock]
    exact hS _ trivial
  | unit pin mapper => exact hunit pin mapper
  | bus name choice => exact hbus name choice
  | value socket slot => exact hvalue socket slot
  | body socket => exact hbody socket

end Sites

section Sockets

variable {S : Simulation m n} {g : Graph} {child : ChildEmitter m g} {child' : ChildEmitter n g}

lemma fragmentValue (hS : S.Warns) (b c : Block) (socket : String) (slot : Level)
    (fragment : Option Fragment) :
    S.rel (Graph.fragmentValue b c socket slot fragment)
      (Graph.fragmentValue b c socket slot fragment) := by
  match fragment with
  | none => exact S.pure none
  | some (.value text level) => exact S.pure _
  | some (.statement _) => exact S.bind (hS c _ _ (by decide)) fun _ => S.pure none

/-- What a socket yields is related if the blocks in it are. -/
lemma socketValue_of_warns (hS : S.Warns) (hchild : ∀ c hc, S.rel (child c hc) (child' c hc))
    (b : Block) (socket : String) (slot : Level) :
    S.rel (g.socketValue child b socket slot) (g.socketValue child' b socket slot) := by
  cases h : (b.values.get? socket).bind g.get? with
  | none =>
    rw [Graph.socketValue_of_vacant h, Graph.socketValue_of_vacant h]
    exact S.pure none
  | some c =>
    rw [Graph.socketValue_of_plugged h, Graph.socketValue_of_plugged h]
    split_ifs
    · exact S.bind (hS c _ _ (by decide)) fun _ => S.pure none
    · exact S.bind (hchild c _) fun fragment => fragmentValue hS b c socket slot fragment

lemma socketValue (hS : S.Performs) (hchild : ∀ c hc, S.rel (child c hc) (child' c hc)) (b : Block)
    (socket : String) (slot : Level) :
    S.rel (g.socketValue child b socket slot) (g.socketValue child' b socket slot) :=
  socketValue_of_warns hS.warns hchild b socket slot

/-- Related children are emitted alike inside a block. -/
lemma site [LawfulMonad m] [LawfulMonad n] (hS : S.Performs)
    (hchild : ∀ c hc, S.rel (child c hc) (child' c hc)) (board : Board) (indent : String) (b : Block)
    {α : Type} (x : Script α) :
    S.rel ((g.site board indent child b).emit x) ((g.site board indent child' b).emit x) :=
  emit hS rfl (fun _ _ => unit hS rfl rfl) (bus hS rfl rfl) (socketValue hS hchild b)
    (socketBody hchild indent b) x

end Sockets

end Simulation

end MbedBlocks.Proofs
