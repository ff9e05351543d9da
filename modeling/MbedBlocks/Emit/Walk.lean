import MbedBlocks.Emit.Language
import MbedBlocks.Emit.Module
import MbedBlocks.Emit.Site
import MbedBlocks.Emit.Variable
import MbedBlocks.Kind.Families

/-!
# Walking the graph

The code of a block depends on the code of the blocks in its sockets. A block that is being emitted
already yields nothing inside itself, so the walk ends on every graph: each step into a socket adds
an id of the graph to those in progress.
-/

namespace MbedBlocks

open Code (Level Fragment)

def Kind.emit (g : Graph) (b : Block) : Kind → Script Fragment
  | language k => k.emit b
  | pin k => k.emit b
  | serial k => k.emit b
  | motor k => k.emit b
  | time k => k.emit b
  | spi k => k.emit b
  | radio k => k.emit b
  | network k => k.emit b
  | voice k => k.emit b
  | sensor k => k.emit b
  | imu k => k.emit b
  | var k => k.emit g b
  | file k => k.emit b
  | gcode k => k.emit

namespace Graph

section Sockets

variable {m : Type → Type} [Monad m] [MonadEffect m]

/-- How the blocks of a graph are emitted inside a given block. -/
abbrev ChildEmitter (m : Type → Type) (g : Graph) :=
  (c : Block) → c ∈ g.blocks → m (Option Fragment)

def warnStatementInValue (parent child : Block) (socket : String) : m Unit :=
  child.warn Tag.statementInValue
    ("Statement block " ++ child.kind ++ " cannot be plugged into value input " ++ socket ++
      " of block " ++ parent.id)

/-- Whether the catalogue lists the kind of the block as a statement. -/
def isStatement (b : Block) : Bool :=
  match b.info? with
  | some info => !info.shape.isValue
  | none => false

/-- The expression of an emitted block in a value socket as it stands in a slot. -/
def fragmentValue (b c : Block) (socket : String) (slot : Level) :
    Option Fragment → m (Option String)
  | none => pure none
  | some (.value text level) =>
    pure (if text = "" then none else some (Code.parenthesize text level slot))
  | some (.statement _) => do
    warnStatementInValue b c socket
    return none

/-- The expression in a value socket as it stands in a slot. A socket that is empty, leads nowhere,
holds a statement or yields no text has none. -/
def socketValue (g : Graph) (child : ChildEmitter m g) (b : Block) (socket : String)
    (slot : Level) : m (Option String) :=
  match h : (b.values.get? socket).bind g.get? with
  | none => pure none
  | some c =>
    if isStatement c then do
      warnStatementInValue b c socket
      return none
    else do
      let fragment ← child c (mem_of_link h)
      fragmentValue b c socket slot fragment

theorem socketValue_of_vacant {g : Graph} {child : ChildEmitter m g} {b : Block} {socket : String}
    {slot : Level} (h : (b.values.get? socket).bind g.get? = none) :
    socketValue g child b socket slot = pure none := by
  unfold socketValue
  split
  next => rfl
  next c hc =>
    rw [h] at hc
    cases hc

theorem socketValue_of_plugged {g : Graph} {child : ChildEmitter m g} {b c : Block}
    {socket : String} {slot : Level} (h : (b.values.get? socket).bind g.get? = some c) :
    socketValue g child b socket slot =
      (if isStatement c then do
        warnStatementInValue b c socket
        return none
      else do
        let fragment ← child c (mem_of_link h)
        fragmentValue b c socket slot fragment) := by
  unfold socketValue
  split
  next hnone =>
    rw [h] at hnone
    cases hnone
  next d hd =>
    obtain rfl : d = c := Option.some.inj (hd.symm.trans h)
    rfl

/-- The statement lines of an emitted block; a value that stands alone is dropped. -/
def statementText : Option Fragment → String
  | some (.statement text) => text
  | _ => ""

/-- The statement lines of a chain of blocks. -/
def chainCode (g : Graph) (child : ChildEmitter m g) (first : String) : m String := do
  let fragments ← (g.chain first).attach.mapM fun c => child c.1 (mem_of_mem_chain c.2)
  return String.join (fragments.map statementText)

/-- The lines of the chain in a statement socket, one level deeper. -/
def socketBody (g : Graph) (child : ChildEmitter m g) (indent : String) (b : Block)
    (socket : String) : m String :=
  match b.statements.get? socket with
  | none => pure ""
  | some first => do
    let code ← chainCode g child first
    return Text.indentLines code indent

/-- The site of a block whose sockets are emitted by `child`. -/
def site (g : Graph) (board : Board) (indent : String) (child : ChildEmitter m g) (b : Block) :
    Site m :=
  { board
    block := b
    value := socketValue g child b
    body := socketBody g child indent b }

def warnUnknown (b : Block) : m Unit :=
  b.warn Tag.unknownBlock ("No code generator for block kind '" ++ b.kind ++ "'")

end Sockets

/-- Bound for the depth of the walk below a block while the blocks in `busy` are in progress. -/
def depthBound (g : Graph) (busy : List String) (b : Block) : Nat :=
  g.unseen busy + if g.blocks.any fun c => c.id == b.id then 0 else 1

theorem unseen_cons_le (g : Graph) (busy : List String) (id : String) :
    g.unseen (id :: busy) ≤ g.unseen busy := by
  apply List.countP_mono_left
  intro b _ hb
  simp_all

theorem depthBound_lt {g : Graph} {busy : List String} {b c : Block} (hb : b.id ∉ busy)
    (hc : c ∈ g.blocks) : g.depthBound (b.id :: busy) c < g.depthBound busy b := by
  have hchild : (g.blocks.any fun d => d.id == c.id) = true :=
    List.any_eq_true.mpr ⟨c, hc, by simp⟩
  simp only [depthBound, hchild, if_true, Nat.add_zero]
  split
  next h =>
    obtain ⟨d, hd, hid⟩ := List.any_eq_true.mp h
    have hid : d.id = b.id := by simpa using hid
    have := unseen_cons_lt hd (hid ▸ hb)
    rw [hid] at this
    omega
  next =>
    have := unseen_cons_le g busy b.id
    omega

/-- Induction along the walk: the blocks that a block links to are emitted while it is in progress. -/
theorem walk_induction {g : Graph} {motive : List String → Block → Prop}
    (inProgress : ∀ busy b, b.id ∈ busy → motive busy b)
    (unlisted : ∀ busy b, b.id ∉ busy → b.kind? = none → motive busy b)
    (listed : ∀ busy b k, b.id ∉ busy → b.kind? = some k →
      (∀ c ∈ g.blocks, motive (b.id :: busy) c) → motive busy b)
    (busy : List String) (b : Block) : motive busy b := by
  by_cases hb : b.id ∈ busy
  · exact inProgress busy b hb
  · cases hk : b.kind? with
    | none => exact unlisted busy b hb hk
    | some k =>
      refine listed busy b k hb hk fun c hc => ?_
      exact walk_induction inProgress unlisted listed (b.id :: busy) c
termination_by g.depthBound busy b
decreasing_by exact depthBound_lt hb hc

/-- Emits a block while the blocks in `busy` are in progress. Nothing comes of a block that is in
progress itself, nor of one whose kind no family of scripts knows. -/
def emitWithin (g : Graph) (board : Board) (indent : String) (busy : List String) (b : Block) :
    Emit (Option Fragment) :=
  if h : b.id ∈ busy then pure none
  else
    match b.kind? with
    | none => do
      warnUnknown b
      return none
    | some k => do
      let child : ChildEmitter Emit g := fun c hc =>
        have := depthBound_lt h hc
        emitWithin g board indent (b.id :: busy) c
      let fragment ← (g.site board indent child b).emit (k.emit g b)
      return some fragment
termination_by g.depthBound busy b

/-- Emits the blocks of the graph while those in `busy` are in progress. -/
def emitter (g : Graph) (board : Board) (indent : String) (busy : List String) :
    ChildEmitter Emit g := fun c _ =>
  g.emitWithin board indent busy c

theorem emitWithin_of_mem {g : Graph} {board : Board} {indent : String} {busy : List String}
    {b : Block} (h : b.id ∈ busy) : g.emitWithin board indent busy b = pure none := by
  rw [emitWithin, dif_pos h]

theorem emitWithin_of_unlisted {g : Graph} {board : Board} {indent : String} {busy : List String}
    {b : Block} (h : b.id ∉ busy) (hk : b.kind? = none) :
    g.emitWithin board indent busy b = (do warnUnknown b; return none) := by
  rw [emitWithin, dif_neg h, hk]

theorem emitWithin_of_kind {g : Graph} {board : Board} {indent : String} {busy : List String}
    {b : Block} {k : Kind} (h : b.id ∉ busy) (hk : b.kind? = some k) :
    g.emitWithin board indent busy b = (do
      let child := g.emitter board indent (b.id :: busy)
      let fragment ← (g.site board indent child b).emit (k.emit g b)
      return some fragment) := by
  rw [emitWithin, dif_neg h, hk]
  rfl

end Graph

end MbedBlocks
