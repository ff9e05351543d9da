import MbedBlocks.Block
import MbedBlocks.Diagnostics

/-!
# Block graphs

A program as the editor hands it over: blocks in the order they were added, linked by ids. Ids may
be repeated and links may lead nowhere or in circles; an id always means the last block that has it.
-/

namespace MbedBlocks

structure Metadata where
  name : String := ""
  description : String := ""
deriving DecidableEq, Repr

structure Graph where
  metadata : Metadata := {}
  blocks : List Block := []
deriving DecidableEq

namespace Graph

/-- The graph with a name and no blocks. -/
def named (name : String) : Graph := { metadata := { name } }

/-- The last block with the id. -/
def get? (g : Graph) (id : String) : Option Block := g.blocks.reverse.find? fun b => b.id == id

/-- Changes the last block with the id and leaves all others. -/
def modifyLast (id : String) (f : Block → Block) : List Block → List Block
  | [] => []
  | b :: rest =>
    if rest.any fun c => c.id == id then b :: modifyLast id f rest
    else if b.id = id then f b :: rest
    else b :: rest

def modify (g : Graph) (id : String) (f : Block → Block) : Graph :=
  { g with blocks := modifyLast id f g.blocks }

/-- Puts the block in place of the one its id means, or at the end if there is none. -/
def addBlock (g : Graph) (block : Block) : Graph :=
  if g.blocks.any fun b => b.id == block.id then g.modify block.id fun _ => block
  else { g with blocks := g.blocks ++ [block] }

/-- The blocks that no link names, in order. -/
def topBlocks (g : Graph) : List Block :=
  let linked := g.blocks.flatMap Block.links
  g.blocks.filter fun b => !linked.contains b.id

theorem mem_of_mem_topBlocks {g : Graph} {b : Block} (h : b ∈ g.topBlocks) : b ∈ g.blocks :=
  (List.mem_filter.mp h).1

/-- The first block whose next link names the id. -/
def previous? (g : Graph) (id : String) : Option Block :=
  g.blocks.find? fun b => b.next == some id

/-- How many blocks have an id outside `seen`. Walks through the graph end because each step adds an
id to `seen`. -/
def unseen (g : Graph) (seen : List String) : Nat :=
  g.blocks.countP fun b => !seen.contains b.id

theorem get?_mem {g : Graph} {id : String} {b : Block} (h : g.get? id = some b) :
    b ∈ g.blocks ∧ b.id = id := by
  unfold get? at h
  exact ⟨List.mem_reverse.mp (List.mem_of_find?_eq_some h), by simpa using List.find?_some h⟩

theorem mem_of_link {g : Graph} {link : Option String} {b : Block}
    (h : link.bind g.get? = some b) : b ∈ g.blocks := by
  obtain ⟨id, -, hid⟩ := Option.bind_eq_some_iff.mp h
  exact (get?_mem hid).1

theorem unseen_cons_lt {g : Graph} {seen : List String} {b : Block} (hb : b ∈ g.blocks)
    (hseen : b.id ∉ seen) : g.unseen (b.id :: seen) < g.unseen seen := by
  unfold unseen
  obtain ⟨before, after, hsplit⟩ := List.append_of_mem hb
  have hle (l : List Block) :
      l.countP (fun c => !(b.id :: seen).contains c.id) ≤
        l.countP (fun c => !seen.contains c.id) := by
    apply List.countP_mono_left
    intro c _ hc
    simp_all
  have h1 := hle before
  have h2 := hle after
  simp only [hsplit, List.countP_append, List.countP_cons]
  simp [hseen] at *
  omega

theorem unseen_step {g : Graph} {seen : List String} {id : String} {b : Block}
    (h : g.get? id = some b) (hseen : id ∉ seen) : g.unseen (id :: seen) < g.unseen seen := by
  obtain ⟨hmem, rfl⟩ := get?_mem h
  exact unseen_cons_lt hmem hseen

/-- The chain of next links from `id`, up to a link that leads nowhere or to an id in `seen`. -/
def chainFrom (g : Graph) (seen : List String) (id : String) : List Block :=
  if hseen : id ∈ seen then []
  else
    match h : g.get? id with
    | none => []
    | some b =>
      match b.next with
      | none => [b]
      | some next =>
        have := unseen_step h hseen
        b :: chainFrom g (id :: seen) next
termination_by g.unseen seen

/-- The chain of next links from `first`, without repetition. -/
def chain (g : Graph) (first : String) : List Block := g.chainFrom [] first

theorem mem_of_mem_chainFrom {g : Graph} {seen : List String} {id : String} {b : Block}
    (h : b ∈ g.chainFrom seen id) : b ∈ g.blocks := by
  fun_induction chainFrom g seen id with
  | case1 => simp at h
  | case2 => simp at h
  | case3 seen id _ c hc =>
    rw [List.mem_singleton] at h
    exact h ▸ (get?_mem hc).1
  | case4 seen id _ c hc _ _ _ ih =>
    rcases List.mem_cons.mp h with rfl | h
    · exact (get?_mem hc).1
    · exact ih h

theorem mem_of_mem_chain {g : Graph} {first : String} {b : Block} (h : b ∈ g.chain first) :
    b ∈ g.blocks := mem_of_mem_chainFrom h

/-- The tags of compilation that a block carries and `warnings` does not report for it. -/
def outdatedTags (warnings : List Warning) (b : Block) : List String :=
  Tag.generation.filter fun tag =>
    b.warnings.contains tag && !warnings.any fun w => w.blockId == b.id && w.tag == tag

/-- Puts the warnings of a compilation on their blocks. Warnings of earlier compilations that are
not reported any more are taken away and listed. -/
def applyWarnings (g : Graph) (warnings : List Warning) : Graph × List ClearedWarning :=
  let cleaned := g.blocks.map fun b =>
    (outdatedTags warnings b).foldl (fun b tag => b.setWarning tag none) b
  let cleared := g.blocks.flatMap fun b =>
    (outdatedTags warnings b).map fun tag => { blockId := b.id, tag }
  let annotated := warnings.foldl
    (fun g w => g.modify w.blockId fun b => b.setWarning w.tag (some w.message))
    { g with blocks := cleaned }
  (annotated, cleared)

end Graph

end MbedBlocks
