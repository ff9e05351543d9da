import MbedBlocks.Proofs.StatefulWalk

/-!
# Code does not depend on the context

A generator emits the same code for a block whatever it has registered, reserved and reported
before. The bodies of a program are therefore made of what a fresh generator emits for each block of
the chains by itself.
-/

namespace MbedBlocks.Proofs

open Code (Fragment)

/-- The blocks that a top block adds to the setup body. -/
def setupChain (g : Graph) (top : Block) : List Block :=
  if top.kind = framingName then (top.statements.get? "SETUP_FUNC").elim [] g.chain
  else if top.info?.any fun info => info.shape.isValue then []
  else g.chain top.id

/-- The blocks that a top block adds to the loop body. -/
def loopChain (g : Graph) (top : Block) : List Block :=
  if top.kind = framingName then (top.statements.get? "LOOP_FUNC").elim [] g.chain else []

lemma mem_of_mem_socketChain {g : Graph} {first : Option String} {b : Block}
    (h : b ∈ first.elim [] g.chain) : b ∈ g.blocks := by
  cases first with
  | none => cases h
  | some first => exact Graph.mem_of_mem_chain h

lemma mem_of_mem_setupChain {g : Graph} {top b : Block} (h : b ∈ setupChain g top) :
    b ∈ g.blocks := by
  unfold setupChain at h
  split_ifs at h
  · exact mem_of_mem_socketChain h
  · cases h
  · exact Graph.mem_of_mem_chain h

lemma mem_of_mem_loopChain {g : Graph} {top b : Block} (h : b ∈ loopChain g top) :
    b ∈ g.blocks := by
  unfold loopChain at h
  split_ifs at h
  · exact mem_of_mem_socketChain h
  · cases h

/-- The statement lines that a new generator emits for one block. -/
def freshCode (g : Graph) (board : Board) (options : Options) (b : Block) : String :=
  match Walk.block g board options.indent (nesting g ∅ b) b ⟨.initial options.policy, ∅⟩ with
  | some (some (.statement text), _) => text
  | _ => ""

section Bodies

variable {g : Graph} {board : Board} {indent : String}

/-- The statement lines of a block that is emitted by itself. -/
def blockCode (g : Graph) (board : Board) (indent : String) (b : Block) : String :=
  Graph.statementText (g.emitWithin board indent [] b).result

lemma chainCode_result (first : String) :
    (g.chainCode (g.emitter board indent []) first).result =
      String.join ((g.chain first).map (blockCode g board indent)) := by
  rw [Graph.chainCode, Emit.result_bind, result_mapM, Emit.result_pure, List.map_map]
  exact congrArg String.join (List.attach_map_val (f := blockCode g board indent))

lemma frameChain_result (frame : Block) (socket : String) :
    (g.frameChain (g.emitter board indent []) frame socket).result =
      String.join (((frame.statements.get? socket).elim [] g.chain).map
        (blockCode g board indent)) := by
  unfold Graph.frameChain
  cases frame.statements.get? socket with
  | none => rfl
  | some first => exact chainCode_result first

/-- What a top block adds to the two bodies. -/
lemma emitTop_result {top : Block} (h : top ∈ g.blocks) :
    (g.emitTop (g.emitter board indent []) top h).result =
      { setup := String.join ((setupChain g top).map (blockCode g board indent))
        loop := String.join ((loopChain g top).map (blockCode g board indent)) } := by
  unfold Graph.emitTop setupChain loopChain
  split_ifs
  · rw [Graph.emitFrame, Emit.result_bind, Emit.result_bind, frameChain_result, frameChain_result]
    rfl
  · rfl
  · rw [Graph.emitLoose, Emit.result_bind, chainCode_result]
    rfl

lemma foldl_bodies (bodies : List Bodies) (first : Bodies) :
    bodies.foldl Bodies.append first =
      { setup := first.setup ++ String.join (bodies.map Bodies.setup)
        loop := first.loop ++ String.join (bodies.map Bodies.loop) } := by
  induction bodies generalizing first with
  | nil => simp
  | cons body bodies ih =>
    rw [List.foldl_cons, ih]
    simp [Bodies.append, String.append_assoc]

lemma join_flatMap {α β : Type} (code : β → String) (chain : α → List β) (l : List α) :
    String.join (l.map fun a => String.join ((chain a).map code)) =
      String.join ((l.flatMap chain).map code) := by
  induction l with
  | nil => rfl
  | cons a l ih =>
    rw [List.map_cons, String.join_cons, ih, List.flatMap_cons, List.map_append,
      String.join_append]

lemma emitBodies_result :
    (g.emitBodies (g.emitter board indent [])).result =
      { setup := String.join ((g.topBlocks.flatMap (setupChain g)).map (blockCode g board indent))
        loop := String.join ((g.topBlocks.flatMap (loopChain g)).map
          (blockCode g board indent)) } := by
  have hjoin (chain : Block → List Block) :
      String.join (g.topBlocks.attach.map fun top =>
        String.join ((chain top.1).map (blockCode g board indent))) =
      String.join ((g.topBlocks.flatMap chain).map (blockCode g board indent)) := by
    rw [← join_flatMap]
    exact congrArg String.join
      (List.attach_map_val (f := fun top => String.join ((chain top).map (blockCode g board indent))))
  rw [Graph.emitBodies, Emit.result_bind, result_mapM, Emit.result_pure, foldl_bodies]
  simp only [emitTop_result, List.map_map, Function.comp_def, hjoin, String.empty_append]

lemma freshCode_eq (options : Options) :
    freshCode g board options = blockCode g board options.indent := by
  funext b
  have hblock : Realizes ∅ (g.emitWithin board options.indent [] b)
      (Walk.block g board options.indent (nesting g ∅ b) b) :=
    block_realizes List.toFinset_nil (Nat.le_refl _)
  rw [freshCode, hblock, blockCode]
  cases (g.emitWithin board options.indent [] b).result with
  | none => rfl
  | some fragment => cases fragment <;> rfl

end Bodies

/-- The code of a block depends on the graph, the board, the indentation and the blocks in progress
alone. The bodies of a program are the code that a new generator emits for each of their blocks. -/
theorem code_independent_of_context (g : Graph) (board : Board) :
    (∀ (indent : String) (visiting : Finset String) (b : Block), ∃ fragment,
      (g.emitWithin board indent visiting.toList b).result = fragment ∧
      ∀ (extra : Nat) (c : Context), ∃ c',
        Walk.block g board indent (nesting g visiting b + extra) b ⟨c, visiting⟩ =
          some (fragment, ⟨c', visiting⟩)) ∧
    ∀ options : Options,
      (Generator.new g board options).program.setupBody =
        String.join ((g.topBlocks.flatMap (setupChain g)).map (freshCode g board options)) ∧
      (Generator.new g board options).program.loopBody =
        String.join ((g.topBlocks.flatMap (loopChain g)).map (freshCode g board options)) := by
  constructor
  · intro indent visiting b
    refine ⟨_, rfl, ?_⟩
    intro extra c
    have hblock : Realizes visiting (g.emitWithin board indent visiting.toList b)
        (Walk.block g board indent (nesting g visiting b + extra) b) :=
      block_realizes (Finset.toList_toFinset visiting) (Nat.le_add_right _ extra)
    exact ⟨_, hblock c⟩
  · intro options
    rw [freshCode_eq]
    exact ⟨congrArg Bodies.setup emitBodies_result, congrArg Bodies.loop emitBodies_result⟩

end MbedBlocks.Proofs
