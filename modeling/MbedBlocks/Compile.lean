import MbedBlocks.Board.Nucleo
import MbedBlocks.Emit.Walk
import MbedBlocks.Graph.Document
import MbedBlocks.Program.Basic

/-!
# Compilation

A program is compiled from the blocks that no other block links to. The frame block holds the setup
and loop chains; the chain of any other statement block joins the setup body; a value block that
stands alone is emitted for what it registers.
-/

namespace MbedBlocks

open Code (Level Fragment)

/-- The statements that run once and those that run forever. -/
structure Bodies where
  setup : String := ""
  loop : String := ""
deriving DecidableEq, Repr

def Bodies.append (a b : Bodies) : Bodies :=
  { setup := a.setup ++ b.setup, loop := a.loop ++ b.loop }

namespace Graph

variable {m : Type → Type} [Monad m]

/-- The chain in a socket of the frame block, at the depth of the frame. -/
def frameChain (g : Graph) (child : ChildEmitter m g) (frame : Block) (socket : String) :
    m String :=
  match frame.statements.get? socket with
  | some first => g.chainCode child first
  | none => pure ""

def emitFrame (g : Graph) (child : ChildEmitter m g) (frame : Block) : m Bodies := do
  let setup ← g.frameChain child frame "SETUP_FUNC"
  let loop ← g.frameChain child frame "LOOP_FUNC"
  return { setup, loop }

def emitLoose (g : Graph) (child : ChildEmitter m g) (top : Block) : m Bodies := do
  let setup ← g.chainCode child top.id
  return { setup }

def emitTop (g : Graph) (child : ChildEmitter m g) (top : Block) (h : top ∈ g.blocks) :
    m Bodies :=
  if top.kind = framingName then g.emitFrame child top
  else if top.info?.any fun info => info.shape.isValue then do
    let _ ← child top h
    return {}
  else g.emitLoose child top

/-- The bodies of the whole program. -/
def emitBodies (g : Graph) (child : ChildEmitter m g) : m Bodies := do
  let bodies ← g.topBlocks.attach.mapM fun top => g.emitTop child top.1 (mem_of_mem_topBlocks top.2)
  return bodies.foldl Bodies.append {}

end Graph

/-- A compilation in progress: what is compiled, for which board, and what has been collected. -/
structure Generator where
  graph : Graph
  board : Board
  options : Options
  context : Context
deriving DecidableEq

namespace Generator

def new (graph : Graph) (board : Board) (options : Options) : Generator :=
  { graph, board, options, context := .initial options.policy }

/-- Works the effects of an emission into the context. -/
def run {α : Type} (gen : Generator) (e : Emit α) : α × Generator :=
  (e.result, { gen with context := gen.context.applyAll gen.board e.effects })

def emitter (gen : Generator) : gen.graph.ChildEmitter Emit :=
  gen.graph.emitter gen.board gen.options.indent []

def block (gen : Generator) (b : Block) : Emit (Option Fragment) :=
  gen.graph.emitWithin gen.board gen.options.indent [] b

def chain (gen : Generator) (first : String) : Emit String :=
  gen.graph.chainCode gen.emitter first

/-- The site of a block with no block in progress. -/
def site (gen : Generator) (b : Block) : Site Emit :=
  gen.graph.site gen.board gen.options.indent gen.emitter b

/-- Emits the graph and puts the program together. -/
def program (gen : Generator) : Program :=
  let (bodies, done) := gen.run (gen.graph.emitBodies gen.emitter)
  { name := gen.graph.metadata.name
    sections := done.context.registry.sections
    setupBody := bodies.setup
    loopBody := bodies.loop
    warnings := done.context.warnings
    indent := gen.options.indent
    header := gen.options.header
    emitMain := gen.options.emitMain }

end Generator

/-- Compiles a graph for the board that the options choose. -/
def compile (g : Graph) (options : Options) (boards : Boards) : Except Error Program := do
  let board ← boards.get options.board
  return (Generator.new g board options).program

/-- Compiles a graph document for a built-in board. -/
def compileDocument (text : String) (options : Options) : Except Error Program := do
  let g ← Graph.read text
  compile g options .builtin

/-- The source text of a graph under the default options. -/
def compileSource (g : Graph) : Except Error String := do
  let p ← compile g {} .builtin
  return p.render

end MbedBlocks
