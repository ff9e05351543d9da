import MbedBlocks.Emit.Script
import MbedBlocks.Graph

/-!
# The site of a block

Where the script of a block is run: the board, the block itself, and the code of its sockets. A site
answers the requests of a script. It leaves open what performing an effect means; the emission notes
it down.
-/

namespace MbedBlocks

open Board (BusPins Mapper)
open Code (Level)
open MonadEffect (perform)

structure Site (m : Type → Type) where
  board : Board
  block : Block
  /-- The expression in a value socket as it stands in a slot; nothing if the socket is empty. -/
  value : String → Level → m (Option String)
  /-- The indented lines of the chain in a statement socket. -/
  body : String → m String

variable {m : Type → Type} [Monad m] [MonadEffect m]

def Block.warn (b : Block) (tag message : String) : m Unit :=
  perform (.warn { blockId := b.id, tag, message })

namespace Site

def warn (s : Site m) (tag message : String) : m Unit := s.block.warn tag message

def reserve (s : Site m) (pin : String) (role : PinRole) (purpose : String) : m Unit :=
  perform (.reserve pin { blockId := s.block.id, role, purpose })

/-- The unit of a pin. A pin without one is reported, and its own name stands for the unit. -/
def unit (s : Site m) (pin : String) (mapper : Mapper) : m String :=
  match s.board.unit pin mapper with
  | .ok unit => pure unit
  | .error e => do
    s.warn Tag.unknownResource e.message
    return pin

/-- The pins of a bus. A bus that the board does not have is reported, and its pins are not
connected. -/
def bus (s : Site m) (name choice : String) : m BusPins :=
  match s.board.busPins? name (some choice) with
  | some pins => pure pins
  | none => do
    s.warn Tag.unknownResource
      ("SPI bus " ++ name ++ " is not available on board " ++ s.board.id)
    return .unconnected

def answer (s : Site m) : (r : Request) → m r.Answer
  | .register r => perform (.register r)
  | .provide function registrations => perform (.unlessDefined function registrations)
  | .reserve pin role purpose => s.reserve pin role purpose
  | .unit pin mapper => s.unit pin mapper
  | .bus name choice => s.bus name choice
  | .value socket slot => s.value socket slot
  | .body socket => s.body socket

/-- Runs a script for the block of the site. -/
def emit {α : Type} (s : Site m) (script : Script α) : m α := script.run s.answer

@[simp] theorem emit_statement (s : Site m) (text : String) :
    s.emit (.statement text) = pure (.statement text) := rfl

section Lawful

variable [LawfulMonad m] {α β : Type}

@[simp] theorem emit_bind (s : Site m) (x : Script α) (f : α → Script β) :
    s.emit (x >>= f) = s.emit x >>= fun a => s.emit (f a) := Script.run_bind s.answer x f

@[simp] theorem emit_value (s : Site m) (socket : String) (slot : Level) :
    s.emit (.value socket slot) = s.value socket slot :=
  Script.run_request s.answer (.value socket slot)

@[simp] theorem emit_valueOr (s : Site m) (socket : String) (slot : Level) (fallback : String) :
    s.emit (.valueOr socket slot fallback) =
      (do return (← s.value socket slot).getD fallback) := by
  rw [Script.valueOr, emit_bind, emit_value]
  rfl

end Lawful

def valueOr (s : Site m) (socket : String) (slot : Level) (fallback : String) : m String :=
  s.emit (.valueOr socket slot fallback)

def callback (s : Site m) (name : String) (params : List String) (socket : String) : m Unit :=
  s.emit (.callback name params socket)

end Site

end MbedBlocks
