import MbedBlocks.Block
import MbedBlocks.Board.Profile
import MbedBlocks.Code.Literal
import MbedBlocks.Code.Name
import MbedBlocks.Emit.Effect

/-!
# Scripts

What blocks of a kind do when they are emitted is written as a script: requests to the generator, one
after the other, and the code of the block at the end. A script learns nothing of the generator but
the answers to its requests.
-/

namespace MbedBlocks

open Board (BusPins Mapper)
open Code (Level Fragment)

/-- What a script may ask of the generator, always for the block that it emits. -/
inductive Request where
  | register (r : Registration)
  /-- Make the registrations unless a function has the name already. -/
  | provide (function : String) (registrations : List Registration)
  | reserve (pin : String) (role : PinRole) (purpose : String)
  /-- The unit of a pin. -/
  | unit (pin : String) (mapper : Mapper)
  /-- The pins of an SPI bus. -/
  | bus (name choice : String)
  /-- The expression in a value socket as it stands in a slot; nothing if the socket is empty. -/
  | value (socket : String) (slot : Level)
  /-- The indented lines of the chain in a statement socket. -/
  | body (socket : String)
deriving DecidableEq, Repr

/-- What a request is answered with. -/
abbrev Request.Answer : Request → Type
  | register _ => Unit
  | provide _ _ => Unit
  | reserve _ _ _ => Unit
  | unit _ _ => String
  | bus _ _ => BusPins
  | value _ _ => Option String
  | body _ => String

inductive Script (α : Type) where
  | done (a : α)
  | ask (r : Request) (next : r.Answer → Script α)

namespace Script

variable {α β : Type}

def bind : Script α → (α → Script β) → Script β
  | done a, f => f a
  | ask r next, f => ask r fun answer => (next answer).bind f

instance : Monad Script where
  pure := done
  bind := bind

theorem bind_done (x : Script α) : x.bind done = x := by
  induction x with
  | done a => rfl
  | ask r next ih => simp only [bind, ih]

theorem bind_assoc {γ : Type} (x : Script α) (f : α → Script β) (g : β → Script γ) :
    (x.bind f).bind g = x.bind fun a => (f a).bind g := by
  induction x with
  | done a => rfl
  | ask r next ih => simp only [bind, ih]

instance : LawfulMonad Script :=
  LawfulMonad.mk' Script bind_done (fun _ _ => rfl) bind_assoc

/-- Answers the requests of a script one after the other. -/
def run {m : Type → Type} [Monad m] (answer : (r : Request) → m r.Answer) : Script α → m α
  | done a => pure a
  | ask r next => do
    let a ← answer r
    (next a).run answer

def request (r : Request) : Script r.Answer := ask r done

section Run

variable {m : Type → Type} [Monad m]

variable [LawfulMonad m]

theorem run_bind (answer : (r : Request) → m r.Answer) (x : Script α) (f : α → Script β) :
    (x >>= f).run answer = x.run answer >>= fun a => (f a).run answer := by
  induction x with
  | done a => exact (pure_bind a fun a => (f a).run answer).symm
  | ask r next ih =>
    change (answer r >>= fun a => (next a >>= f).run answer) = _
    simp only [run, ih, LawfulMonad.bind_assoc]

theorem run_request (answer : (r : Request) → m r.Answer) (r : Request) :
    (request r).run answer = answer r := bind_pure (answer r)

end Run

/-! ### What rules are written with -/

def register (r : Registration) : Script Unit := request (.register r)

def addInclude (key text : String) : Script Unit := register (.header key text)

def addFunction (key text : String) : Script Unit := register (.function key text)

def declare (key text : String) : Script Unit := register (.declaration key text)

def addSetup (key text : String) (runFirst : Bool) : Script Unit :=
  register (.setup key text runFirst)

def provide (function : String) (registrations : List Registration) : Script Unit :=
  request (.provide function registrations)

def reserve (pin : String) (role : PinRole) (purpose : String) : Script Unit :=
  request (.reserve pin role purpose)

def unit (pin : String) (mapper : Mapper) : Script String := request (.unit pin mapper)

def bus (name choice : String) : Script BusPins := request (.bus name choice)

def value (socket : String) (slot : Level) : Script (Option String) := request (.value socket slot)

def valueOr (socket : String) (slot : Level) (fallback : String) : Script String := do
  return (← value socket slot).getD fallback

def argumentOr (socket fallback : String) : Script String := valueOr socket .argument fallback

def body (socket : String) : Script String := request (.body socket)

/-- Makes the chain in a statement socket a function of its own. -/
def callback (name : String) (params : List String) (socket : String) : Script Unit := do
  let code ← body socket
  addFunction name (Code.functionText "void" name params code)

def statement (text : String) : Script Fragment := done (.statement text)

def expression (text : String) (level : Level) : Script Fragment := done (.value text level)

/-- Something that is called or accessed: binds as tightly as a postfix operator. -/
def call (text : String) : Script Fragment := expression text .unaryPostfix

end Script

end MbedBlocks
