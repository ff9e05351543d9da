import MbedBlocks.Code.Level
import MbedBlocks.Pin.Reservation
import MbedBlocks.Program.Sections

/-!
# Emission and its effects

Emitting a block yields its code and a list of effects: parts to register, pins to reserve, warnings
to record. The code never depends on what has been registered or reserved before; the effects are
worked into a context afterwards, in their order.
-/

namespace MbedBlocks

/-- What a block turns into: an expression with the level of its outermost operator, or statement
lines that each end in a line feed. -/
inductive Code.Fragment where
  | value (text : String) (level : Code.Level)
  | statement (text : String)
deriving DecidableEq, Repr

inductive Effect where
  | register (r : Registration)
  /-- Registrations that are made unless a function has the name already. -/
  | unlessDefined (function : String) (registrations : List Registration)
  | reserve (pin : String) (request : Reservation)
  | warn (w : Warning)
deriving DecidableEq, Repr

/-- A result together with the effects that come with it. -/
structure Emit (α : Type) where
  result : α
  effects : List Effect
deriving DecidableEq, Repr

namespace Emit

variable {α β : Type}

instance : Monad Emit where
  pure a := ⟨a, []⟩
  bind m f := ⟨(f m.result).result, m.effects ++ (f m.result).effects⟩

instance : LawfulMonad Emit :=
  LawfulMonad.mk' Emit
    (fun _ => by simp [Functor.map])
    (fun _ _ => rfl)
    (fun _ _ _ => by simp [bind])

@[simp] theorem result_pure (a : α) : (pure a : Emit α).result = a := rfl

@[simp] theorem effects_pure (a : α) : (pure a : Emit α).effects = [] := rfl

@[simp] theorem result_bind (m : Emit α) (f : α → Emit β) :
    (m >>= f).result = (f m.result).result := rfl

@[simp] theorem effects_bind (m : Emit α) (f : α → Emit β) :
    (m >>= f).effects = m.effects ++ (f m.result).effects := rfl

@[simp] theorem result_map (f : α → β) (m : Emit α) : (f <$> m).result = f m.result := rfl

def perform (e : Effect) : Emit Unit := ⟨(), [e]⟩

end Emit

/-- Computations in which effects can be performed. -/
class MonadEffect (m : Type → Type) where
  perform : Effect → m Unit

instance : MonadEffect Emit := ⟨Emit.perform⟩

@[simp] theorem Emit.effects_perform (e : Effect) :
    (MonadEffect.perform e : Emit Unit).effects = [e] := rfl

/-- What one compilation has collected so far. -/
structure Context where
  registry : Registry := {}
  reservations : Reservations
  warnings : List Warning := []
deriving DecidableEq

namespace Context

def initial (policy : ReservationPolicy) : Context := { reservations := { policy } }

/-- A second warning of the same block and tag takes the place of the first. -/
def record (warnings : List Warning) (w : Warning) : List Warning :=
  if warnings.any fun v => v.blockId == w.blockId && v.tag == w.tag then
    warnings.map fun v => if v.blockId == w.blockId && v.tag == w.tag then w else v
  else warnings ++ [w]

def apply (board : Board) (c : Context) : Effect → Context
  | .register r => { c with registry := c.registry.add r }
  | .unlessDefined function registrations =>
    if (c.registry.functions.get? function).isSome then c
    else { c with registry := c.registry.addAll registrations }
  | .reserve pin request =>
    { c with
      reservations := c.reservations.reserve pin request
      warnings := (c.reservations.warnings board pin request).foldl record c.warnings }
  | .warn w => { c with warnings := record c.warnings w }

def applyAll (board : Board) (c : Context) (effects : List Effect) : Context :=
  effects.foldl (apply board) c

theorem applyAll_append (board : Board) (c : Context) (effects more : List Effect) :
    c.applyAll board (effects ++ more) = (c.applyAll board effects).applyAll board more :=
  List.foldl_append

end Context

end MbedBlocks
