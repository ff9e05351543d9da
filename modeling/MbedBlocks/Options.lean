import MbedBlocks.Json.Basic

/-!
# Compiler options

Every option has a default, so an empty document is a complete set of options.
-/

namespace MbedBlocks

/-- What happens when a pin is reserved for two roles that exclude each other: `strict` warns on the
later block, `permissive` says nothing. -/
inductive ReservationPolicy where
  | strict
  | permissive
deriving DecidableEq, Repr

namespace ReservationPolicy

def name : ReservationPolicy → String
  | strict => "strict"
  | permissive => "permissive"

def all : List ReservationPolicy := [strict, permissive]

def ofName? (s : String) : Option ReservationPolicy := all.find? fun p => p.name == s

end ReservationPolicy

/-- Id of the board that is used when no other is chosen. -/
def defaultBoard : String := "nucleo_f103rb"

structure Options where
  board : String := defaultBoard
  /-- One level of indentation. -/
  indent : String := "  "
  policy : ReservationPolicy := .strict
  /-- Whether setup and loop stand inside `main`. -/
  emitMain : Bool := true
  /-- Whether the program opens with a banner. -/
  header : Bool := true
deriving DecidableEq, Repr

namespace Options

open Json

def ofJson? (j : Json) : Option Options := do
  let member ← j.record? ["board", "indent", "reservation_policy", "emit_main", "header"]
  let board ← orElse? text? defaultBoard (member "board")
  let indent ← orElse? text? "  " (member "indent")
  let policy ← orElse? (variant? ReservationPolicy.ofName?) .strict (member "reservation_policy")
  let emitMain ← orElse? bool? true (member "emit_main")
  let header ← orElse? bool? true (member "header")
  return { board, indent, policy, emitMain, header }

def toJson (o : Options) : Json :=
  .obj
    [("board", .str o.board),
     ("indent", .str o.indent),
     ("reservation_policy", .str o.policy.name),
     ("emit_main", .bool o.emitMain),
     ("header", .bool o.header)]

end Options

end MbedBlocks
