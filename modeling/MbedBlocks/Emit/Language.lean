import MbedBlocks.Emit.Script
import MbedBlocks.Kind.Basic

/-!
# Emission of language blocks

Literals, operators, branches and loops. An empty socket takes a literal of its own.
-/

namespace MbedBlocks

open Code (Level Fragment)

/-- A binary operator that groups to the left. -/
structure Operator where
  symbol : String
  level : Level
deriving DecidableEq, Repr

namespace Operator

def arithmetic : String → Operator
  | "MINUS" => ⟨"-", .additive⟩
  | "MULTIPLY" => ⟨"*", .multiplicative⟩
  | "DIVIDE" => ⟨"/", .multiplicative⟩
  | "MODULO" => ⟨"%", .multiplicative⟩
  | _ => ⟨"+", .additive⟩

def comparison : String → Operator
  | "NEQ" => ⟨"!=", .equality⟩
  | "LT" => ⟨"<", .relational⟩
  | "LTE" => ⟨"<=", .relational⟩
  | "GT" => ⟨">", .relational⟩
  | "GTE" => ⟨">=", .relational⟩
  | _ => ⟨"==", .equality⟩

def logical : String → Operator
  | "OR" => ⟨"||", .logicalOr⟩
  | _ => ⟨"&&", .logicalAnd⟩

def apply (op : Operator) (left right : String) : Script Fragment :=
  Script.expression (left ++ " " ++ op.symbol ++ " " ++ right) op.level

end Operator

namespace LanguageKind

def emitNumber (b : Block) : Script Fragment :=
  let text := b.textOr "NUM" "0"
  Script.expression text (if text.toList.head? = some '-' then .unaryPrefix else .atomic)

/-- Both operands of an operator, with `0` for an empty socket. -/
def emitBinary (op : Operator) : Script Fragment := do
  let left ← Script.valueOr "A" op.level "0"
  let right ← Script.valueOr "B" op.level.tighter "0"
  op.apply left right

def emitArithmetic (b : Block) : Script Fragment :=
  if b.text "OP" = "POWER" then do
    let base ← Script.argumentOr "A" "0"
    let exponent ← Script.argumentOr "B" "0"
    Script.call ("pow(" ++ base ++ ", " ++ exponent ++ ")")
  else emitBinary (.arithmetic (b.text "OP"))

/-- One missing operand is the neutral one; without operands both are false. -/
def emitOperation (b : Block) : Script Fragment := do
  let op := Operator.logical (b.text "OP")
  let left ← Script.value "A" op.level
  let right ← Script.value "B" op.level.tighter
  let neutral := if op.symbol = "&&" then "true" else "false"
  match left, right with
  | none, none => op.apply "false" "false"
  | left, right => op.apply (left.getD neutral) (right.getD neutral)

def emitNegate : Script Fragment := do
  let operand ← Script.valueOr "BOOL" .unaryPrefix "true"
  Script.expression ("!" ++ operand) .unaryPrefix

/-- Socket of the condition or the chain of a branch. -/
def branchSocket (stem : String) (n : Nat) : String := stem ++ String.ofList (Nat.toDigits 10 n)

def hasBranch (b : Block) (n : Nat) : Bool :=
  b.values.contains (branchSocket "IF" n) || b.statements.contains (branchSocket "DO" n)

/-- The numbers of the branches: the first is always there, the others follow one another without a
gap. Each takes a socket, so there are no more than sockets. -/
def branches (b : Block) : List Nat :=
  0 :: (List.range' 1 (b.values.size + b.statements.size)).takeWhile (hasBranch b)

def emitCondition (n : Nat) : Script String := do
  let condition ← Script.valueOr (branchSocket "IF" n) .none "false"
  let body ← Script.body (branchSocket "DO" n)
  return "if (" ++ condition ++ ") " ++ Code.braces body

def emitElse (b : Block) : Script (List String) := do
  if b.statements.contains "ELSE" then
    let body ← Script.body "ELSE"
    return [Code.braces body]
  else
    return []

def emitBranch (b : Block) : Script Fragment := do
  let conditions ← (branches b).mapM emitCondition
  let rest ← emitElse b
  Script.statement (" else ".intercalate (conditions ++ rest) ++ "\n")

def emitRepetition (b : Block) : Script Fragment := do
  let condition ←
    if b.text "MODE" = "UNTIL" then do
      let operand ← Script.valueOr "BOOL" .unaryPrefix "false"
      pure ("!" ++ operand)
    else Script.valueOr "BOOL" .none "false"
  let body ← Script.body "DO"
  Script.statement ("while (" ++ condition ++ ") " ++ Code.braces body ++ "\n")

def emit (b : Block) : LanguageKind → Script Fragment
  | frame => Script.statement ""
  | number => emitNumber b
  | text => Script.expression (Code.stringLiteral (b.text "TEXT")) .atomic
  | boolean => Script.expression (if b.text "BOOL" = "TRUE" then "true" else "false") .atomic
  | arithmetic => emitArithmetic b
  | compare => emitBinary (.comparison (b.text "OP"))
  | operation => emitOperation b
  | negate => emitNegate
  | branch => emitBranch b
  | repetition => emitRepetition b

end LanguageKind

end MbedBlocks
