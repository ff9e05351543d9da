/-!
# Binding levels

How strongly the outermost operator of a C++ expression binds. A slot asks for a least level, and a
looser expression is put in parentheses there.
-/

namespace MbedBlocks.Code

/-- Levels of C++ expressions, loosest first; `none` is a slot that takes anything. -/
inductive Level where
  | none
  | comma
  | assignment
  | conditional
  | logicalOr
  | logicalAnd
  | bitwiseOr
  | bitwiseXor
  | bitwiseAnd
  | equality
  | relational
  | shift
  | additive
  | multiplicative
  | unaryPrefix
  | unaryPostfix
  | member
  | atomic
deriving DecidableEq, Repr

namespace Level

def rank : Level → Nat
  | none => 0
  | comma => 1
  | assignment => 2
  | conditional => 3
  | logicalOr => 4
  | logicalAnd => 5
  | bitwiseOr => 6
  | bitwiseXor => 7
  | bitwiseAnd => 8
  | equality => 9
  | relational => 10
  | shift => 11
  | additive => 12
  | multiplicative => 13
  | unaryPrefix => 14
  | unaryPostfix => 15
  | member => 16
  | atomic => 17

instance : LT Level := ⟨fun a b => a.rank < b.rank⟩

instance : LE Level := ⟨fun a b => a.rank ≤ b.rank⟩

instance (a b : Level) : Decidable (a < b) := inferInstanceAs (Decidable (a.rank < b.rank))

instance (a b : Level) : Decidable (a ≤ b) := inferInstanceAs (Decidable (a.rank ≤ b.rank))

/-- The next tighter level, for the right operand of an operator that groups to the left. -/
def tighter : Level → Level
  | none => comma
  | comma => assignment
  | assignment => conditional
  | conditional => logicalOr
  | logicalOr => logicalAnd
  | logicalAnd => bitwiseOr
  | bitwiseOr => bitwiseXor
  | bitwiseXor => bitwiseAnd
  | bitwiseAnd => equality
  | equality => relational
  | relational => shift
  | shift => additive
  | additive => multiplicative
  | multiplicative => unaryPrefix
  | unaryPrefix => unaryPostfix
  | unaryPostfix => member
  | member => atomic
  | atomic => atomic

/-- Function arguments: anything but a bare comma expression. -/
def argument : Level := assignment

def needsParens (level slot : Level) : Bool := decide (level < slot)

end Level

/-- The expression as it stands in a slot, in parentheses when it binds too loosely for it. -/
def parenthesize (text : String) (level slot : Level) : String :=
  if level.needsParens slot then "(" ++ text ++ ")" else text

end MbedBlocks.Code
