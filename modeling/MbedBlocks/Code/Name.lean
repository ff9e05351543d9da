/-!
# Names and functions

Identifiers made from block ids, and the definitions of free functions.
-/

namespace MbedBlocks.Code

/-- Letters and digits stand for themselves, any other character for its code point between
underscores. -/
def identifierChar (c : Char) : List Char :=
  if c.isAlphanum then [c] else '_' :: (Nat.toDigits 16 c.toNat ++ ['_'])

/-- A block id spelled with identifier characters, to follow a name. Different ids have different
spellings. -/
def identifierSuffix (id : String) : String := String.ofList (id.toList.flatMap identifierChar)

/-- Statements between braces; the body is indented already and ends in a line feed. -/
def braces (body : String) : String := "\x7b\n" ++ body ++ "\x7d"

/-- The definition of a free function. -/
def functionText (returns name : String) (params : List String) (body : String) : String :=
  returns ++ " " ++ name ++ "(" ++ ", ".intercalate params ++ ") " ++ braces body

end MbedBlocks.Code
