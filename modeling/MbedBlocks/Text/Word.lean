import MbedBlocks.Text.WordRanges

/-!
# Words

A word is a longest run of word characters. Scanning calls take the address of each argument, so
every word of an argument list is marked at its start.
-/

namespace MbedBlocks.Text

/-- ASCII letters, digits and the underscore; beyond ASCII the tabulated ranges. -/
def isWord (c : Char) : Bool :=
  let n := c.toNat
  if n < 0x80 then c.isAlphanum || c == '_'
  else wordRanges.any fun r => r.1 ≤ n && n ≤ r.2

/-- Puts `mark` before each word start; `inWord` tells whether the preceding character is in a
word. -/
def markWords (mark : Char) (inWord : Bool) : List Char → List Char
  | [] => []
  | c :: rest =>
    if isWord c && !inWord then mark :: c :: markWords mark true rest
    else c :: markWords mark (isWord c) rest

/-- Each word of an argument list becomes an address: `a,b` reads `&a,&b`. -/
def addressOfWords (s : String) : String := String.ofList (markWords '&' false s.toList)

end MbedBlocks.Text
