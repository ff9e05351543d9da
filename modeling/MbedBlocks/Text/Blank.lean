/-!
# Blank characters

White space as text fields may hold it, well beyond the ASCII blanks, and the cutting of it from
the ends of a text.
-/

namespace MbedBlocks.Text

/-- White space of every script: the ASCII blanks, the next-line mark and the Unicode spaces and
separators. -/
def isBlank (c : Char) : Bool :=
  let n := c.toNat
  (9 ≤ n && n ≤ 13) || n == 0x20 || n == 0x85 || n == 0xA0 || n == 0x1680 ||
    (0x2000 ≤ n && n ≤ 0x200A) || n == 0x2028 || n == 0x2029 || n == 0x202F || n == 0x205F ||
    n == 0x3000

def dropBlank (cs : List Char) : List Char := cs.dropWhile isBlank

def dropBlankEnd (cs : List Char) : List Char := (cs.reverse.dropWhile isBlank).reverse

/-- The text without the blanks at its two ends. -/
def trim (s : String) : String := String.ofList (dropBlankEnd (dropBlank s.toList))

/-- The text without the blanks at its end. -/
def trimEnd (s : String) : String := String.ofList (dropBlankEnd s.toList)

end MbedBlocks.Text
