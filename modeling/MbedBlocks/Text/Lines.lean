import MbedBlocks.Text.Blank

/-!
# Lines and lists in a text

A line keeps the line feed that ends it, so the lines of a text concatenate to the text. The parts
of a list lose the separators between them.
-/

namespace MbedBlocks.Text

/-- The lines of a text, each with the line feed that ends it. -/
def lines : List Char → List (List Char)
  | [] => []
  | c :: rest =>
    if c = '\n' then [c] :: lines rest
    else
      match lines rest with
      | [] => [[c]]
      | line :: more => (c :: line) :: more

/-- Puts `margin` before every line that holds more than blanks. -/
def indentLine (margin line : List Char) : List Char :=
  if line.all isBlank then line else margin ++ line

/-- The text with `margin` before every line that is not blank. -/
def indentLines (code margin : String) : String :=
  String.ofList ((lines code.toList).flatMap (indentLine margin.toList))

/-- The parts of a text between the separators. -/
def splitOn (separator : Char) : List Char → List (List Char)
  | [] => [[]]
  | c :: rest =>
    if c = separator then [] :: splitOn separator rest
    else
      match splitOn separator rest with
      | [] => [[c]]
      | part :: more => (c :: part) :: more

end MbedBlocks.Text
