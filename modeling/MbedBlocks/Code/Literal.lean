import MbedBlocks.Decimal.Layout
import MbedBlocks.Decimal.Numeral
import MbedBlocks.Text.Blank

/-!
# Literals

String and number literals of the emitted program, and arithmetic done on number literals at
compile time.
-/

namespace MbedBlocks.Code

/-- The spelling of one character inside a string literal. -/
def escapeChar (c : Char) : List Char :=
  if c = '\\' then ['\\', '\\']
  else if c = '"' then ['\\', '"']
  else if c = '\n' then ['\\', 'n']
  else if c = '\t' then ['\\', 't']
  else [c]

/-- The string literal that denotes a text. -/
def stringLiteral (s : String) : String :=
  String.ofList ('"' :: (s.toList.flatMap escapeChar ++ ['"']))

/-- Puts a line feed escape before the closing quote of a format string. Anything that does not end
in a quote stays as it is. -/
def appendNewline (content : String) : String :=
  match content.toList.getLast? with
  | some '"' => String.ofList (content.toList.dropLast ++ ['\\', 'n', '"'])
  | _ => content

/-- The value of an expression that is a plain number literal. -/
def numericLiteral? (code : String) : Option Float :=
  let code := Text.trim code
  match code.toList with
  | [] => none
  | c :: _ =>
    if c.isDigit || c == '-' || c == '.' then (Decimal.readFloat? code).filter Float.isFinite
    else none

/-- `code / divisor`, computed now when `code` is a literal. -/
def divideLiteral (code : String) (divisor : Float) : String :=
  match numericLiteral? code with
  | some x => Decimal.program (x / divisor)
  | none => code ++ " / " ++ Decimal.onePlace divisor

/-- `code * factor`, computed now when `code` is a literal. -/
def multiplyLiteral (code : String) (factor : Float) : String :=
  match numericLiteral? code with
  | some x => Decimal.program (x * factor)
  | none => code ++ " * " ++ Decimal.program factor

end MbedBlocks.Code
