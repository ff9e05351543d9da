import MbedBlocks.Decimal.Layout
import MbedBlocks.Json.Basic

/-!
# Writing JSON

Documents are written over several lines, two blanks deeper for each level.
-/

namespace MbedBlocks.Json

def hexDigits (n : Nat) : List Char :=
  let digits := Nat.toDigits 16 n
  List.replicate (4 - digits.length) '0' ++ digits

/-- The spelling of a character between quotes: only quotes, backslashes and control characters are
escaped. -/
def quotedChar (c : Char) : List Char :=
  if c = '"' then ['\\', '"']
  else if c = '\\' then ['\\', '\\']
  else if c.toNat = 0x08 then ['\\', 'b']
  else if c.toNat = 0x0C then ['\\', 'f']
  else if c = '\n' then ['\\', 'n']
  else if c = '\r' then ['\\', 'r']
  else if c = '\t' then ['\\', 't']
  else if c.toNat < 0x20 then '\\' :: 'u' :: hexDigits c.toNat
  else [c]

def quote (s : String) : String := String.ofList ('"' :: (s.toList.flatMap quotedChar ++ ['"']))

def margin (depth : Nat) : String := String.ofList (List.replicate (2 * depth) ' ')

/-- Lines of a container between its brackets, or the bare brackets when there are none. -/
def bracket (opening closing : String) (depth : Nat) (lines : List String) : String :=
  if lines.isEmpty then opening ++ closing
  else
    opening ++ "\n" ++ ",\n".intercalate (lines.map (margin (depth + 1) ++ ·)) ++ "\n" ++
      margin depth ++ closing

mutual

def render (depth : Nat) : Json → String
  | null => "null"
  | bool true => "true"
  | bool false => "false"
  | int n => Decimal.signed (n < 0) (Nat.toDigits 10 n.natAbs)
  | num x => Decimal.json x
  | str s => quote s
  | garbled => "null"
  | arr items => bracket "[" "]" depth (renderItems (depth + 1) items)
  | obj members => bracket "\x7b" "\x7d" depth (renderMembers (depth + 1) members)

def renderItems (depth : Nat) : List Json → List String
  | [] => []
  | j :: rest => render depth j :: renderItems depth rest

def renderMembers (depth : Nat) : List (String × Json) → List String
  | [] => []
  | (key, j) :: rest => (quote key ++ ": " ++ render depth j) :: renderMembers depth rest

end

/-- The document as text. -/
def pretty (j : Json) : String := render 0 j

end MbedBlocks.Json
