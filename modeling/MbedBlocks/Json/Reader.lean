import MbedBlocks.Json.Number

/-!
# Reading JSON

A strict reader. One pass over the characters cuts the text into tokens, and each token moves a
machine whose stack holds the arrays and objects that are still open. Both are plain recursion over
the text.
-/

namespace MbedBlocks.Json.Reader

inductive Token where
  | openArray
  | closeArray
  | openObject
  | closeObject
  | colon
  | comma
  | scalar (j : Json)

/-- What the characters read last belong to, newest first. -/
inductive Scan where
  | outside
  | text (units : List Nat)
  | escape (units : List Nat)
  | hex (units : List Nat) (missing : Nat) (value : Nat)
  | number (chars : List Char)
  | word (chars : List Char)

def isHighSurrogate (n : Nat) : Bool := 0xD800 ≤ n && n < 0xDC00

def isLowSurrogate (n : Nat) : Bool := 0xDC00 ≤ n && n < 0xE000

/-- Joins surrogate pairs; half a pair is refused. -/
def joinUnits? : List Nat → Option (List Char)
  | [] => some []
  | [n] => if isHighSurrogate n || isLowSurrogate n then none else some [Char.ofNat n]
  | n :: m :: rest =>
    if isHighSurrogate n then
      if isLowSurrogate m then
        (joinUnits? rest).map (Char.ofNat (0x10000 + (n - 0xD800) * 0x400 + (m - 0xDC00)) :: ·)
      else none
    else if isLowSurrogate n then none
    else (joinUnits? (m :: rest)).map (Char.ofNat n :: ·)

def stringToken (units : List Nat) : Token :=
  match joinUnits? units.reverse with
  | some cs => .scalar (.str (String.ofList cs))
  | none => .scalar .garbled

def wordOf? (cs : List Char) : Option Json :=
  if cs = "null".toList then some .null
  else if cs = "true".toList then some (.bool true)
  else if cs = "false".toList then some (.bool false)
  else none

def hexDigit? (c : Char) : Option Nat :=
  if c.isDigit then some (c.toNat - '0'.toNat)
  else if 'a' ≤ c ∧ c ≤ 'f' then some (c.toNat - 'a'.toNat + 10)
  else if 'A' ≤ c ∧ c ≤ 'F' then some (c.toNat - 'A'.toNat + 10)
  else none

def escaped? : Char → Option Nat
  | '"' => some 0x22
  | '\\' => some 0x5C
  | '/' => some 0x2F
  | 'b' => some 0x08
  | 'f' => some 0x0C
  | 'n' => some 0x0A
  | 'r' => some 0x0D
  | 't' => some 0x09
  | _ => none

def isNumberChar (c : Char) : Bool :=
  c.isDigit || c == '-' || c == '+' || c == '.' || c == 'e' || c == 'E'

namespace Scan

def start? (c : Char) : Option (List Token × Scan) :=
  match c with
  | ' ' => some ([], outside)
  | '\t' => some ([], outside)
  | '\n' => some ([], outside)
  | '\r' => some ([], outside)
  | '[' => some ([.openArray], outside)
  | ']' => some ([.closeArray], outside)
  | '\x7b' => some ([.openObject], outside)
  | '\x7d' => some ([.closeObject], outside)
  | ':' => some ([.colon], outside)
  | ',' => some ([.comma], outside)
  | '"' => some ([], text [])
  | c =>
    if c == '-' || c.isDigit then some ([], number [c])
    else if c.isAlpha then some ([], word [c])
    else none

/-- The token that ends here, for what has no closing mark of its own. -/
def finish? : Scan → Option (List Token)
  | outside => some []
  | number cs => (Number.read? cs.reverse).map fun n => [.scalar n.toJson]
  | word cs => (wordOf? cs.reverse).map fun j => [.scalar j]
  | _ => none

/-- Reads one character: the tokens it completes and what it leaves open. -/
def step? (s : Scan) (c : Char) : Option (List Token × Scan) :=
  match s with
  | outside => start? c
  | text units =>
    if c = '"' then some ([stringToken units], outside)
    else if c = '\\' then some ([], escape units)
    else if c.toNat < 0x20 then none
    else some ([], text (c.toNat :: units))
  | escape units =>
    if c = 'u' then some ([], hex units 3 0)
    else (escaped? c).map fun n => ([], text (n :: units))
  | hex units missing value =>
    (hexDigit? c).map fun d =>
      match missing with
      | 0 => ([], text ((16 * value + d) :: units))
      | more + 1 => ([], hex units more (16 * value + d))
  | number cs =>
    if isNumberChar c then some ([], number (c :: cs))
    else do
      let ended ← finish? s
      let (tokens, next) ← start? c
      return (ended ++ tokens, next)
  | word cs =>
    if c.isAlpha then some ([], word (c :: cs))
    else do
      let ended ← finish? s
      let (tokens, next) ← start? c
      return (ended ++ tokens, next)

end Scan

/-- An array or object that is still open, newest part first. An object with a garbled key is not
sound. -/
inductive Frame where
  | array (items : List Json)
  | object (members : List (String × Json)) (key : String) (sound : Bool)

/-- What the next token may be. -/
inductive Expect where
  | value
  | valueOrClose
  | key
  | keyOrClose
  | colon
  | commaOrClose
  | nothing

structure Machine where
  stack : List Frame
  expect : Expect
  result : Json

namespace Machine

def initial : Machine := ⟨[], .value, .null⟩

/-- Hands a complete value to the innermost open array or object. -/
def complete (stack : List Frame) (j : Json) : Machine :=
  match stack with
  | [] => ⟨[], .nothing, j⟩
  | .array items :: rest => ⟨.array (j :: items) :: rest, .commaOrClose, .null⟩
  | .object members key sound :: rest =>
    ⟨.object ((key, j) :: members) key sound :: rest, .commaOrClose, .null⟩

def closeArray? : List Frame → Option Machine
  | .array items :: rest => some (complete rest (.arr items.reverse))
  | _ => none

def closeObject? : List Frame → Option Machine
  | .object members _ sound :: rest =>
    some (complete rest (if sound then .obj members.reverse else .garbled))
  | _ => none

def value? (stack : List Frame) : Token → Option Machine
  | .openArray => some ⟨.array [] :: stack, .valueOrClose, .null⟩
  | .openObject => some ⟨.object [] "" true :: stack, .keyOrClose, .null⟩
  | .scalar j => some (complete stack j)
  | _ => none

def key? : List Frame → Token → Option Machine
  | .object members _ sound :: rest, .scalar (.str s) =>
    some ⟨.object members s sound :: rest, .colon, .null⟩
  | .object members _ _ :: rest, .scalar .garbled =>
    some ⟨.object members "" false :: rest, .colon, .null⟩
  | _, _ => none

def comma? (stack : List Frame) : Option Machine :=
  match stack with
  | .array _ :: _ => some ⟨stack, .value, .null⟩
  | .object _ _ _ :: _ => some ⟨stack, .key, .null⟩
  | [] => none

def step? (m : Machine) (t : Token) : Option Machine :=
  match m.expect, t with
  | .valueOrClose, .closeArray => closeArray? m.stack
  | .valueOrClose, t => value? m.stack t
  | .value, t => value? m.stack t
  | .keyOrClose, .closeObject => closeObject? m.stack
  | .keyOrClose, t => key? m.stack t
  | .key, t => key? m.stack t
  | .colon, .colon => some { m with expect := .value }
  | .commaOrClose, .comma => comma? m.stack
  | .commaOrClose, .closeArray => closeArray? m.stack
  | .commaOrClose, .closeObject => closeObject? m.stack
  | _, _ => none

def steps? (m : Machine) (tokens : List Token) : Option Machine := tokens.foldlM step? m

def result? (m : Machine) : Option Json :=
  match m.expect with
  | .nothing => some m.result
  | _ => none

end Machine

def run? (s : Scan) (m : Machine) : List Char → Option Json
  | [] =>
    match s.finish? with
    | none => none
    | some tokens =>
      match m.steps? tokens with
      | none => none
      | some m => m.result?
  | c :: rest =>
    match s.step? c with
    | none => none
    | some (tokens, s) =>
      match m.steps? tokens with
      | none => none
      | some m => run? s m rest

end Reader

/-- The value that a text spells; only blanks may stand around it. -/
def parse? (text : String) : Option Json := Reader.run? .outside .initial text.toList

end MbedBlocks.Json
