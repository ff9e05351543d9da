import MbedBlocks.Emit.Script

/-!
# Formatted output

Calls with a format string and further arguments, shared by printing to a serial line and to a file.
-/

namespace MbedBlocks

/-- The format expression of a printing call and what follows it. -/
structure PrintArguments where
  content : String
  extra : Option String
deriving DecidableEq, Repr

namespace PrintArguments

/-- Reads the sockets; the checkbox adds a line feed to the format. -/
def read (b : Block) : Script PrintArguments := do
  let content ← Script.argumentOr "CONTENT" "0"
  let content := if b.isChecked "NEW_LINE" then Code.appendNewline content else content
  let extra ← Script.value "CONTENT_STR" .argument
  return { content, extra }

/-- The call with `leading` arguments before the format. -/
def call (p : PrintArguments) (callee : String) (leading : List String) : String :=
  callee ++ "(" ++ ",".intercalate (leading ++ p.content :: p.extra.toList) ++ ");\n"

end PrintArguments

end MbedBlocks
