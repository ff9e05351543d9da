import MbedBlocks.Graph
import MbedBlocks.Json.Basic
import MbedBlocks.Json.Reader
import MbedBlocks.Json.Writer

/-!
# Graph documents

Graphs, blocks and warnings as JSON.
-/

namespace MbedBlocks

open Json

/-- A checkbox, a number or a text; a number out of the range of doubles is refused. -/
def FieldValue.ofJson? : Json → Option FieldValue
  | .bool b => some (.checkbox b)
  | .int n => some (.number (Float.ofInt n))
  | .num x => if x.isFinite then some (.number x) else none
  | .str s => some (.text s)
  | _ => none

def FieldValue.toJson : FieldValue → Json
  | checkbox b => .bool b
  | number x => .num x
  | text s => .str s

def Dict.toJson {α : Type} (value : α → Json) (d : Dict α) : Json :=
  .obj (d.entries.map fun e => (e.1, value e.2))

def Block.ofJson? (j : Json) : Option Block := do
  let member ← j.record?
    ["id", "kind", "fields", "values", "statements", "next", "output", "options", "warnings"]
  let id ← required? text? (member "id")
  let kind ← required? text? (member "kind")
  let fields ← orElse? (dictOf? FieldValue.ofJson?) {} (member "fields")
  let values ← orElse? (dictOf? text?) {} (member "values")
  let statements ← orElse? (dictOf? text?) {} (member "statements")
  let next ← orElse? (optional? text?) none (member "next")
  let output ← orElse? (optional? (variant? ValueType.ofName?)) none (member "output")
  let options ← orElse? (dictOf? (listOf? text?)) {} (member "options")
  let warnings ← orElse? (dictOf? text?) {} (member "warnings")
  return { id, kind, fields, values, statements, next, output, options, warnings }

def Block.toJson (b : Block) : Json :=
  .obj
    [("id", .str b.id),
     ("kind", .str b.kind),
     ("fields", b.fields.toJson FieldValue.toJson),
     ("values", b.values.toJson .str),
     ("statements", b.statements.toJson .str),
     ("next", (b.next.map Json.str).getD .null),
     ("output", (b.output.map fun t => Json.str t.name).getD .null),
     ("options", b.options.toJson fun l => .arr (l.map .str)),
     ("warnings", b.warnings.toJson .str)]

def Metadata.ofJson? (j : Json) : Option Metadata := do
  let member ← j.record? ["name", "description"]
  let name ← required? text? (member "name")
  let description ← orElse? text? "" (member "description")
  return { name, description }

def Metadata.toJson (m : Metadata) : Json :=
  .obj [("name", .str m.name), ("description", .str m.description)]

namespace Graph

def ofJson? (j : Json) : Option Graph := do
  let member ← j.record? ["metadata", "blocks"]
  let metadata ← orElse? Metadata.ofJson? {} (member "metadata")
  let blocks ← required? (listOf? Block.ofJson?) (member "blocks")
  return { metadata, blocks }

def toJson (g : Graph) : Json :=
  .obj [("metadata", g.metadata.toJson), ("blocks", .arr (g.blocks.map Block.toJson))]

/-- The graph a document holds. -/
def read (text : String) : Except Error Graph :=
  match (Json.parse? text).bind ofJson? with
  | some g => .ok g
  | none => .error .malformedDocument

/-- The document of a graph. -/
def write (g : Graph) : String := g.toJson.pretty

end Graph

def Warning.ofJson? (j : Json) : Option Warning := do
  let member ← j.record? ["block_id", "tag", "message"]
  let blockId ← required? text? (member "block_id")
  let tag ← required? text? (member "tag")
  let message ← required? text? (member "message")
  return { blockId, tag, message }

end MbedBlocks
