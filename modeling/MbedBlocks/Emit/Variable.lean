import MbedBlocks.Emit.Script
import MbedBlocks.Graph
import MbedBlocks.Kind.Basic
import MbedBlocks.Kind.Catalogue

/-!
# Emission of variable blocks

Declarations are registered and leave nothing in place. A cast goes through the standard library
where text is concerned and is a C cast everywhere else.
-/

namespace MbedBlocks

open Code (Level Fragment)

namespace VariableKind

def defaultName : String := "item"

/-- The type that a type selector shows, a number if it shows none. -/
def fieldType (b : Block) : ValueType :=
  (ValueType.ofSelector? (b.text "VARIABLE_SETTYPE_TYPE")).getD .number

/-- The type of the first declaration of a variable. -/
def declaredType? (g : Graph) (name : String) : Option ValueType :=
  (g.blocks.find? fun b =>
    b.kind == "variables_declare" && b.textOr "VARNAME" defaultName == name).map fieldType

/-- The type of what a value block yields. -/
def sourceType? (g : Graph) (b : Block) : Option ValueType :=
  match b.kind with
  | "variables_get" => declaredType? g (b.textOr "VAR" defaultName)
  | "variables_set_type" => some (fieldType b)
  | _ => b.resultType?

/-- The header that a type needs. -/
def includeFor (type : ValueType) : Script Unit :=
  if type = .text then Script.addInclude "string" "#include <string>" else pure ()

def emitDeclare (b : Block) : Script Fragment := do
  let name := b.textOr "VARNAME" defaultName
  let type := fieldType b
  includeFor type
  let initial ← Script.value "VALUE" .assignment
  let text :=
    match initial with
    | some code => type.spelling ++ " " ++ name ++ " = " ++ code ++ ";"
    | none => type.spelling ++ " " ++ name ++ ";"
  Script.declare ("var_" ++ name) text
  Script.statement ""

def emitDeclareArray (b : Block) : Script Fragment := do
  let name := b.textOr "VARNAME" defaultName
  let type := fieldType b
  includeFor type
  Script.declare ("var_" ++ name)
    (type.spelling ++ " " ++ name ++ "[" ++ b.textOr "LEN" "10" ++ "];")
  Script.statement ""

/-- What a cast is applied to: code, its level and its type as far as it is known. -/
structure Source where
  code : String
  level : Level
  type : Option ValueType
deriving DecidableEq, Repr

/-- The block in the input socket, or else the variable that the field names. -/
def castSource (g : Graph) (b : Block) : Script Source :=
  match (b.values.get? "VARIABLE_SETTYPE_INPUT").bind g.get? with
  | some child => do
    let code ← Script.value "VARIABLE_SETTYPE_INPUT" .argument
    match code with
    | some code => return { code, level := .argument, type := sourceType? g child }
    | none => return { code := "0", level := .atomic, type := none }
  | none =>
    let name := b.textOr "VARNAME" defaultName
    pure { code := name, level := .atomic, type := declaredType? g name }

/-- The conversion from one type to another, as a call or a C cast. -/
def convert (source : Option ValueType) (target : ValueType) (code : String) : Fragment :=
  let call (function : String) : Fragment := .value (function ++ "(" ++ code ++ ")") .unaryPostfix
  match source, target with
  | _, .text => call "std::to_string"
  | some .text, .shortNumber => call "std::stoi"
  | some .text, .number => call "std::stoi"
  | some .text, .largeNumber => call "std::stol"
  | some .text, .decimal => call "std::stof"
  | _, _ => .value ("(" ++ target.spelling ++ ")(" ++ code ++ ")") .unaryPrefix

def emitCast (g : Graph) (b : Block) : Script Fragment := do
  let target := fieldType b
  let source ← castSource g b
  if source.type = some target then Script.expression source.code source.level
  else pure (convert source.type target source.code)

def emitSet (b : Block) : Script Fragment := do
  let assigned ← Script.valueOr "VALUE" .assignment "0"
  Script.statement (b.textOr "VAR" defaultName ++ " = " ++ assigned ++ ";\n")

def emit (g : Graph) (b : Block) : VariableKind → Script Fragment
  | declare => emitDeclare b
  | declareArray => emitDeclareArray b
  | get => Script.expression (b.textOr "VAR" defaultName) .atomic
  | set => emitSet b
  | cast => emitCast g b

end VariableKind

end MbedBlocks
