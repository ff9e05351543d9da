/-!
# Value types

The types that value blocks produce, with their spelling in declarations and in type selectors.
-/

namespace MbedBlocks

inductive ValueType where
  | boolean
  | shortNumber
  | number
  | largeNumber
  | decimal
  | text
  | character
  | array
  | null
deriving DecidableEq, Repr

namespace ValueType

def all : List ValueType :=
  [boolean, shortNumber, number, largeNumber, decimal, text, character, array, null]

/-- The name a document gives the type. -/
def name : ValueType → String
  | boolean => "Boolean"
  | shortNumber => "ShortNumber"
  | number => "Number"
  | largeNumber => "LargeNumber"
  | decimal => "Decimal"
  | text => "Text"
  | character => "Character"
  | array => "Array"
  | null => "Null"

def ofName? (s : String) : Option ValueType := all.find? fun t => t.name == s

/-- The C++ type in declarations. -/
def spelling : ValueType → String
  | boolean => "bool"
  | shortNumber => "short"
  | number => "int"
  | largeNumber => "long"
  | decimal => "float"
  | text => "std::string"
  | character => "char"
  | array => "int[]"
  | null => "void"

/-- The value a type selector stores for the type. -/
def selector : ValueType → String
  | boolean => "BOOLEAN"
  | shortNumber => "SHORT_NUMBER"
  | number => "NUMBER"
  | largeNumber => "LARGE_NUMBER"
  | decimal => "DECIMAL"
  | text => "TEXT"
  | character => "CHARACTER"
  | array => "ARRAY"
  | null => "NULL"

def ofSelector? (s : String) : Option ValueType := all.find? fun t => t.selector == s

end ValueType

end MbedBlocks
