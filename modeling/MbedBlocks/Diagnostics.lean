import MbedBlocks.Board.Resource

/-!
# Errors and warnings

Few conditions stop a compilation. All others are warnings: notes on one block under a tag, so that
an editor can take them away once their cause is gone.
-/

namespace MbedBlocks

open Board (Mapper)

/-- Why an operation failed, or what a warning is about. -/
inductive Error where
  | boardNotFound (id : String)
  | unknownResource (resource : String) (mapper : Mapper)
  | resourceConflict (pin existing existingBlock requested : String)
  | structuralMismatch (text : String)
  | malformedDocument
deriving DecidableEq, Repr

def Error.message : Error → String
  | boardNotFound id => "Board profile not found: " ++ id
  | unknownResource resource mapper =>
    "Unknown resource: " ++ resource ++ " is not present in the " ++ mapper.text ++ " mapper"
  | resourceConflict pin existing existingBlock requested =>
    "Pin " ++ pin ++ " is already reserved as " ++ existing ++ " by block " ++ existingBlock ++
      "; cannot reserve it as " ++ requested
  | structuralMismatch text => text
  | malformedDocument => "JSON error"

/-- A note on one block under a tag. -/
structure Warning where
  blockId : String
  tag : String
  message : String
deriving DecidableEq, Repr

def Warning.ofError (blockId tag : String) (error : Error) : Warning :=
  { blockId, tag, message := error.message }

/-- A warning that was taken away from a block. -/
structure ClearedWarning where
  blockId : String
  tag : String
deriving DecidableEq, Repr

namespace Tag

/-- A dropdown value that the board does not offer. -/
def staleOption : String := "bPin"

/-- A pin, unit or bus that the board does not have. -/
def unknownResource : String := "unknown_resource"

/-- Two reservations of one pin that exclude each other. -/
def pinConflict : String := "pin_conflict"

/-- A block kind that is not in the catalogue. -/
def unknownBlock : String := "unknown_block"

/-- A statement block in a value socket. -/
def statementInValue : String := "statement_in_value_socket"

/-- A tone frequency out of range. -/
def tone : String := "io_tone"

/-- The tags of compilation. A block keeps one only while the latest compilation reports it. -/
def generation : List String := [unknownResource, pinConflict, unknownBlock, statementInValue]

end Tag

end MbedBlocks
