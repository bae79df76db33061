/-
# RecordStore.Json.Fault — what can be wrong with structured data.

A text may fail to be JSON, or be JSON of another structure than was asked for.  The first kind
has no detail; `detail` words the others, and names what stands where something else was due.
-/
import RecordStore.Json.Basic
import RecordStore.Text.Quoted

namespace RecordStore.Json

/-- What stands in the place of something else. -/
inductive Found where
  | null
  | bool (b : Bool)
  | number (n : Json.Number)
  | text (s : String)
  | sequence
  | map
deriving DecidableEq

/-- What was asked for. -/
inductive Expected where
  | text
  | sequence
  | map
  | unit
  | structured (name : String)
deriving DecidableEq

/-- A problem of structured data. -/
inductive Fault where
  | unreadable
  | wrongType (found : Found) (expected : Expected)
  | missingField (name : String)
  | duplicateField (name : String)
  | unknownVariant (name : String) (variants : List String)
  | wrongLength (length : Nat) (name : String) (fields : Nat)
deriving DecidableEq

/-- What stands in the place of something else, in words. -/
def Found.description : Found → String
  | .null => "null"
  | .bool b => "boolean `" ++ (if b then "true" else "false") ++ "`"
  | .number (.integer n h) => "integer `" ++ (Json.Number.integer n h).text ++ "`"
  | .number (.float x h) => "floating point `" ++ (Json.Number.float x h).text ++ "`"
  | .text s => "string " ++ Text.quote s
  | .sequence => "sequence"
  | .map => "map"

/-- What was asked for, in words. -/
def Expected.description : Expected → String
  | .text => "a string"
  | .sequence => "a sequence"
  | .map => "a map"
  | .unit => "unit"
  | .structured name => "struct " ++ name

/-- The wording of a problem. -/
def Fault.detail : Fault → String
  | .unreadable => "<syntax>"
  | .wrongType found expected =>
    "invalid type: " ++ found.description ++ ", expected " ++ expected.description
  | .missingField name => "missing field `" ++ name ++ "`"
  | .duplicateField name => "duplicate field `" ++ name ++ "`"
  | .unknownVariant name variants =>
    "unknown variant `" ++ name ++ "`, expected one of " ++
      String.intercalate ", " (variants.map fun v => "`" ++ v ++ "`")
  | .wrongLength length name fields =>
    "invalid length " ++ Number.Decimal.text length ++ ", expected struct " ++ name ++ " with " ++
      Number.Decimal.text fields ++ " elements"

end RecordStore.Json
