import CombatContent.Decimal.Shortest
import CombatContent.Text.Quoted

/-!
# Typing faults

A value is refused because it is of the wrong kind, because a member is missing, because a member
is given twice, or because a list has too many or too few elements. `message` words each of them.
-/

namespace CombatContent.Typing

/-- The kind of value that was found, with the value of a scalar. -/
inductive Found where
  | null
  | boolean (value : Bool)
  | integer (value : Int)
  | float (value : Float)
  | text (value : String)
  | sequence
  | map

/-- The kind of value that was wanted. -/
inductive Wanted where
  | boolean
  | number
  | text
  | path
  | sequence
  | parts
  | record (name : String)

/-- Why a value could not be typed. -/
inductive Fault where
  | wrongKind (found : Found) (wanted : Wanted)
  | missingMember (name : String)
  | repeatedMember (name : String)
  | tooManyElements (count : Nat)
  | tooFewElements (count : Nat) (record : String) (fields : Nat)

/-- What a message says was found. -/
def Found.describe : Found → String
  | .null => "null"
  | .boolean value => "boolean `" ++ (if value then "true" else "false") ++ "`"
  | .integer value => "integer `" ++ toString value ++ "`"
  | .float value => "floating point `" ++ Decimal.quotedText value ++ "`"
  | .text value => "string " ++ Text.quoted value
  | .sequence => "sequence"
  | .map => "map"

/-- What a message says was wanted. -/
def Wanted.describe : Wanted → String
  | .boolean => "a boolean"
  | .number => "f64"
  | .text => "a string"
  | .path => "path string"
  | .sequence => "a sequence"
  | .parts => "a map of part names to parts"
  | .record name => "struct " ++ name

/-- The wording of a fault. -/
def Fault.message : Fault → String
  | .wrongKind found wanted =>
    "invalid type: " ++ found.describe ++ ", expected " ++ wanted.describe
  | .missingMember name => "missing field `" ++ name ++ "`"
  | .repeatedMember name => "duplicate field `" ++ name ++ "`"
  | .tooManyElements count =>
    "invalid length " ++ toString count ++ ", expected fewer elements in array"
  | .tooFewElements count record fields =>
    "invalid length " ++ toString count ++ ", expected struct " ++ record ++ " with " ++
      toString fields ++ " elements"

end CombatContent.Typing
