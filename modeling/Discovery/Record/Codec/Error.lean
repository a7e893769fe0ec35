import Discovery.Decimal.Shortest
import Discovery.Json.Basic
import Discovery.Text.Quoted
/-!
Why a JSON value is not the record that it should be.

* `Shape`: the records that can be read, with their names and sizes;
* `Wanted`: what can be wanted of a value;
* `DecodeError`: the fault, and `DecodeError.message`, its text.
-/

namespace Discovery

/-- The records that can be read. -/
inductive Shape
  | namespaceRecord
  | port
  | endpoint
  deriving DecidableEq, Repr

namespace Shape

/-- The name of a record. -/
def label : Shape → String
  | namespaceRecord => "struct Namespace"
  | port => "struct Port"
  | endpoint => "struct Endpoint"

/-- The number of fields of a record. -/
def size : Shape → Nat
  | namespaceRecord => 3
  | port => 4
  | endpoint => 12

end Shape

/-- What is wanted of a value. -/
inductive Wanted
  | string
  | boolean
  | unsigned16
  | signed64
  | map
  | variant
  | unit
  | record (shape : Shape)
  deriving DecidableEq, Repr

/-- What is wanted, in words. -/
def Wanted.label : Wanted → String
  | string => "a string"
  | boolean => "a boolean"
  | unsigned16 => "u16"
  | signed64 => "i64"
  | map => "a map"
  | variant => "string or map"
  | unit => "unit"
  | record shape => shape.label

/-- A value, in words. -/
def Json.describe : Json → String
  | null => "null"
  | bool b => "boolean `" ++ (if b then "true" else "false") ++ "`"
  | int n => "integer `" ++ toString n ++ "`"
  | real x => "floating point `" ++ Decimal.render x ++ "`"
  | str s => "string " ++ Text.quoted s
  | arr _ => "sequence"
  | obj _ => "map"

/-- Why a value is not what was wanted. -/
inductive DecodeError
  | wrongType (found : Json) (wanted : Wanted)
  | outOfRange (found : Int) (wanted : Wanted)
  | notOneMember
  | unknownServiceType (name : String)
  | missingField (name : String)
  | tooShort (length : Nat) (shape : Shape)
  | tooLong (length : Nat)

/-- The text of an error. -/
def DecodeError.message : DecodeError → String
  | wrongType found wanted =>
      "invalid type: " ++ found.describe ++ ", expected " ++ wanted.label
  | outOfRange found wanted =>
      "invalid value: integer `" ++ toString found ++ "`, expected " ++ wanted.label
  | notOneMember => "invalid value: map, expected map with a single key"
  | unknownServiceType name =>
      "unknown variant `" ++ name ++ "`, expected `ClusterSetIp` or `Headless`"
  | missingField name => "missing field `" ++ name ++ "`"
  | tooShort length shape =>
      "invalid length " ++ toString length ++ ", expected " ++ shape.label ++
        " with " ++ toString shape.size ++ " elements"
  | tooLong length =>
      "invalid length " ++ toString length ++ ", expected fewer elements in array"

end Discovery
