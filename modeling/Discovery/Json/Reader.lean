import Discovery.Json.Token
/-!
Reading JSON text: the tokens drive a stack of containers that are still open.

* `Json.Partial`: how far a text has been read;
* `Json.read?`: the value of a text.
-/

namespace Discovery.Json

/-- A container that is still open; its parts stand backwards. -/
inductive Container
  | array (items : List Json)
  | object (members : List (String × Json)) (key : String)

/-- What may come next, and the containers around it, the innermost first. -/
inductive Partial
  | value (around : List Container)
  | firstItem (around : List Container)
  | name (members : List (String × Json)) (around : List Container)
  | colon (members : List (String × Json)) (key : String) (around : List Container)
  | afterItem (items : List Json) (around : List Container)
  | afterMember (members : List (String × Json)) (around : List Container)
  | complete (v : Json)

namespace Partial

/-- A value is complete. -/
def deliver (v : Json) : List Container → Partial
  | [] => complete v
  | .array items :: around => afterItem (v :: items) around
  | .object members key :: around => afterMember ((key, v) :: members) around

/-- A token where a value may come. -/
def begin? (around : List Container) : Token → Option Partial
  | .value v => some (deliver v around)
  | .openArray => some (firstItem around)
  | .openObject => some (name [] around)
  | _ => none

/-- One token more. -/
def step? : Partial → Token → Option Partial
  | value around, t => begin? around t
  | firstItem around, .closeArray => some (deliver (.arr []) around)
  | firstItem around, t => begin? (.array [] :: around) t
  | name members around, .value (.str key) => some (colon members key around)
  | name [] around, .closeObject => some (deliver (.obj []) around)
  | colon members key around, .colon => some (value (.object members key :: around))
  | afterItem items around, .comma => some (value (.array items :: around))
  | afterItem items around, .closeArray => some (deliver (.arr items.reverse) around)
  | afterMember members around, .comma => some (name members around)
  | afterMember members around, .closeObject =>
      some (deliver (.obj members.reverse) around)
  | _, _ => none

end Partial

/-- The value of a text. -/
def read? (text : String) : Option Json :=
  (Token.scan text.toList).bind fun tokens =>
    match tokens.foldlM Partial.step? (.value []) with
    | some (.complete v) => some v
    | _ => none

end Discovery.Json
