/-!
JSON values.

* `Json`: a value; whole numbers are kept apart from numbers that are written
  with a fraction or an exponent, or that no 64-bit word can hold;
* `Json.items?` / `Json.members?`: the parts of an array and of an object.
-/

namespace Discovery

/-- A JSON value. The members of an object stand in the order of its text. -/
inductive Json
  | null
  | bool (value : Bool)
  | int (value : Int)
  | real (value : Float)
  | str (value : String)
  | arr (items : List Json)
  | obj (members : List (String × Json))

namespace Json

instance : Inhabited Json := ⟨null⟩

/-- The items of an array. -/
def items? : Json → Option (List Json)
  | arr items => some items
  | _ => none

/-- The members of an object. -/
def members? : Json → Option (List (String × Json))
  | obj members => some members
  | _ => none

/-- The text of a string. -/
def str? : Json → Option String
  | str value => some value
  | _ => none

/-- The number of a whole number. -/
def int? : Json → Option Int
  | int value => some value
  | _ => none

/-- A string, or null in its absence. -/
def ofOption : Option String → Json
  | some value => str value
  | none => null

end Json

end Discovery
