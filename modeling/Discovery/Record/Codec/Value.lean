import Discovery.Record.Codec.Error
import Discovery.Record.Dictionary
/-!
Reading the values that records are made of.

* `Decode.text`, `Decode.flag`, `Decode.word16`, `Decode.int64`,
  `Decode.optionalText`, `Decode.textMap`: values of one type each;
* `Decode.variant`: the name of a variant, as a string or as the one member of
  an object;
* `Decode.field?` and `Decode.required`: the members of a record in object
  form;
* `Decode.element`: the items of a record in array form.
-/

namespace Discovery

/-- What a value is read as, or why it cannot be. -/
abbrev Decoded (α : Type) : Type := Except DecodeError α

namespace Decode

variable {α : Type}

/-! ### Values -/

/-- A string. -/
def text : Json → Decoded String
  | .str s => .ok s
  | other => .error (.wrongType other .string)

/-- A truth value. -/
def flag : Json → Decoded Bool
  | .bool b => .ok b
  | other => .error (.wrongType other .boolean)

/-- A whole number of 16 bits. -/
def word16 : Json → Decoded UInt16
  | .int n =>
      if 0 ≤ n ∧ n < 65536 then .ok (UInt16.ofNat n.toNat)
      else .error (.outOfRange n .unsigned16)
  | other => .error (.wrongType other .unsigned16)

/-- A whole number of 64 bits with a sign. -/
def int64 : Json → Decoded Int64
  | .int n =>
      if -9223372036854775808 ≤ n ∧ n < 9223372036854775808 then .ok (Int64.ofInt n)
      else .error (.outOfRange n .signed64)
  | other => .error (.wrongType other .signed64)

/-- A string, or null in its absence. -/
def optionalText : Json → Decoded (Option String)
  | .null => .ok none
  | other => (text other).map some

/-- The strings that a list of names is bound to, up to the first that is
none. -/
def texts : List (String × Json) → Decoded (List (String × String))
  | [] => .ok []
  | (name, value) :: rest => do
      let value ← text value
      let rest ← texts rest
      .ok ((name, value) :: rest)

/-- An object of strings, read in ascending order of its names. -/
def textMap : Json → Decoded (Dictionary String)
  | .obj members => (texts (Dictionary.ofList members).entries).map .ofList
  | other => .error (.wrongType other .map)

/-! ### Variants -/

/-- The name of a variant, and what it is bound to in object form. -/
def variant : Json → Decoded (String × Option Json)
  | .str name => .ok (name, none)
  | .obj members =>
      match (Dictionary.ofList members).entries with
      | [(name, value)] => .ok (name, some value)
      | _ => .error .notOneMember
  | other => .error (.wrongType other .variant)

/-- A variant without content: bound to null, if to anything. -/
def unit : Option Json → Decoded Unit
  | none => .ok ()
  | some .null => .ok ()
  | some other => .error (.wrongType other .unit)

/-! ### Records -/

/-- A member of a record in object form, if it is there. -/
def field? (members : Dictionary Json) (name : String) (decode : Json → Decoded α) :
    Decoded (Option α) :=
  match members.get? name with
  | none => .ok none
  | some value => (decode value).map some

/-- A member that has to be there. -/
def required (name : String) : Option α → Decoded α
  | some a => .ok a
  | none => .error (.missingField name)

/-- An item of a record in array form. Items are read in order, so the first
that is missing tells how many there are. -/
def element (shape : Shape) (items : List Json) (position : Nat)
    (decode : Json → Decoded α) : Decoded α :=
  match items[position]? with
  | none => .error (.tooShort position shape)
  | some value => decode value

/-- A record in array form may not have more items than fields. -/
def noMore (shape : Shape) (items : List Json) : Decoded Unit :=
  if shape.size < items.length then .error (.tooLong items.length) else .ok ()

/-- A record in either of its forms. -/
def record (shape : Shape) (ofMembers : Dictionary Json → Decoded α)
    (ofItems : List Json → Decoded α) : Json → Decoded α
  | .obj members => ofMembers (.ofList members)
  | .arr items => ofItems items
  | other => .error (.wrongType other (.record shape))

end Decode

end Discovery
