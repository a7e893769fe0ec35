import Discovery.Key.Basic
/-!
Reading a key's text back.

* `Identity.ofText?`: what a text is the key of, if it is the key of anything;
* `Key.unescape_escape`: a name can be read back from the way it is written.
-/

namespace Discovery

namespace Key

/-- The name that a part of a key stands for: a percent sign must start one of
the two escapes, and a delimiter cannot stand in a part. -/
def unescape : List Char → Option (List Char)
  | [] => some []
  | '%' :: '2' :: '5' :: rest => (unescape rest).map ('%' :: ·)
  | '%' :: '3' :: 'A' :: rest => (unescape rest).map (delimiter :: ·)
  | c :: rest =>
      if c = '%' ∨ c = delimiter then none else (unescape rest).map (c :: ·)

/-- A name can be read back from the way it is written. -/
theorem unescape_escape (name : List Char) : unescape (escape name) = some name := by
  rw [escape_eq_escapeEach]
  induction name with
  | nil => rfl
  | cons c cs ih =>
      show unescape (escapeChar c ++ escapeEach cs) = some (c :: cs)
      rw [escapeChar]
      split
      · next h => simp [unescape, ih, h]
      · split
        · next h => simp [unescape, ih, h]
        · next hp hd =>
            rw [List.singleton_append, unescape]
            · simp [hp, hd, ih]
            · exact fun _ h => absurd h hp
            · exact fun _ h => absurd h hp

/-- The parts of a text between its delimiters; always at least one. -/
def parts : List Char → List (List Char)
  | [] => [[]]
  | c :: cs =>
      if c = delimiter then [] :: parts cs
      else match parts cs with
        | [] => [[c]]
        | part :: rest => (c :: part) :: rest

end Key

namespace Identity

/-- What a text is the key of, read off the text alone. -/
def ofText? (text : String) : Option Identity :=
  match Key.parts text.toList with
  | [tag, ns] =>
      if tag = Kind.namespaceRecord.tag.toList then
        (Key.unescape ns).map fun ns => .namespaceRecord (String.ofList ns)
      else none
  | [tag, ns, svc] => do
      let ns ← Key.unescape ns
      let svc ← Key.unescape svc
      if tag = Kind.serviceId.tag.toList then
        some (.serviceId (String.ofList ns) (String.ofList svc))
      else if tag = Kind.endpointSet.tag.toList then
        some (.endpointSet (String.ofList ns) (String.ofList svc))
      else none
  | _ => none

end Identity

end Discovery
