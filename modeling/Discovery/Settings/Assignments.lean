import Discovery.Text.Blank
/-!
Assignments of variables in a text, one a line: `NAME=value`, after the word
`export` or not, with blanks around the parts, quotes around the value, and
comments behind a hash sign.

* `Assignments.lines`: the lines of a text, a quoted value running on over
  line ends, without comments;
* `Assignments.ofLine`: the assignment that a line makes;
* `Assignments.read`: the assignments of a text, up to the first line that is
  malformed.
-/

namespace Discovery.Assignments

/-! ### Lines -/

/-- Where in a line a reader stands: in plain text, behind a blank in it, in
quotes of either kind, behind a backslash in one of these, in a comment, or in
a line that is a comment as a whole. -/
inductive Place
  | plain
  | blank
  | escape
  | double
  | doubleEscape
  | single
  | singleEscape
  | comment
  deriving DecidableEq, Repr

/-- The place behind a character of plain text. -/
def Place.afterPlain (c : Char) : Place :=
  if c = '\\' then .escape
  else if c = '"' then .double
  else if c = '\x27' then .single
  else if Text.isBlank c && c != '\n' && c != '\r' then .blank
  else .plain

/-- The place behind one character more. -/
def Place.step (c : Char) : Place → Place
  | plain => afterPlain c
  | blank =>
      if c = '#' then comment
      else if Text.isBlank c then plain
      else afterPlain c
  | escape => plain
  | double => if c = '\\' then doubleEscape else if c = '"' then plain else double
  | doubleEscape => double
  | single => if c = '\\' then singleEscape else if c = '\x27' then plain else single
  | singleEscape => single
  | comment => if c = '\n' then plain else comment

/-- A reader in the middle of a line: where it stands, the line up to there
backwards, and the lines before it backwards. -/
structure Reader where
  place : Place
  line : List Char
  done : List (List Char)

/-- A line with its end cut off. -/
def finish (line : List Char) : List Char :=
  match line with
  | '\r' :: rest => rest.reverse
  | rest => rest.reverse

/-- Whether nothing but blanks has been read of a line. -/
def atStart (line : List Char) : Bool := line.all Text.isBlank

/-- One character more. -/
def Reader.step (r : Reader) (c : Char) : Reader :=
  if r.place ≠ .comment ∧ c = '#' ∧ atStart r.line then
    { r with place := .comment, line := [] }
  else
    let place := r.place.step c
    if c = '\n' ∧ place = .plain then ⟨.plain, [], finish r.line :: r.done⟩
    else if place = .comment then { r with place := place }
    else { r with place := place, line := c :: r.line }

/-- The lines of a text. A last line without an end is left out if it stops
in quotes, behind a backslash or behind a blank. -/
def lines (text : List Char) : List (List Char) :=
  let r := text.foldl Reader.step ⟨.plain, [], []⟩
  match r.place with
  | .plain | .comment => (finish r.line :: r.done).reverse
  | _ => r.done.reverse

/-! ### Values -/

/-- What a reader of a value is in the middle of. -/
inductive Mode
  | plain
  | single
  | double
  | escape (within : Bool)
  | ending
  | comment
  deriving DecidableEq, Repr

/-- The character that a backslash and a character stand for. -/
def escaped? (c : Char) : Option Char :=
  if c = '\\' ∨ c = '\x27' ∨ c = '"' ∨ c = '$' ∨ c = ' ' then some c
  else if c = 'n' then some '\n'
  else none

/-- One character more of a value; the value stands backwards. Behind a blank
outside of quotes only a comment may come. -/
def stepValue? : Mode × List Char → Char → Option (Mode × List Char)
  | (.ending, value), c =>
      if c = ' ' ∨ c = '\t' then some (.ending, value)
      else if c = '#' then some (.comment, value)
      else none
  | (.comment, value), _ => some (.comment, value)
  | (.escape within, value), c =>
      (escaped? c).map fun d => (if within then .double else .plain, d :: value)
  | (.single, value), c =>
      if c = '\x27' then some (.plain, value) else some (.single, c :: value)
  | (.double, value), c =>
      if c = '"' then some (.plain, value)
      else if c = '\\' then some (.escape true, value)
      else some (.double, c :: value)
  | (.plain, value), c =>
      if c = '\x27' then some (.single, value)
      else if c = '"' then some (.double, value)
      else if c = '\\' then some (.escape false, value)
      else if c = ' ' ∨ c = '\t' then some (.ending, value)
      else some (.plain, c :: value)

/-- The value that a text stands for; quotes must be closed. -/
def value? (text : List Char) : Option (List Char) :=
  match text.foldlM stepValue? (.plain, []) with
  | none | some (.single, _) | some (.double, _) | some (.escape true, _) => none
  | some (_, value) => some value.reverse

/-! ### Assignments -/

/-- A text without the blanks in front. -/
def skipBlank (cs : List Char) : List Char := cs.dropWhile Text.isBlank

/-- A name in front of a text, and the rest behind it and behind blanks. -/
def name? (cs : List Char) : Option (List Char × List Char) :=
  let inName (c : Char) := c.isAlphanum || c == '_' || c == '.'
  match cs with
  | c :: _ =>
      if c.isAlpha || c == '_' then
        some (cs.takeWhile inName, skipBlank (cs.dropWhile inName))
      else none
  | [] => none

/-- The value behind an equals sign. -/
def assigned? (cs : List Char) : Option (List Char) :=
  match cs with
  | '=' :: rest =>
      match skipBlank rest with
      | [] | '#' :: _ => some []
      | text => value? text
  | _ => none

/-- What a line says. -/
inductive Line
  | nothing
  | assignment (name value : String)
  | malformed
  deriving DecidableEq, Repr

/-- What a line without its end says. -/
def ofLine (line : List Char) : Line :=
  match skipBlank (Text.trimEnd line) with
  | [] | '#' :: _ => .nothing
  | cs =>
      match name? cs with
      | none => .malformed
      | some (name, rest) =>
          let (name, rest) :=
            if name = ['e', 'x', 'p', 'o', 'r', 't'] ∧ rest.head? ≠ some '=' then
              (name? rest).getD ([], [])
            else (name, rest)
          match assigned? rest with
          | none => .malformed
          | some value => .assignment (String.ofList name) (String.ofList value)

/-- The assignments of a list of lines, up to the first malformed one. -/
def ofLines : List (List Char) → List (String × String)
  | [] => []
  | line :: rest =>
      match ofLine line with
      | .nothing => ofLines rest
      | .assignment name value => (name, value) :: ofLines rest
      | .malformed => []

/-- A text without the byte order mark in front. -/
def skipMark : List Char → List Char
  | '\ufeff' :: rest => rest
  | cs => cs

/-- The assignments of a text, in order. -/
def read (text : String) : List (String × String) := ofLines (lines (skipMark text.toList))

end Discovery.Assignments
