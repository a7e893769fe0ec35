import Discovery.Decimal.Scaled
import Discovery.Json.Basic
/-!
The tokens of JSON text.

* `Json.Token.scan`: the tokens of a text, read one character at a time;
* `Json.number?`: the value that a number's text stands for.
-/

namespace Discovery.Json

/-- A token: a mark, or a value without parts. -/
inductive Token
  | openArray
  | closeArray
  | openObject
  | closeObject
  | colon
  | comma
  | value (v : Json)

/-! ### Numbers -/

/-- A run of digits in front of a text, and the rest. -/
def digitRun (cs : List Char) : List Char × List Char :=
  (cs.takeWhile Char.isDigit, cs.dropWhile Char.isDigit)

/-- The exponent that ends a number's text, if the text has the form of one. -/
def exponent? : List Char → Option Int
  | [] => some 0
  | e :: rest =>
      if e = 'e' ∨ e = 'E' then
        let (negative, digits) := match rest with
          | '-' :: digits => (true, digits)
          | '+' :: digits => (false, digits)
          | digits => (false, digits)
        if digits.isEmpty || !digits.all Char.isDigit then none
        else
          let n : Int := Nat.ofDigitChars 10 digits 0
          some (if negative then -n else n)
      else none

/-- The floating-point number with a given sign that the parts of a literal
stand for, if there is one. -/
def realOf? (negative : Bool) (whole fraction : List Char) (exponent : Int) : Option Json :=
  (Decimal.float? whole fraction exponent).map fun x => real (if negative then -x else x)

/-- The value that a number's text stands for. A number without fraction and
exponent is whole if a signed or an unsigned 64-bit word holds it; minus zero
is not whole. -/
def number? (text : List Char) : Option Json :=
  let (negative, text) := match text with
    | '-' :: rest => (true, rest)
    | rest => (false, rest)
  let (whole, rest) := digitRun text
  if whole.isEmpty || (whole.head? == some '0' && whole != ['0']) then none
  else match rest with
  | [] =>
      let n := Nat.ofDigitChars 10 whole 0
      if negative && n != 0 && n ≤ 9223372036854775808 then some (int (-(n : Int)))
      else if !negative && n < UInt64.size then some (int n)
      else realOf? negative whole [] 0
  | '.' :: rest =>
      let (fraction, rest) := digitRun rest
      if fraction.isEmpty then none
      else (exponent? rest).bind (realOf? negative whole fraction)
  | rest => (exponent? rest).bind (realOf? negative whole [])

/-! ### Strings -/

/-- The characters of a list of UTF-16 units and other code points; a
surrogate must be the first or the second of a pair. -/
def joinSurrogates : List Nat → Option (List Char)
  | [] => some []
  | n :: rest =>
      if 0xD800 ≤ n ∧ n < 0xDC00 then
        match rest with
        | m :: rest =>
            if 0xDC00 ≤ m ∧ m < 0xE000 then
              (joinSurrogates rest).map
                (Char.ofNat (0x10000 + (n - 0xD800) * 0x400 + (m - 0xDC00)) :: ·)
            else none
        | [] => none
      else if 0xDC00 ≤ n ∧ n < 0xE000 then none
      else (joinSurrogates rest).map (Char.ofNat n :: ·)

/-- The character that a letter behind a backslash stands for. -/
def unescape? : Char → Option Char
  | '"' => some '"'
  | '\\' => some '\\'
  | '/' => some '/'
  | 'b' => some '\x08'
  | 'f' => some '\x0c'
  | 'n' => some '\n'
  | 'r' => some '\r'
  | 't' => some '\t'
  | _ => none

/-- The value of a hexadecimal digit. -/
def hexDigit? (c : Char) : Option Nat :=
  if '0' ≤ c ∧ c ≤ '9' then some (c.toNat - '0'.toNat)
  else if 'a' ≤ c ∧ c ≤ 'f' then some (c.toNat - 'a'.toNat + 10)
  else if 'A' ≤ c ∧ c ≤ 'F' then some (c.toNat - 'A'.toNat + 10)
  else none

/-! ### The scanner -/

namespace Token

/-- What the scanner is in the middle of; what it has read of a token is held
backwards. -/
inductive Mode
  | between
  | word (done : List Char)
  | text (done : List Nat)
  | escaped (done : List Nat)
  | unit (done : List Nat) (digits code : Nat)

/-- The token that a word stands for. -/
def ofWord? (word : List Char) : Option Token :=
  if word = ['n', 'u', 'l', 'l'] then some (.value .null)
  else if word = ['t', 'r', 'u', 'e'] then some (.value (.bool true))
  else if word = ['f', 'a', 'l', 's', 'e'] then some (.value (.bool false))
  else (number? word).map .value

/-- Whether a character can stand in a number, or in the words of JSON. -/
def isWordChar (c : Char) : Bool :=
  c.isAlphanum || c == '-' || c == '+' || c == '.'

/-- A character between tokens. -/
def begin? (c : Char) (tokens : List Token) : Option (Mode × List Token) :=
  if c = ' ' ∨ c = '\t' ∨ c = '\n' ∨ c = '\r' then some (.between, tokens)
  else if c = '[' then some (.between, .openArray :: tokens)
  else if c = ']' then some (.between, .closeArray :: tokens)
  else if c = '\x7b' then some (.between, .openObject :: tokens)
  else if c = '\x7d' then some (.between, .closeObject :: tokens)
  else if c = ':' then some (.between, .colon :: tokens)
  else if c = ',' then some (.between, .comma :: tokens)
  else if c = '"' then some (.text [], tokens)
  else if isWordChar c then some (.word [c], tokens)
  else none

/-- One character more; the tokens read so far stand backwards. -/
def step? : Mode × List Token → Char → Option (Mode × List Token)
  | (.between, tokens), c => begin? c tokens
  | (.word done, tokens), c =>
      if isWordChar c then some (.word (c :: done), tokens)
      else (ofWord? done.reverse).bind fun token => begin? c (token :: tokens)
  | (.text done, tokens), c =>
      if c = '"' then
        (joinSurrogates done.reverse).map fun cs =>
          (.between, .value (.str (String.ofList cs)) :: tokens)
      else if c = '\\' then some (.escaped done, tokens)
      else if c.toNat < 0x20 then none
      else some (.text (c.toNat :: done), tokens)
  | (.escaped done, tokens), c =>
      if c = 'u' then some (.unit done 0 0, tokens)
      else (unescape? c).map fun d => (.text (d.toNat :: done), tokens)
  | (.unit done digits code, tokens), c =>
      (hexDigit? c).map fun d =>
        let code := code * 16 + d
        if digits = 3 then (.text (code :: done), tokens)
        else (.unit done (digits + 1) code, tokens)

/-- The tokens of a text. -/
def scan (text : List Char) : Option (List Token) :=
  match text.foldlM step? (.between, []) with
  | some (.between, tokens) => some tokens.reverse
  | some (.word done, tokens) =>
      (ofWord? done.reverse).map fun token => (token :: tokens).reverse
  | _ => none

end Token

end Discovery.Json
