import Discovery.Text.ExtendingMark
import Discovery.Text.Unprintable
/-!
Texts in double quotes, with every character that would not show spelled out.

* `Text.quoteChar`: how one character is written;
* `Text.quoted`: the whole text.
-/

namespace Discovery.Text

/-- A character spelled out by its code point. -/
def spelledOut (c : Char) : List Char :=
  ['\\', 'u', '\x7b'] ++ Nat.toDigits 16 c.toNat ++ ['\x7d']

/-- How a character is written between double quotes. -/
def quoteChar (c : Char) : List Char :=
  if c = '"' ∨ c = '\\' then ['\\', c]
  else if c = '\n' then ['\\', 'n']
  else if c = '\r' then ['\\', 'r']
  else if c = '\t' then ['\\', 't']
  else if c = '\x00' then ['\\', '0']
  else if isExtendingMark c || isUnprintable c then spelledOut c
  else [c]

/-- A text in double quotes. -/
def quoted (s : String) : String :=
  String.ofList ('"' :: s.toList.flatMap quoteChar ++ ['"'])

end Discovery.Text
