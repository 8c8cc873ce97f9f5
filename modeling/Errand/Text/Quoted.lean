import Errand.Number.Decimal
import Errand.Text.Table.Printable
import Errand.Text.Table.Ranges

/-!
# Quoted text

How a text is quoted inside a message: between double quotes, with the quote
and the backslash escaped, the usual control characters by letter, and every
other character that would not show by its number in hexadecimal between
braces.
-/

namespace Errand.Chars

open Text.Table

/-- The lower-case hexadecimal digit of a number below sixteen. -/
def hexDigit (d : Nat) : Char :=
  if d < 10 then Char.ofNat (0x30 + d) else Char.ofNat (0x57 + d % 16)

/-- The hexadecimal notation of `n` in front of `tail`. -/
def hexOnto (n : Nat) (tail : List Char) : List Char :=
  if n < 16 then hexDigit n :: tail
  else hexOnto (n / 16) (hexDigit (n % 16) :: tail)
termination_by n

/-- The character shows by itself: it neither extends the one before it nor
lacks a visible form. -/
def shows (c : Char) : Bool :=
  if c.toNat < 0x7F then 0x20 ≤ c.toNat
  else !inRanges c.toNat graphemeExtending && !inRanges c.toNat invisible

/-- One character as it stands between the quotes. -/
def quoteChar (c : Char) : List Char :=
  match c with
  | '\x00' => ['\\', '0']
  | '\t' => ['\\', 't']
  | '\n' => ['\\', 'n']
  | '\r' => ['\\', 'r']
  | '\\' => ['\\', '\\']
  | '"' => ['\\', '"']
  | c =>
    if shows c then [c] else ['\\', 'u', '\x7b'] ++ hexOnto c.toNat ['\x7d']

/-- The text between double quotes, with what would not show escaped. -/
def quoted (cs : List Char) : List Char := '"' :: cs.flatMap quoteChar ++ ['"']

end Errand.Chars
