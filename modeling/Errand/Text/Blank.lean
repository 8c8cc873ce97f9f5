/-!
# Blank characters

A *blank* is a character with the Unicode property `White_Space`. Requests,
platform names, addresses and step parameters are all trimmed and split by this
one class.

* `trim` takes blanks off both ends, so a trimmed text starts and ends with a
  character that counts.
* `words` cuts a text at its runs of blanks; `unwords` joins words with single
  spaces.

Functions on characters live in `Errand.Chars` and work on `List Char`; those
in `Errand.Text` are the same functions on `String`.
-/

namespace Errand.Chars

/-- The characters with the Unicode property `White_Space`. -/
def isBlank (c : Char) : Bool :=
  let n := c.toNat
  (9 ≤ n && n ≤ 13) || n == 0x20 || n == 0x85 || n == 0xA0 || n == 0x1680 ||
    (0x2000 ≤ n && n ≤ 0x200A) || n == 0x2028 || n == 0x2029 ||
    n == 0x202F || n == 0x205F || n == 0x3000

/-- The text without its leading blanks. -/
def trimStart (cs : List Char) : List Char := cs.dropWhile isBlank

/-- The text without its trailing blanks. -/
def trimEnd (cs : List Char) : List Char :=
  (cs.reverse.dropWhile isBlank).reverse

/-- The text without the blanks at its two ends. -/
def trim (cs : List Char) : List Char := trimEnd (trimStart cs)

/-- A text counts as blank when nothing is left of it after trimming. -/
def allBlank (cs : List Char) : Bool := cs.all isBlank

/-- The words of a text, where `current` holds, reversed, the word that is
being read. -/
def wordsFrom (current : List Char) : List Char → List (List Char)
  | [] => if current.isEmpty then [] else [current.reverse]
  | c :: rest =>
    if isBlank c then
      if current.isEmpty then wordsFrom [] rest
      else current.reverse :: wordsFrom [] rest
    else wordsFrom (c :: current) rest

/-- The maximal runs of characters that are not blank, in order. -/
def words (cs : List Char) : List (List Char) := wordsFrom [] cs

/-- The words joined with single spaces. -/
def unwords (ws : List (List Char)) : List Char := [' '].intercalate ws

end Errand.Chars

namespace Errand.Text

/-- The text without the blanks at its two ends. -/
def trim (s : String) : String := String.ofList (Chars.trim s.toList)

/-- Nothing but blanks, or nothing at all. -/
def isBlank (s : String) : Bool := Chars.allBlank s.toList

end Errand.Text
