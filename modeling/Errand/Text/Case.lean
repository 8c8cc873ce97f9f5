import Errand.Text.Table.Cased
import Errand.Text.Table.Lowercase
import Errand.Text.Table.Ranges

/-!
# Lower case

`lower` is the full Unicode lower-case mapping. Two characters make it more
than a map over characters: `İ` becomes two characters, and `Σ` becomes the
final sigma `ς` at the end of a word. `asciiLower` changes the letters `A`–`Z`
only, and `sameAsciiCase` compares up to that.
-/

namespace Errand.Chars

open Text.Table

/-- The letters `A`–`Z` in lower case, all else unchanged. -/
def asciiLower (cs : List Char) : List Char := cs.map Char.toLower

@[simp] theorem length_asciiLower (cs : List Char) :
    (asciiLower cs).length = cs.length := by
  simp [asciiLower]

/-- The two texts differ at most in the case of ASCII letters. -/
def sameAsciiCase (a b : List Char) : Bool := asciiLower a == asciiLower b

/-- The lower-case form of a character, for all but `İ` and `Σ` regardless of
its neighbours. -/
def lowerChar (c : Char) : Char :=
  if c.toNat < 0x80 then c.toLower
  else Char.ofNat (lowerIn c.toNat lowercaseRuns)

/-- A cased letter comes next, after any number of case-ignorable characters. -/
def casedComes : List Char → Bool
  | [] => false
  | c :: rest =>
    if inRanges c.toNat caseIgnorable then casedComes rest
    else inRanges c.toNat cased

/-- Lower case of `rest`, where `before` holds, reversed, what comes before
it. -/
def lowerFrom (before : List Char) : (rest : List Char) → List Char
  | [] => []
  | c :: rest =>
    (if c = 'Σ' then
        [if casedComes before && !casedComes rest then 'ς' else 'σ']
      else if c = 'İ' then ['i', '\u0307']
      else [lowerChar c]) ++ lowerFrom (c :: before) rest

/-- The full Unicode lower-case mapping. -/
def lower (cs : List Char) : List Char := lowerFrom [] cs

end Errand.Chars

namespace Errand.Text

/-- The full Unicode lower-case mapping. -/
def lower (s : String) : String := String.ofList (Chars.lower s.toList)

/-- The two texts differ at most in the case of ASCII letters. -/
def sameAsciiCase (a b : String) : Bool := Chars.sameAsciiCase a.toList b.toList

end Errand.Text
