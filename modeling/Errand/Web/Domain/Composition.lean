import Errand.Web.Domain.Table.Entry
import Errand.Web.Domain.Table.Property

/-!
# Composed characters

A letter with marks can be written as one character or as several. `composed`
gives every such spelling its one composed form:

* every character is taken apart as far as it goes (`parts`);
* the marks behind a letter are put in the order of their classes, those of one
  class in the order that they have (`ordered`);
* from the left, a letter is joined with each mark that no mark of the same or
  a higher class keeps apart from it (`joined`).

The syllables of the Korean script are composed by a rule of their own; all
others are in a table.

This is Unicode's normalization to composed characters, which the processing of
a domain name asks for between mapping its characters and checking its labels.
-/

namespace Errand.Domain

/-- The composed characters of the table: each with the two that it is composed
of. -/
def pairs : List (Char × Char × Char) :=
  Table.compositions.map fun (c, a, b) =>
    (Char.ofNat c, Char.ofNat a, Char.ofNat b)

/-- The classes of marks. -/
def markClasses : List (Table.Entry Nat) :=
  Table.entriesOf Table.combiningClasses

/-- The class of a mark, zero for all other characters. -/
def markClass (c : Char) : Nat :=
  ((Table.valueAt? markClasses c.toNat).map Prod.fst).getD 0

/-! ### Korean syllables -/

/-- The two parts of a syllable: the syllable without its last consonant and
that consonant, or the first consonant and the vowel. -/
def splitSyllable? (n : Nat) : Option (Nat × Nat) :=
  if 0xAC00 ≤ n ∧ n < 0xAC00 + 19 * 21 * 28 then
    let i := n - 0xAC00
    if i % 28 = 0 then some (0x1100 + i / (21 * 28), 0x1161 + i / 28 % 21)
    else some (n - i % 28, 0x11A7 + i % 28)
  else none

/-- The syllable of two parts. -/
def joinSyllable? (a b : Nat) : Option Nat :=
  if 0x1100 ≤ a ∧ a < 0x1100 + 19 ∧ 0x1161 ≤ b ∧ b < 0x1161 + 21 then
    some (0xAC00 + ((a - 0x1100) * 21 + (b - 0x1161)) * 28)
  else if 0xAC00 ≤ a ∧ a < 0xAC00 + 19 * 21 * 28 ∧ (a - 0xAC00) % 28 = 0 ∧
      0x11A7 < b ∧ b < 0x11A7 + 28 then
    some (a + (b - 0x11A7))
  else none

/-! ### Any character -/

/-- The two parts of a composed character. -/
def split? (c : Char) : Option (Char × Char) :=
  match splitSyllable? c.toNat with
  | some (a, b) => some (Char.ofNat a, Char.ofNat b)
  | none => (pairs.find? fun p => p.1 == c).map Prod.snd

/-- The composed character of two parts. -/
def join? (a b : Char) : Option Char :=
  match joinSyllable? a.toNat b.toNat with
  | some n => some (Char.ofNat n)
  | none => (pairs.find? fun p => p.2 == (a, b)).map Prod.fst

/-- A character taken apart, at most `depth` times. -/
def partsWithin : (depth : Nat) → Char → List Char
  | 0, c => [c]
  | depth + 1, c =>
    match split? c with
    | some (a, b) => partsWithin depth a ++ [b]
    | none => [c]

/-- A character taken apart as far as it goes. No character is composed of more
than four. -/
def parts (c : Char) : List Char := partsWithin 3 c

/-- A character put before marks in order, behind those of lower class. -/
def place (c : Char) : List Char → List Char
  | [] => [c]
  | d :: rest =>
    if markClass d ≠ 0 ∧ markClass d < markClass c then d :: place c rest
    else c :: d :: rest

/-- The marks behind each letter in the order of their classes. -/
def ordered (cs : List Char) : List Char := cs.foldr place []

/-- What follows a letter, joined with it where that can be done. `marks`
holds, reversed, the marks behind the letter that are not joined. -/
def joined (letter : Char) (marks : List Char) : List Char → List Char
  | [] => letter :: marks.reverse
  | c :: rest =>
    let apart := match marks with
      | [] => false
      | mark :: _ => markClass c ≤ markClass mark
    match if apart then none else join? letter c with
    | some d => joined d marks rest
    | none =>
      if markClass c = 0 then letter :: marks.reverse ++ joined c [] rest
      else joined letter (c :: marks) rest

/-- The composed form of a text. -/
def composed (cs : List Char) : List Char :=
  match ordered (cs.flatMap parts) with
  | [] => []
  | c :: rest => joined c [] rest

end Errand.Domain
