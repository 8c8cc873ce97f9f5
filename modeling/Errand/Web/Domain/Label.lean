import Errand.Web.Domain.Composition
import Errand.Web.Domain.Mapping
import Errand.Web.Domain.Punycode

/-!
# Labels of domain names

A label is the part of a domain name between points. In ASCII, a label with
other characters is written as `xn--` and its code. `Label.toUnicode?` reads
such a label and checks that its text is one that could have been written so;
`Label.toAscii` writes it.

A label may not begin with a mark, and the two invisible joiners may stand only
where they change how letters are written (`joinersFit`). Where a name has
characters that run from right to left, each of its labels runs in one
direction (`runsOneWay`).

These are the checks of labels in Unicode's processing of domain names, as the
URL standard asks for them, with the rules for joiners and for directions that
it refers to. A text of any length has a code, and a code of any length is
read.
-/

namespace Errand.Domain

/-! ### Marks and joiners -/

/-- The marks. -/
def markRanges : List (Nat × Nat) := Table.rangesOf Table.markRuns

/-- The character is a mark. -/
def isMark (c : Char) : Bool := Text.Table.inRanges c.toNat markRanges

/-- How characters join their neighbours. -/
def joinings : List (Table.Entry Char) := Table.entriesOf Table.joiningRuns

/-- How a character joins its neighbours, as the table has it. -/
def joining? (c : Char) : Option Char :=
  (Table.valueAt? joinings c.toNat).map Prod.fst

/-- The first character that is not looked through joins in one of the given
ways. -/
def nearestJoins (ways : List Char) (cs : List Char) : Bool :=
  match cs.find? fun c => joining? c != some 'T' with
  | some c => ways.any fun way => joining? c == some way
  | none => false

/-- Each joiner stands where it may: behind a mark that mutes a vowel, or, for
the one that keeps letters apart, between letters that would join. `before`
holds, reversed, what comes before. -/
def joinersFit (before : List Char) : List Char → Bool
  | [] => true
  | c :: rest =>
    let muted := (before.head?.map markClass) == some 9
    let fits :=
      if c = '\u200c' then
        muted || (nearestJoins ['L', 'D'] before &&
            nearestJoins ['R', 'D'] rest)
      else if c = '\u200d' then muted
      else true
    fits && joinersFit (c :: before) rest

/-! ### Direction -/

/-- In which direction a character runs. -/
inductive Direction where
  | leftToRight
  | rightToLeft
  /-- A digit that runs from left to right in any text. -/
  | number
  /-- A digit of a text that runs from right to left. -/
  | arabicNumber
  /-- A mark, which runs as the letter before it. -/
  | mark
  | neutral
  /-- A character that ends a text. -/
  | separator
deriving DecidableEq, Repr

namespace Direction

/-- The direction that a table value stands for. -/
def ofTable (value : Char) : Direction :=
  match value with
  | 'R' | 'A' => rightToLeft
  | 'N' => arabicNumber
  | 'E' => number
  | 'M' => mark
  | 'X' => separator
  | _ => neutral

/-- The directions of characters beyond ASCII that do not run from left to
right. -/
def table : List (Table.Entry Direction) :=
  Table.entriesOf (Table.directionRuns.map fun (first, count, value) =>
      (first, count, ofTable value))

/-- The direction of a character. -/
def ofChar (c : Char) : Direction :=
  if c.toNat < 0x80 then
    if c.isAlpha then leftToRight else if c.isDigit then number else neutral
  else ((Table.valueAt? table c.toNat).map Prod.fst).getD leftToRight

end Direction

/-- The character makes a name one with text from right to left. -/
def turnsName (c : Char) : Bool :=
  Direction.ofChar c = .rightToLeft || Direction.ofChar c = .arabicNumber

/-- All characters may stand in a label of the direction, and the last one that
is no mark may end it. -/
def runs (inside atEnd : List Direction) (label : List Char) : Bool :=
  let directions := label.map Direction.ofChar
  directions.all (inside ++ atEnd).contains &&
    (match directions.reverse.find? (· ≠ .mark) with
      | some d => atEnd.contains d
      | none => false)

/-- The label runs in one direction, which its first character gives. A label
from right to left has digits of one kind only. -/
def runsOneWay (label : List Char) : Bool :=
  match label.head?.map Direction.ofChar with
  | none => true
  | some .leftToRight => runs [.neutral, .mark] [.leftToRight, .number] label
  | some .rightToLeft =>
    runs [.neutral, .mark] [.rightToLeft, .number, .arabicNumber] label &&
      !(label.any (Direction.ofChar · = .number) &&
        label.any (Direction.ofChar · = .arabicNumber))
  | some _ => false

namespace Label

/-- What a label in ASCII begins with when it stands for other characters. -/
def mark : List Char := ['x', 'n', '-', '-']

/-- The character is ASCII. -/
def isAscii (c : Char) : Bool := c.toNat < 0x80

/-- The text is one that `mark` and a code may stand for: its characters need
neither mapping nor composing, one of them is not ASCII, and it does not begin
with `mark` itself. -/
def hasCode (text : List Char) : Bool :=
  text.all stays && composed text = text && !text.all isAscii &&
    !Chars.startsWith mark text

/-- The text of a label after mapping. -/
def toUnicode? (label : List Char) : Option (List Char) :=
  let text? :=
    match Chars.dropLead? mark label with
    | none => some label
    | some code => (Punycode.decode? code).filter hasCode
  text?.filter fun text => !(text.head?.any isMark) && joinersFit [] text

/-- The label of a text in ASCII. -/
def toAscii (text : List Char) : List Char :=
  if text.all isAscii then text else mark ++ Punycode.encode text

end Label

end Errand.Domain
