import Errand.Text.Blank
import Errand.Text.Case
import Errand.Text.Table.Word

/-!
# Text patterns

A small language of text patterns with leftmost matching. A pattern is built
from single characters, runs of characters of a class, word boundaries,
sequence, choice and groups; only runs repeat, so every pattern is matched by
recursion on the pattern and on the text.

* `matchAt` tries a pattern at one place. Where several ways to match exist, a
  choice prefers its first side, a greedy run as many characters as possible
  and a lazy run as few as possible, and the first way that lets the whole
  pattern match wins.
* `replaceAll` and `findAll` go through a text from the left and resume behind
  each match, so matches do not overlap. Only matches of at least one character
  count.

`Pattern.Matches` states the meaning of a pattern without any order of trying:
which texts it covers.

## What this stands for

The program leaves its patterns to a library of regular expressions. Modelled
here is what that library documents, as far as the program's patterns go:

* the match that begins first is found, and of those that begin there the one
  that a backtracking matcher comes to first, which prefers the left side of a
  choice and as many or as few characters as a run asks for;
* the next search begins behind a match, so matches do not overlap. An empty
  match would count too, but none of the program's patterns has one;
* a word boundary goes by the word characters of Unicode, and where case does
  not matter, characters are compared by their simple case folding.
-/

namespace Errand

/-- A text pattern. -/
inductive Pattern where
  /-- Nothing. -/
  | nothing
  /-- One character of a class. -/
  | one (p : Char → Bool)
  /-- Any number of characters of a class, as many as possible if greedy and as
  few as possible if not. -/
  | run (greedy : Bool) (p : Char → Bool)
  /-- A place between a word character and one that is not. -/
  | boundary
  /-- One pattern after the other. -/
  | seq (a b : Pattern)
  /-- Either pattern. -/
  | alt (a b : Pattern)
  /-- The pattern, whose text is remembered. -/
  | group (a : Pattern)

namespace Pattern

/-- The character is part of a word. -/
def isWord (c : Char) : Bool :=
  Text.Table.inRanges c.toNat Text.Table.wordCharacters

/-- Exactly one of two neighbours, either of which may be missing, is part of a
word. -/
def isBoundary (before after : Option Char) : Bool :=
  before.any isWord != after.any isWord

/-- The last character of a text, or the one before it if the text is empty. -/
def lastOf (before : Option Char) (cs : List Char) : Option Char :=
  match cs.getLast? with
  | some c => some c
  | none => before

/-! ### Meaning -/

/-- The pattern covers `cs` in a text where `before` stands in front of it and
`after` behind. -/
inductive Matches : Pattern → (before : Option Char) → List Char →
    (after : Option Char) → Prop where
  | nothing {b a} : Matches .nothing b [] a
  | one {p b c a} : p c = true → Matches (.one p) b [c] a
  | run {g p b cs a} : (∀ c ∈ cs, p c = true) → Matches (.run g p) b cs a
  | boundary {b a} : isBoundary b a = true → Matches .boundary b [] a
  | seq {x y b cs ds a} : Matches x b cs ((ds.head?).or a) →
      Matches y (lastOf b cs) ds a →
      Matches (.seq x y) b (cs ++ ds) a
  | left {x y b cs a} : Matches x b cs a → Matches (.alt x y) b cs a
  | right {x y b cs a} : Matches y b cs a → Matches (.alt x y) b cs a
  | group {x b cs a} : Matches x b cs a → Matches (.group x) b cs a

/-- The pattern covers some part of the text. -/
def Occurs (p : Pattern) (text : List Char) : Prop :=
  ∃ pre cs post, text = pre ++ cs ++ post ∧ Matches p pre.getLast? cs post.head?

/-! ### Matching -/

/-- A place in a text: the character before it and the text after it. -/
structure Place where
  before : Option Char
  rest : List Char

/-- The places after a run of `p` in the order in which they are preferred, the
first that `k` accepts. -/
def runFrom {α : Type} (greedy : Bool) (p : Char → Bool)
    (k : Place → Option α) :
    (before : Option Char) → List Char → Option α
  | before, [] => k ⟨before, []⟩
  | before, c :: cs =>
    if p c then
      if greedy then (runFrom greedy p k (some c) cs).or (k ⟨before, c :: cs⟩)
      else
        match k ⟨before, c :: cs⟩ with
        | some a => some a
        | none => runFrom greedy p k (some c) cs
    else k ⟨before, c :: cs⟩

/-- Matches the pattern at a place and goes on with `k`, which is given the
place behind the match and the texts of the groups, the latest first. -/
def go {α : Type} : Pattern → Place → List (List Char) →
    (Place → List (List Char) → Option α) →
    Option α
  | .nothing, at_, groups, k => k at_ groups
  | .one p, at_, groups, k =>
    match at_.rest with
    | [] => none
    | c :: cs => if p c then k ⟨some c, cs⟩ groups else none
  | .run greedy p, at_, groups, k =>
    runFrom greedy p (fun place => k place groups) at_.before at_.rest
  | .boundary, at_, groups, k =>
    if isBoundary at_.before at_.rest.head? then k at_ groups else none
  | .seq a b, at_, groups, k =>
    go a at_ groups fun place groups => go b place groups k
  | .alt a b, at_, groups, k =>
    match go a at_ groups k with
    | some r => some r
    | none => go b at_ groups k
  | .group a, at_, groups, k =>
    go a at_ groups fun place groups =>
      k place (at_.rest.take (at_.rest.length - place.rest.length) :: groups)

/-- A match: how many characters it covers and the texts of its groups, in
order. -/
structure Match where
  length : Nat
  groups : List (List Char)

/-- The match at a place, if there is one. -/
def matchAt (p : Pattern) (before : Option Char) (cs : List Char) :
    Option Match :=
  go p ⟨before, cs⟩ [] fun place groups =>
    some ⟨cs.length - place.rest.length, groups.reverse⟩

/-- The match at a place if it covers at least one character. -/
def properMatchAt (p : Pattern) (before : Option Char) (cs : List Char) :
    Option Match :=
  (matchAt p before cs).filter (0 < ·.length)

/-- The text with every match replaced, where `skip` characters of a match are
still to be passed. -/
def replaceFrom (p : Pattern) (replacement : List Char) :
    (skip : Nat) → (before : Option Char) → List Char → List Char
  | _, _, [] => []
  | skip + 1, _, c :: cs => replaceFrom p replacement skip (some c) cs
  | 0, before, c :: cs =>
    match properMatchAt p before (c :: cs) with
    | some m =>
      replacement ++ replaceFrom p replacement (m.length - 1) (some c) cs
    | none => c :: replaceFrom p replacement 0 (some c) cs

/-- The text with every match, from the left, replaced by `replacement`. -/
def replaceAll (p : Pattern) (replacement cs : List Char) : List Char :=
  replaceFrom p replacement 0 none cs

/-- The matches of the text, where `skip` characters of a match are still to be
passed. -/
def findFrom (p : Pattern) : (skip : Nat) → (before : Option Char) → List Char →
    List Match
  | _, _, [] => []
  | skip + 1, _, c :: cs => findFrom p skip (some c) cs
  | 0, before, c :: cs =>
    match properMatchAt p before (c :: cs) with
    | some m => m :: findFrom p (m.length - 1) (some c) cs
    | none => findFrom p 0 (some c) cs

/-- The matches of the text, from the left. -/
def findAll (p : Pattern) (cs : List Char) : List Match := findFrom p 0 none cs

/-! ### Common pieces -/

/-- The patterns one after the other. -/
def inOrder : List Pattern → Pattern
  | [] => .nothing
  | [p] => p
  | p :: ps => .seq p (inOrder ps)

/-- One of the patterns, the earlier preferred. A choice among none matches
nowhere. -/
def oneOf : List Pattern → Pattern
  | [] => .one fun _ => false
  | [p] => p
  | p :: ps => .alt p (oneOf ps)

/-- This very text. -/
def exactly (s : String) : Pattern :=
  inOrder (s.toList.map fun c => .one (· == c))

/-- Two characters are the same letter in either case. The long s counts as an
`s` and the Kelvin sign as a `k`. -/
def sameLetter (a b : Char) : Bool :=
  let fold (c : Char) : Char :=
    if c = '\u017f' then 's' else if c = '\u212a' then 'k' else c.toLower
  fold a == fold b

/-- This text in any mixture of cases. -/
def anyCase (s : String) : Pattern :=
  inOrder (s.toList.map fun c => .one (sameLetter c))

/-- A letter `a`–`z` in either case, the long s and the Kelvin sign included. -/
def isLatinLetter (c : Char) : Bool := c.isAlpha || c = '\u017f' || c = '\u212a'

/-- Any number of blanks, as many as possible. -/
def blanks : Pattern := .run true Chars.isBlank

/-- As many characters other than those of `stops` as possible. -/
def upTo (stops : List Char) : Pattern := .run true fun c => !stops.contains c

/-- As few characters of any kind as possible. -/
def anything : Pattern := .run false fun _ => true

end Pattern

end Errand
