import Errand.Proofs.Json.Indented
import Errand.Proofs.Json.Reading

/-!
# The grammar of JSON texts

What a JSON text is, and which value it spells, said without the reader
(`Spells`). A value can be spelled in many ways: spaces may stand around every
part, a character of a string may be written as itself or as an escape, a
number with a fraction or an exponent, and a key may come twice, the last one
counting. The relation has a text for all of them. What the digits of a number
amount to is taken from `numeral`, for that is a matter of numbers and not of
texts.

The reader accepts every text of the grammar, as long as it is not nested too
deeply, and finds the value that the text spells. The argument goes up with the
scanners, each in front of any rest that could not go on with what it reads,
and then by one induction along the grammar, for values, lists of items and
lists of members at once.

## Main results

* `Spells.parses`: a text of the grammar is read in any place and in front of
  anything that does not go on with it.
* `read_of_spells`: a text is read as the value it spells.
* `read_append_of_spells`: with something behind it, nothing is read.
-/

namespace Errand.Json

/-! ## Texts of numbers -/

/-- Nothing but characters that may stand between the parts of a text. -/
def Spaces (cs : List Char) : Prop := ∀ c ∈ cs, isSpace c = true

/-- A run of digits, at least one. -/
def Digits (ds : List Char) : Prop :=
  ds ≠ [] ∧ ∀ c ∈ ds, (Decimal.digit? c).isSome = true

/-- A fraction, or none. -/
inductive FractionText : Option (List Char) → List Char → Prop where
  | none : FractionText none []
  | some {ds : List Char} : Digits ds → FractionText (some ds) ('.' :: ds)

/-- The number that a run of digits denotes. -/
def amount (ds : List Char) : Int := (Decimal.readFrom 0 ds).getD 0

/-- The digits of an exponent with their sign, which may be left out. -/
inductive SignedText : Int → List Char → Prop where
  | unsigned {ds : List Char} : Digits ds → SignedText (amount ds) ds
  | plus {ds : List Char} : Digits ds → SignedText (amount ds) ('+' :: ds)
  | minus {ds : List Char} : Digits ds → SignedText (-amount ds) ('-' :: ds)

/-- An exponent, or none. -/
inductive ExponentText : Option Int → List Char → Prop where
  | none : ExponentText none []
  | some {letter : Char} {e : Int} {cs : List Char} :
      letter = 'e' ∨ letter = 'E' → SignedText e cs →
      ExponentText (some e) (letter :: cs)

/-- A number that is not too large. Its digits in front of the point do not
begin with zero, unless there is only this one. -/
inductive NumberText : Number → List Char → Prop where
  | intro {negative : Bool} {d : Char}
      {more fractionText exponentText : List Char}
      {fraction : Option (List Char)} {exponent : Option Int} {x : Number} :
      Digits (d :: more) → (d = '0' → more = []) →
      FractionText fraction fractionText →
      ExponentText exponent exponentText →
      numeral negative (d :: more) fraction exponent = some x →
      NumberText x ((if negative then ['-'] else []) ++ d ::
        (more ++ (fractionText ++ exponentText)))

theorem numberText_one : NumberText (.int 1) ['1'] :=
  @NumberText.intro false '1' [] [] [] none none _ ⟨by decide,
    List.forall_mem_singleton.mpr (by decide)⟩
    (by decide) .none .none (by decide)

/-! ## Texts of strings -/

/-- The escapes by a letter, each with what it stands for. -/
def letterEscapes : List (Char × Char) :=
  [('"', '"'), ('\\', '\\'), ('/', '/'), ('b', '\x08'), ('f', '\x0c'),
    ('n', '\n'), ('r', '\r'), ('t', '\t')]

/-- Four hexadecimal digits. -/
inductive UnitText : Nat → List Char → Prop where
  | intro {a b c d : Char} {w x y z : Nat} : hexValue? a = some w →
      hexValue? b = some x →
      hexValue? c = some y → hexValue? d = some z →
      UnitText (((w * 16 + x) * 16 + y) * 16 + z) [a, b, c, d]

/-- A character of a string. -/
inductive CharText : Char → List Char → Prop where
  | plain {c : Char} : c ≠ '"' → c ≠ '\\' → ¬ c.toNat < 0x20 → CharText c [c]
  | letter {c letter : Char} : (letter, c) ∈ letterEscapes →
      CharText c ['\\', letter]
  | unit {n : Nat} {cs : List Char} : UnitText n cs → isLeadUnit n = false →
      isTrailUnit n = false →
      CharText (Char.ofNat n) ('\\' :: 'u' :: cs)
  | pair {n m : Nat} {cs ds : List Char} : UnitText n cs → isLeadUnit n = true →
      UnitText m ds →
      isTrailUnit m = true → CharText
        (Char.ofNat (0x10000 + (n - 0xD800) * 0x400 + (m - 0xDC00)))
        ('\\' :: 'u' :: (cs ++ '\\' :: 'u' :: ds))

/-- A string between its quotes. -/
inductive StringText : List Char → List Char → Prop where
  | nil : StringText [] []
  | cons {c : Char} {s cs ds : List Char} : CharText c cs → StringText s ds →
      StringText (c :: s) (cs ++ ds)

/-- Characters that need no escape stand for themselves. -/
theorem stringText_of_plain {s : List Char}
    (h : (s.all fun c => c ≠ '"' ∧ c ≠ '\\' ∧ ¬ c.toNat < 0x20) = true) :
    StringText s s := by
  induction s with
  | nil => exact .nil
  | cons c s ih =>
      rw [List.all_cons, Bool.and_eq_true, decide_eq_true_eq] at h
      obtain ⟨⟨hQuote, hBackslash, hControl⟩, hRest⟩ := h
      exact .cons (.plain hQuote hBackslash hControl) (ih hRest)

/-! ## Texts of values -/

/-- What a part of a text spells: a value, or the items of an array or the
members of an object, at least one, with what stands around them. -/
inductive Phrase where
  | value (v : Json)
  | items (vs : List Json)
  | members (fields : Fields)

/-- The text spells the phrase, with arrays and objects nested at most `n` deep
in it. -/
inductive Spells : (n : Nat) → Phrase → List Char → Prop where
  | null {n : Nat} : Spells n (.value .null) ['n', 'u', 'l', 'l']
  | bool {n : Nat} (b : Bool) : Spells n (.value (.bool b)) (render (.bool b))
  | number {n : Nat} {x : Number} {cs : List Char} :
      NumberText x cs → Spells n (.value (.num x)) cs
  | string {n : Nat} {s cs : List Char} : StringText s cs →
      Spells n (.value (.str (String.ofList s))) ('"' :: (cs ++ ['"']))
  | emptyArray {n : Nat} {gap : List Char} : Spaces gap →
      Spells (n + 1) (.value (.arr [])) ('[' :: (gap ++ [']']))
  | array {n : Nat} {vs : List Json} {cs : List Char} :
      Spells n (.items vs) cs →
      Spells (n + 1) (.value (.arr vs)) ('[' :: (cs ++ [']']))
  | emptyObject {n : Nat} {gap : List Char} : Spaces gap →
      Spells (n + 1) (.value (.obj [])) ('\x7b' :: (gap ++ ['\x7d']))
  | object {n : Nat} {fields : Fields} {cs : List Char} :
      Spells n (.members fields) cs →
      Spells (n + 1) (.value (.obj (Fields.sorted fields)))
        ('\x7b' :: (cs ++ ['\x7d']))
  | lastItem {n : Nat} {v : Json} {cs gap gap' : List Char} :
      Spaces gap → Spells n (.value v) cs →
      Spaces gap' → Spells n (.items [v]) (gap ++ (cs ++ gap'))
  | item {n : Nat} {v : Json} {vs : List Json} {cs more gap gap' : List Char} :
      Spaces gap →
      Spells n (.value v) cs → Spaces gap' → Spells n (.items vs) more →
      Spells n (.items (v :: vs)) (gap ++ (cs ++ (gap' ++ ',' :: more)))
  | lastMember {n : Nat} {v : Json}
      {key keyText cs gap gap₁ gap₂ gap₃ : List Char} : Spaces gap →
      StringText key keyText → Spaces gap₁ → Spaces gap₂ →
      Spells n (.value v) cs → Spaces gap₃ →
      Spells n (.members [(String.ofList key, v)])
        (gap ++ '"' :: (keyText ++ '"' ::
            (gap₁ ++ ':' :: (gap₂ ++ (cs ++ gap₃)))))
  | member {n : Nat} {v : Json} {fields : Fields}
      {key keyText cs more gap gap₁ gap₂ gap₃ : List Char} :
      Spaces gap → StringText key keyText → Spaces gap₁ → Spaces gap₂ →
      Spells n (.value v) cs →
      Spaces gap₃ → Spells n (.members fields) more →
      Spells n (.members ((String.ofList key, v) :: fields))
        (gap ++ '"' :: (keyText ++ '"' ::
            (gap₁ ++ ':' :: (gap₂ ++ (cs ++ (gap₃ ++ ',' :: more))))))

/-! ## Spaces are no tokens -/

theorem tokens_spaces {gap : List Char} (h : Spaces gap) (rest : List Char) :
    tokens (gap ++ rest) = tokens rest := by
  induction gap with
  | nil => rfl
  | cons c gap ih =>
      obtain ⟨hc, hGap⟩ := List.forall_mem_cons.mp h
      rw [List.cons_append, tokens_space hc, ih hGap]

/-- Spaces do not go on with a number. -/
theorem stops_spaces {gap rest : List Char} (h : Spaces gap)
    (hRest : Stops rest) : Stops (gap ++ rest) := by
  cases gap with
  | nil => exact hRest
  | cons c gap =>
      have hc := h c List.mem_cons_self
      refine stops_cons ?_ _
      simp only [isSpace, Bool.or_eq_true, decide_eq_true_eq] at hc
      rcases hc with ((rfl | rfl) | rfl) | rfl <;> decide

/-! ## Numbers are scanned to their end -/

theorem scanDigits_of_digits {ds rest : List Char} (hDigits : Digits ds)
    (hRest : NoDigit rest) :
    ∃ hLe, scanDigits (ds ++ rest) = .ok (ds, ⟨rest, hLe⟩) := by
  have hLeading := leadingDigits_append hDigits.2 hRest
  have hDrop : (ds ++ rest).drop ds.length = rest := List.drop_left
  obtain ⟨d, more, rfl⟩ := List.exists_cons_of_ne_nil hDigits.1
  have hLe : rest.length ≤ (d :: more ++ rest).length := by
    rw [List.length_append]
    omega
  refine ⟨hLe, ?_⟩
  unfold scanDigits
  simp only [hLeading, hDrop]

theorem scanFraction_of_text {fraction : Option (List Char)}
    {cs rest : List Char} (h : FractionText fraction cs)
    (hPoint : rest.head? ≠ some '.') (hRest : NoDigit rest) :
    ∃ hLe, scanFraction (cs ++ rest) = .ok (fraction, ⟨rest, hLe⟩) := by
  cases h with
  | none =>
      refine ⟨Nat.le_refl _, ?_⟩
      cases rest with
      | nil => rfl
      | cons c rest =>
          show scanFraction (c :: rest) = _
          rw [scanFraction]
          rintro _ ⟨rfl, rfl⟩
          exact hPoint rfl
  | some hDigits =>
      obtain ⟨hLe, hScan⟩ := scanDigits_of_digits hDigits hRest
      refine ⟨Nat.le_succ_of_le hLe, ?_⟩
      simp only [List.cons_append, scanFraction, hScan]
      rfl

theorem scanExponentDigits_of_noSign {cs : List Char}
    (h : ∀ c ∈ cs.head?, c ≠ '+' ∧ c ≠ '-') :
    scanExponentDigits cs = (scanDigits cs).map fun (ds, r) =>
      (amount ds, r) := by
  unfold scanExponentDigits
  split
  · exact absurd rfl (h '+' rfl).1
  · exact absurd rfl (h '-' rfl).2
  · rfl

theorem scanExponentDigits_of_text {e : Int} {cs rest : List Char}
    (h : SignedText e cs) (hRest : NoDigit rest) :
    ∃ hLe, scanExponentDigits (cs ++ rest) = .ok (e, ⟨rest, hLe⟩) := by
  cases h with
  | unsigned hDigits =>
      obtain ⟨hLe, hScan⟩ := scanDigits_of_digits hDigits hRest
      obtain ⟨d, ds, rfl⟩ := List.exists_cons_of_ne_nil hDigits.1
      have hd := hDigits.2 d List.mem_cons_self
      have hNoSign : ∀ c ∈ (d :: ds ++ rest).head?, c ≠ '+' ∧ c ≠ '-' := by
        rintro c ⟨rfl⟩
        constructor <;> rintro rfl <;> exact absurd hd (by decide)
      refine ⟨hLe, ?_⟩
      rw [scanExponentDigits_of_noSign hNoSign, hScan]
      rfl
  | plus hDigits =>
      obtain ⟨hLe, hScan⟩ := scanDigits_of_digits hDigits hRest
      refine ⟨Nat.le_succ_of_le hLe, ?_⟩
      simp only [List.cons_append, scanExponentDigits, hScan]
      rfl
  | minus hDigits =>
      obtain ⟨hLe, hScan⟩ := scanDigits_of_digits hDigits hRest
      refine ⟨Nat.le_succ_of_le hLe, ?_⟩
      simp only [List.cons_append, scanExponentDigits, hScan]
      rfl

theorem scanExponent_of_text {exponent : Option Int} {cs rest : List Char}
    (h : ExponentText exponent cs) (hRest : Stops rest) :
    ∃ hLe, scanExponent (cs ++ rest) = .ok (exponent, ⟨rest, hLe⟩) := by
  cases h with
  | none =>
      refine ⟨Nat.le_refl _, ?_⟩
      cases rest with
      | nil => rfl
      | cons c rest =>
          obtain ⟨-, -, he, hE⟩ := hRest c rfl
          simp [scanExponent, he, hE]
  | some hLetter hSigned =>
      obtain ⟨hLe, hScan⟩ := scanExponentDigits_of_text hSigned hRest.noDigit
      refine ⟨Nat.le_succ_of_le hLe, ?_⟩
      simp only [List.cons_append, scanExponent, if_pos hLetter, hScan]
      rfl

/-- What comes behind the digits in front of the point does not begin with
one. -/
theorem noDigit_exponent {exponent : Option Int} {cs rest : List Char}
    (h : ExponentText exponent cs) (hRest : Stops rest) :
    NoDigit (cs ++ rest) ∧ (cs ++ rest).head? ≠ some '.' := by
  cases h with
  | none => exact ⟨hRest.noDigit, fun hPoint => (hRest '.' hPoint).2.1 rfl⟩
  | some hLetter _ =>
      constructor
      · rintro c ⟨rfl⟩
        rcases hLetter with rfl | rfl <;> decide
      · rintro ⟨rfl⟩
        exact absurd hLetter (by decide)

theorem noDigit_fraction {fraction : Option (List Char)} {cs rest : List Char}
    (h : FractionText fraction cs) (hRest : NoDigit rest) :
    NoDigit (cs ++ rest) := by
  cases h with
  | none => exact hRest
  | some _ =>
      rintro c ⟨rfl⟩
      decide

/-- A number is scanned to its end, from its first digit on. -/
theorem scanFromDigit_of_text (negative : Bool) {d : Char}
    {more fractionText exponentText rest : List Char}
    {fraction : Option (List Char)} {exponent : Option Int}
    (hDigits : Digits (d :: more)) (hZero : d = '0' → more = [])
    (hFraction : FractionText fraction fractionText)
    (hExponent : ExponentText exponent exponentText) (hRest : Stops rest) :
    ∃ hLe, scanFromDigit negative d
      (more ++ (fractionText ++ (exponentText ++ rest))) =
      .ok (numeral negative (d :: more) fraction exponent, ⟨rest, hLe⟩) := by
  obtain ⟨hNext, hPoint⟩ := noDigit_exponent hExponent hRest
  have hMore :
      leadingDigits (more ++ (fractionText ++ (exponentText ++ rest))) = more :=
    leadingDigits_append (List.forall_mem_cons.mp hDigits.2).2
      (noDigit_fraction hFraction hNext)
  obtain ⟨hLe₁, hScan₁⟩ := scanFraction_of_text hFraction hPoint hNext
  obtain ⟨hLe₂, hScan₂⟩ := scanExponent_of_text hExponent hRest
  have hAfter : scanAfterWhole negative (d :: more)
        (fractionText ++ (exponentText ++ rest)) =
      .ok (numeral negative (d :: more) fraction exponent,
        ⟨rest, Nat.le_trans hLe₂ hLe₁⟩) := by
    unfold scanAfterWhole
    rw [hScan₁]
    show (scanExponent (exponentText ++ rest) >>= _) = _
    rw [hScan₂]
    rfl
  exact scanFromDigit_of_after negative hMore List.drop_left hZero hAfter

/-- A number is one token. -/
theorem tokens_number {x : Number} {cs rest : List Char} (h : NumberText x cs)
    (hRest : Stops rest) :
    tokens (cs ++ rest) = .num (some x) :: tokens rest := by
  obtain ⟨hDigits, hZero, hFraction, hExponent, hValue⟩ := h
  rename_i negative d more fractionText exponentText fraction exponent
  obtain ⟨hLe, hScan⟩ :=
    scanFromDigit_of_text negative hDigits hZero hFraction hExponent hRest
  have hd := hDigits.2 d List.mem_cons_self
  rw [hValue] at hScan
  cases negative with
  | false =>
      simp only [Bool.false_eq_true, if_false, List.nil_append,
        List.cons_append, List.append_assoc]
      exact tokens_cons (isSpace_digit hd) (scanToken_of_digit hd hScan)
  | true =>
      simp only [if_true, List.cons_append, List.nil_append, List.append_assoc]
      have hToken : ∃ hLe', scanToken '-'
            (d :: (more ++ (fractionText ++ (exponentText ++ rest)))) =
          (.num (some x), some ⟨rest, hLe'⟩) := by
        refine ⟨Nat.le_succ_of_le hLe, ?_⟩
        simp only [scanToken, scanNegative, hd, if_true, hScan]
        rfl
      obtain ⟨hLe', hToken⟩ := hToken
      exact tokens_cons rfl hToken

/-! ## Strings are scanned to their closing quote -/

theorem scanUnit_of_text {n : Nat} {cs : List Char} (h : UnitText n cs)
    (rest : List Char) :
    ∃ hLe, scanUnit (cs ++ rest) = .ok (n, ⟨rest, hLe⟩) := by
  obtain ⟨ha, hb, hc, hd⟩ := h
  rename_i a b c d w x y z
  have hLe : rest.length ≤ (a :: b :: c :: d :: rest).length := by
    simp only [List.length_cons]
    omega
  refine ⟨hLe, ?_⟩
  simp only [List.cons_append, List.nil_append, scanUnit, ha, hb, hc, hd]

theorem scanNumbered_of_unit {n : Nat} {cs : List Char} (h : UnitText n cs)
    (hLead : isLeadUnit n = false) (hTrail : isTrailUnit n = false)
    (rest : List Char) :
    ∃ hLe, scanNumbered (cs ++ rest) =
      .ok (some (Char.ofNat n), ⟨rest, hLe⟩) := by
  obtain ⟨hLe, hScan⟩ := scanUnit_of_text h rest
  exact ⟨hLe, scanNumbered_of_scanUnit hScan hLead hTrail⟩

theorem scanNumbered_of_pair {n m : Nat} {cs ds : List Char} (h : UnitText n cs)
    (hLead : isLeadUnit n = true) (h' : UnitText m ds)
    (hTrail : isTrailUnit m = true) (rest : List Char) :
    ∃ hLe, scanNumbered (cs ++ '\\' :: 'u' :: (ds ++ rest)) =
      .ok (some (Char.ofNat (0x10000 + (n - 0xD800) * 0x400 + (m - 0xDC00))),
        ⟨rest, hLe⟩) := by
  obtain ⟨hLe, hScan⟩ := scanUnit_of_text h ('\\' :: 'u' :: (ds ++ rest))
  obtain ⟨hLe', hScan'⟩ := scanUnit_of_text h' rest
  have hLe'' : rest.length ≤ (cs ++ '\\' :: 'u' :: (ds ++ rest)).length := by
    simp only [List.length_append, List.length_cons]
    omega
  refine ⟨hLe'', ?_⟩
  unfold scanNumbered
  rw [hScan]
  show (if isLeadUnit n = true then _ else _) = _
  rw [hLead]
  show (scanUnit (ds ++ rest) >>= _) = _
  rw [hScan']
  show (if isTrailUnit m = true then _ else _) = _
  rw [hTrail]
  rfl

theorem scanEscape_of_numbered {c : Char} {cs rest : List Char} {hLe}
    (h : scanNumbered cs = .ok (some c, ⟨rest, hLe⟩)) :
    ∃ hLe', scanEscape ('u' :: cs) = .ok (some c, ⟨rest, hLe'⟩) := by
  refine ⟨Nat.le_succ_of_le hLe, ?_⟩
  simp only [scanEscape, h]
  rfl

theorem scanEscape_of_letter {c letter : Char} (h : (letter, c) ∈ letterEscapes)
    (rest : List Char) :
    ∃ hLe, scanEscape (letter :: rest) = .ok (some c, ⟨rest, hLe⟩) := by
  refine ⟨Nat.le_succ _, ?_⟩
  simp only [letterEscapes, List.mem_cons, Prod.mk.injEq, List.not_mem_nil,
    or_false] at h
  rcases h with
      ⟨rfl, rfl⟩ | ⟨rfl, rfl⟩ | ⟨rfl, rfl⟩ | ⟨rfl, rfl⟩ | ⟨rfl, rfl⟩ |
      ⟨rfl, rfl⟩ | ⟨rfl, rfl⟩ | ⟨rfl, rfl⟩ <;> rfl

/-- A character is read in whatever way it is written. -/
theorem outcome_scanString_charText {c : Char} {cs : List Char}
    (h : CharText c cs) (read rest : List Char) :
    (scanString true read (cs ++ rest)).outcome =
      (scanString true (c :: read) rest).outcome := by
  cases h with
  | plain hQuote hEscape hControl =>
      exact outcome_scanString_cons read rest hQuote hEscape hControl
  | letter hMem =>
      obtain ⟨_, hScan⟩ := scanEscape_of_letter hMem rest
      exact outcome_scanString_escape read hScan
  | unit hUnit hLead hTrail =>
      obtain ⟨_, hNumbered⟩ := scanNumbered_of_unit hUnit hLead hTrail rest
      obtain ⟨_, hScan⟩ := scanEscape_of_numbered hNumbered
      exact outcome_scanString_escape read hScan
  | pair hUnit hLead hUnit' hTrail =>
      obtain ⟨_, hNumbered⟩ :=
        scanNumbered_of_pair hUnit hLead hUnit' hTrail rest
      obtain ⟨_, hScan⟩ := scanEscape_of_numbered hNumbered
      rw [List.cons_append, List.cons_append, List.append_assoc,
        List.cons_append, List.cons_append]
      exact outcome_scanString_escape read hScan

theorem outcome_scanString_stringText {s cs : List Char} (h : StringText s cs)
    (read rest : List Char) :
    (scanString true read (cs ++ '"' :: rest)).outcome =
      some (some (String.ofList (read.reverse ++ s)), rest) := by
  induction h generalizing read with
  | nil =>
      rw [List.nil_append, scanString, List.append_nil]
      rfl
  | cons hChar _ ih =>
      rw [List.append_assoc, outcome_scanString_charText hChar, ih,
        List.reverse_cons, List.append_assoc, List.singleton_append]

/-- A string is one token. -/
theorem tokens_stringText {s cs : List Char} (h : StringText s cs)
    (rest : List Char) :
    tokens ('"' :: (cs ++ '"' :: rest)) = .str (some (String.ofList s)) ::
      tokens rest :=
  tokens_string (outcome_scanString_stringText h [] rest)

/-! ## Values, items and members are read -/

/-- What follows does not go on with the text of the value, which it could only
do with a number. -/
def Ends (v : Json) (rest : List Char) : Prop := ∀ x, v = .num x → Stops rest

theorem ends_of_stops {rest : List Char} (h : Stops rest) (v : Json) :
    Ends v rest := fun _ _ => h

/-- A text is read for what it spells: its events are such that reading them
puts the value in place, adds the items to an open array, or puts the members
into an open object. -/
def Parses (n : Nat) : Phrase → List Char → Prop
  | .value v, cs =>
  ∀ (place : Place) (around : List Enclosing) (rest : List Char),
      place = .value ∨ place = .firstItem → Ends v rest →
      ∃ es, parse place around (tokens (cs ++ rest)) =
        es ++ parse .next around (tokens rest) ∧
        ∀ (room : Nat) (opened : List Unfinished) (tail : List Event),
        opened.length + n ≤ room →
          take room opened (es ++ tail) = resume room v opened tail
  | .items vs, cs =>
  ∀ (place : Place) (outer : List Enclosing) (rest : List Char),
      place = .value ∨ place = .firstItem →
      ∃ es, parse place (.array :: outer) (tokens (cs ++ ']' :: rest)) =
          es ++ .closeArr :: parse .next outer (tokens rest) ∧
        ∀ (room : Nat) (opened : List Unfinished) (done : List Json)
        (tail : List Event),
          opened.length + 1 + n ≤ room →
            take room (.items done :: opened) (es ++ tail) =
              take room (.items (vs.reverse ++ done) :: opened) tail
  | .members fields, cs =>
  ∀ (place : Place) (outer : List Enclosing) (rest : List Char),
      place = .key ∨ place = .firstKey →
      ∃ es, parse place (.object :: outer) (tokens (cs ++ '\x7d' :: rest)) =
          es ++ .closeObj :: parse .next outer (tokens rest) ∧
        ∀ (room : Nat) (opened : List Unfinished) (done : Fields) (key : String)
        (tail : List Event),
          opened.length + 1 + n ≤ room →
            ∃ last, take room (.fields done key :: opened) (es ++ tail) =
              take room (.fields (Fields.insertAll done fields) last :: opened)
                tail

/-- The end of an object takes the place of its first key only. -/
theorem parse_of_takesKey {place : Place}
    (hPlace : place = .key ∨ place = .firstKey) (s : Option String)
    (around : List Enclosing) (ts : List Token) :
    parse place around (.str s :: ts) = .key s :: parse .colon around ts := by
  rcases hPlace with rfl | rfl
  · rfl
  · cases around with
    | nil => rfl
    | cons e outer => cases e <;> rfl

/-- An array or object is opened if there is room for one more level. -/
theorem take_opened {room n : Nat} {opened : List Unfinished}
    (hRoom : opened.length + (n + 1) ≤ room) (es : List Event) :
    take room opened (.openArr :: es) = take room (.items [] :: opened) es ∧
      take room opened (.openObj :: es) =
        take room (.fields [] "" :: opened) es := by
  have hEnter : opened.length < room := by omega
  constructor
  · show (if opened.length < room then _ else _) = _
    rw [if_pos hEnter]
  · show (if opened.length < room then _ else _) = _
    rw [if_pos hEnter]

namespace Parses

variable {n : Nat} {v : Json} {vs : List Json} {fields : Fields}
  {cs more gap gap' : List Char}

/-- A value of one token. -/
theorem token {t : Token} {e : Event}
    (hTokens : ∀ rest, Ends v rest → tokens (cs ++ rest) = t :: tokens rest)
    (ht : t ≠ .closeArr)
    (hParse : ∀ around ts, parse .value around (t :: ts) =
      e :: parse .next around ts)
    (hTake : ∀ room opened tail, take room opened (e :: tail) =
      resume room v opened tail) : Parses n (.value v) cs := by
  intro place around rest hPlace hEnds
  refine ⟨[e], ?_, fun room opened tail _ => hTake room opened tail⟩
  rw [hTokens rest hEnds, parse_of_takesValue hPlace ht, hParse]
  rfl

theorem emptyArray (hGap : Spaces gap) :
    Parses (n + 1) (.value (.arr [])) ('[' :: (gap ++ [']'])) := by
  intro place around rest hPlace _
  refine ⟨[.openArr, .closeArr], ?_,
    fun room opened tail hRoom => (take_opened hRoom _).1⟩
  rw [List.cons_append, List.append_assoc, List.singleton_append,
    tokens_openArr, tokens_spaces hGap, tokens_closeArr,
    parse_of_takesValue hPlace (by decide)]
  rfl

theorem array (h : Parses n (.items vs) cs) :
    Parses (n + 1) (.value (.arr vs)) ('[' :: (cs ++ [']'])) := by
  intro place around rest hPlace _
  obtain ⟨es, hParse, hTake⟩ := h .firstItem around rest (.inr rfl)
  refine ⟨.openArr :: (es ++ [.closeArr]), ?_, fun room opened tail hRoom => ?_⟩
  · rw [List.cons_append, List.append_assoc, List.singleton_append,
      tokens_openArr, parse_of_takesValue hPlace (by decide)]
    show .openArr :: parse .firstItem (.array :: around) _ = _
    rw [hParse]
    simp
  · rw [List.cons_append, List.append_assoc, (take_opened hRoom _).1,
      hTake room opened [] _ (by omega), List.append_nil]
    show resume room (.arr vs.reverse.reverse) opened tail = _
    rw [List.reverse_reverse]

theorem emptyObject (hGap : Spaces gap) :
    Parses (n + 1) (.value (.obj [])) ('\x7b' :: (gap ++ ['\x7d'])) := by
  intro place around rest hPlace _
  refine ⟨[.openObj, .closeObj], ?_,
    fun room opened tail hRoom => (take_opened hRoom _).2⟩
  rw [List.cons_append, List.append_assoc, List.singleton_append,
    tokens_openObj, tokens_spaces hGap, tokens_closeObj,
    parse_of_takesValue hPlace (by decide)]
  rfl

theorem object (h : Parses n (.members fields) cs) :
    Parses (n + 1) (.value (.obj (Fields.sorted fields)))
      ('\x7b' :: (cs ++ ['\x7d'])) := by
  intro place around rest hPlace _
  obtain ⟨es, hParse, hTake⟩ := h .firstKey around rest (.inr rfl)
  refine ⟨.openObj :: (es ++ [.closeObj]), ?_, fun room opened tail hRoom => ?_⟩
  · rw [List.cons_append, List.append_assoc, List.singleton_append,
      tokens_openObj, parse_of_takesValue hPlace (by decide)]
    show .openObj :: parse .firstKey (.object :: around) _ = _
    rw [hParse]
    simp
  · rw [List.cons_append, List.append_assoc, (take_opened hRoom _).2]
    obtain ⟨last, hFields⟩ :=
      hTake room opened [] "" ([.closeObj] ++ tail) (by omega)
    rw [hFields]
    rfl

theorem lastItem (hGap : Spaces gap) (h : Parses n (.value v) cs)
    (hGap' : Spaces gap') : Parses n (.items [v]) (gap ++ (cs ++ gap')) := by
  intro place outer rest hPlace
  have hStops : Stops (gap' ++ ']' :: rest) :=
    stops_spaces hGap' (stops_cons (by decide) rest)
  obtain ⟨es, hParse, hTake⟩ :=
    h place (.array :: outer) _ hPlace (ends_of_stops hStops v)
  refine ⟨es, ?_, fun room opened done tail hRoom =>
    hTake room (.items done :: opened) tail hRoom⟩
  rw [List.append_assoc, List.append_assoc, tokens_spaces hGap, hParse,
    tokens_spaces hGap', tokens_closeArr]
  rfl

theorem item (hGap : Spaces gap) (h : Parses n (.value v) cs)
    (hGap' : Spaces gap') (hMore : Parses n (.items vs) more) :
    Parses n (.items (v :: vs)) (gap ++ (cs ++ (gap' ++ ',' :: more))) := by
  intro place outer rest hPlace
  have hStops : Stops (gap' ++ ',' :: (more ++ ']' :: rest)) :=
    stops_spaces hGap' (stops_cons (by decide) _)
  obtain ⟨es, hParse, hTake⟩ :=
    h place (.array :: outer) _ hPlace (ends_of_stops hStops v)
  obtain ⟨es', hParse', hTake'⟩ := hMore .value outer rest (.inl rfl)
  refine ⟨es ++ es', ?_, fun room opened done tail hRoom => ?_⟩
  · simp only [List.append_assoc, List.cons_append]
    rw [tokens_spaces hGap, hParse, tokens_spaces hGap', tokens_comma]
    show es ++ parse .value (.array :: outer) _ = _
    rw [hParse']
  · have hItem := hTake room (.items done :: opened) (es' ++ tail) hRoom
    rw [List.append_assoc, hItem]
    show take room (.items (v :: done) :: opened) (es' ++ tail) = _
    rw [hTake' room opened _ tail hRoom, List.reverse_cons, List.append_assoc]
    rfl

section

variable {key keyText gap₁ gap₂ gap₃ : List Char} (hGap : Spaces gap)
  (hKey : StringText key keyText) (hGap₁ : Spaces gap₁) (hGap₂ : Spaces gap₂)
  (h : Parses n (.value v) cs)

include hGap hKey hGap₁ hGap₂ h

/-- The key, the colon and the value of a member. -/
theorem keyed {place : Place} (hPlace : place = .key ∨ place = .firstKey)
    (outer : List Enclosing) {rest : List Char} (hRest : Stops rest) :
    ∃ es, parse place (.object :: outer)
        (tokens
          (gap ++ '"' :: (keyText ++ '"' ::
              (gap₁ ++ ':' :: (gap₂ ++ (cs ++ rest)))))) =
          es ++ parse .next (.object :: outer) (tokens rest) ∧
      ∀ (room : Nat) (opened : List Unfinished) (done : Fields) (last : String)
      (tail : List Event),
        opened.length + 1 + n ≤ room →
        take room (.fields done last :: opened) (es ++ tail) =
          take room (.fields (Fields.insert (String.ofList key) v done)
            (String.ofList key) :: opened) tail := by
  obtain ⟨es, hParse, hTake⟩ :=
    h .value (.object :: outer) rest (.inl rfl) (ends_of_stops hRest v)
  refine ⟨.key (some (String.ofList key)) :: es, ?_,
    fun room opened done last tail hRoom =>
      hTake room (.fields done (String.ofList key) :: opened) tail hRoom⟩
  rw [tokens_spaces hGap, tokens_stringText hKey, tokens_spaces hGap₁,
    tokens_colon, tokens_spaces hGap₂, parse_of_takesKey hPlace]
  show .key _ :: parse .value (.object :: outer) _ = _
  rw [hParse]
  rfl

theorem lastMember (hGap₃ : Spaces gap₃) :
    Parses n (.members [(String.ofList key, v)])
    (gap ++ '"' :: (keyText ++ '"' ::
        (gap₁ ++ ':' :: (gap₂ ++ (cs ++ gap₃))))) := by
  intro place outer rest hPlace
  have hStops : Stops (gap₃ ++ '\x7d' :: rest) :=
    stops_spaces hGap₃ (stops_cons (by decide) rest)
  obtain ⟨es, hParse, hTake⟩ :=
    keyed hGap hKey hGap₁ hGap₂ h hPlace outer hStops
  refine ⟨es, ?_, fun room opened done key tail hRoom =>
    ⟨_, hTake room opened done key tail hRoom⟩⟩
  simp only [List.append_assoc, List.cons_append]
  rw [hParse, tokens_spaces hGap₃, tokens_closeObj]
  rfl

theorem member (hGap₃ : Spaces gap₃) (hMore : Parses n (.members fields) more) :
    Parses n (.members ((String.ofList key, v) :: fields))
      (gap ++ '"' :: (keyText ++ '"' ::
          (gap₁ ++ ':' :: (gap₂ ++ (cs ++ (gap₃ ++ ',' :: more)))))) := by
  intro place outer rest hPlace
  have hStops : Stops (gap₃ ++ ',' :: (more ++ '\x7d' :: rest)) :=
    stops_spaces hGap₃ (stops_cons (by decide) _)
  obtain ⟨es, hParse, hTake⟩ :=
    keyed hGap hKey hGap₁ hGap₂ h hPlace outer hStops
  obtain ⟨es', hParse', hTake'⟩ := hMore .key outer rest (.inl rfl)
  refine ⟨es ++ es', ?_, fun room opened done key tail hRoom => ?_⟩
  · simp only [List.append_assoc, List.cons_append]
    rw [hParse, tokens_spaces hGap₃, tokens_comma]
    show es ++ parse .key (.object :: outer) _ = _
    rw [hParse']
  · rw [List.append_assoc, hTake room opened done key _ hRoom]
    exact hTake' room opened _ _ tail hRoom

end

end Parses

/-- **A text of the grammar is read**, wherever it stands. -/
theorem Spells.parses {n : Nat} {p : Phrase} {cs : List Char}
    (h : Spells n p cs) : Parses n p cs := by
  induction h with
  | null =>
      exact .token (fun rest _ => (tokens_renderWord rest).1) (by simp)
        (fun _ _ => rfl) fun _ _ _ => rfl
  | bool b =>
      exact .token (fun rest _ => (tokens_renderWord rest).2 b) (by simp)
        (fun _ _ => rfl) fun _ _ _ => rfl
  | number hText =>
      exact .token (fun rest hEnds => tokens_number hText (hEnds _ rfl))
        (by simp) (fun _ _ => rfl)
        fun _ _ _ => rfl
  | @string _ s _ hText =>
      refine .token (t := .str (some (String.ofList s))) (fun rest _ => ?_)
        (by simp) (fun _ _ => rfl)
        fun _ _ _ => rfl
      rw [List.cons_append, List.append_assoc, List.singleton_append]
      exact tokens_stringText hText rest
  | emptyArray hGap => exact .emptyArray hGap
  | array _ ih => exact ih.array
  | emptyObject hGap => exact .emptyObject hGap
  | object _ ih => exact ih.object
  | lastItem hGap _ hGap' ih => exact .lastItem hGap ih hGap'
  | item hGap _ hGap' _ ih ihMore => exact .item hGap ih hGap' ihMore
  | lastMember hGap hKey hGap₁ hGap₂ _ hGap₃ ih =>
      exact .lastMember hGap hKey hGap₁ hGap₂ ih hGap₃
  | member hGap hKey hGap₁ hGap₂ _ hGap₃ _ ih ihMore =>
      exact .member hGap hKey hGap₁ hGap₂ ih hGap₃ ihMore

/-! ## Whole texts -/

section

variable {n : Nat} {v : Json} {cs : List Char}

/-- The events of a text and of what comes behind it. -/
theorem Spells.exists_take (h : Spells n (.value v) cs) (hDepth : n ≤ maxDepth)
    {rest : List Char} (hEnds : Ends v rest) :
    ∃ es, events (cs ++ rest) = es ++ parse .next [] (tokens rest) ∧
      ∀ tail, take maxDepth [] (es ++ tail) = .ok (v, tail) := by
  obtain ⟨es, hParse, hTake⟩ := h.parses .value [] rest (.inl rfl) hEnds
  refine ⟨es, hParse, fun tail => ?_⟩
  rw [hTake maxDepth [] tail (by rw [List.length_nil]; omega)]
  rfl

theorem tokens_nil : tokens [] = [] := by
  rw [tokens_eq]
  rfl

/-- **A text is read as the value it spells.** -/
theorem read_of_spells (h : Spells n (.value v) cs) (hDepth : n ≤ maxDepth) :
    read cs = .ok v := by
  have hStops : Stops [] := nofun
  obtain ⟨es, hEvents, hTake⟩ := h.exists_take hDepth (ends_of_stops hStops v)
  rw [List.append_nil, tokens_nil] at hEvents
  unfold read
  rw [hEvents, hTake]
  rfl

/-- **Nothing is read if something comes behind the text** that is more than
spaces. -/
theorem read_append_of_spells (h : Spells n (.value v) cs)
    (hDepth : n ≤ maxDepth) {rest : List Char} (hEnds : Ends v rest)
    (hRest : skipSpace rest ≠ []) : read (cs ++ rest) = .error .malformed := by
  obtain ⟨es, hEvents, hTake⟩ := h.exists_take hDepth hEnds
  obtain ⟨t, ts, hTokens⟩ : ∃ t ts, tokens rest = t :: ts := by
    rw [tokens_eq]
    cases hSkip : skipSpace rest with
    | nil => exact absurd hSkip hRest
    | cons c rest' =>
        rcases hScan : scanToken c rest' with ⟨t, _ | r⟩ <;> simp [hScan]
  unfold read
  rw [hEvents, hTake, hTokens]
  rfl

end

end Errand.Json
