import Errand.Json.Event
import Errand.Proofs.Json.Shape

/-!
# Written values and their events

What is written is read back the way it was meant, up to the level of events:
the text of a value without fractions has the events of the value, and no
others.

The argument goes up with the scanners. The notation of a number reads as the
number, and a scan of it ends where the number ends, as long as nothing follows
that could go on with it; a written string is scanned up to its closing quote,
whatever characters are in it. So every piece of a written value is one token.
The grammar then makes of these tokens the events of the value, by induction on
the value together with the rest of an array and the rest of an object.

## Main results

* `Decimal.readFrom_ofNat`: the notation of a number reads as the number.
* `outcome_scanString_escaped`: a text is scanned as it is written.
* `events_render`: a written value has its own events.
-/

namespace Errand.Decimal

/-! ## Digits -/

theorem digit?_digitChar (d : Nat) : digit? (digitChar d) = some (d % 10) := by
  have hAll : ∀ d < 10, digit? (Char.ofNat (0x30 + d)) = some d := by decide
  exact hAll (d % 10) (Nat.mod_lt d (by decide))

theorem ofNatOnto_eq_append (n : Nat) (tail : List Char) :
    ofNatOnto n tail = ofNat n ++ tail := by
  induction n using Nat.strongRecOn generalizing tail with
  | _ n ih =>
      by_cases hn : n < 10
      · rw [ofNatOnto, if_pos hn, ofNat, ofNatOnto, if_pos hn,
          List.singleton_append]
      · have hLess : n / 10 < n := by omega
        rw [ofNatOnto, ofNat, ofNatOnto.eq_def n [], if_neg hn, if_neg hn,
          ih _ hLess, ih _ hLess [digitChar n], List.append_assoc,
          List.singleton_append]

theorem ofNat_of_lt {n : Nat} (hn : n < 10) : ofNat n = [digitChar n] := by
  rw [ofNat, ofNatOnto, if_pos hn]

theorem ofNat_of_le {n : Nat} (hn : 10 ≤ n) :
    ofNat n = ofNat (n / 10) ++ [digitChar n] := by
  rw [ofNat, ofNatOnto, if_neg (Nat.not_lt.mpr hn), ofNatOnto_eq_append]

theorem readFrom_append (v : Nat) (as bs : List Char) :
    readFrom v (as ++ bs) = (readFrom v as).bind fun w => readFrom w bs := by
  induction as generalizing v with
  | nil => rfl
  | cons c rest ih =>
      cases hc : digit? c <;> simp [readFrom, hc, ih]

/-- The notation of a number reads as that number. -/
theorem readFrom_ofNat (n : Nat) : readFrom 0 (ofNat n) = some n := by
  induction n using Nat.strongRecOn with
  | _ n ih =>
      by_cases hn : n < 10
      · rw [ofNat_of_lt hn, readFrom, digit?_digitChar, Option.bind_some,
          readFrom, Nat.mod_eq_of_lt hn, Nat.zero_mul, Nat.zero_add]
      · have hLast : n / 10 * 10 + n % 10 = n := by omega
        rw [ofNat_of_le (Nat.not_lt.mp hn), readFrom_append,
          ih (n / 10) (by omega), Option.bind_some, readFrom, digit?_digitChar,
          Option.bind_some, readFrom, hLast]

/-- What reads as a number consists of digits. -/
theorem isSome_digit?_of_readFrom {v w : Nat} {ds : List Char}
    (h : readFrom v ds = some w) : ∀ c ∈ ds, (digit? c).isSome = true := by
  induction ds generalizing v with
  | nil => nofun
  | cons d rest ih =>
      obtain ⟨x, hd, hRest⟩ := Option.bind_eq_some_iff.mp h
      rintro c (_ | ⟨_, hc⟩)
      · rw [hd]
        rfl
      · exact ih hRest c hc

/-- More digits make a number no smaller. -/
theorem le_of_readFrom {v w : Nat} {ds : List Char}
    (h : readFrom v ds = some w) : v ≤ w := by
  induction ds generalizing v with
  | nil => exact Nat.le_of_eq (Option.some.inj h)
  | cons d rest ih =>
      obtain ⟨x, -, hRest⟩ := Option.bind_eq_some_iff.mp h
      have := ih hRest
      omega

/-- The notation of a number has a first digit, and that is zero for no number
but zero. -/
theorem exists_ofNat_eq_cons (n : Nat) :
    ∃ d ds, ofNat n = d :: ds ∧ (d = '0' → ds = []) := by
  induction n using Nat.strongRecOn with
  | _ n ih =>
      by_cases hn : n < 10
      · exact ⟨_, [], ofNat_of_lt hn, fun _ => rfl⟩
      · obtain ⟨d, ds, hPrefix, hZero⟩ := ih (n / 10) (by omega)
        refine ⟨d, ds ++ [digitChar n], ?_, fun hd => ?_⟩
        · rw [ofNat_of_le (Nat.not_lt.mp hn), hPrefix, List.cons_append]
        · have hRead := readFrom_ofNat (n / 10)
          rw [hPrefix, hd, hZero hd] at hRead
          have hSmall : 0 = n / 10 := Option.some.inj hRead
          omega

end Errand.Decimal

namespace Errand.Json

/-! ## Numbers -/

/-- The text does not begin with a digit. -/
def NoDigit (cs : List Char) : Prop := ∀ c ∈ cs.head?, Decimal.digit? c = none

/-- What follows does not go on with a number. -/
def Stops (rest : List Char) : Prop :=
  ∀ c ∈ rest.head?, Decimal.digit? c = none ∧ c ≠ '.' ∧ c ≠ 'e' ∧ c ≠ 'E'

theorem Stops.noDigit {rest : List Char} (h : Stops rest) : NoDigit rest :=
  fun c hc => (h c hc).1

theorem takeFitting_of_readFrom {v w : Nat} {ds : List Char} (taken : Nat)
    (h : Decimal.readFrom v ds = some w) (hw : w ≤ maxCount) :
    takeFitting v taken ds = (w, taken + ds.length) := by
  induction ds generalizing v taken with
  | nil =>
      obtain rfl : v = w := Option.some.inj h
      rfl
  | cons d rest ih =>
      obtain ⟨x, hd, hRest⟩ := Option.bind_eq_some_iff.mp h
      have hFits : v * 10 + x ≤ maxCount :=
        Nat.le_trans (Decimal.le_of_readFrom hRest) hw
      rw [takeFitting, hd]
      simp only [Option.getD_some, hFits, if_true]
      rw [ih (taken + 1) hRest, List.length_cons, Nat.add_assoc, Nat.add_comm 1]

theorem numeral_ofNat {n : Nat} (hn : n ≤ maxCount) :
    numeral false (Decimal.ofNat n) none none = some (.int n) := by
  unfold numeral
  rw [takeFitting_of_readFrom 0 (Decimal.readFrom_ofNat n) hn]
  simp

theorem numeral_ofNat_negative {n : Nat} (hZero : n ≠ 0)
    (hn : n ≤ 0x8000000000000000) :
    numeral true (Decimal.ofNat n) none none = some (.int (-n)) := by
  unfold numeral
  rw [takeFitting_of_readFrom 0 (Decimal.readFrom_ofNat n)
    (Nat.le_trans hn (by decide))]
  simp [hZero, hn]

/-- The digits at the front are those up to where no digit follows. -/
theorem leadingDigits_append {ds rest : List Char}
    (hDigits : ∀ c ∈ ds, (Decimal.digit? c).isSome = true)
    (hRest : NoDigit rest) : leadingDigits (ds ++ rest) = ds := by
  unfold leadingDigits
  rw [List.takeWhile_append_of_pos hDigits]
  cases rest with
  | nil => simp
  | cons c rest =>
      have hc := hRest c rfl
      simp [hc]

theorem scanAfterWhole_of_stops (negative : Bool) (whole : List Char)
    {rest : List Char} (hRest : Stops rest) :
    scanAfterWhole negative whole rest =
      .ok (numeral negative whole none none, ⟨rest, Nat.le_refl _⟩) := by
  have hFraction : scanFraction rest = .ok (none, ⟨rest, Nat.le_refl _⟩) := by
    cases rest with
    | nil => rfl
    | cons c rest =>
        rw [scanFraction]
        rintro _ ⟨rfl, rfl⟩
        exact (hRest '.' rfl).2.1 rfl
  have hExponent : scanExponent rest = .ok (none, ⟨rest, Nat.le_refl _⟩) := by
    cases rest with
    | nil => rfl
    | cons c rest =>
        obtain ⟨-, -, he, hE⟩ := hRest c rfl
        simp [scanExponent, he, hE]
  unfold scanAfterWhole
  rw [hFraction]
  show (scanExponent rest >>= _) = _
  rw [hExponent]
  rfl

theorem scanFromDigit_of_after (negative : Bool) {d : Char}
    {rest more rest' : List Char} {n : Option Number} {r : Rest rest'}
    (hMore : leadingDigits rest = more) (hDrop : rest.drop more.length = rest')
    (hZero : d = '0' → more = [])
    (hAfter : scanAfterWhole negative (d :: more) rest' = .ok (n, r)) :
    ∃ hLe, scanFromDigit negative d rest = .ok (n, ⟨r.1, hLe⟩) := by
  subst hMore hDrop
  have hPlain : ¬ (d = '0' ∧ (!(leadingDigits rest).isEmpty) = true) := by
    rintro ⟨hd, hSome⟩
    rw [hZero hd] at hSome
    cases hSome
  unfold scanFromDigit
  rw [if_neg hPlain, hAfter]
  exact ⟨_, rfl⟩

/-- The notation of a number is read up to its end. -/
theorem scanFromDigit_ofNat (negative : Bool) {n : Nat} {d : Char}
    {ds rest : List Char} (h : Decimal.ofNat n = d :: ds)
    (hZero : d = '0' → ds = []) (hRest : Stops rest) :
    ∃ hLe, scanFromDigit negative d (ds ++ rest) =
      .ok (numeral negative (Decimal.ofNat n) none none, ⟨rest, hLe⟩) := by
  have hDigits : ∀ c ∈ d :: ds, (Decimal.digit? c).isSome = true :=
    h ▸ Decimal.isSome_digit?_of_readFrom (Decimal.readFrom_ofNat n)
  have hMore : leadingDigits (ds ++ rest) = ds :=
    leadingDigits_append (fun c hc => hDigits c (List.mem_cons_of_mem d hc))
      hRest.noDigit
  rw [h]
  exact scanFromDigit_of_after negative hMore List.drop_left hZero
    (scanAfterWhole_of_stops negative (d :: ds) hRest)

/-! ## Strings -/

theorem hexValue?_hexDigit {d : Nat} (hd : d < 16) :
    hexValue? (Chars.hexDigit d) = some d := by
  have hAll : ∀ d < 16, hexValue? (Chars.hexDigit d) = some d := by decide
  exact hAll d hd

/-- A unit that belongs to no pair is a character by itself. -/
theorem scanNumbered_of_scanUnit {n : Nat} {cs rest : List Char} {hLe}
    (hScan : scanUnit cs = .ok (n, ⟨rest, hLe⟩)) (hLead : isLeadUnit n = false)
    (hTrail : isTrailUnit n = false) :
    scanNumbered cs = .ok (some (Char.ofNat n), ⟨rest, hLe⟩) := by
  unfold scanNumbered
  rw [hScan]
  show (if isLeadUnit n = true then _ else if isTrailUnit n = true then _
        else _) = _
  rw [hLead, hTrail]
  rfl

/-- The numbered escape of a control character. -/
theorem scanNumbered_of_lt {n : Nat} (hn : n < 0x20) (rest : List Char) :
    ∃ hLe, scanNumbered ('0' :: '0' :: Chars.hexDigit (n / 16) ::
      Chars.hexDigit (n % 16) :: rest) =
      .ok (some (Char.ofNat n), ⟨rest, hLe⟩) := by
  have hUnit : ∃ hLe, scanUnit
      ('0' :: '0' :: Chars.hexDigit (n / 16) ::
        Chars.hexDigit (n % 16) :: rest) =
        .ok (n, ⟨rest, hLe⟩) := by
    have hZero : hexValue? '0' = some 0 := by decide
    have hValue : ((0 * 16 + 0) * 16 + n / 16) * 16 + n % 16 = n := by omega
    simp only [scanUnit, hZero, hexValue?_hexDigit (d := n / 16) (by omega),
      hexValue?_hexDigit (d := n % 16) (by omega), hValue,
      exists_prop, and_true]
    simp only [List.length_cons]
    omega
  obtain ⟨hLe, hScan⟩ := hUnit
  have hLead : isLeadUnit n = false := by simp [isLeadUnit]; omega
  have hTrail : isTrailUnit n = false := by simp [isTrailUnit]; omega
  exact ⟨hLe, scanNumbered_of_scanUnit hScan hLead hTrail⟩

/-- The value of a string and what follows it, if the string has an end. -/
def StringScan.outcome {cs : List Char} :
    StringScan cs → Option (Option String × List Char)
  | .done value rest => some (value, rest.1)
  | .failed _ _ => none

theorem outcome_scanString_escape (read : List Char) {c : Char}
    {escape rest : List Char} {hLe}
    (h : scanEscape escape = .ok (some c, ⟨rest, hLe⟩)) :
    (scanString true read ('\\' :: escape)).outcome =
      (scanString true (c :: read) rest).outcome := by
  rw [scanString, h]
  simp only [Option.isSome_some, Bool.and_self, Option.toList_some,
    List.singleton_append]
  cases scanString true (c :: read) rest <;> rfl

theorem outcome_scanString_cons (read : List Char) {c : Char} (rest : List Char)
    (hQuote : c ≠ '"') (hEscape : c ≠ '\\') (hControl : ¬ c.toNat < 0x20) :
    (scanString true read (c :: rest)).outcome =
      (scanString true (c :: read) rest).outcome := by
  rw [scanString]
  · simp only [hControl, if_false]
    cases scanString true (c :: read) rest <;> rfl
  · exact hQuote
  · exact hEscape

/-- A character is read as it is written. -/
theorem outcome_scanString_escapeChar (read : List Char) (c : Char)
    (rest : List Char) :
    (scanString true read (escapeChar c ++ rest)).outcome =
      (scanString true (c :: read) rest).outcome := by
  fun_cases escapeChar c
  case case1 => exact outcome_scanString_escape read rfl
  case case2 => exact outcome_scanString_escape read rfl
  case case3 => exact outcome_scanString_escape read rfl
  case case4 => exact outcome_scanString_escape read rfl
  case case5 => exact outcome_scanString_escape read rfl
  case case6 => exact outcome_scanString_escape read rfl
  case case7 => exact outcome_scanString_escape read rfl
  case case8 hControl =>
    obtain ⟨hLe, hScan⟩ := scanNumbered_of_lt hControl rest
    rw [Char.ofNat_toNat] at hScan
    have hNumbered : ∃ hLe', scanEscape
        ('u' :: '0' :: '0' :: Chars.hexDigit (c.toNat / 16) ::
          Chars.hexDigit (c.toNat % 16) :: rest) =
          .ok (some c, ⟨rest, hLe'⟩) := by
      refine ⟨Nat.le_succ_of_le hLe, ?_⟩
      simp only [scanEscape, hScan]
      rfl
    obtain ⟨hLe', hEscaped⟩ := hNumbered
    exact outcome_scanString_escape read hEscaped
  case case9 hQuote hEscape _ _ _ _ _ hControl =>
    exact outcome_scanString_cons read rest hQuote hEscape hControl

/-- A text is read as it is written, up to its closing quote. -/
theorem outcome_scanString_escaped (read cs rest : List Char) :
    (scanString true read (cs.flatMap escapeChar ++ '"' :: rest)).outcome =
      some (some (String.ofList (read.reverse ++ cs)), rest) := by
  induction cs generalizing read with
  | nil =>
      rw [List.flatMap_nil, List.nil_append, scanString, List.append_nil]
      rfl
  | cons c cs ih =>
      rw [List.flatMap_cons, List.append_assoc, outcome_scanString_escapeChar,
        ih, List.reverse_cons, List.append_assoc, List.singleton_append]

/-! ## Tokens -/

theorem tokens_cons {c : Char} {rest rest' : List Char} {t : Token} {hLe}
    (hSpace : isSpace c = false)
    (h : scanToken c rest = (t, some ⟨rest', hLe⟩)) :
    tokens (c :: rest) = t :: tokens rest' := by
  have hSkip : skipSpace (c :: rest) = c :: rest := by
    unfold skipSpace
    rw [List.dropWhile_cons_of_neg (by rw [hSpace]; decide)]
  rw [tokens]
  split
  · next hNil => cases hSkip.symm.trans hNil
  · next hCons =>
    obtain ⟨rfl, rfl⟩ := List.cons.inj (hSkip.symm.trans hCons)
    rw [h]

/-- A string is one token, in whatever way its characters are written. -/
theorem tokens_string {text rest : List Char} {s : String}
    (h : (scanString true [] text).outcome = some (some s, rest)) :
    tokens ('"' :: text) = .str (some s) :: tokens rest := by
  cases hDone : scanString true [] text with
  | failed sound f =>
      rw [hDone] at h
      cases h
  | done value r =>
      rw [hDone] at h
      obtain ⟨rfl, hRest⟩ := Prod.mk.inj (Option.some.inj h)
      have hToken : scanToken '"' text = (.str (some s), some r) := by
        simp only [scanToken, hDone]
      rw [tokens_cons rfl hToken, hRest]

/-- A written string is one token. -/
theorem tokens_renderString (s : String) (rest : List Char) :
    tokens (renderString s ++ rest) = .str (some s) :: tokens rest := by
  have hScan := outcome_scanString_escaped [] s.toList rest
  rw [List.reverse_nil, List.nil_append, String.ofList_toList] at hScan
  have hText : renderString s ++ rest =
        '"' :: (s.toList.flatMap escapeChar ++ '"' :: rest) := by
    simp [renderString]
  rw [hText, tokens_string hScan]

theorem scanToken_of_digit {d : Char} (hd : (Decimal.digit? d).isSome = true)
    {rest : List Char} {n : Option Number} {r : Rest rest}
    (h : scanFromDigit false d rest = .ok (n, r)) :
    scanToken d rest = (.num n, some r) := by
  obtain ⟨v, hv⟩ := Option.isSome_iff_exists.mp hd
  unfold scanToken
  split
  case h_12 => simp only [hv, h]
  -- none of the characters that begin other tokens is a digit
  all_goals exact absurd hd (by decide)

theorem isSpace_digit {d : Char} (hd : (Decimal.digit? d).isSome = true) :
    isSpace d = false := by
  refine Bool.eq_false_iff.mpr fun h => ?_
  simp only [isSpace, Bool.or_eq_true, decide_eq_true_eq] at h
  rcases h with ((rfl | rfl) | rfl) | rfl <;> exact absurd hd (by decide)

/-- An integer of 64 bits is one token. -/
theorem tokens_ofInt {i : Int} (hLow : -0x8000000000000000 ≤ i)
    (hHigh : i ≤ maxCount) {rest : List Char} (hRest : Stops rest) :
    tokens (Decimal.ofInt i ++ rest) = .num (some (.int i)) :: tokens rest := by
  obtain ⟨d, ds, hDigits, hZero⟩ := Decimal.exists_ofNat_eq_cons i.natAbs
  have hd : (Decimal.digit? d).isSome = true :=
    Decimal.isSome_digit?_of_readFrom (Decimal.readFrom_ofNat i.natAbs) d
      (hDigits ▸ List.mem_cons_self)
  unfold Decimal.ofInt
  by_cases hSign : i < 0
  · have hNumeral : numeral true (Decimal.ofNat i.natAbs) none none =
          some (.int i) := by
      rw [numeral_ofNat_negative (by omega) (by omega)]
      congr
      omega
    obtain ⟨hLe, hScan⟩ := scanFromDigit_ofNat true hDigits hZero hRest
    rw [hNumeral] at hScan
    have hToken : ∃ hLe', scanToken '-' (d :: (ds ++ rest)) =
        (.num (some (.int i)), some ⟨rest, hLe'⟩) := by
      refine ⟨Nat.le_succ_of_le hLe, ?_⟩
      simp only [scanToken, scanNegative, hd, if_true, hScan]
      rfl
    obtain ⟨hLe', hToken⟩ := hToken
    rw [if_pos hSign, hDigits, List.cons_append, List.cons_append,
      tokens_cons rfl hToken]
  · have hNumeral : numeral false (Decimal.ofNat i.natAbs) none none =
          some (.int i) := by
      rw [numeral_ofNat (by omega)]
      congr
      omega
    obtain ⟨hLe, hScan⟩ := scanFromDigit_ofNat false hDigits hZero hRest
    rw [hNumeral] at hScan
    rw [if_neg hSign, hDigits, List.cons_append,
      tokens_cons (isSpace_digit hd) (scanToken_of_digit hd hScan)]

@[simp] theorem tokens_openArr (rest : List Char) :
    tokens ('[' :: rest) = .openArr :: tokens rest :=
  tokens_cons rfl rfl

@[simp] theorem tokens_closeArr (rest : List Char) :
    tokens (']' :: rest) = .closeArr :: tokens rest :=
  tokens_cons rfl rfl

@[simp] theorem tokens_openObj (rest : List Char) :
    tokens ('\x7b' :: rest) = .openObj :: tokens rest :=
  tokens_cons rfl rfl

@[simp] theorem tokens_closeObj (rest : List Char) :
    tokens ('\x7d' :: rest) = .closeObj :: tokens rest :=
  tokens_cons rfl rfl

@[simp] theorem tokens_comma (rest : List Char) :
    tokens (',' :: rest) = .comma :: tokens rest :=
  tokens_cons rfl rfl

@[simp] theorem tokens_colon (rest : List Char) :
    tokens (':' :: rest) = .colon :: tokens rest :=
  tokens_cons rfl rfl

theorem tokens_renderWord (rest : List Char) :
    tokens (render .null ++ rest) = .null :: tokens rest ∧
      ∀ b, tokens (render (.bool b) ++ rest) = .bool b :: tokens rest := by
  refine ⟨tokens_cons rfl rfl, fun b => ?_⟩
  cases b with
  | true => exact tokens_cons rfl rfl
  | false => exact tokens_cons rfl rfl

/-! ## Events -/

/-- The end of an array takes the place of its first item only. -/
theorem parse_of_takesValue {place : Place}
    (hPlace : place = .value ∨ place = .firstItem) {t : Token}
    (ht : t ≠ .closeArr) (around : List Enclosing) (ts : List Token) :
    parse place around (t :: ts) = parse .value around (t :: ts) := by
  rcases hPlace with rfl | rfl
  · rfl
  · cases around with
    | nil => cases t <;> rfl
    | cons e outer => cases e <;> cases t <;> first | rfl | exact absurd rfl ht

theorem stops_cons {c : Char}
    (h : Decimal.digit? c = none ∧ c ≠ '.' ∧ c ≠ 'e' ∧ c ≠ 'E')
    (rest : List Char) : Stops (c :: rest) := by
  rintro _ ⟨rfl⟩
  exact h

theorem stops_renderItems (items : List Json) (rest : List Char) :
    Stops (renderItems items ++ rest) := by
  cases items with
  | nil => exact stops_cons (by decide) _
  | cons item items => exact stops_cons (by decide) _

theorem stops_renderFields (fields : Fields) (rest : List Char) :
    Stops (renderFields fields ++ rest) := by
  cases fields with
  | nil => exact stops_cons (by decide) _
  | cons field fields => exact stops_cons (by decide) _

/-- The numbers in a value are integers of at most 64 bits. -/
def isExact (j : Json) : Bool := isWhole j && isBounded j

mutual

/-- A written value has its own events, in a place for a value and in front of
what does not go on with a number. -/
theorem parse_render : ∀ {j : Json}, j.all isExact = true → ∀ {place : Place},
    place = .value ∨ place = .firstItem →
    ∀ (around : List Enclosing) {rest : List Char}, Stops rest →
      parse place around (tokens (render j ++ rest)) =
        toEventsOnto j (parse .next around (tokens rest))
  | .null, _, place, hPlace, around, rest, _ => by
      rw [(tokens_renderWord rest).1, parse_of_takesValue hPlace (by decide)]
      rfl
  | .bool b, _, place, hPlace, around, rest, _ => by
      rw [(tokens_renderWord rest).2 b,
        parse_of_takesValue (t := .bool b) hPlace nofun]
      rfl
  | .num (.int i), hExact, place, hPlace, around, rest, hRest => by
      obtain ⟨hLow, hHigh⟩ := Bool.and_eq_true_iff.mp hExact
      show parse place around (tokens (Decimal.ofInt i ++ rest)) = _
      rw [tokens_ofInt (of_decide_eq_true hLow) (of_decide_eq_true hHigh) hRest,
        parse_of_takesValue (t := .num (some (.int i))) hPlace nofun]
      rfl
  | .num (.float x), hExact, place, hPlace, around, rest, hRest => by
      cases hExact
  | .str s, _, place, hPlace, around, rest, _ => by
      show parse place around (tokens (renderString s ++ rest)) = _
      rw [tokens_renderString, parse_of_takesValue
        (t := .str (some s)) hPlace nofun]
      rfl
  | .arr [], _, place, hPlace, around, rest, _ => by
      show parse place around (tokens ('[' :: ']' :: rest)) = _
      rw [tokens_openArr, tokens_closeArr,
        parse_of_takesValue (t := .openArr) hPlace nofun]
      rfl
  | .arr (item :: items), hExact, place, hPlace, around, rest, hRest => by
      obtain ⟨hItem, hItems⟩ := allItems_cons.mp (all_arr.mp hExact).2
      show parse place around (tokens
            ('[' :: render item ++ renderItems items ++ rest)) = _
      rw [List.append_assoc, List.cons_append, tokens_openArr,
        parse_of_takesValue (t := .openArr) hPlace nofun]
      show .openArr :: parse .firstItem (.array :: around) _ = _
      rw [parse_render hItem (.inr rfl) _ (stops_renderItems items rest),
        parse_renderItems hItems]
      rfl
  | .obj [], hExact, place, hPlace, around, rest, hRest => by
      show parse place around (tokens ('\x7b' :: '\x7d' :: rest)) = _
      rw [tokens_openObj, tokens_closeObj,
        parse_of_takesValue (t := .openObj) hPlace nofun]
      rfl
  | .obj ((key, value) :: fields), hExact, place, hPlace, around, rest, hRest =>
    by
      obtain ⟨hValue, hFields⟩ := allFields_cons.mp (all_obj.mp hExact).2
      show parse place around (tokens
          ('\x7b' :: renderString key ++ ':' :: render value ++
            renderFields fields ++ rest)) = _
      simp only [List.cons_append, List.append_assoc]
      rw [tokens_openObj, tokens_renderString, tokens_colon,
        parse_of_takesValue (t := .openObj) hPlace nofun]
      show .openObj :: .key (some key) :: parse .value (.object :: around) _ = _
      rw [parse_render hValue (.inl rfl) _ (stops_renderFields fields rest),
        parse_renderFields hFields]
      rfl

theorem parse_renderItems :
    ∀ {items : List Json}, allItems isExact items = true →
    ∀ (outer : List Enclosing) (rest : List Char),
      parse .next (.array :: outer) (tokens (renderItems items ++ rest)) =
        itemEventsOnto items (.closeArr :: parse .next outer (tokens rest))
  | [], _, outer, rest => by
      show parse .next (.array :: outer) (tokens (']' :: rest)) = _
      rw [tokens_closeArr]
      rfl
  | item :: items, hExact, outer, rest => by
      obtain ⟨hItem, hItems⟩ := allItems_cons.mp hExact
      show parse .next (.array :: outer)
            (tokens (',' :: render item ++ renderItems items ++ rest)) = _
      rw [List.append_assoc, List.cons_append, tokens_comma]
      show parse .value (.array :: outer) _ = _
      rw [parse_render hItem (.inl rfl) _ (stops_renderItems items rest),
        parse_renderItems hItems]
      rfl

theorem parse_renderFields :
    ∀ {fields : List (String × Json)}, allFields isExact fields = true →
    ∀ (outer : List Enclosing) (rest : List Char),
      parse .next (.object :: outer) (tokens (renderFields fields ++ rest)) =
        fieldEventsOnto fields (.closeObj :: parse .next outer (tokens rest))
  | [], _, outer, rest => by
      show parse .next (.object :: outer) (tokens ('\x7d' :: rest)) = _
      rw [tokens_closeObj]
      rfl
  | (key, value) :: fields, hExact, outer, rest => by
      obtain ⟨hValue, hFields⟩ := allFields_cons.mp hExact
      show parse .next (.object :: outer)
          (tokens (',' :: renderString key ++ ':' :: render value ++
            renderFields fields ++ rest)) = _
      simp only [List.cons_append, List.append_assoc]
      rw [tokens_comma, tokens_renderString, tokens_colon]
      show .key (some key) :: parse .value (.object :: outer) _ = _
      rw [parse_render hValue (.inl rfl) _ (stops_renderFields fields rest),
        parse_renderFields hFields]
      rfl

end

/-- **A written value has its own events.** -/
theorem events_render {j : Json} (hWhole : j.all isWhole = true)
    (hBounded : j.all isBounded = true) : events (render j) = toEvents j := by
  have hExact : j.all isExact = true :=
    (all_and j).trans (by rw [hWhole, hBounded]; rfl)
  have hStops : Stops [] := nofun
  have hParse := parse_render hExact (.inl rfl) [] hStops
  rw [List.append_nil] at hParse
  have hEnd : tokens [] = [] := by
    rw [tokens]
    rfl
  rw [hEnd] at hParse
  exact hParse

end Errand.Json
