import Errand.Proofs.Json.Indented
import Errand.Proofs.Json.Reading

/-!
# No token reaches over a line break

Line breaks may stand between the tokens of a text, but in no token: not in a
word or a number, and in a string only as an escape. So what stands behind a
line break is read as the beginning of a token, whatever comes before it,
unless the text is broken off earlier. If no token begins there, the text is
broken in any case.

## Main results

* `onLine_scanToken`: what is read of a text as one token is on one line.
* `isBrokenText_of_line`: a line that begins no token breaks the text.
* `exists_fault_of_isBrokenText`: the events of a broken text have a fault.
-/

namespace Errand.Json

/-! ## What is read on one line -/

/-- What is read of the text down to `rest` has no line break in it. -/
def OnLine (cs rest : List Char) : Prop :=
  ∃ read, '\n' ∉ read ∧ cs = read ++ rest

namespace OnLine

theorem refl (cs : List Char) : OnLine cs cs := ⟨[], List.not_mem_nil, rfl⟩

theorem cons {c : Char} {cs rest : List Char} (hc : c ≠ '\n')
    (h : OnLine cs rest) : OnLine (c :: cs) rest := by
  obtain ⟨read, hRead, rfl⟩ := h
  exact ⟨c :: read, List.not_mem_cons_of_ne_of_not_mem hc.symm hRead, rfl⟩

theorem trans {cs ds rest : List Char} (h : OnLine cs ds)
    (h' : OnLine ds rest) : OnLine cs rest := by
  obtain ⟨read, hRead, rfl⟩ := h
  obtain ⟨read', hRead', rfl⟩ := h'
  refine ⟨read ++ read', fun hMem => ?_, (List.append_assoc ..).symm⟩
  exact (List.mem_append.mp hMem).elim hRead hRead'

/-- What is read on one line ends in front of the next line. -/
theorem exists_of_line {xs ys rest : List Char}
    (h : OnLine (xs ++ '\n' :: ys) rest) :
    ∃ xs', xs'.length ≤ xs.length ∧ rest = xs' ++ '\n' :: ys := by
  obtain ⟨read, hRead, hText⟩ := h
  rcases List.append_eq_append_iff.mp hText with
      ⟨as, rfl, hBehind⟩ | ⟨bs, rfl, hRest⟩
  · cases as with
    | nil => exact ⟨[], Nat.zero_le _, hBehind.symm⟩
    | cons a as =>
        obtain ⟨rfl, -⟩ := List.cons.inj hBehind
        exact absurd (List.mem_append_right xs List.mem_cons_self) hRead
  · exact ⟨bs, by simp, hRest⟩

end OnLine

/-! ### Scanners in sequence -/

theorem exists_of_map_eq_ok {α β : Type} {x : Except Fault α} {f : α → β}
    {b : β} (h : x.map f = .ok b) : ∃ a, x = .ok a ∧ f a = b := by
  cases x with
  | error f => cases h
  | ok a => exact ⟨a, rfl, Except.ok.inj h⟩

theorem exists_of_bind_eq_ok {α β : Type} {x : Except Fault α}
    {k : α → Except Fault β} {b : β} (h : x >>= k = .ok b) :
    ∃ a, x = .ok a ∧ k a = .ok b := by
  cases x with
  | error f => cases h
  | ok a => exact ⟨a, rfl, h⟩

/-! ### Characters and words -/

theorem ne_of_digit? {c : Char} (h : (Decimal.digit? c).isSome = true) :
    c ≠ '\n' := by
  rintro rfl
  exact absurd h (by decide)

theorem ne_of_hexValue? {c : Char} {n : Nat} (h : hexValue? c = some n) :
    c ≠ '\n' := by
  rintro rfl
  have hNone : hexValue? '\n' = none := by decide
  cases hNone.symm.trans h

theorem onLine_scanWord {word cs : List Char} {r : Rest cs}
    (hWord : '\n' ∉ word) (h : scanWord word cs = .ok r) : OnLine cs r.1 := by
  induction word generalizing cs with
  | nil =>
      cases h
      exact .refl cs
  | cons a word ih =>
      cases cs with
      | nil => cases h
      | cons b cs =>
          rw [scanWord] at h
          split at h
          · next hSame =>
            subst hSame
            obtain ⟨r', hScan, rfl⟩ := exists_of_map_eq_ok h
            exact (ih (List.not_mem_of_not_mem_cons hWord) hScan).cons
              (List.ne_of_not_mem_cons hWord).symm
          · cases h

/-! ### Strings -/

theorem onLine_scanUnit {cs : List Char} {n : Nat} {r : Rest cs}
    (h : scanUnit cs = .ok (n, r)) : OnLine cs r.1 := by
  unfold scanUnit at h
  split at h
  · next a b c d rest =>
    split at h
    · next ha hb hc hd =>
      cases h
      exact .cons (ne_of_hexValue? ha) (.cons (ne_of_hexValue? hb)
        (.cons (ne_of_hexValue? hc) (.cons (ne_of_hexValue? hd) (.refl rest))))
    · cases h
  · cases h

theorem onLine_scanNumbered {cs : List Char} {c? : Option Char} {r : Rest cs}
    (h : scanNumbered cs = .ok (c?, r)) : OnLine cs r.1 := by
  obtain ⟨⟨n, rest, hLe⟩, hUnit, hNext⟩ := exists_of_bind_eq_ok h
  have hFirst : OnLine cs rest := onLine_scanUnit hUnit
  dsimp only at hNext
  split at hNext
  · split at hNext
    · cases hNext
    · cases hNext
    · next rest' =>
      obtain ⟨⟨m, rest'', hLe'⟩, hTrail, hPair⟩ := exists_of_bind_eq_ok hNext
      have hBoth : OnLine cs rest'' := hFirst.trans
        (.cons (by decide) (.cons (by decide) (onLine_scanUnit hTrail)))
      dsimp only at hPair
      split at hPair <;> cases hPair <;> exact hBoth
    · cases hNext
      exact hFirst
  · split at hNext <;> cases hNext <;> exact hFirst

theorem onLine_scanEscape {cs : List Char} {c? : Option Char} {r : Rest cs}
    (h : scanEscape cs = .ok (c?, r)) : OnLine cs r.1 := by
  unfold scanEscape at h
  cases cs with
  | nil => cases h
  | cons c rest =>
      dsimp only at h
      split at h
      case h_9 =>
        obtain ⟨scanned, hScan, ⟨⟩⟩ := exists_of_map_eq_ok h
        exact .cons (by decide) (onLine_scanNumbered hScan)
      case h_10 => cases h
      all_goals
        cases h
        exact .cons (by decide) (.refl rest)

/-- A control character in a string is a fault, so a line break is. -/
theorem onLine_scanString {sound : Bool} {read cs : List Char}
    {s : Option String} {r : Rest cs}
    (h : scanString sound read cs = .done s r) : OnLine cs r.1 := by
  fun_induction scanString sound read cs with
  | case1 | case3 | case5 | case6 | case8 => cases h
  | case2 sound read rest =>
      cases h
      exact .cons (by decide) (.refl rest)
  | case4 sound read rest c? rest' hLe hEscape s' r' hLe' hScan ih =>
      cases h
      exact .cons (by decide) ((onLine_scanEscape hEscape).trans (ih hScan))
  | case7 sound read c rest _ _ hControl s' r' hLe' hScan ih =>
      cases h
      refine .cons ?_ (ih hScan)
      rintro rfl
      exact hControl (by decide)

/-! ### Numbers -/

theorem onLine_leadingDigits (cs : List Char) :
    OnLine cs (cs.drop (leadingDigits cs).length) := by
  have hDigits : (leadingDigits cs).all (fun c => (Decimal.digit? c).isSome) =
        true :=
    List.all_takeWhile
  refine ⟨leadingDigits cs, fun hMem => ?_, ?_⟩
  · exact ne_of_digit? (List.all_eq_true.mp hDigits _ hMem) rfl
  · exact (List.prefix_iff_eq_append.mp (List.takeWhile_prefix _)).symm

theorem onLine_scanDigits {cs ds : List Char} {r : Rest cs}
    (h : scanDigits cs = .ok (ds, r)) : OnLine cs r.1 := by
  have hDigits := onLine_leadingDigits cs
  unfold scanDigits at h
  split at h
  · cases h
  · next hLeading =>
    cases h
    exact hDigits

theorem onLine_scanFraction {cs : List Char} {fraction : Option (List Char)}
    {r : Rest cs} (h : scanFraction cs = .ok (fraction, r)) :
    OnLine cs r.1 := by
  unfold scanFraction at h
  split at h
  · next rest =>
    obtain ⟨scanned, hDigits, ⟨⟩⟩ := exists_of_map_eq_ok h
    exact .cons (by decide) (onLine_scanDigits hDigits)
  · cases h
    exact .refl _

theorem onLine_scanExponentDigits {cs : List Char} {e : Int} {r : Rest cs}
    (h : scanExponentDigits cs = .ok (e, r)) : OnLine cs r.1 := by
  unfold scanExponentDigits at h
  dsimp only at h
  split at h
  · next rest =>
    obtain ⟨scanned, hDigits, ⟨⟩⟩ := exists_of_map_eq_ok h
    exact .cons (by decide) (onLine_scanDigits hDigits)
  · next rest =>
    obtain ⟨scanned, hDigits, ⟨⟩⟩ := exists_of_map_eq_ok h
    exact .cons (by decide) (onLine_scanDigits hDigits)
  · obtain ⟨scanned, hDigits, ⟨⟩⟩ := exists_of_map_eq_ok h
    exact onLine_scanDigits hDigits

theorem onLine_scanExponent {cs : List Char} {e : Option Int} {r : Rest cs}
    (h : scanExponent cs = .ok (e, r)) : OnLine cs r.1 := by
  unfold scanExponent at h
  split at h
  · next c rest =>
    split at h
    · next hLetter =>
      obtain ⟨scanned, hDigits, ⟨⟩⟩ := exists_of_map_eq_ok h
      refine .cons ?_ (onLine_scanExponentDigits hDigits)
      rcases hLetter with rfl | rfl <;> decide
    · cases h
      exact .refl _
  · cases h
    exact .refl _

theorem onLine_scanAfterWhole {negative : Bool} {whole cs : List Char}
    {n : Option Number} {r : Rest cs}
    (h : scanAfterWhole negative whole cs = .ok (n, r)) : OnLine cs r.1 := by
  obtain ⟨scanned, hFraction, hNext⟩ := exists_of_bind_eq_ok h
  obtain ⟨scanned', hExponent, ⟨⟩⟩ := exists_of_bind_eq_ok hNext
  exact (onLine_scanFraction hFraction).trans (onLine_scanExponent hExponent)

theorem onLine_scanFromDigit {negative : Bool} {d : Char} {rest : List Char}
    {n : Option Number} {r : Rest rest}
    (h : scanFromDigit negative d rest = .ok (n, r)) : OnLine rest r.1 := by
  unfold scanFromDigit at h
  dsimp only at h
  split at h
  · cases h
  · obtain ⟨scanned, hScan, ⟨⟩⟩ := exists_of_map_eq_ok h
    exact (onLine_leadingDigits rest).trans (onLine_scanAfterWhole hScan)

theorem onLine_scanNegative {cs : List Char} {n : Option Number} {r : Rest cs}
    (h : scanNegative cs = .ok (n, r)) : OnLine cs r.1 := by
  unfold scanNegative at h
  split at h
  · cases h
  · next d rest =>
    split at h
    · next hDigit =>
      obtain ⟨scanned, hScan, ⟨⟩⟩ := exists_of_map_eq_ok h
      exact .cons (ne_of_digit? hDigit) (onLine_scanFromDigit hScan)
    · cases h

/-! ### Tokens -/

/-- The token says that the text is broken off in it. -/
def Token.IsBroken : Token → Prop
  | .broken _ | .brokenString _ _ => True
  | _ => False

/-- What was read of the text as one token is on one line, and if the token is
not complete, it is broken. -/
def TokenOnLine {cs : List Char} (read : Token × Option (Rest cs)) : Prop :=
  match read with
  | (_, some r) => OnLine cs r.1
  | (t, none) => t.IsBroken

/-- **No token reaches over a line break.** -/
theorem onLine_scanToken (c : Char) (rest : List Char) :
    TokenOnLine (scanToken c rest) := by
  unfold scanToken
  split
  case h_7 | h_8 | h_9 =>
    dsimp only
    split
    · trivial
    · next hScan => exact onLine_scanWord (by decide) hScan
  case h_10 =>
    dsimp only
    split
    · next hScan => exact onLine_scanString hScan
    · trivial
  case h_11 =>
    dsimp only
    split
    · trivial
    · next hScan => exact onLine_scanNegative hScan
  case h_12 =>
    dsimp only
    split
    · trivial
    · split
      · trivial
      · next hScan => exact onLine_scanFromDigit hScan
  -- every other token is a single character
  all_goals exact OnLine.refl rest

theorem onLine_of_scanToken {c : Char} {rest : List Char} {r : Rest rest}
    (h : (scanToken c rest).2 = some r) : OnLine rest r.1 := by
  have hToken := onLine_scanToken c rest
  unfold TokenOnLine at hToken
  split at hToken
  · next hScan =>
    rw [hScan] at h
    cases h
    exact hToken
  · next hScan =>
    rw [hScan] at h
    cases h

theorem isBroken_of_scanToken {c : Char} {rest : List Char}
    (h : (scanToken c rest).2 = none) : (scanToken c rest).1.IsBroken := by
  have hToken := onLine_scanToken c rest
  unfold TokenOnLine at hToken
  split at hToken
  · next hScan =>
    rw [hScan] at h
    cases h
  · next hScan =>
    rw [hScan]
    exact hToken

/-! ## Broken texts -/

/-- The text is broken off at one of its tokens. -/
def IsBrokenText (cs : List Char) : Prop := ∃ t ∈ tokens cs, t.IsBroken

/-- A text is broken at its first token, or behind it. -/
theorem isBrokenText_of_token {cs rest : List Char} {c : Char}
    (hSkip : skipSpace cs = c :: rest)
    (h : ∀ r, (scanToken c rest).2 = some r → IsBrokenText r.1) :
    IsBrokenText cs := by
  unfold IsBrokenText
  rw [tokens_eq, hSkip]
  rcases hScan : scanToken c rest with ⟨t, _ | r⟩
  · have hBroken := isBroken_of_scanToken (congrArg Prod.snd hScan)
    rw [hScan] at hBroken
    simp only [hScan]
    exact ⟨t, List.mem_singleton_self t, hBroken⟩
  · obtain ⟨t', hMem, hBroken⟩ := h r (congrArg Prod.snd hScan)
    simp only [hScan]
    exact ⟨t', List.mem_cons_of_mem t hMem, hBroken⟩

/-- The character is no space, and no token begins with it. -/
def BeginsNoToken (c : Char) : Prop :=
  isSpace c = false ∧ ∀ rest, (scanToken c rest).2 = none

theorem isBrokenText_of_head {c : Char} (hc : BeginsNoToken c)
    (rest : List Char) : IsBrokenText (c :: rest) := by
  have hSkip : skipSpace (c :: rest) = c :: rest :=
    List.dropWhile_cons_of_neg (by rw [hc.1]; decide)
  refine isBrokenText_of_token hSkip fun r hSome => ?_
  rw [hc.2 rest] at hSome
  cases hSome

/-- **A line that begins no token breaks the text**, whatever comes before it.
The induction is on the length of what comes before: each token takes some of
it and leaves the line break where it is. -/
theorem isBrokenText_of_line {c : Char} (hc : BeginsNoToken c)
    (xs ys : List Char) : IsBrokenText (xs ++ '\n' :: c :: ys) := by
  induction hLength : xs.length using Nat.strongRecOn generalizing xs with
  | _ n ih =>
      have hSkip : skipSpace (xs ++ '\n' :: c :: ys) =
          if (skipSpace xs).isEmpty then c :: ys
          else skipSpace xs ++ '\n' :: c :: ys := by
        have hLine : skipSpace ('\n' :: c :: ys) = c :: ys := by
          unfold skipSpace
          rw [List.dropWhile_cons_of_pos (by decide),
            List.dropWhile_cons_of_neg (by rw [hc.1]; decide)]
        rw [skipSpace, List.dropWhile_append]
        rw [show List.dropWhile isSpace ('\n' :: c :: ys) = c :: ys from hLine]
        rfl
      cases hFirst : skipSpace xs with
      | nil =>
          rw [hFirst] at hSkip
          refine isBrokenText_of_token hSkip fun r hSome => ?_
          rw [hc.2 ys] at hSome
          cases hSome
      | cons d rest =>
          rw [hFirst] at hSkip
          refine isBrokenText_of_token hSkip fun r hSome => ?_
          obtain ⟨xs', hShorter, hRest⟩ :=
            (onLine_of_scanToken hSome).exists_of_line
          have hSuffix : (skipSpace xs).length ≤ xs.length :=
            length_skipSpace_le xs
          rw [hFirst, List.length_cons] at hSuffix
          rw [hRest]
          exact ih xs'.length (by omega) xs' rfl

/-! ## Faults -/

theorem fault_mem_brokenEvents (e : Event) (sound : Bool) (cause : Fault) :
    .fault cause ∈ brokenEvents e sound cause := by
  cases sound <;> simp [brokenEvents]

/-- If one of the tokens is broken, there is a fault among the events, at this
token or before. -/
theorem exists_fault_of_isBroken {t : Token} (hBroken : t.IsBroken)
    {place : Place} {around : List Enclosing} {ts : List Token} (h : t ∈ ts) :
    ∃ f, .fault f ∈ parse place around ts := by
  -- a token that the grammar takes is not broken, so the broken one is behind
  -- it
  have hLater : ∀ {u : Token} {us : List Token}, t ∈ u :: us → ¬ u.IsBroken →
      t ∈ us := by
    intro u us hMem hu
    refine (List.mem_cons.mp hMem).resolve_left ?_
    rintro rfl
    exact hu hBroken
  have hBehind : ∀ {e : Event} {es : List Event},
      (∃ f, .fault f ∈ es) → ∃ f, .fault f ∈ e :: es :=
    fun ⟨f, hFault⟩ => ⟨f, List.mem_cons_of_mem _ hFault⟩
  fun_induction parse place around ts
  case case1 => cases h
  -- a broken string makes an event of its own if an escape before the break is
  -- at fault too
  case case10 | case19 | case24 | case27 =>
    exact ⟨_, fault_mem_brokenEvents _ _ _⟩
  -- colons and commas make no event
  case case29 ih | case30 ih | case33 ih => exact ih (hLater h id)
  all_goals first
    | exact ⟨_, List.mem_singleton_self _⟩
    | (rename_i ih; exact hBehind (ih (hLater h id)))

/-- **The events of a broken text have a fault.** -/
theorem exists_fault_of_isBrokenText {cs : List Char} (h : IsBrokenText cs) :
    ∃ f, .fault f ∈ events cs := by
  obtain ⟨t, hMem, hBroken⟩ := h
  exact exists_fault_of_isBroken hBroken hMem

end Errand.Json
