import Mathlib.Data.List.Forall2
import Errand.Proofs.Web.Domain.Composition
import Errand.Proofs.Web.Domain.Punycode
import Errand.Proofs.Web.Percent
import Errand.Web.Domain

/-!
# Domain names in ASCII are read as themselves

The ASCII form of a domain name is a fixed point: read as a domain name it is
its own ASCII form. Its characters need no mapping and no composing, so its
labels are read as they are written, and each is read as the text that it
stands for (`IsLabel.toUnicode?_toAscii`).

## Main results

* `exists_isName`: what is so of the labels of any name that is read.
* `IsName.toAscii?_asciiOf`: the ASCII form of the ASCII form.
-/

namespace Errand.Domain

/-! ## Lists of results -/

section

variable {α β : Type} {as : List α} {bs : List β}

theorem exists_of_mem_left {R : α → β → Prop} (h : List.Forall₂ R as bs) :
    ∀ a ∈ as, ∃ b ∈ bs, R a b := by
  induction h with
  | nil => exact nofun
  | cons hFirst _ ih =>
      refine List.forall_mem_cons.mpr ⟨⟨_, List.mem_cons_self, hFirst⟩,
        fun a ha => ?_⟩
      obtain ⟨b, hb, hab⟩ := ih a ha
      exact ⟨b, List.mem_cons_of_mem _ hb, hab⟩

theorem exists_of_mem_right {R : α → β → Prop} (h : List.Forall₂ R as bs) :
    ∀ b ∈ bs, ∃ a ∈ as, R a b :=
  exists_of_mem_left h.flip

theorem mapM_eq_some_iff {f : α → Option β} :
    as.mapM f = some bs ↔ List.Forall₂ (fun a b => f a = some b) as bs := by
  induction as generalizing bs with
  | nil =>
      rw [List.mapM_nil, List.forall₂_nil_left_iff]
      exact ⟨fun h => (Option.some.inj h).symm, fun h => congrArg some h.symm⟩
  | cons a as ih =>
      rw [List.mapM_cons, List.forall₂_cons_left_iff]
      simp only [Option.bind_eq_bind, Option.pure_def, Option.bind_eq_some_iff,
        Option.some.injEq, ih]
      constructor
      · rintro ⟨b, hb, bs', hbs, rfl⟩
        exact ⟨b, bs', hb, hbs, rfl⟩
      · rintro ⟨b, bs', hb, hbs, rfl⟩
        exact ⟨b, hb, bs', hbs, rfl⟩

end

/-! ## Mapping -/

theorem stays_of_map? {cs mapped : List Char} (h : map? cs = some mapped) :
    ∀ c ∈ mapped, stays c = true := by
  obtain ⟨pieces, hPieces, rfl⟩ := Option.map_eq_some_iff.mp h
  intro c hc
  obtain ⟨piece, hPiece, hMem⟩ := List.mem_flatten.mp hc
  obtain ⟨d, -, hd⟩ :=
    exists_of_mem_right (mapM_eq_some_iff.mp hPieces) piece hPiece
  exact stays_of_mapChar? hd c hMem

/-- Text of characters that stay is mapped to itself. -/
theorem map?_eq_self {cs : List Char} (h : ∀ c ∈ cs, stays c = true) :
    map? cs = some cs := by
  have hEach : cs.mapM mapChar? = some (cs.map fun c => [c]) := by
    refine mapM_eq_some_iff.mpr
      (List.forall₂_map_right_iff.mpr (List.forall₂_same.mpr fun c hc => ?_))
    rw [mapChar?, if_pos (h c hc)]
  rw [map?, hEach, Option.map_some, ← List.flatMap_def, List.flatMap_singleton']

/-! ## Labels -/

open Label

/-- The text of a label after mapping, as it is read. -/
structure IsLabel (text : List Char) : Prop where
  stays : ∀ c ∈ text, stays c = true
  composed : composed text = text
  plain : '.' ∉ text
  unmarked : Chars.dropLead? Label.mark text = none
  fits : (!(text.head?.any isMark) && joinersFit [] text) = true

/-- **A label is read as a text that needs neither mapping nor composing.** -/
theorem isLabel_of_toUnicode? {label text : List Char}
    (h : toUnicode? label = some text) (hStays : ∀ c ∈ label, stays c = true)
    (hComposed : composed label = label) (hPlain : '.' ∉ label) :
    IsLabel text := by
  unfold toUnicode? at h
  dsimp only at h
  obtain ⟨hText, hFits⟩ := Option.filter_eq_some_iff.mp h
  cases hMark : Chars.dropLead? Label.mark label with
  | none =>
      rw [hMark] at hText
      obtain rfl := Option.some.inj hText
      exact ⟨hStays, hComposed, hPlain, hMark, hFits⟩
  | some code =>
      rw [hMark] at hText
      obtain ⟨hDecode, hCode⟩ := Option.filter_eq_some_iff.mp hText
      unfold hasCode Chars.startsWith at hCode
      simp only [Bool.and_eq_true, List.all_eq_true, decide_eq_true_eq,
        Bool.not_eq_true', Option.isSome_eq_false_iff,
        Option.isNone_iff_eq_none] at hCode
      obtain ⟨⟨⟨hAll, hForm⟩, -⟩, hUnmarked⟩ := hCode
      refine ⟨hAll, hForm, fun hPoint => hPlain ?_, hUnmarked, hFits⟩
      have hInCode := Punycode.mem_of_decode? hDecode '.' hPoint (by decide)
      rw [Chars.eq_append_of_dropLead? hMark]
      exact List.mem_append_right _ hInCode

/-- The character asks nothing of what stands around it in a label. -/
structure Free (c : Char) : Prop where
  inert : Inert c
  unmarked : isMark c = false
  noJoiner : c ≠ '\u200c' ∧ c ≠ '\u200d'

theorem free_ascii {c : Char} (h : c.toNat < 0x80) : Free c := by
  refine ⟨inert_ascii h, isMark_ascii h, ?_, ?_⟩
  all_goals
    rintro rfl
    exact absurd h (by decide)

theorem joinersFit_of_free {cs : List Char} (h : ∀ c ∈ cs, Free c)
    (before : List Char) : joinersFit before cs = true := by
  induction cs generalizing before with
  | nil => rfl
  | cons c cs ih =>
      obtain ⟨hc, hRest⟩ := List.forall_mem_cons.mp h
      rw [joinersFit, if_neg hc.noJoiner.1, if_neg hc.noJoiner.2, ih hRest]
      rfl

/-- A text of free characters that stay is a label, unless it looks like a
code. -/
theorem isLabel_of_free {text : List Char}
    (h : ∀ c ∈ text, Free c ∧ stays c = true ∧ c ≠ '.')
    (hUnmarked : Chars.dropLead? Label.mark text = none) : IsLabel text where
  stays c hc := (h c hc).2.1
  composed := composed_inert fun c hc => (h c hc).1.inert
  plain hPoint := (h '.' hPoint).2.2 rfl
  unmarked := hUnmarked
  fits := by
    have hHead : text.head?.any isMark = false := by
      cases text with
      | nil => rfl
      | cons c cs => exact (h c List.mem_cons_self).1.unmarked
    rw [hHead, joinersFit_of_free fun c hc => (h c hc).1]
    rfl

namespace IsLabel

variable {text : List Char}

/-- A label in ASCII is of ASCII characters that stay. -/
theorem mem_toAscii (h : IsLabel text) :
    ∀ c ∈ Label.toAscii text,
      c.toNat < 0x80 ∧ Domain.stays c = true ∧ c ≠ '.' := by
  intro c hc
  have hMember : c ∈ text → c.toNat < 0x80 →
      c.toNat < 0x80 ∧ Domain.stays c = true ∧ c ≠ '.' := by
    intro hMem hSmall
    refine ⟨hSmall, h.stays c hMem, ?_⟩
    rintro rfl
    exact h.plain hMem
  unfold Label.toAscii at hc
  split at hc
  · next hAll =>
    exact hMember hc (of_decide_eq_true (List.all_eq_true.mp hAll c hc))
  · obtain hMark | hCode := List.mem_append.mp hc
    · have hAll : ∀ c ∈ Label.mark,
          c.toNat < 0x80 ∧ Domain.stays c = true ∧ c ≠ '.' :=
        Chars.forall_mem_of_all (by decide)
      exact hAll c hMark
    · obtain ⟨hMem, hSmall⟩ | rfl | ⟨d, hd, rfl⟩ := Punycode.mem_encode hCode
      · exact hMember hMem hSmall
      · decide
      · have hAll : ∀ d < 36, (Punycode.digitChar d).toNat < 0x80 ∧
            Domain.stays (Punycode.digitChar d) = true ∧
            Punycode.digitChar d ≠ '.' := by decide
        exact hAll d hd

/-- A label is read as it stands. -/
theorem toUnicode?_self (h : IsLabel text) : toUnicode? text = some text := by
  unfold toUnicode?
  rw [h.unmarked]
  exact Option.filter_eq_some_iff.mpr ⟨rfl, h.fits⟩

/-- **A label in ASCII is read as the text that it was written for.** -/
theorem toUnicode?_toAscii (h : IsLabel text) :
    toUnicode? (Label.toAscii text) = some text := by
  unfold Label.toAscii
  split
  · exact h.toUnicode?_self
  · next hSome =>
    have hCode : hasCode text = true := by
      unfold hasCode Chars.startsWith
      simp only [Bool.and_eq_true, List.all_eq_true, decide_eq_true_eq,
        Bool.not_eq_true', h.unmarked]
      exact ⟨⟨⟨h.stays, h.composed⟩, Bool.eq_false_iff.mpr hSome⟩, rfl⟩
    unfold toUnicode?
    rw [Chars.dropLead?_append]
    dsimp only
    rw [Punycode.decode?_encode, Option.filter_some, if_pos hCode,
      Option.filter_some, if_pos h.fits]

end IsLabel

/-! ## Names -/

/-- The name in ASCII that has these labels. -/
def asciiOf (texts : List (List Char)) : List Char :=
  ['.'].intercalate (texts.map Label.toAscii)

/-- The labels of a name, as text. -/
structure IsName (texts : List (List Char)) : Prop where
  nonempty : texts ≠ []
  labels : ∀ text ∈ texts, IsLabel text
  oneWay : (texts.any (·.any turnsName) && !texts.all runsOneWay) = false
  allowed : (asciiOf texts).any isForbidden = false

/-- **Every name that is read has labels.** -/
theorem exists_isName {cs name : List Char} (h : toAscii? cs = some name) :
    ∃ texts, IsName texts ∧ name = asciiOf texts := by
  unfold toAscii? labels? at h
  simp only [Option.bind_eq_bind, Option.bind_eq_some_iff] at h
  obtain ⟨decoded, -, texts, ⟨mapped, hMapped, texts', hTexts, hOneWay⟩,
    hName⟩ := h
  split at hOneWay
  · cases hOneWay
  · next hDirections =>
    obtain rfl := Option.some.inj hOneWay
    split at hName
    · cases hName
    · next hAllowed =>
      refine ⟨texts', ?_, (Option.some.inj hName).symm⟩
      have hRead := mapM_eq_some_iff.mp hTexts
      constructor
      case nonempty =>
        rintro rfl
        exact Chars.splitOn_ne_nil _ _ (List.forall₂_nil_right_iff.mp hRead)
      case labels =>
        intro text hText
        obtain ⟨label, hLabel, hUnicode⟩ := exists_of_mem_right hRead text hText
        refine isLabel_of_toUnicode? hUnicode (fun c hc => ?_)
          (composed_label (composed_composed mapped) hLabel)
          (Chars.separator_not_mem hLabel)
        exact stays_composed (stays_of_map? hMapped) c
          (Chars.mem_of_mem_splitOn hLabel hc)
      case oneWay => exact Bool.eq_false_iff.mpr hDirections
      case allowed => exact Bool.eq_false_iff.mpr hAllowed

namespace IsName

variable {texts : List (List Char)}

/-- A name in ASCII is of ASCII characters that stay and may stand in a name. -/
theorem mem_ascii (h : IsName texts) : ∀ c ∈ asciiOf texts,
    c.toNat < 0x80 ∧ stays c = true ∧ isForbidden c = false := by
  intro c hc
  have hAllowed : isForbidden c = false := by
    simpa using List.any_eq_false.mp h.allowed c hc
  obtain hPoint | ⟨ascii, hAscii, hMem⟩ := Chars.mem_intercalate hc
  · obtain rfl := List.mem_singleton.mp hPoint
    exact ⟨by decide, by decide, hAllowed⟩
  · obtain ⟨text, hText, rfl⟩ := List.mem_map.mp hAscii
    obtain ⟨hSmall, hStays, -⟩ := (h.labels text hText).mem_toAscii c hMem
    exact ⟨hSmall, hStays, hAllowed⟩

theorem plain (h : IsName texts) :
    ∀ ascii ∈ texts.map Label.toAscii, '.' ∉ ascii :=
  List.forall_mem_map.mpr fun text hText hPoint =>
    ((h.labels text hText).mem_toAscii '.' hPoint).2.2 rfl

theorem asciis_ne_nil (h : IsName texts) : texts.map Label.toAscii ≠ [] :=
  mt List.map_eq_nil_iff.mp h.nonempty

/-- The labels of a name in ASCII are read off again at the points. -/
theorem splitOn_eq (h : IsName texts) :
    Chars.splitOn ['.'] (asciiOf texts) = texts.map Label.toAscii :=
  Chars.splitOn_intercalate h.plain h.asciis_ne_nil

/-- **The ASCII form of a name in ASCII is the name itself.** Its characters
need no decoding, mapping or composing, and its labels are read one by one. -/
theorem toAscii?_asciiOf (h : IsName texts) :
    toAscii? (asciiOf texts) = some (asciiOf texts) := by
  have hDecode := Percent.decode?_plain fun hPercent : '%' ∈ asciiOf texts =>
    absurd (h.mem_ascii '%' hPercent).2.2 (by decide)
  have hMap := map?_eq_self fun c hc => (h.mem_ascii c hc).2.1
  have hComposed := composed_ascii fun c hc => (h.mem_ascii c hc).1
  have hRead : (texts.map Label.toAscii).mapM toUnicode? = some texts :=
    mapM_eq_some_iff.mpr (List.forall₂_map_left_iff.mpr
      (List.forall₂_same.mpr fun text hText =>
        (h.labels text hText).toUnicode?_toAscii))
  unfold toAscii? labels?
  rw [hDecode]
  simp only [Option.bind_eq_bind, Option.bind_some, String.toList_ofList, hMap,
    hComposed, h.splitOn_eq, hRead, h.oneWay, Bool.false_eq_true, if_false]
  show (if (asciiOf texts).any isForbidden = true then none else
    some (asciiOf texts)) = _
  rw [h.allowed, if_neg Bool.false_ne_true]

end IsName

end Errand.Domain
