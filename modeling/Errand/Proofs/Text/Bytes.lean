import Errand.Proofs.Text.Lowering
import Errand.Proofs.Web.Percent

/-!
# Texts and their bytes

Positions in a text count characters. A search that runs over the bytes of the
text, in UTF-8, comes to the same places: the first byte of a character is no
other byte of any character, so the bytes of a needle can begin only where a
character begins, and from there the bytes tell the characters one by one. The
lower case of ASCII letters keeps the number of bytes of every character, so a
place found in such a copy is a place of the text.

## Main results

* `byteOffset_asciiLower`: a position has as many bytes in front of it in lower
  case.
* `prefix_of_bytesOf_prefix`: bytes that begin alike are those of texts that
  begin alike.
* `bytesOf_prefix_drop_iff`: where the bytes of a needle occur in those of a
  text.
-/

namespace Errand.Chars

open Percent

/-! ## Counting bytes -/

/-- The number of bytes in front of a position. -/
def byteOffset (cs : List Char) (at_ : Nat) : Nat :=
  (bytesOf (cs.take at_)).length

/-- A text that has a character has a byte. -/
theorem bytesOf_ne_nil {cs : List Char} (h : cs ≠ []) : bytesOf cs ≠ [] := by
  obtain ⟨c, cs, rfl⟩ := List.exists_cons_of_ne_nil h
  intro hNil
  have hLength := congrArg List.length hNil
  have hPositive := Char.utf8Size_pos c
  simp only [bytesOf_cons, List.length_append, String.length_utf8EncodeChar,
    List.length_nil] at hLength
  omega

theorem byteOffset_zero (cs : List Char) : byteOffset cs 0 = 0 := rfl

theorem byteOffset_succ (c : Char) (cs : List Char) (at_ : Nat) :
    byteOffset (c :: cs) (at_ + 1) = (String.utf8EncodeChar c).length +
      byteOffset cs at_ := by
  rw [byteOffset, List.take_succ_cons, bytesOf_cons, List.length_append,
    byteOffset]

/-- Letters of ASCII take one byte in either case. -/
theorem utf8Size_toLower (c : Char) : c.toLower.utf8Size = c.utf8Size := by
  by_cases hSmall : c.toNat < 0x80
  · exact of_ascii (P := fun c => c.toLower.utf8Size = c.utf8Size)
      (by decide) hSmall
  · rw [toLower_of_le (Nat.not_lt.mp hSmall)]

/-- **A position has as many bytes in front of it in lower case.** -/
theorem byteOffset_asciiLower (cs : List Char) (at_ : Nat) :
    byteOffset (asciiLower cs) at_ = byteOffset cs at_ := by
  induction cs generalizing at_ with
  | nil => rfl
  | cons c cs ih =>
      cases at_ with
      | zero => rfl
      | succ at_ =>
          simp only [asciiLower_cons, byteOffset_succ,
            String.length_utf8EncodeChar, utf8Size_toLower, ih]

/-- The bytes of a text are those that its string is made of. -/
theorem length_bytesOf (cs : List Char) :
    (bytesOf cs).length = (String.ofList cs).utf8ByteSize := by
  induction cs with
  | nil => rfl
  | cons c cs ih =>
      rw [bytesOf_cons, List.length_append, ih, String.length_utf8EncodeChar,
        String.ofList_cons, String.utf8ByteSize_append,
        String.utf8ByteSize_singleton]

/-- **A position stands between two characters of the string.** -/
theorem isValid_byteOffset (cs : List Char) (at_ : Nat) :
    String.Pos.Raw.IsValid (String.ofList cs) ⟨byteOffset cs at_⟩ :=
  String.Pos.Raw.isValid_ofList.mpr ⟨at_, length_bytesOf _⟩

/-! ## Searching bytes -/

/-- The first of some bytes tells the character that they begin with. -/
theorem eq_of_utf8EncodeChar_append {c d : Char} {xs ys : List UInt8}
    (h : String.utf8EncodeChar c ++ xs = String.utf8EncodeChar d ++ ys) :
    c = d := by
  have hDecode : ∀ (c : Char) (xs : List UInt8),
      (String.utf8EncodeChar c ++ xs).toByteArray.utf8DecodeChar? 0 =
        some c := by
    intro c xs
    rw [List.toByteArray_append]
    exact ByteArray.utf8DecodeChar?_utf8EncodeChar_append
  have hFirst := hDecode c xs
  rw [h, hDecode d ys] at hFirst
  exact (Option.some.inj hFirst).symm

/-- **Bytes that begin alike are those of texts that begin alike.** -/
theorem prefix_of_bytesOf_prefix {needle text : List Char}
    (h : bytesOf needle <+: bytesOf text) : needle <+: text := by
  induction needle generalizing text with
  | nil => exact List.nil_prefix
  | cons d needle ih =>
      obtain ⟨rest, hBytes⟩ := h
      cases text with
      | nil =>
          exact absurd (List.append_eq_nil_iff.mp hBytes).1
            (bytesOf_ne_nil (List.cons_ne_nil d needle))
      | cons c text =>
          rw [bytesOf_cons, bytesOf_cons, List.append_assoc] at hBytes
          obtain rfl := eq_of_utf8EncodeChar_append hBytes
          exact List.cons_prefix_cons.mpr
            ⟨rfl, ih ⟨rest, List.append_cancel_left hBytes⟩⟩

/-- Where the bytes of a needle begin inside of the bytes of a first character,
they begin with that character. -/
theorem eq_zero_of_bytesOf_prefix {needle : List Char} (hNeedle : needle ≠ [])
    {c : Char} {b : Nat} {rest : List UInt8}
    (hb : b < (String.utf8EncodeChar c).length)
    (h : bytesOf needle <+: (String.utf8EncodeChar c ++ rest).drop b) :
    b = 0 := by
  obtain ⟨d, needle, rfl⟩ := List.exists_cons_of_ne_nil hNeedle
  have hPositive : 0 < (String.utf8EncodeChar d).length := by
    rw [String.length_utf8EncodeChar]
    exact Char.utf8Size_pos d
  -- the byte at `b` is the first byte of the needle, and so of a character
  have hByte : (String.utf8EncodeChar c)[b] = (String.utf8EncodeChar d)[0] := by
    obtain ⟨behind, hBytes⟩ := h
    have hHead := congrArg (·[0]?) hBytes
    simp only [bytesOf_cons, List.append_assoc, List.getElem?_drop,
      Nat.add_zero] at hHead
    rw [List.getElem?_append_left hPositive, List.getElem?_append_left hb,
      List.getElem?_eq_getElem hPositive, List.getElem?_eq_getElem hb] at hHead
    exact (Option.some.inj hHead).symm
  have hFirst : (String.utf8EncodeChar c)[b].IsUTF8FirstByte := by
    rw [hByte]
    exact UInt8.isUTF8FirstByte_getElem_utf8EncodeChar.mpr rfl
  exact UInt8.isUTF8FirstByte_getElem_utf8EncodeChar.mp hFirst

/-- **The bytes of a needle occur in those of a text exactly where the needle
occurs.** -/
theorem bytesOf_prefix_drop_iff {needle text : List Char}
    (hNeedle : needle ≠ []) {b : Nat} :
    bytesOf needle <+: (bytesOf text).drop b ↔ ∃ at_, b = byteOffset text at_ ∧
    needle <+: text.drop at_ := by
  constructor
  · intro h
    induction text generalizing b with
    | nil =>
        have hNone : bytesOf needle = [] := by simpa [bytesOf] using h
        exact absurd hNone (bytesOf_ne_nil hNeedle)
    | cons c text ih =>
        rw [bytesOf_cons] at h
        by_cases hHere : b < (String.utf8EncodeChar c).length
        · obtain rfl := eq_zero_of_bytesOf_prefix hNeedle hHere h
          refine ⟨0, (byteOffset_zero _).symm, ?_⟩
          exact prefix_of_bytesOf_prefix h
        · have hBehind := Nat.not_lt.mp hHere
          rw [List.drop_append, List.drop_of_length_le hBehind,
            List.nil_append] at h
          obtain ⟨at_, hOffset, hPrefix⟩ := ih h
          refine ⟨at_ + 1, ?_, hPrefix⟩
          rw [byteOffset_succ]
          omega
  · rintro ⟨at_, rfl, rest, hRest⟩
    have hSplit := congrArg bytesOf (List.take_append_drop at_ text)
    rw [← hRest, bytesOf_append, bytesOf_append] at hSplit
    rw [← hSplit, byteOffset, List.drop_left]
    exact List.prefix_append _ _

end Errand.Chars
