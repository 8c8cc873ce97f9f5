import Errand.Proofs.Text.Lowering
import Errand.Web.Percent

/-!
# Percent encoding is read back

Every byte is written as a character that stands for itself or as a percent
sign and two digits, and each of the two is read back as that byte, whatever
comes behind. So the bytes of a text are read back one after the other, and
they are the text in UTF-8.

## Main results

* `decodeBytes_encodeByte`: a byte is read back.
* `decode?_encode`: a text is read back.
* `decode?_plain`: text without a percent sign stands for itself.
-/

namespace Errand.Percent

/-! ## The bytes of what is written -/

theorem bytesOf_cons (c : Char) (cs : List Char) :
    bytesOf (c :: cs) = String.utf8EncodeChar c ++ bytesOf cs :=
  List.flatMap_cons

theorem bytesOf_append (cs ds : List Char) :
    bytesOf (cs ++ ds) = bytesOf cs ++ bytesOf ds :=
  List.flatMap_append

/-- A character of ASCII is one byte. -/
theorem utf8EncodeChar_of_ascii {c : Char} (h : c.toNat < 0x80) :
    String.utf8EncodeChar c = [UInt8.ofNat c.toNat] :=
  if_pos (Nat.lt_succ_iff.mp h)

theorem upperHexDigit_lt : ∀ d < 16, (upperHexDigit d).toNat < 0x80 := by decide

theorem hexByte?_upperHexDigit :
    ∀ d < 16, hexByte? (UInt8.ofNat (upperHexDigit d).toNat) =
      some (UInt8.ofNat d) := by decide

/-- A byte that stands for itself is written as this one byte, and it is not
the percent sign. -/
theorem bytesOf_encodeByte_of_isUnreserved {b : UInt8}
    (h : isUnreserved b = true) : bytesOf (encodeByte b) = [b] ∧ b ≠ 0x25 := by
  have hAll : ∀ n < 256, isUnreserved (UInt8.ofNat n) = true →
      bytesOf (encodeByte (UInt8.ofNat n)) = [UInt8.ofNat n] ∧
      UInt8.ofNat n ≠ 0x25 := by decide +kernel
  have hByte := hAll b.toNat b.toNat_lt_size
  rw [UInt8.ofNat_toNat] at hByte
  exact hByte h

/-! ## Reading bytes back -/

theorem decodeBytes_cons {b : UInt8} (h : b ≠ 0x25) (rest : List UInt8) :
    decodeBytes (b :: rest) = b :: decodeBytes rest := by
  match rest with
  | [] => rfl
  | [_] => rfl
  | _ :: _ :: _ => rw [decodeBytes, if_neg h]

theorem decodeBytes_percent {c d hi lo : UInt8} (hc : hexByte? c = some hi)
    (hd : hexByte? d = some lo) (rest : List UInt8) :
    decodeBytes (0x25 :: c :: d :: rest) =
      (hi * 16 + lo) :: decodeBytes rest := by
  rw [decodeBytes, if_pos rfl, hc, hd]

/-- **A byte is read back**, in front of anything. -/
theorem decodeBytes_encodeByte (b : UInt8) (rest : List UInt8) :
    decodeBytes (bytesOf (encodeByte b) ++ rest) = b :: decodeBytes rest := by
  cases hSelf : isUnreserved b with
  | true =>
      obtain ⟨hBytes, hPercent⟩ := bytesOf_encodeByte_of_isUnreserved hSelf
      rw [hBytes]
      exact decodeBytes_cons hPercent rest
  | false =>
      have hByte : b.toNat < 256 := b.toNat_lt_size
      have hHigh : b.toNat / 16 < 16 := by omega
      have hLow : b.toNat % 16 < 16 := by omega
      have hBytes : bytesOf (encodeByte b) =
          [0x25, UInt8.ofNat (upperHexDigit (b.toNat / 16)).toNat,
            UInt8.ofNat (upperHexDigit (b.toNat % 16)).toNat] := by
        rw [encodeByte, hSelf, if_neg Bool.false_ne_true, escapeByte,
          bytesOf_cons, bytesOf_cons, bytesOf_cons,
          utf8EncodeChar_of_ascii (upperHexDigit_lt _ hHigh),
          utf8EncodeChar_of_ascii (upperHexDigit_lt _ hLow)]
        rfl
      have hValue : UInt8.ofNat (b.toNat / 16) * 16 +
            UInt8.ofNat (b.toNat % 16) = b := by
        apply UInt8.toNat_inj.mp
        simp only [UInt8.toNat_add, UInt8.toNat_mul, UInt8.toNat_ofNat']
        simp
        omega
      rw [hBytes]
      exact (decodeBytes_percent (hexByte?_upperHexDigit _ hHigh)
          (hexByte?_upperHexDigit _ hLow) rest).trans
        (congrArg (· :: decodeBytes rest) hValue)

theorem decodeBytes_encodeBytes (bs : List UInt8) :
    decodeBytes (bytesOf (bs.flatMap encodeByte)) = bs := by
  induction bs with
  | nil => rfl
  | cons b bs ih =>
      rw [List.flatMap_cons, bytesOf_append, decodeBytes_encodeByte, ih]

/-- The bytes of a text are the text in UTF-8. -/
theorem textOf?_bytesOf (s : String) : textOf? (bytesOf s.toList) = some s := by
  have hBytes : (⟨(bytesOf s.toList).toArray⟩ : ByteArray) = s.toByteArray := by
    have hEncode : (⟨(bytesOf s.toList).toArray⟩ : ByteArray) =
          s.toList.utf8Encode :=
      ByteArray.ext List.data_toByteArray.symm
    rw [hEncode, ← String.toByteArray_ofList, String.ofList_toList]
  unfold textOf?
  rw [hBytes]
  exact dif_pos s.isValidUTF8

/-- **A text is read back.** -/
theorem decode?_encode (s : String) : decode? (encode s) = some s := by
  unfold decode? encode
  rw [String.toList_ofList, encodeChars, decodeBytes_encodeBytes,
    textOf?_bytesOf]

/-- A percent sign is in the bytes of no other character. -/
theorem percent_not_mem {c : Char} (h : c ≠ '%') :
    0x25 ∉ String.utf8EncodeChar c := by
  by_cases hAscii : c.toNat < 0x80
  · rw [utf8EncodeChar_of_ascii hAscii, List.mem_singleton]
    exact Chars.of_ascii (P := fun c => c ≠ '%' → ¬ 0x25 = UInt8.ofNat c.toNat)
      (by decide) hAscii h
  · have hHigh : ∀ k, 0x80 ≤ k → k < 0x100 →
        ¬ (0x25 : UInt8) = UInt8.ofNat k := by
      intro k hLow hSmall hSame
      have hValue := congrArg UInt8.toNat hSame
      rw [UInt8.toNat_ofNat_of_lt' hSmall] at hValue
      have hPercent : (0x25 : UInt8).toNat = 0x25 := rfl
      omega
    have hBeyond : ¬ c.val.toNat ≤ 0x7F := fun hLe =>
      hAscii (Nat.lt_succ_of_le hLe)
    unfold String.utf8EncodeChar
    rw [if_neg hBeyond]
    split
    · simp only [List.mem_cons, List.not_mem_nil, or_false, not_or]
      exact ⟨hHigh _ (by omega) (by omega), hHigh _ (by omega) (by omega)⟩
    · split
      · simp only [List.mem_cons, List.not_mem_nil, or_false, not_or]
        exact ⟨hHigh _ (by omega) (by omega), hHigh _ (by omega) (by omega),
          hHigh _ (by omega) (by omega)⟩
      · simp only [List.mem_cons, List.not_mem_nil, or_false, not_or]
        exact ⟨hHigh _ (by omega) (by omega), hHigh _ (by omega) (by omega),
          hHigh _ (by omega) (by omega), hHigh _ (by omega) (by omega)⟩

/-- Text without a percent sign stands for itself. -/
theorem decode?_plain {cs : List Char} (h : '%' ∉ cs) :
    decode? (String.ofList cs) = some (String.ofList cs) := by
  have hSkip : ∀ bs rest : List UInt8, 0x25 ∉ bs →
      decodeBytes (bs ++ rest) = bs ++ decodeBytes rest := by
    intro bs rest hBytes
    induction bs with
    | nil => rfl
    | cons b bs ih =>
        obtain ⟨hFirst, hRest⟩ := not_or.mp (mt List.mem_cons.mpr hBytes)
        rw [List.cons_append, decodeBytes_cons (Ne.symm hFirst), ih hRest]
        rfl
  have hBytes : decodeBytes (bytesOf cs) = bytesOf cs := by
    induction cs with
    | nil => rfl
    | cons c cs ih =>
        obtain ⟨hFirst, hRest⟩ := not_or.mp (mt List.mem_cons.mpr h)
        rw [bytesOf_cons, hSkip _ _ (percent_not_mem (Ne.symm hFirst)),
          ih hRest]
  have hText := textOf?_bytesOf (String.ofList cs)
  unfold decode?
  rw [String.toList_ofList] at hText ⊢
  rw [hBytes, hText]

end Errand.Percent
