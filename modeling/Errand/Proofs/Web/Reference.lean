import Errand.Proofs.Text.Replacing
import Errand.Proofs.Web.Percent
import Errand.Web.Results

/-!
# Character references are decoded once

Decoding goes over the text once for each reference (`Page.references`), so a
later pass reads what an earlier one has left. It finds no reference that was
not there before, for three reasons: a reference has an ampersand at its front
and none behind it, no reference begins another one, and the only one that
stands for an ampersand comes last (`Sequential`). So the passes together read
a text from the left, and each character and each reference in it counts once.

What a page does to a text to write it is undone that way. In a list of results
this is the text with its special characters as references, and for the address
of a result its percent encoding as a parameter of a redirect.

## Main results

* `decode_append_of_noAmpersand`, `decode_reference`: decoding read from the
  left.
* `decode_escaped`: an escaped text is decoded to what it was.
* `Results.written_read_back`: what a list of results writes is read back.
-/

namespace Errand

namespace Page

/-! ## References that can be decoded one after the other -/

/-- The text is an ampersand and what belongs to it. -/
def IsReference (name : List Char) : Prop :=
  name.head? = some '&' ∧ '&' ∉ name.tail

instance (name : List Char) : Decidable (IsReference name) :=
  inferInstanceAs (Decidable (_ ∧ _))

/-- Neither reference begins the other, and the first one does not stand for
the beginning of one. -/
def InOrder (first second : String × String) : Prop :=
  ¬ first.1.toList <+: second.1.toList ∧ ¬ second.1.toList <+: first.1.toList ∧
    '&' ∉ first.2.toList

instance (first second : String × String) : Decidable (InOrder first second) :=
  inferInstanceAs (Decidable (_ ∧ _ ∧ _))

/-- References that can be decoded one after the other. -/
structure Sequential (rs : List (String × String)) : Prop where
  names : ∀ r ∈ rs, IsReference r.1.toList
  order : rs.Pairwise InOrder

theorem sequential_references : Sequential references := ⟨by decide, by decide⟩

/-- The text with these references decoded, one after the other. -/
def decodeWith (rs : List (String × String)) (cs : List Char) : List Char :=
  rs.foldl (fun cs (r : String × String) =>
      Chars.replace r.1.toList r.2.toList cs) cs

variable {rs : List (String × String)} {r : String × String}
  {name new cs written : List Char}

theorem IsReference.not_prefix (h : IsReference name) {front : List Char}
    (hFront : '&' ∉ front) (hSome : front ≠ []) (rest : List Char) :
    ¬ name <+: front ++ rest := by
  obtain ⟨body, rfl⟩ := List.head?_eq_some_iff.mp h.1
  obtain ⟨c, front, rfl⟩ := List.exists_cons_of_ne_nil hSome
  intro hPrefix
  obtain ⟨rfl, -⟩ := List.cons_prefix_cons.mp hPrefix
  exact hFront List.mem_cons_self

theorem replace_of_noAmpersand (h : IsReference name) {front : List Char}
    (hFront : '&' ∉ front) (rest : List Char) :
    Chars.replace name new (front ++ rest) =
      front ++ Chars.replace name new rest :=
  Chars.replace_skip fun _ hBack hSome =>
    h.not_prefix (fun hMem => hFront (hBack.subset hMem)) hSome rest

/-- A reference is left alone by the pass for another one. -/
theorem replace_of_reference (h : IsReference name) {other : List Char}
    (hOther : IsReference other) (hNot : ¬ name <+: other)
    (hNot' : ¬ other <+: name) (rest : List Char) :
    Chars.replace name new (other ++ rest) =
      other ++ Chars.replace name new rest := by
  obtain ⟨body, rfl⟩ := List.head?_eq_some_iff.mp hOther.1
  refine Chars.replace_skip fun back hBack hSome => ?_
  rcases List.suffix_cons_iff.mp hBack with rfl | hBody
  · intro hPrefix
    exact (List.prefix_or_prefix_of_prefix hPrefix
        (List.prefix_append _ rest)).elim hNot hNot'
  · exact h.not_prefix (fun hMem => hOther.2 (hBody.subset hMem)) hSome rest

theorem decodeWith_append_of_noAmpersand (h : ∀ r ∈ rs, IsReference r.1.toList)
    {front : List Char} (hFront : '&' ∉ front) (rest : List Char) :
    decodeWith rs (front ++ rest) = front ++ decodeWith rs rest := by
  induction rs generalizing rest with
  | nil => rfl
  | cons r rs ih =>
      obtain ⟨hr, hrs⟩ := List.forall_mem_cons.mp h
      rw [decodeWith, List.foldl_cons, replace_of_noAmpersand hr hFront]
      exact ih hrs _

/-- **A reference at the front is decoded, and what it stands for is not looked
at again.** -/
theorem decodeWith_reference (h : Sequential rs) (hr : r ∈ rs)
    (rest : List Char) :
    decodeWith rs (r.1.toList ++ rest) = r.2.toList ++ decodeWith rs rest := by
  -- The induction is on the passes: those before that of the reference, that
  -- of it, and those after it.
  induction rs generalizing rest with
  | nil => cases hr
  | cons s rs ih =>
      obtain ⟨hName, hNames⟩ := List.forall_mem_cons.mp h.names
      obtain ⟨hOrder, hLater⟩ := List.pairwise_cons.mp h.order
      rw [decodeWith, List.foldl_cons]
      rcases List.mem_cons.mp hr with rfl | hMem
      · have hNonempty : r.1.toList ≠ [] := fun hNil => by
          rw [hNil] at hName
          cases hName.1
        rw [Chars.replace_self hNonempty]
        cases rs with
        | nil => rfl
        | cons next rs =>
            exact decodeWith_append_of_noAmpersand hNames
              (hOrder next List.mem_cons_self).2.2 _
      · obtain ⟨hNot, hNot', -⟩ := hOrder r hMem
        rw [replace_of_reference hName (hNames r hMem) hNot hNot']
        exact ih ⟨hNames, hLater⟩ hMem _

/-! ## Decoding from the left -/

theorem decode_eq_decodeWith (cs : List Char) :
    decode cs = decodeWith references cs := by
  unfold decode decodeWith
  rfl

theorem decode_append_of_noAmpersand {front : List Char} (h : '&' ∉ front)
    (rest : List Char) : decode (front ++ rest) = front ++ decode rest := by
  rw [decode_eq_decodeWith, decode_eq_decodeWith]
  exact decodeWith_append_of_noAmpersand sequential_references.names h rest

theorem decode_nil : decode [] = [] := by decide

theorem decode_of_noAmpersand (h : '&' ∉ cs) : decode cs = cs := by
  have hDecode := decode_append_of_noAmpersand h []
  rwa [decode_nil, List.append_nil] at hDecode

theorem decode_reference (h : r ∈ references) (rest : List Char) :
    decode (r.1.toList ++ rest) = r.2.toList ++ decode rest := by
  rw [decode_eq_decodeWith, decode_eq_decodeWith]
  exact decodeWith_reference sequential_references h rest

/-! ## Escaped texts -/

/-- The ways to write a character in a page: as references those that have a
meaning there, and all others as they are. -/
def spellings : Char → List String
  | '&' => ["&amp;"]
  | '<' => ["&lt;"]
  | '>' => ["&gt;"]
  | '"' => ["&quot;"]
  | '\'' => ["&#x27;", "&#39;"]
  | c => [String.singleton c]

/-- The second text is the first one as it is written in a page. -/
inductive Escaped : List Char → List Char → Prop where
  | nil : Escaped [] []
  | cons {c : Char} {cs written : List Char} {w : String} (hw : w ∈ spellings c)
      (hRest : Escaped cs written) :
      Escaped (c :: cs) (w.toList ++ written)

/-- A written character is read back. -/
theorem decode_spelling {c : Char} {w : String} (h : w ∈ spellings c)
    (rest : List Char) : decode (w.toList ++ rest) = c :: decode rest := by
  have hReference : ∀ r ∈ references, w = r.1 → r.2.toList = [c] →
      decode (w.toList ++ rest) = c :: decode rest := by
    rintro r hr rfl hc
    rw [decode_reference hr, hc, List.singleton_append]
  unfold spellings at h
  split at h
  case h_6 hNot _ _ _ _ =>
    obtain rfl := List.mem_singleton.mp h
    have hFront : '&' ∉ [c] := fun hMem =>
      hNot (List.mem_singleton.mp hMem).symm
    rw [String.toList_singleton, decode_append_of_noAmpersand hFront,
      List.singleton_append]
  case h_5 =>
    rcases List.mem_cons.mp h with rfl | hSecond
    · exact hReference ("&#x27;", "'") (by decide) rfl (by decide)
    · obtain rfl := List.mem_singleton.mp hSecond
      exact hReference ("&#39;", "'") (by decide) rfl (by decide)
  all_goals obtain rfl := List.mem_singleton.mp h
  · exact hReference ("&amp;", "&") (by decide) rfl (by decide)
  · exact hReference ("&lt;", "<") (by decide) rfl (by decide)
  · exact hReference ("&gt;", ">") (by decide) rfl (by decide)
  · exact hReference ("&quot;", "\"") (by decide) rfl (by decide)

/-- **An escaped text is decoded to what it was**, whatever comes behind it. -/
theorem decode_escaped (h : Escaped cs written) (rest : List Char) :
    decode (written ++ rest) = cs ++ decode rest := by
  induction h with
  | nil => rw [List.nil_append, List.nil_append]
  | cons hw hRest ih =>
      rw [List.append_assoc, decode_spelling hw, ih, List.cons_append]

end Page

/-! ## Addresses in redirects -/

theorem Percent.noAmpersand_encodeChars (cs : List Char) :
    '&' ∉ encodeChars cs := by
  have hByte : ∀ n < 256, '&' ∉ encodeByte (UInt8.ofNat n) := by decide +kernel
  intro hMem
  obtain ⟨b, -, hb⟩ := List.mem_flatMap.mp hMem
  have hNot := hByte b.toNat b.toNat_lt_size
  rw [UInt8.ofNat_toNat] at hNot
  exact hNot hb

namespace Results

/-- The address of a redirect up to its target. -/
def redirect : String := "//duckduckgo.com/l/?uddg="

/-- The parameter in which a redirect has its target begins where the target
does. -/
theorem breakAt?_redirect (rest : List Char) :
    Chars.breakAt? "uddg=".toList (redirect.toList ++ rest) =
      some ("//duckduckgo.com/l/?".toList, rest) := by
  have hFirst : Chars.breakAt? "uddg=".toList redirect.toList =
        some ("//duckduckgo.com/l/?".toList, []) := by
    decide
  exact Chars.breakAt?_append hFirst rest

/-- A redirect leads to its target, whatever else is in it. -/
theorem address_redirect (target more : String) :
    address (redirect ++ Percent.encode target ++ "&amp;rut=" ++ more) =
      target := by
  have hRaw :
      (redirect ++ Percent.encode target ++ "&amp;rut=" ++ more).toList =
      redirect.toList ++ (Percent.encodeChars target.toList ++
        ("&amp;".toList ++ ("rut=".toList ++ more.toList))) := by
    have hParameter : "&amp;rut=".toList = "&amp;".toList ++ "rut=".toList := by
      decide
    simp only [String.toList_append, Percent.encode, String.toList_ofList,
      hParameter, List.append_assoc]
  have hDecoded :
      Page.decode (redirect ++ Percent.encode target ++ "&amp;rut=" ++
        more).toList =
      redirect.toList ++ (Percent.encodeChars target.toList ++ '&' ::
        Page.decode ("rut=".toList ++ more.toList)) := by
    rw [hRaw, Page.decode_append_of_noAmpersand (by decide),
      Page.decode_append_of_noAmpersand (Percent.noAmpersand_encodeChars _),
      Page.decode_reference (r := ("&amp;", "&")) (by decide)]
    rw [show "&".toList = ['&'] from rfl, List.singleton_append]
  have hTarget :
      (Percent.encodeChars target.toList ++ '&' ::
        Page.decode ("rut=".toList ++ more.toList)).takeWhile
      (· != '&') = Percent.encodeChars target.toList := by
    rw [List.takeWhile_append_of_pos fun c hc => bne_iff_ne.mpr fun hEq =>
      Percent.noAmpersand_encodeChars _ (hEq ▸ hc)]
    simp
  unfold address
  dsimp only
  rw [hDecoded, breakAt?_redirect, Option.bind_some]
  dsimp only
  rw [hTarget, ← Percent.encode, Percent.decode?_encode]

/-- **What a list of results writes is read back.** A redirect leads to the
target that is encoded in it, whatever follows in its parameter, and an escaped
text is decoded to what it was, also in front of anything else. So nothing is
decoded twice. -/
theorem written_read_back :
    (∀ target more : String,
        address ("//duckduckgo.com/l/?uddg=" ++ Percent.encode target ++
          "&amp;rut=" ++ more) = target) ∧
      ∀ cs written : List Char, Page.Escaped cs written →
        Page.decode written = cs ∧ ∀ rest,
        Page.decode (written ++ rest) = cs ++ Page.decode rest := by
  refine ⟨address_redirect, fun cs written h => ⟨?_, Page.decode_escaped h⟩⟩
  have hDecode := Page.decode_escaped h []
  rwa [Page.decode_nil, List.append_nil, List.append_nil] at hDecode

/-- A text about references, with apostrophes of both kinds. -/
theorem written_read_back_nested :
    Page.Escaped "&lt;' \"'".toList "&amp;lt;&#x27; &quot;&#39;".toList ∧
      Page.decode "&amp;lt;&#x27; &quot;&#39;".toList = "&lt;' \"'".toList := by
  have hEscaped : Page.Escaped ['&', 'l', 't', ';', '\'', ' ', '"', '\'']
      ("&amp;".toList ++ ("l".toList ++ ("t".toList ++ (";".toList ++
        ("&#x27;".toList ++ (" ".toList ++ ("&quot;".toList ++
          ("&#39;".toList ++ [])))))))) :=
    .cons (by decide +kernel) (.cons (by decide +kernel)
      (.cons (by decide +kernel) (.cons (by decide +kernel)
        (.cons (by decide +kernel) (.cons (by decide +kernel)
          (.cons (by decide +kernel) (.cons (by decide +kernel) .nil)))))))
  exact ⟨hEscaped, (written_read_back.2 _ _ hEscaped).1⟩

end Results

end Errand
