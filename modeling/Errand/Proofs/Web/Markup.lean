import Errand.Proofs.Web.PageText

/-!
# The readable text of markup

`Markup` is what pages consist of: texts, and elements with more of the same
inside. Written down, it is a list of tags and texts (`Markup.tokens`), and
this list is all that the passes over a page look at. They do not see which
closing tag belongs to which opening one.

So what is readable is told by the list. A part is passed over from an opening
tag whose name begins like that of an element without readable content up to
the first closing tag of any such element, if there is one (`legible`). For
markup in which no other name begins like that, and in which no such element
lies within another one, this is the text outside of these elements
(`Markup.shown`). For other markup it is not: an element whose name only begins
like theirs takes away what lies between it and one of them, and one of them
within another one ends it too early.

## Main results

* `exists_tag_of_render`: an angle bracket in written markup is where a tag
  begins.
* `replaceAll_unreadableElement`, `replaceAll_tag`: what the passes over the
  elements and over the tags leave.
* `text_of_markup`: the text of written markup.
* `text_of_headings`: where it is not the text outside of the elements without
  readable content.
-/

namespace Errand

/-! ## Markup -/

/-- The name of an element: a letter, and then letters and digits. -/
structure ElementName where
  first : Char
  rest : List Char
  first_isAlpha : first.isAlpha = true
  rest_isAlphanum : rest.all Char.isAlphanum = true

/-- Texts and elements, one after the other. -/
inductive Markup where
  | nil
  | text (t : PlainText) (rest : Markup)
  | element (name : ElementName) (content rest : Markup)

namespace ElementName

def chars (n : ElementName) : List Char := n.first :: n.rest

/-- The name in small letters. -/
def lower (n : ElementName) : List Char := n.chars.map Char.toLower

/-- The names of the elements whose content is not for reading. -/
def unreadableNames : List String := ["script", "style", "noscript", "head"]

/-- The element has no readable content. -/
def isUnreadable (n : ElementName) : Bool := unreadableNames.any fun u =>
    u.toList == n.lower

/-- The name begins like that of an element without readable content. -/
def beginsUnreadable (n : ElementName) : Bool := unreadableNames.any fun u =>
    Chars.startsWith u.toList n.lower

end ElementName

namespace Markup

/-- The markup as it is written. -/
def render : Markup → List Char
  | .nil => []
  | .text t rest => t.chars ++ rest.render
  | .element n content rest =>
    '<' ::
      (n.chars ++ '>' :: (content.render ++ '<' :: '/' ::
          (n.chars ++ '>' :: rest.render)))

/-- The text outside of elements without readable content, with spaces between
the texts of different elements. -/
def shown : Markup → List Char
  | .nil => []
  | .text t rest => t.chars ++ rest.shown
  | .element n content rest =>
    if n.isUnreadable then ' ' :: rest.shown
    else ' ' :: (content.shown ++ ' ' :: rest.shown)

/-- The names of the elements. -/
def names : Markup → List ElementName
  | .nil => []
  | .text _ rest => rest.names
  | .element n content rest => n :: (content.names ++ rest.names)

/-- No element without readable content lies within another one, and outside of
them no name begins like theirs. -/
def isRegular : Markup → Bool
  | .nil => true
  | .text _ rest => rest.isRegular
  | .element n content rest =>
    (if n.isUnreadable then content.names.all (!·.isUnreadable)
      else !n.beginsUnreadable && content.isRegular) && rest.isRegular

/-! ## Tags and texts -/

/-- A piece of written markup. -/
inductive Token where
  | opening (name : ElementName)
  | closing (name : ElementName)
  | text (t : PlainText)

namespace Token

def render : Token → List Char
  | .opening n => '<' :: (n.chars ++ ['>'])
  | .closing n => '<' :: '/' :: (n.chars ++ ['>'])
  | .text t => t.chars

/-- The text of a piece, where a tag counts as a space. -/
def shown : Token → List Char
  | .opening _ | .closing _ => [' ']
  | .text t => t.chars

/-- The piece is a tag. -/
def isTag : Token → Bool
  | .opening _ | .closing _ => true
  | .text _ => false

/-- The tag closes an element without readable content. -/
def closesUnreadable : Token → Bool
  | .closing n => n.isUnreadable
  | .opening _ | .text _ => false

end Token

/-- The tags and texts of the markup. -/
def tokens : Markup → List Token
  | .nil => []
  | .text t rest => .text t :: rest.tokens
  | .element n content rest =>
  .opening n :: (content.tokens ++ .closing n :: rest.tokens)

/-- Written pieces. -/
def renderAll (ts : List Token) : List Char := ts.flatMap Token.render

/-- The text that stands for what is passed over. -/
def space : PlainText := ⟨[' '], by decide⟩

/-- The pieces with everything that is passed over taken out, where `passing`
tells whether the first piece is in the middle of it. It begins with a tag
whose name begins like that of an element without readable content, if such an
element is closed later on, and ends with the first tag that closes one. -/
def legible (passing : Bool) : List Token → List Token
  | [] => []
  | t :: ts =>
    if passing then legible (!t.closesUnreadable) ts
    else
      match t with
      | .opening n =>
        if n.beginsUnreadable && ts.any Token.closesUnreadable then
          .text space :: legible true ts
        else t :: legible false ts
      | .closing _ | .text _ => t :: legible false ts

theorem legible_text (t : PlainText) (ts : List Token) :
    legible false (.text t :: ts) = .text t :: legible false ts :=
  rfl

theorem legible_closing (n : ElementName) (ts : List Token) :
    legible false (.closing n :: ts) = .closing n :: legible false ts :=
  rfl

theorem legible_opening (n : ElementName) (ts : List Token) :
    legible false (.opening n :: ts) =
      if n.beginsUnreadable && ts.any Token.closesUnreadable then
        .text space :: legible true ts
      else .opening n :: legible false ts :=
  rfl

theorem legible_passing_cons (t : Token) (ts : List Token) :
    legible true (t :: ts) = legible (!t.closesUnreadable) ts := by
  rw [legible.eq_def]
  rfl

theorem renderAll_cons (t : Token) (ts : List Token) :
    renderAll (t :: ts) = t.render ++ renderAll ts :=
  List.flatMap_cons

theorem renderAll_append (ts us : List Token) :
    renderAll (ts ++ us) = renderAll ts ++ renderAll us :=
  List.flatMap_append

/-- Written markup is its tags and texts. -/
theorem render_eq (m : Markup) : m.render = renderAll m.tokens := by
  induction m with
  | nil => rfl
  | text t rest ih => rw [render, tokens, renderAll_cons, ← ih]; rfl
  | element n content rest ihContent ihRest =>
      rw [render, tokens, renderAll_cons, renderAll_append, renderAll_cons,
        ← ihContent, ← ihRest]
      simp only [Token.render, List.cons_append, List.append_assoc,
        List.nil_append]

end Markup

/-! ## Characters of names -/

namespace ElementName

variable (n : ElementName)

theorem isAlphanum_of_mem {c : Char} (h : c ∈ n.chars) :
    c.isAlphanum = true := by
  rcases List.mem_cons.mp h with rfl | hRest
  · rw [Char.isAlphanum, n.first_isAlpha, Bool.true_or]
  · exact List.all_eq_true.mp n.rest_isAlphanum c hRest

theorem not_mem_of_isAlphanum {c : Char} (h : c.isAlphanum = false) :
    c ∉ n.chars := fun hMem => by
  rw [n.isAlphanum_of_mem hMem] at h
  cases h

theorem first_ne_slash : n.first ≠ '/' := fun h => by
  have hAlpha := n.first_isAlpha
  rw [h] at hAlpha
  cases hAlpha

end ElementName

namespace Markup

/-- A tag has an angle bracket only at its front. -/
theorem Token.exists_inner {t : Token} (h : t.isTag = true) :
    ∃ inner, t.render = '<' :: inner ∧ '<' ∉ inner := by
  have hName : ∀ n : ElementName, '<' ∉ n.chars ++ ['>'] := fun n hMem =>
    (List.mem_append.mp hMem).elim (n.not_mem_of_isAlphanum (by decide))
      (by decide)
  cases t with
  | opening n => exact ⟨_, rfl, hName n⟩
  | closing n =>
      exact ⟨_, rfl, List.not_mem_cons_of_ne_of_not_mem (by decide) (hName n)⟩
  | text t => cases h

/-- **An angle bracket in written markup is where a tag begins.** -/
theorem exists_tag_of_render {ts : List Token} {front behind : List Char}
    (h : renderAll ts = front ++ '<' :: behind) :
    ∃ t later, t ∈ ts ∧ t.isTag = true ∧
    '<' :: behind = t.render ++ renderAll later := by
  induction ts generalizing front with
  | nil => exact absurd h (by simp [renderAll])
  | cons t ts ih =>
      rw [renderAll_cons] at h
      have hLater : ∀ {passed front' : List Char}, '<' ∉ passed →
          passed ++ renderAll ts = front' ++ '<' :: behind →
          ∃ t' later, t' ∈ t :: ts ∧ t'.isTag = true ∧
          '<' :: behind = t'.render ++ renderAll later := by
        intro passed front' hPassed hText
        obtain ⟨before, -, hRest⟩ := Chars.exists_of_append_eq hPassed hText
        obtain ⟨t', later, hMem, hTag⟩ := ih hRest
        exact ⟨t', later, List.mem_cons_of_mem t hMem, hTag⟩
      cases hTag : t.isTag with
      | true =>
          obtain ⟨inner, hRender, hInner⟩ := Token.exists_inner hTag
          cases front with
          | nil => exact ⟨t, ts, List.mem_cons_self, hTag, h.symm⟩
          | cons d front =>
              rw [hRender] at h
              exact hLater hInner (List.cons.inj h).2
      | false =>
          cases t with
          | opening n => cases hTag
          | closing n => cases hTag
          | text t => exact hLater t.noBracket h

end Markup

/-! ## Elements without readable content -/

namespace Page

open Pattern

/-- The text is the name of an element without readable content, in any case of
its letters. -/
def Spells (w : List Char) : Prop :=
  ∃ u ∈ ElementName.unreadableNames, w.map foldCase = u.toList

theorem Spells.ne_nil {w : List Char} (h : Spells w) : w ≠ [] := by
  have hNames : ∀ u ∈ ElementName.unreadableNames, u.toList ≠ [] := by decide
  rintro rfl
  obtain ⟨u, hu, hw⟩ := h
  exact hNames u hu hw.symm

theorem Spells.not_mem {w : List Char} (h : Spells w) {c : Char}
    (hc : ∀ u ∈ ElementName.unreadableNames, foldCase c ∉ u.toList) : c ∉ w :=
  fun hMem => by
  obtain ⟨u, hu, hw⟩ := h
  exact hc u hu (hw ▸ List.mem_map_of_mem hMem)

theorem matches_unreadable {before after : Option Char} {w : List Char} :
    Matches unreadable before w after ↔ Spells w := by
  have hNames : ∀ u ∈ ElementName.unreadableNames,
      u.toList.map foldCase = u.toList := by decide
  have hChoice : Matches unreadable before w after ↔
      ∃ p ∈ ElementName.unreadableNames.map anyCase, Matches p before w after :=
    matches_oneOf
  refine hChoice.trans ⟨?_, ?_⟩
  · rintro ⟨p, hMem, hMatch⟩
    obtain ⟨u, hu, rfl⟩ := List.mem_map.mp hMem
    exact ⟨u, hu, (matches_anyCase.mp hMatch).trans (hNames u hu)⟩
  · rintro ⟨u, hu, hw⟩
    exact ⟨anyCase u, List.mem_map_of_mem hu,
      matches_anyCase.mpr (hw.trans (hNames u hu).symm)⟩

/-- The closing tag of an element without readable content. -/
def closingTag : Pattern :=
  inOrder [exactly "</", .group unreadable, exactly ">"]

theorem matches_closingTag {before after : Option Char} {cs : List Char} :
    Matches closingTag before cs after ↔ ∃ w, Spells w ∧
    cs = '<' :: '/' :: (w ++ ['>']) := by
  constructor
  · intro h
    obtain ⟨opening, rest, rfl, hOpening, h⟩ := exists_of_matches_seq h
    obtain ⟨w, ending, rfl, hName, hEnding⟩ := exists_of_matches_seq h
    rw [matches_exactly.mp hOpening, matches_exactly.mp hEnding]
    exact ⟨w, matches_unreadable.mp (matches_of_group hName), rfl⟩
  · rintro ⟨w, hw, rfl⟩
    have hRest : Matches (.seq (.group unreadable) (exactly ">"))
          (lastOf before "</".toList) (w ++ ">".toList) after :=
      .seq (.group (matches_unreadable.mpr hw)) (matches_exactly.mpr rfl)
    exact .seq (matches_exactly.mpr rfl) hRest

section Going

variable {α : Type} {before : Option Char} {groups : List (List Char)}
  {k : Place → List (List Char) → Option α} {w rest : List Char}

/-- A closing tag is covered as a whole. -/
theorem go_closingTag (hw : Spells w)
    (hk : ∀ place groups, (k place groups).isSome) :
    ∃ before' groups',
      go closingTag ⟨before, '<' :: '/' :: (w ++ '>' :: rest)⟩ groups k =
        k ⟨before', rest⟩ groups' := by
  have hText : '<' :: '/' :: (w ++ '>' :: rest) =
        ('<' :: '/' :: (w ++ ['>'])) ++ rest := by
    simp only [List.cons_append, List.append_assoc, List.nil_append]
  obtain ⟨r, hr⟩ : ∃ r, go closingTag ⟨before,
      ('<' :: '/' :: (w ++ ['>'])) ++ rest⟩ groups k = some r :=
    Option.isSome_iff_exists.mp
      (isSome_go closingTag (matches_closingTag.mpr ⟨w, hw, rfl⟩) groups
        fun groups' => hk ⟨_, rest⟩ groups')
  rw [hText, hr]
  obtain ⟨cs, tl, groups', hSplit, hMatch, hFound⟩ := exists_of_go closingTag hr
  obtain ⟨w', hw', rfl⟩ := matches_closingTag.mp hMatch
  obtain rfl : rest = tl := by
    simp only [List.cons_append, List.append_assoc, List.nil_append,
      List.cons.injEq, true_and] at hSplit
    exact (Chars.eq_of_append_cons (hw.not_mem (by decide))
        (hw'.not_mem (by decide)) hSplit).2
  exact ⟨_, groups', hFound.symm⟩

theorem go_closingTag_eq_none {text : List Char}
    (h : ∀ w rest, Spells w → text ≠ '<' :: '/' :: (w ++ '>' :: rest)) :
    go closingTag ⟨before, text⟩ groups k = none := by
  rw [Option.eq_none_iff_forall_ne_some]
  intro r hr
  obtain ⟨cs, tl, groups', hSplit, hMatch, -⟩ := exists_of_go closingTag hr
  obtain ⟨w, hw, rfl⟩ := matches_closingTag.mp hMatch
  exact h w tl hw (hSplit.trans (by
    simp only [List.cons_append, List.append_assoc, List.nil_append]))

/-- Behind the name of an opening tag come the rest of the tag and the content,
up to the first closing tag. -/
theorem go_content {inside content : List Char} (hInside : '>' ∉ inside)
    (hw : Spells w)
    (hFirst : ∀ back, back <:+ content → back ≠ [] → ∀ w' rest', Spells w' →
      back ++ '<' :: '/' :: (w ++ '>' :: rest) ≠
      '<' :: '/' :: (w' ++ '>' :: rest'))
      (hk : ∀ place groups, (k place groups).isSome) :
    ∃ before' groups',
    go (.seq (upTo ['>']) (.seq (exactly ">") (.seq anything closingTag)))
      ⟨before, inside ++ '>' :: (content ++ '<' :: '/' :: (w ++ '>' :: rest))⟩
        groups k =
        k ⟨before', rest⟩ groups' := by
  obtain ⟨before', groups', hClosing⟩ : ∃ before' groups', go closingTag
      ⟨lastOf (some '>') content, '<' :: '/' :: (w ++ '>' :: rest)⟩ groups k =
        k ⟨before', rest⟩ groups' :=
    go_closingTag hw hk
  rw [go_upTo (by decide) hInside, go_anything, hClosing]
  · exact ⟨before', groups', rfl⟩
  · exact fun before back hBack hSome =>
      go_closingTag_eq_none (hFirst back hBack hSome)
  · rw [hClosing]
    exact hk _ _

end Going

/-- **A match goes up to the first closing tag**, where the name of the opening
tag begins like that of an element without readable content. -/
theorem exists_matchAt_unreadableElement (before : Option Char)
    {front content w rest : List Char}
    (hBegins : ∃ u inside, front = u ++ inside ∧ Spells u)
    (hFront : '>' ∉ front) (hw : Spells w)
    (hFirst : ∀ back, back <:+ content → back ≠ [] → ∀ w' rest', Spells w' →
      back ++ '<' :: '/' :: (w ++ '>' :: rest) ≠
      '<' :: '/' :: (w' ++ '>' :: rest')) :
    ∃ m, matchAt unreadableElement before
        ('<' ::
          (front ++ '>' :: (content ++ '<' :: '/' :: (w ++ '>' :: rest)))) =
          some m ∧
      m.length =
        ('<' :: (front ++
          '>' :: (content ++ '<' :: '/' :: (w ++ ['>'])))).length := by
  obtain ⟨u, inside, rfl, hu⟩ := hBegins
  rw [List.mem_append, not_or] at hFront
  let behind := '>' :: (content ++ '<' :: '/' :: (w ++ '>' :: rest))
  let last := reached ('<' :: (u ++ inside ++ behind))
  -- Which name is found does not matter: behind any name that the tag begins
  -- with, the rest of the tag is passed over.
  have hRest : ∀ before groups {inside}, '>' ∉ inside → ∃ before' groups',
      go (.seq (upTo ['>']) (.seq (exactly ">") (.seq anything closingTag)))
        ⟨before, inside ++ behind⟩ groups last =
        last ⟨before', rest⟩ groups' :=
    fun _ _ _ hInside => go_content hInside hw hFirst fun _ _ => rfl
  have hOpened : matchAt unreadableElement before
        ('<' :: (u ++ inside ++ behind)) =
      go (.seq (.group unreadable)
        (.seq (upTo ['>']) (.seq (exactly ">") (.seq anything closingTag))))
        ⟨some '<', u ++ inside ++ behind⟩ [] last :=
    go_exactly_seq "<"
  obtain ⟨m, hm⟩ : ∃ m, matchAt unreadableElement before
        ('<' :: (u ++ inside ++ behind)) = some m := by
    rw [hOpened, List.append_assoc, go_seq, ← Option.isSome_iff_exists]
    refine isSome_go _ (.group (matches_unreadable.mpr hu)) [] fun groups => ?_
    obtain ⟨before', groups', hFound⟩ :=
      hRest (lastOf (some '<') u) groups hFront.2
    rw [hFound]
    rfl
  refine ⟨m, hm, ?_⟩
  rw [hOpened, go_seq] at hm
  obtain ⟨v, tl, groups, hSplit, hMatch, hFound⟩ := exists_of_go _ hm
  have hv :=
    (matches_unreadable.mp (matches_of_group hMatch)).not_mem (c := '>')
      (by decide)
  obtain ⟨inside', hFront', rfl⟩ := Chars.exists_of_append_eq hv hSplit.symm
  have hInside' : '>' ∉ inside' := fun hMem =>
    (List.mem_append.mp (hFront' ▸ List.mem_append_right v hMem)).elim
      hFront.1 hFront.2
  obtain ⟨before', groups', hEnd⟩ := hRest (lastOf (some '<') v) groups hInside'
  obtain rfl := Option.some.inj (hEnd.symm.trans hFound)
  show ('<' :: (u ++ inside ++ behind)).length - rest.length = _
  simp only [behind, List.length_cons, List.length_append, List.length_nil]
  omega

/-- A match goes from the name of an element without readable content up to a
closing tag of one. -/
theorem exists_of_matchAt_unreadableElement {before : Option Char}
    {text : List Char} {m : Match}
    (h : matchAt unreadableElement before ('<' :: text) = some m) :
    ∃ u inside content w rest, Spells u ∧ Spells w ∧
      text = u ++ inside ++ '>' ::
        (content ++ '<' :: '/' :: (w ++ '>' :: rest)) := by
  obtain ⟨ds, tl, hSplit, hMatch, -⟩ := exists_of_matchAt h
  obtain ⟨opening, _, rfl, hOpening, hMatch⟩ := exists_of_matches_seq hMatch
  obtain ⟨u, _, rfl, hName, hMatch⟩ := exists_of_matches_seq hMatch
  obtain ⟨inside, _, rfl, -, hMatch⟩ := exists_of_matches_seq hMatch
  obtain ⟨ending, _, rfl, hEnding, hMatch⟩ := exists_of_matches_seq hMatch
  obtain ⟨content, closing, rfl, -, hClosing⟩ := exists_of_matches_seq hMatch
  obtain ⟨w, hw, rfl⟩ := matches_closingTag.mp hClosing
  refine ⟨u, inside, content, w, tl,
    matches_unreadable.mp (matches_of_group hName), hw, ?_⟩
  rw [matches_exactly.mp hOpening, matches_exactly.mp hEnding,
    show "<".toList = ['<'] from rfl, show ">".toList = ['>']
    from rfl] at hSplit
  simp only [List.append_assoc, List.cons_append, List.nil_append,
    List.cons.injEq, true_and] at hSplit
  rw [hSplit, List.append_assoc]

end Page

/-! ## What is passed over -/

namespace ElementName

open Pattern Page

variable (n : ElementName)

theorem map_foldCase : n.chars.map foldCase = n.lower := by
  refine List.map_congr_left fun c hc => ?_
  have hAlphanum := n.isAlphanum_of_mem hc
  unfold foldCase
  rw [if_neg (by rintro rfl; exact absurd hAlphanum (by decide)),
    if_neg (by rintro rfl; exact absurd hAlphanum (by decide))]

theorem isUnreadable_iff : n.isUnreadable = true ↔ Spells n.chars := by
  simp only [isUnreadable, Spells, List.any_eq_true, beq_iff_eq, n.map_foldCase]
  exact exists_congr fun u => and_congr_right fun _ => eq_comm

theorem beginsUnreadable_iff : n.beginsUnreadable = true ↔
    ∃ u inside, n.chars = u ++ inside ∧ Spells u := by
  simp only [beginsUnreadable, List.any_eq_true, Chars.startsWith,
    Chars.isSome_dropLead?, ← n.map_foldCase]
  constructor
  · rintro ⟨name, hName, more, hMore⟩
    obtain ⟨u, inside, hSplit, hu, -⟩ := List.map_eq_append_iff.mp hMore.symm
    exact ⟨u, inside, hSplit, name, hName, hu⟩
  · rintro ⟨u, inside, hSplit, name, hName, hu⟩
    exact ⟨name, hName, inside.map foldCase,
      by rw [hSplit, List.map_append, hu]⟩

theorem beginsUnreadable_of_isUnreadable (h : n.isUnreadable = true) :
    n.beginsUnreadable = true :=
  n.beginsUnreadable_iff.mpr ⟨n.chars, [], (List.append_nil _).symm,
    n.isUnreadable_iff.mp h⟩

end ElementName

namespace Markup

open Pattern Page
open Chars (unwords words)

/-- Where a closing tag is written, the piece is this tag. -/
theorem closesUnreadable_of_render {t : Token} (hTag : t.isTag = true)
    {w more rest : List Char} (hw : Spells w)
    (h : t.render ++ more = '<' :: '/' :: (w ++ '>' :: rest)) :
    t.closesUnreadable = true := by
  cases t with
  | opening n =>
      exact absurd (List.cons.inj (List.cons.inj h).2).1 n.first_ne_slash
  | closing n =>
      have hName : n.chars ++ '>' :: more = w ++ '>' :: rest := by
        simpa only [Token.render, List.cons_append, List.append_assoc,
          List.nil_append, List.cons.injEq, true_and]
          using h
      obtain ⟨rfl, -⟩ :=
        Chars.eq_of_append_cons (n.not_mem_of_isAlphanum (by decide))
        (hw.not_mem (by decide)) hName
      exact n.isUnreadable_iff.mpr hw
  | text t => cases hTag

/-- Up to the first tag that closes an element without readable content,
everything is passed over. -/
theorem legible_passing {passed : List Token}
    (h : ∀ t ∈ passed, t.closesUnreadable = false) {closed : ElementName}
    (hClosed : closed.isUnreadable = true) (ts : List Token) :
    legible true (passed ++ .closing closed :: ts) = legible false ts := by
  induction passed with
  | nil =>
      rw [List.nil_append, legible_passing_cons,
        Token.closesUnreadable, hClosed]
      rfl
  | cons t passed ih =>
      obtain ⟨ht, hPassed⟩ := List.forall_mem_cons.mp h
      rw [List.cons_append, legible_passing_cons, ht]
      exact ih hPassed

theorem exists_first_closing {ts : List Token}
    (h : ts.any Token.closesUnreadable = true) :
    ∃ passed closed later, ts = passed ++ .closing closed :: later ∧
      (∀ t ∈ passed, t.closesUnreadable = false) ∧
      closed.isUnreadable = true := by
  obtain ⟨t, hFirst⟩ :=
    Option.isSome_iff_exists.mp (List.find?_isSome.mpr (List.any_eq_true.mp h))
  obtain ⟨hCloses, passed, later, hSplit, hPassed⟩ :=
    List.find?_eq_some_iff_append.mp hFirst
  cases t with
  | closing closed =>
      exact ⟨passed, closed, later, hSplit,
        fun t ht => Bool.not_eq_true' _ ▸ hPassed t ht, hCloses⟩
  | opening n => cases hCloses
  | text t => cases hCloses

/-- A tag at which no element begins stays. -/
theorem replaceFrom_tag {t : Token} (hTag : t.isTag = true)
    {before : Option Char} {rest : List Char}
    (hNone : matchAt unreadableElement before (t.render ++ rest) = none) :
    ∃ before',
      unreadableElement.replaceFrom [' '] 0 before (t.render ++ rest) =
        t.render ++ unreadableElement.replaceFrom [' '] 0 before' rest := by
  obtain ⟨inner, hRender, hInner⟩ := Token.exists_inner hTag
  rw [hRender, List.cons_append] at hNone ⊢
  refine ⟨lastOf (some '<') inner, ?_⟩
  rw [replaceFrom, properMatchAt_eq_none hNone]
  exact congrArg ('<' :: ·)
    (bracketed_unreadableElement.replaceFrom hInner (some '<') rest)

/-- No element begins at a closing tag. -/
theorem matchAt_closing_eq_none (before : Option Char) (n : ElementName)
    (rest : List Char) :
    matchAt unreadableElement before ((Token.closing n).render ++ rest) =
      none := by
  rw [Option.eq_none_iff_forall_ne_some]
  intro m hm
  obtain ⟨u, inside, content, w, rest', hu, -, hText⟩ :=
    exists_of_matchAt_unreadableElement hm
  obtain ⟨c, u, rfl⟩ := List.exists_cons_of_ne_nil hu.ne_nil
  obtain ⟨rfl, -⟩ := List.cons.inj hText
  exact hu.not_mem (by decide) List.mem_cons_self

/-- No element begins at an opening tag with another name, or if none is closed
later on. -/
theorem matchAt_opening_eq_none (before : Option Char) {n : ElementName}
    {ts : List Token}
    (h : (n.beginsUnreadable && ts.any Token.closesUnreadable) = false) :
    matchAt unreadableElement before
      ((Token.opening n).render ++ renderAll ts) = none := by
  rw [Option.eq_none_iff_forall_ne_some]
  intro m hm
  obtain ⟨u, inside, content, w, rest, hu, hw, hText⟩ :=
    exists_of_matchAt_unreadableElement hm
  change (n.chars ++ ['>']) ++ renderAll ts = _ at hText
  have hBegins : n.beginsUnreadable = true := by
    rw [List.append_assoc, List.append_assoc] at hText
    obtain ⟨inside', hName, -⟩ :=
      Chars.exists_of_append_eq (hu.not_mem (by decide)) hText.symm
    exact n.beginsUnreadable_iff.mpr ⟨u, inside', hName, hu⟩
  have hCloses : ts.any Token.closesUnreadable = true := by
    obtain ⟨inner, hRender, hInner⟩ := Token.exists_inner (t := .opening n) rfl
    obtain rfl : n.chars ++ ['>'] = inner := (List.cons.inj hRender).2
    have hSplit : (n.chars ++ ['>']) ++ renderAll ts =
        (u ++ (inside ++ '>' :: content)) ++ '<' :: '/' ::
          (w ++ '>' :: rest) := by
      rw [hText]
      simp only [List.append_assoc, List.cons_append]
    obtain ⟨front, -, hRest⟩ := Chars.exists_of_append_eq hInner hSplit
    obtain ⟨t, later, hMem, hTag, hRender⟩ := exists_tag_of_render hRest
    exact List.any_eq_true.mpr ⟨t, hMem,
      closesUnreadable_of_render hTag hw hRender.symm⟩
  rw [hBegins, hCloses] at h
  cases h

/-- An element is replaced together with everything up to the first tag that
closes one. -/
theorem replaceFrom_opening {n closed : ElementName} {passed : List Token}
    (hBegins : n.beginsUnreadable = true)
    (hPassed : ∀ t ∈ passed, t.closesUnreadable = false)
    (hClosed : closed.isUnreadable = true) (before : Option Char)
    (ts : List Token) : ∃ before',
      unreadableElement.replaceFrom [' '] 0 before
          ((Token.opening n).render ++
            renderAll (passed ++ .closing closed :: ts)) =
        ' ' :: unreadableElement.replaceFrom [' '] 0 before'
          (renderAll ts) := by
  have hw := closed.isUnreadable_iff.mp hClosed
  have hFirst : ∀ back, back <:+ renderAll passed → back ≠ [] →
      ∀ w' rest', Spells w' →
      back ++ '<' :: '/' :: (closed.chars ++ '>' :: renderAll ts) ≠
        '<' :: '/' :: (w' ++ '>' :: rest') := by
    rintro back ⟨front, hFront⟩ hSome w' rest' hw' hBack
    obtain ⟨c, back, rfl⟩ := List.exists_cons_of_ne_nil hSome
    obtain ⟨rfl, -⟩ := List.cons.inj hBack
    obtain ⟨t, later, hMem, hTag, hRender⟩ := exists_tag_of_render hFront.symm
    rw [hRender, List.append_assoc] at hBack
    have hCloses := closesUnreadable_of_render hTag hw' hBack
    rw [hPassed t hMem] at hCloses
    cases hCloses
  obtain ⟨m, hm, hLength⟩ :=
    exists_matchAt_unreadableElement before (n.beginsUnreadable_iff.mp hBegins)
    (n.not_mem_of_isAlphanum (by decide)) hw hFirst
  have hText : (Token.opening n).render ++
        renderAll (passed ++ .closing closed :: ts) =
      '<' ::
        (n.chars ++ '>' :: (renderAll passed ++ '<' :: '/' ::
          (closed.chars ++ ['>']))) ++ renderAll ts := by
    rw [renderAll_append, renderAll_cons]
    simp only [Token.render, List.append_assoc, List.cons_append,
      List.nil_append]
  refine ⟨_, hText ▸ replaceFrom_take ?_ hLength (List.cons_ne_nil _ _)⟩
  rw [← hm]
  simp only [List.append_assoc, List.cons_append, List.nil_append]

theorem replaceFrom_unreadableElement (before : Option Char) (ts : List Token) :
    unreadableElement.replaceFrom [' '] 0 before (renderAll ts) =
      renderAll (legible false ts) := by
  -- An element is passed at once with all that is in it, so the induction is
  -- on the number of pieces.
  induction hLength : ts.length using Nat.strongRecOn
    generalizing before ts with
  | ind n ih =>
      cases ts with
      | nil => rfl
      | cons t ts =>
          have hRest : ∀ before, unreadableElement.replaceFrom [' '] 0 before
                (renderAll ts) =
              renderAll (legible false ts) := fun before =>
            ih ts.length (by rw [← hLength]; exact Nat.lt_succ_self _)
              before ts rfl
          rw [renderAll_cons]
          cases t with
          | text t =>
              refine (bracketed_unreadableElement.replaceFrom t.noBracket before
                (renderAll ts)).trans ?_
              rw [hRest, legible_text, renderAll_cons]
              rfl
          | closing n =>
              obtain ⟨before', hStays⟩ :=
                replaceFrom_tag rfl (matchAt_closing_eq_none before n
                    (renderAll ts))
              rw [hStays, hRest, legible_closing, renderAll_cons]
          | opening n =>
              rw [legible_opening]
              split
              · next h =>
                  obtain ⟨hBegins, hCloses⟩ := Bool.and_eq_true_iff.mp h
                  obtain ⟨passed, closed, later, rfl, hPassed, hClosed⟩ :=
                    exists_first_closing hCloses
                  obtain ⟨before', hGone⟩ :=
                    replaceFrom_opening hBegins hPassed hClosed before later
                  have hLater :=
                    ih later.length (by rw [← hLength]; simp; omega)
                      before' later rfl
                  rw [hGone, hLater, legible_passing hPassed hClosed,
                    renderAll_cons]
                  rfl
              · next h =>
                  obtain ⟨before', hStays⟩ := replaceFrom_tag rfl
                    (matchAt_opening_eq_none before (Bool.eq_false_iff.mpr h))
                  rw [hStays, hRest, renderAll_cons]

/-- **What the pass over the elements without readable content leaves.** -/
theorem replaceAll_unreadableElement (ts : List Token) :
    unreadableElement.replaceAll [' '] (renderAll ts) =
      renderAll (legible false ts) :=
  replaceFrom_unreadableElement none ts

end Markup

/-! ## Tags -/

namespace Page

open Pattern

theorem matches_tag {before after : Option Char} {slash : List Char}
    (hSlash : slash = [] ∨ slash = ['/']) (n : ElementName) :
    Matches tag before ('<' :: (slash ++ (n.chars ++ ['>']))) after := by
  have hRest : ∀ c ∈ n.rest, (!(['<', '>'].contains c)) = true := fun c hc => by
    have hAlphanum := n.isAlphanum_of_mem (List.mem_cons_of_mem n.first hc)
    simp only [List.contains_cons, List.contains_nil, Bool.or_false,
      Bool.not_eq_true', Bool.or_eq_false_iff, beq_eq_false_iff_ne]
    constructor
    · rintro rfl
      exact absurd hAlphanum (by decide)
    · rintro rfl
      exact absurd hAlphanum (by decide)
  have hName : ∀ before, Matches
      (.seq (.one Char.isAlpha) (.seq (upTo ['<', '>']) (exactly ">"))) before
      ([n.first] ++ (n.rest ++ ">".toList)) after := fun before =>
    .seq (.one n.first_isAlpha) (.seq (.run hRest) (matches_exactly.mpr rfl))
  have hStart : ∀ before after,
      Matches (oneOf [exactly "/", .nothing]) before slash after :=
    fun before after => by
      rcases hSlash with rfl | rfl
      · exact .right .nothing
      · exact .left (matches_exactly.mpr rfl)
  exact .seq (matches_exactly.mpr rfl) (.seq (hStart _ _) (hName _))

/-- A tag ends with its only closing bracket. -/
theorem exists_of_matches_tag {before after : Option Char} {cs : List Char}
    (h : Matches tag before cs after) :
    ∃ inner, cs = inner ++ ['>'] ∧ '>' ∉ inner := by
  have hOpening : ∀ {before after slash},
      Matches (oneOf [exactly "/", .nothing]) before slash after →
      '>' ∉ slash := by
    intro before after slash h
    cases h with
    | left h => rw [matches_exactly.mp h]; decide
    | right h => cases h; exact List.not_mem_nil
  obtain ⟨opening, _, rfl, hOpen, h⟩ := exists_of_matches_seq h
  obtain ⟨slash, _, rfl, hSlash, h⟩ := exists_of_matches_seq h
  obtain ⟨first, _, rfl, hFirst, h⟩ := exists_of_matches_seq h
  obtain ⟨inside, ending, rfl, hInside, hEnding⟩ := exists_of_matches_seq h
  rw [matches_exactly.mp hOpen, matches_exactly.mp hEnding,
    show ">".toList = ['>'] from rfl]
  refine ⟨"<".toList ++ (slash ++ (first ++ inside)),
    by simp only [List.append_assoc], ?_⟩
  simp only [List.mem_append, not_or]
  refine ⟨by decide, hOpening hSlash, fun hMem => ?_, fun hMem => ?_⟩
  · cases hFirst with
    | one hAlpha =>
        obtain rfl := List.mem_singleton.mp hMem
        cases hAlpha
  · cases hInside with
    | run hInside => exact absurd (hInside '>' hMem) (by decide)

end Page

namespace Markup

open Pattern Page
open Chars (unwords words)

theorem exists_matchAt_tag {t : Token} (hTag : t.isTag = true)
    (before : Option Char) (rest : List Char) :
    ∃ m, matchAt tag before (t.render ++ rest) = some m ∧
    m.length = t.render.length := by
  have hMatch : Matches tag before t.render rest.head? := by
    cases t with
    | opening n => exact matches_tag (.inl rfl) n
    | closing n => exact matches_tag (.inr rfl) n
    | text t => cases hTag
  obtain ⟨m, hm⟩ : ∃ m, matchAt tag before (t.render ++ rest) = some m :=
    Option.isSome_iff_exists.mp (isSome_go tag hMatch [] fun _ => rfl)
  obtain ⟨inner, hRender, hInner⟩ := exists_of_matches_tag hMatch
  obtain ⟨ds, tl, hSplit, hFound, hLength⟩ := exists_of_matchAt hm
  obtain ⟨inner', rfl, hInner'⟩ := exists_of_matches_tag hFound
  rw [hRender, List.append_assoc, List.append_assoc] at hSplit
  obtain ⟨rfl, -⟩ := Chars.eq_of_append_cons hInner hInner' hSplit
  exact ⟨m, hm, hRender ▸ hLength⟩

theorem replaceFrom_tags (before : Option Char) (ts : List Token) :
    tag.replaceFrom [' '] 0 before (renderAll ts) = ts.flatMap Token.shown := by
  induction ts generalizing before with
  | nil => rfl
  | cons t ts ih =>
      rw [renderAll_cons, List.flatMap_cons]
      cases hTag : t.isTag with
      | true =>
          obtain ⟨m, hm, hLength⟩ :=
            exists_matchAt_tag hTag before (renderAll ts)
          obtain ⟨inner, hRender, -⟩ := Token.exists_inner hTag
          rw [replaceFrom_take hm hLength
            (by rw [hRender]; exact List.cons_ne_nil _ _), ih]
          cases t with
          | text t => cases hTag
          | opening n => rfl
          | closing n => rfl
      | false =>
          cases t with
          | text t =>
              refine (bracketed_tag.replaceFrom t.noBracket before
                  (renderAll ts)).trans ?_
              rw [ih]
              rfl
          | opening n => cases hTag
          | closing n => cases hTag

/-- **What the pass over the tags leaves.** -/
theorem replaceAll_tag (ts : List Token) :
    tag.replaceAll [' '] (renderAll ts) = ts.flatMap Token.shown :=
  replaceFrom_tags none ts

/-! ## The text of markup -/

theorem noAmpersand_shown (ts : List Token) : '&' ∉ ts.flatMap Token.shown :=
  fun hMem => by
  obtain ⟨t, -, ht⟩ := List.mem_flatMap.mp hMem
  have hSpace : '&' ∉ [' '] := by decide
  cases t with
  | opening n => exact hSpace ht
  | closing n => exact hSpace ht
  | text t => exact t.plain.2.2 ht

/-- The text of written markup is one line of the words of what is legible. -/
theorem text_render (m : Markup) :
    Page.text m.render = unwords
      (words ((legible false m.tokens).flatMap Token.shown)) := by
  unfold Page.text
  dsimp only
  rw [render_eq, replaceAll_unreadableElement, replaceAll_tag,
    decode_of_noAmpersand (noAmpersand_shown _), trim_collapse]

theorem closesUnreadable_of_mem_tokens {m : Markup}
    (h : ∀ n ∈ m.names, n.isUnreadable = false) :
    ∀ t ∈ m.tokens, t.closesUnreadable = false := by
  induction m with
  | nil => exact nofun
  | text t rest ih => exact List.forall_mem_cons.mpr ⟨rfl, ih h⟩
  | element n content rest ihContent ihRest =>
      obtain ⟨hName, hNames⟩ := List.forall_mem_cons.mp h
      obtain ⟨hContent, hRest⟩ := List.forall_mem_append.mp hNames
      exact List.forall_mem_cons.mpr ⟨rfl, List.forall_mem_append.mpr
        ⟨ihContent hContent, List.forall_mem_cons.mpr ⟨hName, ihRest hRest⟩⟩⟩

/-- What is legible of regular markup, with anything behind it, is what is
outside of the elements without readable content. -/
theorem shown_legible {m : Markup} (h : m.isRegular = true) (ts : List Token) :
    (legible false (m.tokens ++ ts)).flatMap Token.shown =
      m.shown ++ (legible false ts).flatMap Token.shown := by
  induction m generalizing ts with
  | nil => rfl
  | text t rest ih =>
      rw [tokens, List.cons_append, legible_text, List.flatMap_cons, ih h,
        shown, List.append_assoc]
      rfl
  | element n content rest ihContent ihRest =>
      obtain ⟨hElement, hRest⟩ := Bool.and_eq_true_iff.mp h
      have hTokens : tokens (.element n content rest) ++ ts =
          .opening n :: (content.tokens ++ .closing n ::
            (rest.tokens ++ ts)) := by
        simp only [tokens, List.cons_append, List.append_assoc]
      rw [hTokens, legible_opening, shown]
      split at hElement
      · next hUnreadable =>
          have hPassed : ∀ t ∈ content.tokens, t.closesUnreadable = false :=
            closesUnreadable_of_mem_tokens fun n hn =>
              Bool.not_eq_true' _ ▸ List.all_eq_true.mp hElement n hn
          have hAny : (content.tokens ++ .closing n :: (rest.tokens ++ ts)).any
                Token.closesUnreadable = true :=
            List.any_eq_true.mpr ⟨.closing n,
              List.mem_append_right _ List.mem_cons_self, hUnreadable⟩
          rw [if_pos (Bool.and_eq_true_iff.mpr
              ⟨n.beginsUnreadable_of_isUnreadable hUnreadable, hAny⟩),
            if_pos hUnreadable, legible_passing hPassed hUnreadable,
            List.flatMap_cons, ihRest hRest]
          rfl
      · next hReadable =>
          obtain ⟨hBegins, hContent⟩ := Bool.and_eq_true_iff.mp hElement
          rw [Bool.not_eq_true'] at hBegins
          rw [hBegins, Bool.false_and, if_neg Bool.false_ne_true,
            if_neg hReadable, List.flatMap_cons, ihContent hContent,
            legible_closing, List.flatMap_cons, ihRest hRest]
          simp only [Token.shown, List.cons_append, List.append_assoc,
            List.nil_append]

/-- **The text of markup** is one line of the words of what is legible of its
tags and texts. If the markup is regular, these are the words outside of the
elements without readable content. -/
theorem text_of_markup (m : Markup) :
    Page.text m.render = unwords
      (words ((legible false m.tokens).flatMap Token.shown)) ∧
      (m.isRegular = true → Page.text m.render = unwords (words m.shown)) := by
  refine ⟨text_render m, fun h => ?_⟩
  have hShown := shown_legible h []
  rw [List.append_nil, legible, List.flatMap_nil, List.append_nil] at hShown
  rw [text_render, hShown]

section Pages

def head : ElementName := ⟨'h', "ead".toList, rfl, by decide +kernel⟩
def header : ElementName := ⟨'h', "eader".toList, rfl, by decide +kernel⟩
def title : ElementName := ⟨'t', "itle".toList, rfl, by decide +kernel⟩
def script : ElementName := ⟨'s', "cript".toList, rfl, by decide +kernel⟩
def paragraph : ElementName := ⟨'p', [], rfl, rfl⟩
def bold : ElementName := ⟨'b', [], rfl, rfl⟩

def tea : PlainText := ⟨"tea".toList, by decide +kernel⟩
def menu : PlainText := ⟨"menu".toList, by decide +kernel⟩

/-- A page with a title and a script, and a paragraph with a word in bold
letters. -/
def greeting : Markup :=
  .element head (.element title (.text menu .nil) .nil)
    (.element script (.text tea .nil)
      (.element paragraph (.text ⟨"Hello ".toList, by decide +kernel⟩
        (.element bold (.text ⟨"world".toList, by decide +kernel⟩ .nil) .nil))
          .nil))

/-- A page with a heading in front of a paragraph and a script. -/
def heading : Markup :=
  .element header (.text menu .nil)
    (.element paragraph (.text tea .nil)
      (.element script (.text menu .nil) .nil))

/-- A page with a script in its head, in front of the title. -/
def scripted : Markup :=
  .element head (.element script (.text menu .nil)
      (.element title (.text tea .nil) .nil)) .nil

theorem text_of_greeting :
    greeting.isRegular = true ∧
    Page.text greeting.render = "Hello world".toList := by
  have hRegular : greeting.isRegular = true := by decide +kernel
  refine ⟨hRegular, ((text_of_markup greeting).2 hRegular).trans ?_⟩
  decide +kernel

/-- **Otherwise text is lost, and text of a script or a head is shown**: a name
that begins like that of an element without readable content takes away what
comes behind it up to one of them, and a script within the head ends it. -/
theorem text_of_headings :
    (Page.text heading.render = [] ∧
      unwords (words heading.shown) = "menu tea".toList) ∧
      Page.text scripted.render = "tea".toList ∧
      unwords (words scripted.shown) = [] := by
  decide +kernel

end Pages

end Markup

end Errand
