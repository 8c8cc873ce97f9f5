import Errand.Proofs.Query.Shape
import Errand.Proofs.Web.PageText

/-!
# Lists of results

A list of results is blocks, each with a link and perhaps a snippet, among
other markup. Links and snippets are looked for separately, and the link that
comes as number `n` gets the snippet that comes as number `n` (`paired`).
Nothing tells which block a snippet is from.

So a block without a snippet shifts those behind it: every later link gets the
snippet of a later block. Only if no block with a snippet comes behind one
without, each link gets its own.

## Main results

* `findAll_link`, `findAll_snippet`: what is found in a list of results.
* `read_eq`: what is read from a list of results.
* `read_list`: when each link gets its own snippet.
* `read_shifted`: where a link gets the snippet of another one.
-/

namespace Errand.Results

open Pattern
open Chars (contains isBlank unwords words)

/-! ## Links and snippets -/

/-- What tells the link of a result. -/
def linkMark : String := "class=\"result__a\""

/-- What tells the snippet of a result. -/
def snippetMark : String := "class=\"result__snippet\""

/-- What stands in front of an address. -/
def addressMark : String := "href=\""

/-- A link as it is written. -/
def linkText (lead middle href rest title : List Char) : List Char :=
  "<a".toList ++
    (lead ++ (linkMark.toList ++
      (middle ++ (addressMark.toList ++ (href ++ '"' ::
        (rest ++ '>' :: (title ++ "</a>".toList)))))))

/-- The link of a result. In its tag the mark comes first and the address
behind it, both for the only time. -/
structure Link where
  lead : List Char
  middle : List Char
  href : List Char
  rest : List Char
  title : PlainText
  lead_open : '>' ∉ lead
  middle_open : '>' ∉ middle
  rest_open : '>' ∉ rest
  href_ne_nil : href ≠ []
  href_unquoted : '"' ∉ href
  single_mark : contains linkMark.toList
    (middle ++ (addressMark.toList ++ (href ++ '"' :: rest))) = false
  single_address : contains addressMark.toList (href ++ '"' :: rest) = false
  title_shows : ∃ c ∈ title.chars, isBlank c = false
  noSnippet : contains snippetMark.toList
    (linkText lead middle href rest title.chars) = false

/-- The snippet of a result. The mark is in its tag. -/
structure Snippet where
  name : String
  lead : List Char
  rest : List Char
  body : PlainText
  named : name ∈ ["a", "td", "div"]
  lead_open : '>' ∉ lead
  rest_open : '>' ∉ rest
  first_mark : contains snippetMark.toList ('<' :: (name.toList ++ lead)) =
    false
  noLink : contains linkMark.toList
    (name.toList ++ (lead ++ (snippetMark.toList ++ rest))) = false

/-- Other markup: it has no mark, and no tag is open at its end. -/
structure Filler where
  chars : List Char
  noLink : contains linkMark.toList chars = false
  noSnippet : contains snippetMark.toList chars = false
  closed : '<' ∉ chars.reverse.takeWhile (· != '>')

namespace Link

def render (l : Link) : List Char :=
  linkText l.lead l.middle l.href l.rest l.title.chars

/-- The match that is found. -/
def found (l : Link) : Match := ⟨l.render.length, [l.href, l.title.chars]⟩

/-- What is read from the link, if it gets this snippet. -/
def hit (l : Link) (snippet : Option Snippet) : Hit :=
  ⟨String.ofList (unwords (words l.title.chars)),
    address (String.ofList l.href),
    String.ofList ((snippet.map fun s => unwords (words s.body.chars)).getD [])⟩

end Link

namespace Snippet

/-- The opening tag up to the mark. -/
def opening (s : Snippet) : List Char := '<' :: (s.name.toList ++ s.lead)

/-- The snippet from the mark on. -/
def marked (s : Snippet) : List Char :=
  snippetMark.toList ++ (s.rest ++ '>' ::
      (s.body.chars ++ '<' :: '/' :: (s.name.toList ++ ['>'])))

def render (s : Snippet) : List Char := s.opening ++ s.marked

/-- The match that is found. -/
def found (s : Snippet) : Match := ⟨s.marked.length, [s.body.chars]⟩

end Snippet

/-! ## Matches -/

theorem not_infix_of_contains {needle cs : List Char}
    (h : contains needle cs = false) : ¬ needle <:+: cs := by
  intro hIn
  rw [Chars.contains_iff.mpr hIn] at h
  cases h

/-- No tag begins within a plain text. -/
theorem tag_not_begins {t : PlainText} {back : List Char}
    (hBack : back <:+ t.chars) (hSome : back ≠ []) (tag rest : List Char) :
    ¬ ('<' :: tag) <+: back ++ rest := by
  obtain ⟨c, back, rfl⟩ := List.exists_cons_of_ne_nil hSome
  intro hLead
  obtain ⟨rfl, -⟩ := List.cons_prefix_cons.mp hLead
  exact t.noBracket (hBack.subset List.mem_cons_self)

/-! ### Links -/

/-- The link pattern behind its tag. -/
def linkEnd : Pattern := .seq (.group anything) (exactly "</a>")

/-- The link pattern from the address on. -/
def linkAddress : Pattern :=
  .seq (.group (.seq (.one (· != '"')) (upTo ['"'])))
    (.seq (exactly "\"") (.seq (upTo ['>']) (.seq (exactly ">") linkEnd)))

/-- The link pattern behind its mark. -/
def linkBehind : Pattern :=
  .seq (upTo ['>']) (.seq (exactly addressMark) linkAddress)

theorem link_eq :
    link =
      .seq (exactly "<a") (.seq (upTo ['>'])
        (.seq (exactly linkMark) linkBehind)) :=
  rfl

section Going

variable {k : Place → List (List Char) → Option Match}
  (hk : ∀ place groups, (k place groups).isSome)
include hk

theorem go_linkEnd (title : PlainText) (more : List Char) (before : Option Char)
    (groups : List (List Char)) :
    ∃ before', go linkEnd ⟨before, title.chars ++ ("</a>".toList ++ more)⟩
      groups k =
      k ⟨before', more⟩ (title.chars :: groups) := by
  refine ⟨lastOf (lastOf before title.chars) "</a>".toList, ?_⟩
  rw [linkEnd, go_group_anything, go_exactly_append]
  · exact fun before groups back hBack hSome =>
      go_exactly_eq_none (tag_not_begins hBack hSome _ _)
  · rw [go_exactly_append]
    exact hk _ _

theorem go_linkAddress (l : Link) (more : List Char) (before : Option Char)
    (groups : List (List Char)) :
    ∃ before', go linkAddress
      ⟨before, (l.href ++ '"' :: l.rest) ++ '>' ::
        (l.title.chars ++ ("</a>".toList ++ more))⟩ groups k =
        k ⟨before', more⟩ (l.title.chars :: l.href :: groups) := by
  rw [List.append_assoc, List.cons_append, linkAddress,
    go_quoted (by decide) l.href_ne_nil l.href_unquoted,
    go_upTo (by decide) l.rest_open]
  exact go_linkEnd hk l.title more _ _

theorem go_linkBehind (l : Link) (more : List Char) (before : Option Char)
    (groups : List (List Char)) :
    ∃ before', go linkBehind ⟨before,
      (l.middle ++ (addressMark.toList ++ (l.href ++ '"' :: l.rest))) ++ '>' ::
      (l.title.chars ++ ("</a>".toList ++ more))⟩ groups k =
        k ⟨before', more⟩ (l.title.chars :: l.href :: groups) := by
  obtain ⟨before', hAddress⟩ :=
    go_linkAddress hk l more
      (lastOf (lastOf before l.middle) addressMark.toList) groups
  have hLast := not_infix_of_contains l.single_address
  refine ⟨before', ?_⟩
  rw [List.append_assoc, List.append_assoc, linkBehind,
    go_upTo_last (a := 'h') (by decide)
    (by decide) (by decide) l.middle_open hLast, hAddress]
  rw [hAddress]
  exact hk _ _

theorem go_link (l : Link) (more : List Char) (before : Option Char) :
    ∃ before', go link ⟨before, l.render ++ more⟩ [] k =
      k ⟨before', more⟩ [l.title.chars, l.href] := by
  have hText : l.render ++ more = "<a".toList ++ (l.lead ++ (linkMark.toList ++
      ((l.middle ++ (addressMark.toList ++ (l.href ++ '"' :: l.rest))) ++ '>' ::
        (l.title.chars ++ ("</a>".toList ++ more))))) := by
    simp only [Link.render, linkText, List.append_assoc, List.cons_append]
  obtain ⟨before', hBehind⟩ :=
    go_linkBehind hk l more (lastOf (lastOf (lastOf before "<a".toList) l.lead)
        linkMark.toList) []
  have hLast := not_infix_of_contains l.single_mark
  refine ⟨before', ?_⟩
  rw [hText, link_eq, go_exactly_seq,
    go_upTo_last (a := 'c') (by decide) (by decide)
    (by decide) l.lead_open hLast, hBehind]
  rw [hBehind]
  exact hk _ _

end Going

/-- **A link is found as a whole**, with its address and its title. -/
theorem matchAt_link (l : Link) (before : Option Char) (more : List Char) :
    matchAt link before (l.render ++ more) = some l.found := by
  obtain ⟨before', hGo⟩ := go_link (isSome_reached _) l more before
  exact matchAt_of_go hGo

/-- A link begins with its tag, which is open up to the mark. -/
theorem exists_of_matchAt_link {before : Option Char} {text : List Char}
    {m : Match} (h : matchAt link before text = some m) :
    ∃ inside more, text = '<' :: 'a' :: (inside ++ (linkMark.toList ++ more)) ∧
    '>' ∉ inside := by
  obtain ⟨rest, hOpen, hRest⟩ := exists_of_go_exactly (s := "<a") h
  obtain ⟨inside, tl, hSplit, hInside, hMark⟩ := exists_of_runFrom hRest
  obtain ⟨more, hMore, -⟩ :=
    exists_of_go_exactly (s := "class=\"result__a\"") hMark
  refine ⟨inside, more, ?_, fun hMem =>
    not_contains_iff.mp (hInside '>' hMem) rfl⟩
  have hText : rest = inside ++ (linkMark.toList ++ more) :=
    hSplit.trans (congrArg (inside ++ ·) hMore)
  exact hOpen.trans (congrArg ("<a".toList ++ ·) hText)

/-! ### Snippets -/

/-- The snippet pattern behind its tag. -/
def snippetEnd : Pattern :=
  .seq (exactly "</")
    (.seq (.alt (exactly "a") (.alt (exactly "td") (exactly "div")))
      (exactly ">"))

theorem snippet_eq :
    snippet = .seq (exactly snippetMark) (.seq (upTo ['>'])
      (.seq (exactly ">") (.seq (.group anything) snippetEnd))) := rfl

theorem go_snippetEnd {k : Place → List (List Char) → Option Match}
    (hk : ∀ place groups, (k place groups).isSome) {name : String}
    (hName : name ∈ ["a", "td", "div"]) (more : List Char)
    (before : Option Char) (groups : List (List Char)) :
    go snippetEnd ⟨before, '<' :: '/' :: (name.toList ++ '>' :: more)⟩ groups
      k = k ⟨some '>', more⟩ groups := by
  have hEnd : ∀ n : String, go (.seq (exactly n) (exactly ">")) ⟨some '/',
      n.toList ++ (">".toList ++ more)⟩ groups k =
      k ⟨some '>', more⟩ groups := fun n => by
    rw [go_exactly_seq, go_exactly_append]
    rfl
  have hNone : ∀ n : String, ¬ n.toList <+: name.toList ++ '>' :: more →
      go (.seq (exactly n) (exactly ">")) ⟨some '/',
        name.toList ++ (">".toList ++ more)⟩ groups k = none :=
    fun n h => go_exactly_eq_none h
  have hChoice : go snippetEnd ⟨before,
      '<' :: '/' :: (name.toList ++ '>' :: more)⟩ groups k =
      ((go (.seq (exactly "a") (exactly ">")) ⟨some '/',
            name.toList ++ (">".toList ++ more)⟩ groups k).or
        ((go (.seq (exactly "td") (exactly ">")) ⟨some '/',
              name.toList ++ (">".toList ++ more)⟩ groups k).or
          (go (.seq (exactly "div") (exactly ">")) ⟨some '/',
              name.toList ++ (">".toList ++ more)⟩ groups k))) := by
    refine (go_exactly_seq "</").trans ?_
    rw [go_seq, go_alt, go_alt]
    rfl
  simp only [List.mem_cons, List.not_mem_nil, or_false] at hName
  rw [hChoice]
  rcases hName with rfl | rfl | rfl
  · rw [hEnd, Option.or_of_isSome (hk _ _)]
  · rw [hNone "a" (by simp), hEnd, Option.none_or, Option.or_of_isSome (hk _ _)]
  · rw [hNone "a" (by simp), hNone "td" (by simp), hEnd, Option.none_or,
      Option.none_or]

theorem go_snippet {k : Place → List (List Char) → Option Match}
    (hk : ∀ place groups, (k place groups).isSome) (s : Snippet)
    (more : List Char) (before : Option Char) :
    go snippet ⟨before, s.marked ++ more⟩ [] k =
      k ⟨some '>', more⟩ [s.body.chars] := by
  have hText : s.marked ++ more =
      snippetMark.toList ++ (s.rest ++ '>' :: (s.body.chars ++
        '<' :: '/' :: (s.name.toList ++ '>' :: more))) := by
    simp only [Snippet.marked, List.append_assoc, List.cons_append,
      List.nil_append]
  rw [hText, snippet_eq, go_exactly_seq, go_upTo (by decide) s.rest_open,
    go_group_anything, go_snippetEnd hk s.named]
  · exact fun before groups back hBack hSome =>
      go_exactly_eq_none (tag_not_begins hBack hSome _ _)
  · rw [go_snippetEnd hk s.named]
    exact hk _ _

/-- **A snippet is found from its mark on**, with its text. -/
theorem matchAt_snippet (s : Snippet) (before : Option Char)
    (more : List Char) :
    matchAt snippet before (s.marked ++ more) = some s.found :=
  matchAt_of_go (go_snippet (isSome_reached _) s more before)

theorem matchAt_snippet_eq_none {before : Option Char} {text : List Char}
    (h : ¬ snippetMark.toList <+: text) :
    matchAt snippet before text = none := by
  unfold matchAt
  rw [snippet_eq]
  exact go_exactly_eq_none h

/-! ## Other markup -/

/-- No link begins in the text: every tag in it ends in it, and none has the
mark of a link. -/
def Inert (cs : List Char) : Prop :=
  ∀ front back, cs = front ++ '<' :: back →
    ∃ inside after, back = inside ++ '>' :: after ∧ '>' ∉ inside ∧
    ¬ linkMark.toList <:+: inside

namespace Inert

theorem of_noBracket {cs : List Char} (h : '<' ∉ cs) : Inert cs :=
  fun front _ hText =>
    absurd (hText ▸ List.mem_append_right front List.mem_cons_self) h

theorem tag {inside : List Char} (hInside : '>' ∉ inside)
    (hMark : contains linkMark.toList inside = false) :
    Inert ('<' :: (inside ++ ['>'])) := by
  intro front back hText
  have hSplit : ('<' :: inside) ++ ['>'] = front ++ '<' :: back := hText
  rcases List.append_eq_append_iff.mp hSplit
    with ⟨front', rfl, hRest⟩ | ⟨behind, hFront, hRest⟩
  · -- the closing bracket is the only character there
    cases front' with
    | nil => cases (List.cons.inj hRest).1
    | cons d front' =>
        have hNil := (List.append_eq_nil_iff.mp (List.cons.inj hRest).2.symm).2
        cases hNil
  · cases behind with
    | nil => cases (List.cons.inj hRest).1
    | cons c behind =>
        obtain ⟨rfl, rfl⟩ := List.cons.inj hRest
        have hPart : behind <:+: inside := by
          cases front with
          | nil => exact (List.cons.inj hFront).2 ▸ List.infix_rfl
          | cons d front =>
              exact ⟨front ++ ['<'], [], by rw [(List.cons.inj hFront).2]; simp⟩
        exact ⟨behind, [], rfl, fun hMem => hInside (hPart.subset hMem),
          fun hMarked => not_infix_of_contains hMark (hMarked.trans hPart)⟩

theorem append {cs ds : List Char} (hcs : Inert cs) (hds : Inert ds) :
    Inert (cs ++ ds) := by
  intro front back hText
  rcases List.append_eq_append_iff.mp hText with ⟨front', rfl, hRest⟩ | ⟨cs',
    rfl, hBack⟩
  · exact hds front' back hRest
  · cases cs' with
    | nil => exact hds [] back hBack.symm
    | cons c cs' =>
        obtain ⟨rfl, rfl⟩ := List.cons.inj hBack
        obtain ⟨inside, after, rfl, hInside, hMark⟩ := hcs front cs' rfl
        exact ⟨inside, after ++ ds, List.append_assoc inside ('>' :: after) ds,
          hInside, hMark⟩

end Inert

theorem Filler.inert (f : Filler) : Inert f.chars := by
  intro front back hText
  have hClosed : '>' ∈ back := by
    refine Classical.byContradiction fun hOpen => f.closed ?_
    have hBack : ∀ c ∈ back.reverse, (c != '>') = true := fun c hc =>
      bne_iff_ne.mpr fun hEq => hOpen (hEq ▸ List.mem_reverse.mp hc)
    rw [hText, List.reverse_append, List.reverse_cons, List.append_assoc,
      List.takeWhile_append_of_pos hBack, List.singleton_append,
      List.takeWhile_cons_of_pos (by decide)]
    exact List.mem_append_right _ List.mem_cons_self
  obtain ⟨inside, after, rfl, hInside⟩ := List.eq_append_cons_of_mem hClosed
  refine ⟨inside, after, rfl, hInside,
    fun hMark => not_infix_of_contains f.noLink ?_⟩
  rw [hText]
  exact hMark.trans ⟨front ++ ['<'], '>' :: after,
    by simp only [List.append_assoc, List.cons_append, List.nil_append]⟩

theorem Snippet.inert (s : Snippet) : Inert s.render := by
  have hName : ∀ n ∈ ["a", "td", "div"], '>' ∉ n.toList ∧
      contains linkMark.toList ('/' :: n.toList) = false := by
    decide
  obtain ⟨hOpen, hMark⟩ := hName s.name s.named
  have hTag : '>' ∉ s.name.toList ++
        (s.lead ++ (snippetMark.toList ++ s.rest)) := by
    simp only [List.mem_append, not_or]
    exact ⟨hOpen, s.lead_open, by decide, s.rest_open⟩
  have hText : s.render = '<' ::
      (s.name.toList ++ (s.lead ++ (snippetMark.toList ++ s.rest)) ++ ['>']) ++
        (s.body.chars ++ '<' :: ('/' :: s.name.toList ++ ['>'])) := by
    simp only [render, opening, marked, List.append_assoc, List.cons_append,
      List.nil_append]
  rw [hText]
  exact (Inert.tag hTag s.noLink).append
    ((Inert.of_noBracket s.body.noBracket).append
      (Inert.tag (List.not_mem_cons_of_ne_of_not_mem (by decide) hOpen) hMark))

/-- No link begins in such a text. -/
theorem matchAt_link_eq_none {passed : List Char} (h : Inert passed)
    (rest : List Char) :
    ∀ before back, back <:+ passed → back ≠ [] →
    matchAt link before (back ++ rest) = none := by
  rintro before back ⟨front, rfl⟩ hSome
  rw [Option.eq_none_iff_forall_ne_some]
  intro m hm
  obtain ⟨start, more, hText, hOpen⟩ := exists_of_matchAt_link hm
  obtain ⟨c, back, rfl⟩ := List.exists_cons_of_ne_nil hSome
  obtain ⟨rfl, hInner⟩ := List.cons.inj hText
  obtain ⟨inside, after, rfl, hInside, hMark⟩ := h front back rfl
  -- The tag would reach over its end.
  have hTag : '>' ∉ 'a' :: (start ++ linkMark.toList) :=
    List.not_mem_cons_of_ne_of_not_mem (by decide) fun hMem =>
      (List.mem_append.mp hMem).elim hOpen (by decide)
  have hSplit : 'a' :: (start ++ linkMark.toList) ++ more =
        inside ++ '>' :: (after ++ rest) := by
    rw [List.cons_append, List.append_assoc]
    exact hInner.symm.trans (List.append_assoc inside ('>' :: after) rest)
  obtain ⟨inside', hFront, -⟩ := Chars.exists_of_append_eq hTag hSplit
  exact hMark ⟨'a' :: start, inside', hFront.symm⟩

/-! ## Lists of results -/

/-- A link or a snippet. -/
inductive Element where
  | link (l : Link)
  | snippet (s : Snippet)

namespace Element

def render : Element → List Char
  | .link l => l.render
  | .snippet s => s.render

def link? : Element → Option Link
  | .link l => some l
  | .snippet _ => none

def snippet? : Element → Option Snippet
  | .link _ => none
  | .snippet s => some s

end Element

/-- A link or a snippet with what is behind it. -/
structure Part where
  element : Element
  filler : Filler

namespace Part

variable (p : Part)

def render : List Char := p.element.render ++ p.filler.chars

def link? : Option Link := p.element.link?

def snippet? : Option Snippet := p.element.snippet?

end Part

/-- A result: a link, and at most one snippet in front of it or behind it. -/
structure Block where
  parts : List Part
  link : Link
  snippet : Option Snippet
  links_eq : parts.filterMap Part.link? = [link]
  snippets_eq : parts.filterMap Part.snippet? = snippet.toList

/-- A list of results, with what is in front of it. -/
structure ResultList where
  head : Filler
  blocks : List Block

namespace ResultList

variable (page : ResultList)

def parts : List Part := page.blocks.flatMap Block.parts

def render : List Char := page.head.chars ++ page.parts.flatMap Part.render

/-- The links of the blocks. -/
def links : List Link := page.blocks.map Block.link

/-- The snippets of the blocks that have one. -/
def snippets : List Snippet := page.blocks.filterMap Block.snippet

theorem links_eq : page.links = page.parts.filterMap Part.link? := by
  simp only [links, parts, List.filterMap_flatMap, Block.links_eq,
    List.map_eq_flatMap]

theorem snippets_eq : page.snippets = page.parts.filterMap Part.snippet? := by
  simp only [snippets, parts, List.filterMap_flatMap, Block.snippets_eq]
  induction page.blocks with
  | nil => rfl
  | cons b bs ih =>
      rw [List.flatMap_cons, ← ih]
      cases hSnippet : b.snippet with
      | none => exact List.filterMap_cons_none hSnippet
      | some s => exact List.filterMap_cons_some hSnippet

end ResultList

/-- The hits of links and snippets that are paired by position. -/
def paired : List Link → List Snippet → List Hit
  | [], _ => []
  | l :: ls, [] => l.hit none :: paired ls []
  | l :: ls, s :: ss => l.hit (some s) :: paired ls ss

theorem findFrom_link (before : Option Char) (ps : List Part) :
    link.findFrom 0 before (ps.flatMap Part.render) =
      (ps.filterMap Part.link?).map Link.found := by
  induction ps generalizing before with
  | nil => rfl
  | cons p ps ih =>
      have hFiller : ∀ before, link.findFrom 0 before
            (p.filler.chars ++ ps.flatMap Part.render) =
          (ps.filterMap Part.link?).map Link.found := fun before =>
        (findFrom_pass (matchAt_link_eq_none p.filler.inert _) before).trans
          (ih _)
      rw [List.flatMap_cons, Part.render, List.append_assoc]
      cases hElement : p.element with
      | link l =>
          have hLink : p.link? = some l := congrArg Element.link? hElement
          rw [List.filterMap_cons_some hLink, List.map_cons, ← hFiller]
          exact findFrom_take (matchAt_link l before _) rfl
            (List.cons_ne_nil _ _)
      | snippet s =>
          have hLink : p.link? = none := congrArg Element.link? hElement
          rw [List.filterMap_cons_none hLink, ← hFiller]
          exact findFrom_pass (matchAt_link_eq_none s.inert _) before

/-- **The links of a list of results are found, in their order.** -/
theorem findAll_link (page : ResultList) :
    link.findAll page.render = page.links.map Link.found := by
  rw [page.links_eq, ← findFrom_link (lastOf none page.head.chars)]
  exact findFrom_pass (matchAt_link_eq_none page.head.inert _) none

/-- Nothing is found in a text without the mark of a snippet, in front of a tag
or the mark. -/
theorem findFrom_snippet_pass {passed rest : List Char}
    (h : contains snippetMark.toList passed = false)
    (hRest : ∀ c ∈ rest.head?, c = '<' ∨ c = 'c') (before : Option Char) :
    ∃ before',
      snippet.findFrom 0 before (passed ++ rest) =
        snippet.findFrom 0 before' rest := by
  have hMark : snippetMark.toList =
        'c' :: "lass=\"result__snippet\"".toList := by decide
  refine ⟨_,
    findFrom_pass (fun before back hBack hSome => matchAt_snippet_eq_none ?_)
    before⟩
  have hNot := not_infix_of_contains h
  rw [hMark] at hNot ⊢
  refine Chars.not_prefix_of_part hNot (fun c hc => ?_) back hBack hSome
  rcases hRest c hc with rfl | rfl
  · decide
  · decide

theorem head_flatMap_render (ps : List Part) :
    ∀ c ∈ (ps.flatMap Part.render).head?, c = '<' := by
  cases ps with
  | nil => exact nofun
  | cons p ps =>
      rw [List.flatMap_cons, Part.render]
      cases p.element with
      | link l => exact fun c hc => (Option.some.inj hc).symm
      | snippet s => exact fun c hc => (Option.some.inj hc).symm

/-- No mark of a snippet begins in a link and ends behind it. -/
theorem Link.noSnippet_append (l : Link) {cs : List Char}
    (h : contains snippetMark.toList cs = false) :
    contains snippetMark.toList (l.render ++ cs) = false := by
  obtain ⟨front, hFront⟩ : ∃ front, l.render = front ++ ['>'] := by
    refine ⟨"<a".toList ++ (l.lead ++
      (linkMark.toList ++ (l.middle ++
        (addressMark.toList ++ (l.href ++ '"' ::
          (l.rest ++ '>' :: (l.title.chars ++ "</a".toList))))))), ?_⟩
    rw [Link.render, linkText, show "</a>".toList =
      "</a".toList ++ ['>'] by decide]
    simp only [List.append_assoc, List.cons_append]
  rw [Bool.eq_false_iff, Ne, Chars.contains_iff, hFront, List.append_assoc]
  intro hIn
  rcases Chars.infix_append_cons (by decide) hIn with hLink | hBehind
  · have hPart : front <:+: l.render := ⟨[], ['>'], hFront.symm⟩
    exact not_infix_of_contains l.noSnippet (hLink.trans hPart)
  · exact not_infix_of_contains h hBehind

theorem findFrom_snippet (before : Option Char) (ps : List Part) :
    snippet.findFrom 0 before (ps.flatMap Part.render) =
      (ps.filterMap Part.snippet?).map Snippet.found := by
  induction ps generalizing before with
  | nil => rfl
  | cons p ps ih =>
      have hHead : ∀ c ∈ (ps.flatMap Part.render).head?, c = '<' ∨ c = 'c' :=
        fun c hc => .inl (head_flatMap_render ps c hc)
      rw [List.flatMap_cons, Part.render]
      cases hElement : p.element with
      | link l =>
          have hSnippet : p.snippet? = none :=
            congrArg Element.snippet? hElement
          obtain ⟨before', hPassed⟩ :=
            findFrom_snippet_pass (l.noSnippet_append p.filler.noSnippet)
              hHead before
          rw [List.filterMap_cons_none hSnippet, ← ih before', ← hPassed]
          rfl
      | snippet s =>
          have hSnippet : p.snippet? = some s :=
            congrArg Element.snippet? hElement
          have hMark : ∀ c ∈ (s.marked ++ (p.filler.chars ++
              ps.flatMap Part.render)).head?, c = '<' ∨ c = 'c' :=
            fun c hc => .inr (Option.some.inj hc).symm
          obtain ⟨before₁, hOpening⟩ :=
            findFrom_snippet_pass s.first_mark hMark before
          obtain ⟨before₂, hFiller⟩ :=
            findFrom_snippet_pass p.filler.noSnippet hHead
              (lastOf before₁ s.marked)
          have hTake :=
            findFrom_take (matchAt_snippet s before₁
                (p.filler.chars ++ ps.flatMap Part.render)) rfl
            (List.cons_ne_nil _ _)
          rw [List.filterMap_cons_some hSnippet, List.map_cons, ← ih before₂,
            ← hFiller, ← hTake, ← hOpening]
          simp only [Element.render, Snippet.render, Snippet.opening,
            List.append_assoc]

/-- **The snippets of a list of results are found, in their order.** -/
theorem findAll_snippet (page : ResultList) :
    snippet.findAll page.render = page.snippets.map Snippet.found := by
  have hHead : ∀ c ∈ (page.parts.flatMap Part.render).head?, c = '<' ∨
      c = 'c' := fun c hc =>
    .inl (head_flatMap_render page.parts c hc)
  obtain ⟨before, hPassed⟩ :=
    findFrom_snippet_pass page.head.noSnippet hHead none
  rw [page.snippets_eq, ← findFrom_snippet before, ← hPassed]
  rfl

/-! ## What is read -/

theorem text_title (l : Link) : unwords (words l.title.chars) ≠ [] := by
  obtain ⟨c, hMem, hc⟩ := l.title_shows
  have hSolid : c ∈ solids l.title.chars :=
    List.mem_filter.mpr ⟨hMem, by rw [hc]; rfl⟩
  have hWords : words l.title.chars ≠ [] := fun hNil => by
    have hFlatten := Chars.flatten_wordsFrom [] l.title.chars
    rw [show Chars.wordsFrom [] l.title.chars = [] from hNil] at hFlatten
    rw [List.reverse_nil, List.nil_append] at hFlatten
    exact List.ne_nil_of_mem hSolid hFlatten.symm
  obtain ⟨w, ws, hSplit⟩ := List.exists_cons_of_ne_nil hWords
  rw [hSplit]
  exact Chars.unwords_ne_nil
    (Chars.of_mem_words (hSplit ▸ List.mem_cons_self)).1.1 ws

theorem paired_nil (ls : List Link) :
    paired ls [] = ls.map (Link.hit · none) := by
  induction ls with
  | nil => rfl
  | cons l ls ih => rw [paired, ih, List.map_cons]

/-- Pairing by number is pairing by position. -/
theorem map_zipIdx_eq_paired (ls : List Link) (ss : List Snippet) (n : Nat) :
    ((ls.zipIdx n).map fun p => p.1.hit ss[p.2]?) = paired ls (ss.drop n) := by
  induction ls generalizing n with
  | nil => rfl
  | cons l ls ih =>
      rw [List.zipIdx_cons, List.map_cons, ih]
      cases hSnippet : ss[n]? with
      | none =>
          have hEnd := List.getElem?_eq_none_iff.mp hSnippet
          rw [List.drop_eq_nil_of_le hEnd,
            List.drop_eq_nil_of_le (Nat.le_succ_of_le hEnd), paired, ← hSnippet]
      | some s =>
          obtain ⟨hBound, hAt⟩ := List.getElem?_eq_some_iff.mp hSnippet
          rw [List.drop_eq_getElem_cons hBound, hAt, paired, ← hSnippet]

theorem text_found (s : Snippet) :
    Page.text (s.found.groups.getD 0 []) = unwords (words s.body.chars) := by
  have hBody : s.found.groups.getD 0 [] = s.body.chars := rfl
  rw [hBody, Page.text_of_plain]

/-- What is made of the match of a link, if these are the texts of the
snippets. -/
def hitOf (snippets : List (List Char)) (m : Match × Nat) : Hit :=
  ⟨String.ofList (Page.text (m.1.groups.getD 1 [])),
    address (String.ofList (m.1.groups.getD 0 [])),
    String.ofList (snippets.getD m.2 [])⟩

theorem read_eq_hitOf (html : String) (limit : Nat) : read html limit =
    (((link.findAll html.toList).zipIdx.map
      (hitOf ((snippet.findAll html.toList).map fun m =>
          Page.text (m.groups.getD 0 [])))).filter
        fun h => !h.title.isEmpty && !h.href.isEmpty).take limit := rfl

theorem hitOf_found (l : Link) (ss : List Snippet) (i : Nat) :
    hitOf (ss.map fun s => unwords (words s.body.chars)) (l.found, i) =
      l.hit ss[i]? := by
  have hHref : l.found.groups.getD 0 [] = l.href := rfl
  have hTitle : l.found.groups.getD 1 [] = l.title.chars := rfl
  rw [hitOf, hHref, hTitle, Page.text_of_plain, List.getD_eq_getElem?_getD,
    List.getElem?_map, Link.hit]

theorem title_of_mem_paired {ls : List Link} {ss : List Snippet} {h : Hit}
    (hMem : h ∈ paired ls ss) : h.title.isEmpty = false := by
  have hTitle : ∀ (l : Link) s, (l.hit s).title.isEmpty = false := fun l s =>
    Bool.eq_false_iff.mpr fun hEmpty => text_title l (by
      have hNil := congrArg String.toList (String.isEmpty_iff.mp hEmpty)
      exact (String.toList_ofList).symm.trans hNil)
  induction ls generalizing ss with
  | nil => cases hMem
  | cons l ls ih =>
      cases ss with
      | nil =>
          rcases List.mem_cons.mp hMem with rfl | hMem
          · exact hTitle l none
          · exact ih hMem
      | cons s ss =>
          rcases List.mem_cons.mp hMem with rfl | hMem
          · exact hTitle l (some s)
          · exact ih hMem

/-- **What is read from a list of results** are the hits of links and snippets
that are paired by position, if the link leads somewhere. -/
theorem read_eq (page : ResultList) (limit : Nat) :
    read (String.ofList page.render) limit =
    ((paired page.links page.snippets).filter fun h => !h.href.isEmpty).take
      limit := by
  have hSnippets : (snippet.findAll page.render).map
        (fun m => Page.text (m.groups.getD 0 [])) =
      page.snippets.map fun s => unwords (words s.body.chars) := by
    rw [findAll_snippet, List.map_map]
    refine List.map_congr_left fun s _ => ?_
    rw [Function.comp_apply, text_found]
  have hHits : (link.findAll page.render).zipIdx.map
        (hitOf (page.snippets.map fun s => unwords (words s.body.chars))) =
      paired page.links page.snippets := by
    have hPaired := map_zipIdx_eq_paired page.links page.snippets 0
    rw [List.drop_zero] at hPaired
    rw [findAll_link, List.zipIdx_map, List.map_map, ← hPaired]
    exact List.map_congr_left fun p _ => hitOf_found p.1 page.snippets p.2
  rw [read_eq_hitOf, String.toList_ofList, hSnippets, hHits]
  refine congrArg (List.take limit) (List.filter_congr fun h hMem => ?_)
  rw [title_of_mem_paired hMem]
  rfl

/-- No block with a snippet comes behind one without. -/
def ResultList.Ordered (page : ResultList) : Prop :=
  page.blocks.Pairwise fun b b' => b'.snippet.isSome = true →
    b.snippet.isSome = true

/-- What a block says. -/
def Block.hit (b : Block) : Hit := b.link.hit b.snippet

theorem paired_of_ordered {bs : List Block}
    (h : bs.Pairwise fun b b' => b'.snippet.isSome = true →
      b.snippet.isSome = true) :
    paired (bs.map Block.link) (bs.filterMap Block.snippet) =
      bs.map Block.hit := by
  induction bs with
  | nil => rfl
  | cons b bs ih =>
      obtain ⟨hFirst, hRest⟩ := List.pairwise_cons.mp h
      rw [List.map_cons, List.map_cons, Block.hit]
      cases hSnippet : b.snippet with
      | some s => rw [List.filterMap_cons_some hSnippet, paired, ih hRest]
      | none =>
          have hNone : ∀ b' ∈ bs, b'.snippet = none := fun b' hb' =>
            Option.not_isSome_iff_eq_none.mp fun hSome => by
              have hFound := hFirst b' hb' hSome
              rw [hSnippet] at hFound
              cases hFound
          rw [List.filterMap_cons_none hSnippet,
            List.filterMap_eq_nil_iff.mpr hNone, paired_nil, List.map_cons,
            List.map_map]
          refine congrArg (b.link.hit none :: ·)
            (List.map_congr_left fun b' hb' => ?_)
          rw [Block.hit, hNone b' hb']
          rfl

/-- **What is read from a list of results**: the links with the snippets that
come as the same number, as far as they lead somewhere. If no block with a
snippet comes behind one without, and every link leads somewhere, these are the
first blocks, each with its own snippet. -/
theorem read_list (page : ResultList) (limit : Nat) :
    read (String.ofList page.render) limit =
        ((paired page.links page.snippets).filter fun h => !h.href.isEmpty).take
          limit ∧
      (page.Ordered → (∀ b ∈ page.blocks, b.hit.href ≠ "") →
        read (String.ofList page.render) limit =
          (page.blocks.map Block.hit).take limit) := by
  refine ⟨read_eq page limit, fun hOrdered hAddresses => ?_⟩
  have hAll : (page.blocks.map Block.hit).filter (fun h => !h.href.isEmpty) =
        page.blocks.map Block.hit := by
    refine List.filter_eq_self.mpr fun h hMem => ?_
    obtain ⟨b, hb, rfl⟩ := List.mem_map.mp hMem
    rw [Bool.not_eq_true', Bool.eq_false_iff]
    exact fun hEmpty => hAddresses b hb (String.isEmpty_iff.mp hEmpty)
  rw [read_eq, ResultList.links, ResultList.snippets,
    paired_of_ordered hOrdered, hAll]

section Lists

def teaLink : Link where
  lead := " ".toList
  middle := " ".toList
  href := "https://tea.test".toList
  rest := []
  title := ⟨"Tea shop".toList, by decide +kernel⟩
  lead_open := by decide +kernel
  middle_open := by decide +kernel
  rest_open := nofun
  href_ne_nil := by decide +kernel
  href_unquoted := by decide +kernel
  single_mark := by decide +kernel
  single_address := by decide +kernel
  title_shows := ⟨'T', by decide +kernel, rfl⟩
  noSnippet := by decide +kernel

def coffeeLink : Link where
  lead := " rel=\"nofollow\" ".toList
  middle := " ".toList
  href := "https://coffee.test".toList
  rest := []
  title := ⟨"Coffee bar".toList, by decide +kernel⟩
  lead_open := by decide +kernel
  middle_open := by decide +kernel
  rest_open := nofun
  href_ne_nil := by decide +kernel
  href_unquoted := by decide +kernel
  single_mark := by decide +kernel
  single_address := by decide +kernel
  title_shows := ⟨'C', by decide +kernel, rfl⟩
  noSnippet := by decide +kernel

def coffeeSnippet : Snippet where
  name := "a"
  lead := " ".toList
  rest := []
  body := ⟨"Fresh coffee".toList, by decide +kernel⟩
  named := by decide
  lead_open := by decide +kernel
  rest_open := nofun
  first_mark := by decide +kernel
  noLink := by decide +kernel

def blank : Filler :=
  ⟨[' '], by decide +kernel, by decide +kernel, by decide +kernel⟩

def tea : Block := ⟨[⟨.link teaLink, blank⟩], teaLink, none, rfl, rfl⟩

def coffee : Block :=
  ⟨[⟨.link coffeeLink, blank⟩, ⟨.snippet coffeeSnippet, blank⟩], coffeeLink,
    some coffeeSnippet, rfl, rfl⟩

/-- The result without a snippet comes last. -/
def ordered : ResultList := ⟨blank, [coffee, tea]⟩

/-- The result without a snippet comes first. -/
def shifted : ResultList := ⟨blank, [tea, coffee]⟩

theorem read_ordered : read (String.ofList ordered.render) 5 =
    [⟨"Coffee bar", "https://coffee.test", "Fresh coffee"⟩,
      ⟨"Tea shop", "https://tea.test", ""⟩] := by
  have hOrdered : ordered.Ordered :=
    List.pairwise_cons.mpr ⟨fun _ _ _ => rfl, List.pairwise_singleton _ _⟩
  have hAddresses : ∀ b ∈ ordered.blocks, b.hit.href ≠ "" :=
    List.forall_mem_cons.mpr ⟨by decide +kernel,
      List.forall_mem_cons.mpr ⟨by decide +kernel, nofun⟩⟩
  refine ((read_list ordered 5).2 hOrdered hAddresses).trans ?_
  decide +kernel

/-- **Otherwise a link gets the snippet of another one**, and the other one
gets none. -/
theorem read_shifted :
    read (String.ofList shifted.render) 5 =
        [⟨"Tea shop", "https://tea.test", "Fresh coffee"⟩,
          ⟨"Coffee bar", "https://coffee.test", ""⟩] ∧
      shifted.blocks.map Block.hit =
        [⟨"Tea shop", "https://tea.test", ""⟩,
          ⟨"Coffee bar", "https://coffee.test", "Fresh coffee"⟩] := by
  rw [read_eq]
  decide +kernel

end Lists

end Errand.Results
