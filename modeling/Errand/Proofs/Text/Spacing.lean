import Errand.Proofs.Text.Pattern

/-!
# Patterns that do not mind the spacing

Two texts are **respacings** of each other if they consist of the same
characters that are not blank, with blanks between the same ones, though not
the same blanks, and not as many. Many patterns occur in a text exactly if they
occur in its respacings: those whose runs either take every blank or none, and
that ask for single characters that are not blank only.

To see so, a match in one text is followed through the other one. A pair of
places, one in either text, is **tight** if the texts behind them are
respacings and the characters before them are of the same sort; it is **loose**
if the first place lies among some blanks that the second one has passed
already. A run of blanks leads from tight or loose places to loose ones, a
character that is not blank back to tight ones, and only at tight places can
the end of a word be looked for.

## Main results

* `Respaced`, `Similar`: respacings, and respacings up to blanks in front.
* `Carries`: a match can be followed from such places to such places, with one
  lemma for each way to build a pattern.
* `occurs_iff_of_similar`: a pattern that can be followed occurs in a text
  exactly if it occurs in a similar one.
* `IsMark.carries`, `IsTerm.carries`, `carries_blanks`, `carries_upTo`: the
  pieces that patterns are built of can be followed.
-/

namespace Errand

open Chars (isBlank)

/-! ## Respacings -/

/-- A text of blanks. -/
def AllBlank (cs : List Char) : Prop := ∀ c ∈ cs, isBlank c = true

/-- The texts have the same characters that are not blank, and blanks between
the same ones. Blanks at the end do not count. -/
inductive Respaced : List Char → List Char → Prop where
  | ends {xs ys} (hx : AllBlank xs) (hy : AllBlank ys) : Respaced xs ys
  | char {c xs ys} (hc : isBlank c = false) (h : Respaced xs ys) :
      Respaced (c :: xs) (c :: ys)
  | gap {bs ds xs ys} (hb : AllBlank bs) (hd : AllBlank ds) (hbs : bs ≠ [])
      (hds : ds ≠ []) (h : Respaced xs ys) : Respaced (bs ++ xs) (ds ++ ys)

theorem AllBlank.append {bs ds : List Char} (hb : AllBlank bs)
    (hd : AllBlank ds) : AllBlank (bs ++ ds) := by
  intro c hc
  exact (List.mem_append.mp hc).elim (hb c) (hd c)

namespace Respaced

theorem symm {xs ys : List Char} (h : Respaced xs ys) : Respaced ys xs := by
  induction h with
  | ends hx hy => exact .ends hy hx
  | char hc h ih => exact .char hc ih
  | gap hb hd hbs hds h ih => exact .gap hd hb hds hbs ih

theorem append {cs : List Char} (hcs : ∀ c ∈ cs, isBlank c = false)
    {xs ys : List Char} (h : Respaced xs ys) :
    Respaced (cs ++ xs) (cs ++ ys) := by
  induction cs with
  | nil => exact h
  | cons c cs ih =>
      obtain ⟨hc, hcs⟩ := List.forall_mem_cons.mp hcs
      exact .char hc (ih hcs)

/-- Only blanks are a respacing of nothing. -/
theorem allBlank_of_nil {xs : List Char} (h : Respaced xs []) :
    AllBlank xs := by
  generalize hText : [] = text at h
  cases h with
  | ends hx hy => exact hx
  | char hc h => cases hText
  | gap hb hd hbs hds h =>
      exact absurd (List.append_eq_nil_iff.mp hText.symm).1 hds

/-- Respacings of a text that begins with a character that is not blank begin
with it. -/
theorem exists_of_cons {c : Char} (hc : isBlank c = false) {xs ys : List Char}
    (h : Respaced (c :: xs) ys) : ∃ ys', ys = c :: ys' ∧ Respaced xs ys' := by
  generalize hText : c :: xs = text at h
  cases h with
  | ends hx hy =>
      subst hText
      exact absurd (hx c List.mem_cons_self) (by rw [hc]; decide)
  | char hd h =>
      obtain ⟨rfl, rfl⟩ := List.cons.inj hText
      exact ⟨_, rfl, h⟩
  | @gap bs ds xs' ys' hb hd hbs hds h =>
      cases bs with
      | nil => exact absurd rfl hbs
      | cons b bs =>
          obtain ⟨rfl, -⟩ := List.cons.inj hText
          exact absurd (hb c List.mem_cons_self) (by rw [hc]; decide)

theorem exists_of_append {cs : List Char} (hcs : ∀ c ∈ cs, isBlank c = false)
    {xs ys : List Char} (h : Respaced (cs ++ xs) ys) :
    ∃ ys', ys = cs ++ ys' ∧ Respaced xs ys' := by
  induction cs generalizing ys with
  | nil => exact ⟨ys, rfl, h⟩
  | cons c cs ih =>
      obtain ⟨hc, hcs⟩ := List.forall_mem_cons.mp hcs
      obtain ⟨ys', rfl, h'⟩ := exists_of_cons hc h
      obtain ⟨ys'', rfl, h''⟩ := ih hcs h'
      exact ⟨ys'', rfl, h''⟩

/-- The first of the texts taken apart anywhere, the second can be taken apart
so that its first part has no characters besides blanks but those of the other
first part, and has passed all blanks at the end. -/
theorem exists_split {cs xs ys : List Char} (h : Respaced (cs ++ xs) ys) :
    ∃ ds ys' bs xs', ys = ds ++ ys' ∧ xs = bs ++ xs' ∧ AllBlank bs ∧
    Respaced xs' ys' ∧
      ∀ d ∈ ds, isBlank d = true ∨ d ∈ cs := by
  generalize hText : cs ++ xs = text at h
  induction h generalizing cs xs with
  | @ends text ys hx hy =>
      subst hText
      exact ⟨ys, [], xs, [], (List.append_nil _).symm, (List.append_nil _).symm,
        fun c hc => hx c (List.mem_append_right cs hc), .ends nofun nofun,
        fun d hd => .inl (hy d hd)⟩
  | @char c text ys hc h ih =>
      cases cs with
      | nil =>
          subst hText
          exact ⟨[], c :: ys, [], c :: text, rfl, rfl, nofun, .char hc h, nofun⟩
      | cons d cs =>
          rw [List.cons_append] at hText
          obtain ⟨rfl, rfl⟩ := List.cons.inj hText
          obtain ⟨ds, ys', bs, xs', rfl, rfl, hBlank, hRest, hds⟩ := ih rfl
          refine ⟨d :: ds, ys', bs, xs', rfl, rfl, hBlank, hRest, ?_⟩
          refine List.forall_mem_cons.mpr ⟨.inr List.mem_cons_self,
            fun e he => ?_⟩
          exact (hds e he).imp_right (List.mem_cons_of_mem d)
  | @gap bs ds text ys hb hd hbs hds h ih =>
      rcases List.append_eq_append_iff.mp hText
        with ⟨bs', rfl, rfl⟩ | ⟨cs', rfl, rfl⟩
      · exact ⟨ds, ys, bs', text, rfl, rfl,
          fun c hc => hb c (List.mem_append_right cs hc), h,
          fun d hMem => .inl (hd d hMem)⟩
      · obtain ⟨es, ys', bs', xs', rfl, rfl, hBlank, hRest, hes⟩ := ih rfl
        refine ⟨ds ++ es, ys', bs', xs', by rw [List.append_assoc], rfl, hBlank,
          hRest, fun d hMem => ?_⟩
        rcases List.mem_append.mp hMem with hMem | hMem
        · exact .inl (hd d hMem)
        · exact (hes d hMem).imp_right (List.mem_append_right bs)

end Respaced

namespace Pattern

/-! ## Words -/

/-- The characters with the property `White_Space`. -/
def blankPoints : List Nat :=
  [9, 10, 11, 12, 13, 0x20, 0x85, 0xA0, 0x1680, 0x2000, 0x2001, 0x2002, 0x2003,
    0x2004, 0x2005, 0x2006, 0x2007, 0x2008, 0x2009, 0x200A, 0x2028, 0x2029,
    0x202F, 0x205F, 0x3000]

theorem mem_blankPoints {c : Char} (h : isBlank c = true) :
    c.toNat ∈ blankPoints := by
  simp only [isBlank, Bool.or_eq_true, Bool.and_eq_true, decide_eq_true_eq,
    beq_iff_eq] at h
  simp only [blankPoints, List.mem_cons, List.not_mem_nil, or_false]
  omega

/-- No blank is part of a word. -/
theorem isWord_of_isBlank {c : Char} (h : isBlank c = true) :
    isWord c = false := by
  have hPoints : ∀ n ∈ blankPoints,
      Text.Table.inRanges n Text.Table.wordCharacters = false := by
    decide +kernel
  exact hPoints c.toNat (mem_blankPoints h)

theorem any_isWord_lastOf {bs : List Char} (hb : AllBlank bs)
    {before : Option Char} (h : before.any isWord = false ∨ bs ≠ []) :
    (lastOf before bs).any isWord = false := by
  unfold lastOf
  cases hLast : bs.getLast? with
  | none =>
      obtain rfl := List.getLast?_eq_none_iff.mp hLast
      exact h.resolve_right fun hNot => hNot rfl
  | some b => exact isWord_of_isBlank (hb b (List.mem_of_getLast? hLast))

theorem any_isWord_head? {xs ys : List Char} (h : Respaced xs ys) :
    xs.head?.any isWord = ys.head?.any isWord := by
  have hBlank : ∀ zs : List Char, (∀ c ∈ zs.head?, isBlank c = true) →
      zs.head?.any isWord = false := by
    intro zs hzs
    cases hHead : zs.head? with
    | none => rfl
    | some c => exact isWord_of_isBlank (hzs c hHead)
  cases h with
  | ends hx hy =>
      rw [hBlank _ fun c hc => hx c (List.mem_of_mem_head? hc),
        hBlank _ fun c hc => hy c (List.mem_of_mem_head? hc)]
  | char hc h => rfl
  | @gap bs ds xs ys hb hd hbs hds h =>
      obtain ⟨b, bs, rfl⟩ := List.exists_cons_of_ne_nil hbs
      obtain ⟨d, ds, rfl⟩ := List.exists_cons_of_ne_nil hds
      show isWord b = isWord d
      rw [isWord_of_isBlank (hb b List.mem_cons_self),
        isWord_of_isBlank (hd d List.mem_cons_self)]

/-! ## Following a match -/

/-- The texts behind the places are respacings, and the characters before them
are of the same sort. -/
def Tight (x y : Place) : Prop :=
  Respaced x.rest y.rest ∧ x.before.any isWord = y.before.any isWord

/-- The texts behind the places are respacings but for some blanks that the
second place has passed already. -/
def Loose (x y : Place) : Prop :=
  ∃ bs xs, x.rest = bs ++ xs ∧ AllBlank bs ∧ Respaced xs y.rest

theorem Tight.loose {x y : Place} (h : Tight x y) : Loose x y :=
  ⟨[], x.rest, rfl, nofun, h.1⟩

/-- A match of the pattern at the first of two places can be followed at the
second one, from places that are `pre` to places that are `post`. -/
def Carries (pre post : Place → Place → Prop) (p : Pattern) : Prop :=
  ∀ x y, pre x y → ∀ cs tl, x.rest = cs ++ tl → Matches p x.before cs tl.head? →
    ∃ ds tl', y.rest = ds ++ tl' ∧ Matches p y.before ds tl'.head? ∧
      post ⟨lastOf x.before cs, tl⟩ ⟨lastOf y.before ds, tl'⟩

namespace Carries

variable {pre mid post : Place → Place → Prop}

theorem ofLoose {p : Pattern} (h : Carries Loose post p) :
    Carries Tight post p :=
  fun x y hxy => h x y hxy.loose

theorem toLoose {p : Pattern} (h : Carries pre Tight p) :
    Carries pre Loose p := by
  intro x y hxy cs tl hRest hMatch
  obtain ⟨ds, tl', hRest', hMatch', hPost⟩ := h x y hxy cs tl hRest hMatch
  exact ⟨ds, tl', hRest', hMatch', hPost.loose⟩

theorem nothing : Carries pre pre .nothing := by
  intro x y hxy cs tl hRest hMatch
  cases hMatch
  obtain rfl : x.rest = tl := hRest
  exact ⟨[], y.rest, rfl, .nothing, hxy⟩

/-- A character that is not blank leads to tight places. -/
theorem one {p : Char → Bool} (h : ∀ c, p c = true → isBlank c = false) :
    Carries Loose Tight (.one p) := by
  rintro x y ⟨bs, xs, hText, hBlank, hRespaced⟩ cs tl hRest hMatch
  cases hMatch with
  | @one p b c a hc =>
      have hSolid := h c hc
      cases bs with
      | nil =>
          rw [hRest] at hText
          subst hText
          obtain ⟨ys', hRest', h'⟩ := hRespaced.exists_of_cons hSolid
          exact ⟨[c], ys', hRest', .one hc, h', rfl⟩
      | cons b bs =>
          rw [hRest] at hText
          obtain ⟨rfl, -⟩ := List.cons.inj hText
          exact absurd (hBlank c List.mem_cons_self) (by rw [hSolid]; decide)

/-- A run that takes every blank leaves the places loose. -/
theorem runOfBlanks {greedy : Bool} {p : Char → Bool}
    (h : ∀ c, isBlank c = true → p c = true) :
    Carries Loose Loose (.run greedy p) := by
  rintro x y ⟨bs, xs, hText, hBlank, hRespaced⟩ cs tl hRest hMatch
  cases hMatch with
  | run hcs =>
      rcases List.append_eq_append_iff.mp (hRest.symm.trans hText)
        with ⟨bs', rfl, rfl⟩ | ⟨cs', rfl, rfl⟩
      · exact ⟨[], y.rest, rfl, .run nofun,
          ⟨bs', xs, rfl, fun c hc => hBlank c (List.mem_append_right cs hc),
            hRespaced⟩⟩
      · obtain ⟨ds, ys', bs', xs', hRest', rfl, hBlank', h', hds⟩ :=
          hRespaced.exists_split
        refine ⟨ds, ys', hRest', .run fun d hd => ?_,
          ⟨bs', xs', rfl, hBlank', h'⟩⟩
        exact (hds d hd).elim (h d) fun hMem =>
          hcs d (List.mem_append_right bs hMem)

/-- A run that takes no blank leaves the places loose. -/
theorem runOfSolid {greedy : Bool} {p : Char → Bool}
    (h : ∀ c, p c = true → isBlank c = false) :
    Carries Loose Loose (.run greedy p) := by
  rintro x y ⟨bs, xs, hText, hBlank, hRespaced⟩ cs tl hRest hMatch
  cases hMatch with
  | run hcs =>
      cases bs with
      | nil =>
          rw [hRest] at hText
          subst hText
          obtain ⟨ys', hRest', h'⟩ := hRespaced.exists_of_append fun c hc =>
            h c (hcs c hc)
          exact ⟨cs, ys', hRest', .run hcs, ⟨[], tl, rfl, nofun, h'⟩⟩
      | cons b bs =>
          cases cs with
          | nil =>
              exact ⟨[], y.rest, rfl, .run nofun,
                ⟨b :: bs, xs, hRest.symm.trans hText, hBlank, hRespaced⟩⟩
          | cons c cs =>
              rw [hRest] at hText
              obtain ⟨rfl, -⟩ := List.cons.inj hText
              have hSolid := h c (hcs c List.mem_cons_self)
              exact absurd (hBlank c List.mem_cons_self)
                (by rw [hSolid]; decide)

/-- The end of a word is the same at tight places. -/
theorem boundary : Carries Tight Tight .boundary := by
  intro x y hxy cs tl hRest hMatch
  cases hMatch with
  | boundary hBoundary =>
      rw [List.nil_append] at hRest
      subst hRest
      refine ⟨[], y.rest, rfl, .boundary ?_, hxy⟩
      rw [← hBoundary]
      unfold isBoundary
      rw [hxy.2, any_isWord_head? hxy.1]

theorem seq {p q : Pattern} (hp : Carries pre mid p) (hq : Carries mid post q) :
    Carries pre post (.seq p q) := by
  intro x y hxy cs tl hRest hMatch
  cases hMatch with
  | @seq _ _ _ cs₁ cs₂ _ h₁ h₂ =>
      rw [← List.head?_append] at h₁
      rw [List.append_assoc] at hRest
      obtain ⟨ds₁, tl₁, hRest₁, hMatch₁, hMid⟩ :=
        hp x y hxy cs₁ (cs₂ ++ tl) hRest h₁
      obtain ⟨ds₂, tl₂, hRest₂, hMatch₂, hPost⟩ := hq _ _ hMid cs₂ tl rfl h₂
      obtain rfl : tl₁ = ds₂ ++ tl₂ := hRest₂
      rw [List.head?_append] at hMatch₁
      rw [← lastOf_append, ← lastOf_append] at hPost
      exact ⟨ds₁ ++ ds₂, tl₂, by rw [hRest₁, List.append_assoc],
        .seq hMatch₁ hMatch₂, hPost⟩

theorem alt {p q : Pattern} (hp : Carries pre post p)
    (hq : Carries pre post q) : Carries pre post (.alt p q) := by
  intro x y hxy cs tl hRest hMatch
  cases hMatch with
  | left h =>
      obtain ⟨ds, tl', hRest', hMatch', hPost⟩ := hp x y hxy cs tl hRest h
      exact ⟨ds, tl', hRest', .left hMatch', hPost⟩
  | right h =>
      obtain ⟨ds, tl', hRest', hMatch', hPost⟩ := hq x y hxy cs tl hRest h
      exact ⟨ds, tl', hRest', .right hMatch', hPost⟩

theorem inOrder {ps : List Pattern} (hps : ∀ p ∈ ps, Carries Loose Loose p) :
    Carries Loose Loose (Pattern.inOrder ps) := by
  induction ps with
  | nil => exact nothing
  | cons p ps ih =>
      obtain ⟨hp, hRest⟩ := List.forall_mem_cons.mp hps
      cases ps with
      | nil => exact hp
      | cons q ps => exact hp.seq (ih hRest)

theorem oneOf {ps : List Pattern} (hps : ∀ p ∈ ps, Carries Loose Tight p) :
    Carries Loose Tight (Pattern.oneOf ps) := by
  induction ps with
  | nil => exact one nofun
  | cons p ps ih =>
      obtain ⟨hp, hRest⟩ := List.forall_mem_cons.mp hps
      cases ps with
      | nil => exact hp
      | cons q ps => exact hp.alt (ih hRest)

/-- Single characters that are not blank, at least one of them. -/
theorem characters {α : Type} (kind : α → Char → Bool) {as : List α}
    (hNonempty : as ≠ [])
    (h : ∀ a ∈ as, ∀ c, kind a c = true → isBlank c = false) :
    Carries Loose Tight (Pattern.inOrder (as.map fun a => .one (kind a))) := by
  induction as with
  | nil => exact absurd rfl hNonempty
  | cons a as ih =>
      obtain ⟨ha, hRest⟩ := List.forall_mem_cons.mp h
      cases as with
      | nil => exact one ha
      | cons b as =>
          exact (one ha).toLoose.seq (ih (List.cons_ne_nil b as) hRest)

end Carries

/-! ## Where a pattern occurs -/

/-- Blanks in front of a text come before each character of it that is not
blank. -/
theorem prefix_of_blanks {bs xs pre rest : List Char} {c : Char}
    (hb : AllBlank bs) (hc : isBlank c = false)
    (hText : bs ++ xs = pre ++ c :: rest) :
    ∃ pre', pre = bs ++ pre' ∧ xs = pre' ++ c :: rest := by
  rcases List.append_eq_append_iff.mp hText with ⟨pre', hPre, hRest⟩ | ⟨bs',
    rfl, hRest⟩
  · exact ⟨pre', hPre, hRest⟩
  · cases bs' with
    | nil => exact ⟨[], by rw [List.append_nil, List.append_nil], hRest.symm⟩
    | cons b bs' =>
        obtain ⟨rfl, -⟩ := List.cons.inj hRest
        exact absurd (hb c (List.mem_append_right pre List.mem_cons_self))
          (by rw [hc]; decide)

/-- Where the one text has a character that is not blank, the other one has it
too, at a place that is tight. -/
theorem exists_tight {xs ys : List Char} (h : Respaced xs ys)
    {before before' : Option Char}
    (hBefore : before.any isWord = before'.any isWord) {pre rest : List Char}
    {c : Char} (hc : isBlank c = false) (hText : xs = pre ++ c :: rest) :
    ∃ pre' rest', ys = pre' ++ c :: rest' ∧
      Tight ⟨lastOf before pre, c :: rest⟩ ⟨lastOf before' pre',
        c :: rest'⟩ := by
  induction h generalizing pre before before' with
  | ends hx hy =>
      subst hText
      exact absurd (hx c (List.mem_append_right pre List.mem_cons_self))
        (by rw [hc]; decide)
  | @char d xs ys hd h ih =>
      cases pre with
      | nil =>
          obtain ⟨rfl, rfl⟩ := List.cons.inj hText
          exact ⟨[], ys, rfl, .char hd h, hBefore⟩
      | cons e pre =>
          rw [List.cons_append] at hText
          obtain ⟨rfl, hRest⟩ := List.cons.inj hText
          obtain ⟨pre', rest', rfl, hTight⟩ :=
            ih (rfl : (some d).any isWord = (some d).any isWord) hRest
          refine ⟨d :: pre', rest', rfl, ?_⟩
          rw [lastOf_cons, lastOf_cons]
          exact hTight
  | @gap bs ds xs ys hb hd hbs hds h ih =>
      obtain ⟨pre', rfl, hRest⟩ := prefix_of_blanks hb hc hText
      have hWords : (lastOf before bs).any isWord =
            (lastOf before' ds).any isWord := by
        rw [any_isWord_lastOf hb (.inr hbs), any_isWord_lastOf hd (.inr hds)]
      obtain ⟨pre'', rest', rfl, hTight⟩ := ih hWords hRest
      refine ⟨ds ++ pre'', rest', by rw [List.append_assoc], ?_⟩
      rw [lastOf_append, lastOf_append]
      exact hTight

/-- The texts are respacings but for blanks in front of them. -/
def Similar (xs ys : List Char) : Prop :=
  ∃ bs ds xs' ys', xs = bs ++ xs' ∧ ys = ds ++ ys' ∧ AllBlank bs ∧ AllBlank ds ∧
    Respaced xs' ys'

theorem Similar.symm {xs ys : List Char} (h : Similar xs ys) :
    Similar ys xs := by
  obtain ⟨bs, ds, xs', ys', hxs, hys, hb, hd, hRespaced⟩ := h
  exact ⟨ds, bs, ys', xs', hys, hxs, hd, hb, hRespaced.symm⟩

theorem occurs_of_similar {p : Pattern} (hSolid : Solid p)
    {post : Place → Place → Prop} (hCarries : Carries Tight post p)
    {xs ys : List Char} (h : Similar xs ys) (hOccurs : Occurs p xs) :
    Occurs p ys := by
  obtain ⟨bs, ds, xs', ys', rfl, rfl, hb, hd, hRespaced⟩ := h
  obtain ⟨pre, cs, tl, hText, hMatch⟩ := hOccurs
  obtain ⟨c, cs, rfl, hc⟩ := hSolid _ _ _ hMatch
  rw [List.append_assoc, List.cons_append] at hText
  obtain ⟨pre, rfl, hRest⟩ := prefix_of_blanks hb hc hText
  have hWords : (lastOf none bs).any isWord = (lastOf none ds).any isWord := by
    rw [any_isWord_lastOf hb (.inl rfl), any_isWord_lastOf hd (.inl rfl)]
  obtain ⟨pre', rest', rfl, hTight⟩ := exists_tight hRespaced hWords hc hRest
  rw [← lastOf_none, lastOf_append] at hMatch
  obtain ⟨es, tl', hText', hMatch', -⟩ :=
    hCarries _ _ hTight (c :: cs) tl rfl hMatch
  refine ⟨ds ++ pre', es, tl', ?_, ?_⟩
  · rw [show c :: rest' = es ++ tl' from hText', List.append_assoc,
      List.append_assoc]
  · rw [← lastOf_none, lastOf_append]
    exact hMatch'

/-- **A pattern that can be followed occurs in a text exactly if it occurs in a
similar one.** -/
theorem occurs_iff_of_similar {p : Pattern} (hSolid : Solid p)
    {post : Place → Place → Prop} (hCarries : Carries Tight post p)
    {xs ys : List Char} (h : Similar xs ys) : Occurs p xs ↔ Occurs p ys :=
  ⟨occurs_of_similar hSolid hCarries h,
    occurs_of_similar hSolid hCarries h.symm⟩

/-! ## Characters and pieces -/

theorem isBlank_eq_false {c : Char} (h : c.toNat ∉ blankPoints) :
    isBlank c = false :=
  Bool.eq_false_iff.mpr fun hBlank => h (mem_blankPoints hBlank)

theorem isBlank_of_beq {a c : Char} (ha : isBlank a = false)
    (h : (c == a) = true) : isBlank c = false := by
  obtain rfl := eq_of_beq h
  exact ha

theorem toNat_of_isUpper {c : Char} (h : c.isUpper = true) :
    65 ≤ c.toNat ∧ c.toNat ≤ 90 := by
  obtain ⟨hLow, hHigh⟩ : c.val ≥ 'A'.val ∧ c.val ≤ 'Z'.val :=
    of_decide_eq_true h
  exact ⟨UInt32.le_iff_toNat_le.mp hLow, UInt32.le_iff_toNat_le.mp hHigh⟩

theorem toNat_of_isLower {c : Char} (h : c.isLower = true) :
    97 ≤ c.toNat ∧ c.toNat ≤ 122 := by
  have hBounds : (decide (c.val ≥ 'a'.val) && decide (c.val ≤ 'z'.val)) =
        true := h
  rw [Bool.and_eq_true, decide_eq_true_eq, decide_eq_true_eq] at hBounds
  exact ⟨UInt32.le_iff_toNat_le.mp hBounds.1,
    UInt32.le_iff_toNat_le.mp hBounds.2⟩

theorem isBlank_of_isAlpha {c : Char} (h : c.isAlpha = true) :
    isBlank c = false := by
  refine isBlank_eq_false ?_
  have hLetter : (c.isUpper || c.isLower) = true := h
  simp only [blankPoints, List.mem_cons, List.not_mem_nil, or_false]
  rcases Bool.or_eq_true_iff.mp hLetter with hUpper | hLower
  · have hBounds := toNat_of_isUpper hUpper
    omega
  · have hBounds := toNat_of_isLower hLower
    omega

theorem isBlank_of_isLatinLetter {c : Char} (h : isLatinLetter c = true) :
    isBlank c = false := by
  simp only [isLatinLetter, Bool.or_eq_true, decide_eq_true_eq] at h
  rcases h with (h | rfl) | rfl
  · exact isBlank_of_isAlpha h
  · decide
  · decide

theorem toLower_of_not_isUpper {c : Char} (h : c.isUpper = false) :
    c.toLower = c := by
  unfold Char.toLower
  exact dif_neg (of_decide_eq_false h)

/-- The same letter as a small letter is not blank. -/
theorem isBlank_of_sameLetter {a c : Char} (ha : a.isLower = true)
    (h : sameLetter a c = true) : isBlank c = false := by
  have hLower := toNat_of_isLower ha
  cases hBlank : isBlank c with
  | false => rfl
  | true =>
      have hPoint := mem_blankPoints hBlank
      simp only [blankPoints, List.mem_cons, List.not_mem_nil,
        or_false] at hPoint
      -- Neither of the two is changed by the folding of cases, so they are
      -- equal.
      have hFold : ∀ d : Char, d.toNat ≠ 0x17f → d.toNat ≠ 0x212a →
          ¬ (65 ≤ d.toNat ∧ d.toNat ≤ 90) →
          (if d = '\u017f' then 's' else if d = '\u212a' then 'k'
            else d.toLower) = d := by
        intro d hLong hKelvin hNot
        rw [if_neg (by rintro rfl; exact hLong rfl),
          if_neg (by rintro rfl; exact hKelvin rfl)]
        refine toLower_of_not_isUpper (decide_eq_false ?_)
        simp only [ge_iff_le, UInt32.le_iff_toNat_le]
        exact hNot
      have hEq : a = c := by
        unfold sameLetter at h
        rw [← hFold a (by omega) (by omega) (by omega),
          ← hFold c (by omega) (by omega) (by omega)]
        exact eq_of_beq h
      subst hEq
      omega

section Pieces

variable {s : String}

/-- The text is made of characters that are not blank. -/
def IsMark (s : String) : Prop :=
  s.toList ≠ [] ∧ s.toList.all (fun a => !isBlank a) = true

/-- The text is made of small letters. -/
def IsTerm (s : String) : Prop :=
  s.toList ≠ [] ∧ s.toList.all Char.isLower = true

instance (s : String) : Decidable (IsMark s) :=
  inferInstanceAs (Decidable (_ ∧ _))

instance (s : String) : Decidable (IsTerm s) :=
  inferInstanceAs (Decidable (_ ∧ _))

theorem IsMark.isBlank (h : IsMark s) : ∀ a ∈ s.toList, isBlank a = false :=
  fun a ha => Bool.not_eq_true' _ ▸ List.all_eq_true.mp h.2 a ha

theorem IsMark.carries (h : IsMark s) : Carries Loose Loose (exactly s) :=
  (Carries.characters (fun a c => c == a) h.1 fun a ha _ hc =>
    isBlank_of_beq (h.isBlank a ha) hc).toLoose

theorem IsMark.solid (h : IsMark s) : Solid (exactly s) :=
  Solid.characters (fun a c => c == a) h.1 fun a ha _ hc =>
    isBlank_of_beq (h.isBlank a ha) hc

theorem IsTerm.carries (h : IsTerm s) : Carries Loose Tight (anyCase s) :=
  Carries.characters sameLetter h.1 fun a ha _ hc =>
    isBlank_of_sameLetter (List.all_eq_true.mp h.2 a ha) hc

theorem IsTerm.solid (h : IsTerm s) : Solid (anyCase s) :=
  Solid.characters sameLetter h.1 fun a ha _ hc =>
    isBlank_of_sameLetter (List.all_eq_true.mp h.2 a ha) hc

theorem carries_blanks : Carries Loose Loose blanks :=
  Carries.runOfBlanks fun _ h => h

theorem carries_upTo {stops : List Char}
    (h : stops.all (fun a => !isBlank a) = true) :
    Carries Loose Loose (upTo stops) := by
  refine Carries.runOfBlanks fun c hc => ?_
  rw [Bool.not_eq_true', List.contains_eq_mem, decide_eq_false_iff_not]
  intro hMem
  have hSolid := List.all_eq_true.mp h c hMem
  rw [hc] at hSolid
  cases hSolid

end Pieces

end Pattern

end Errand
