import Errand.Proofs.Execution.Surfacing
import Errand.Proofs.Text.Blank
import Errand.Proofs.Web.Address
import Errand.Query
import Errand.Web.Client

/-!
# What the browser is handed

Every target leads to an address in normal form: that of the target itself, or
that of a search for it (`addressOf`). So whatever the target is, the browser
is handed the text of a web address, of which every character shows. Such a
text is a target itself, and it leads to itself: the normal form of an address
is its own normal form.

## Main results

* `url_eq`: what is opened is the normal form of an address.
* `url_url`: what is opened for what is opened.
* `url_handed`: what the browser is handed, for every target.
-/

namespace Errand.Target

open Address

/-! ## The address of a search -/

/-- The address of a web search. -/
def searchFor (text : String) : Address where
  secure := true
  username := []
  password := none
  host := .domain "duckduckgo.com".toList
  port := none
  path := ['/']
  query := some ('q' :: '=' :: Percent.encodeChars text.toList)
  fragment := none

theorem render_searchFor (text : String) :
    (searchFor text).render = searchAddress.toList ++
      Percent.encodeChars text.toList := by
  show "https://".toList ++ [] ++ [] ++ [] ++ "duckduckgo.com".toList ++
        [] ++ ['/'] ++
    ('?' :: 'q' :: '=' :: Percent.encodeChars text.toList) ++ [] = _
  rw [List.append_nil]
  rfl

/-- Everything that is written for the words of a search belongs in a query. -/
theorem not_inQuery_of_mem_encodeChars {cs : List Char} {c : Char}
    (h : c ∈ Percent.encodeChars cs) : inQuery c = false := by
  obtain ⟨b, -, hc⟩ := List.mem_flatMap.mp h
  have hAll : ∀ n < 256, ((Percent.encodeByte (UInt8.ofNat n)).all fun c =>
        inQuery c = false) = true := by decide +kernel
  have hByte := hAll b.toNat b.toNat_lt_size
  rw [UInt8.ofNat_toNat] at hByte
  exact Chars.forall_mem_of_all hByte c hc

theorem isName_searchHost :
    Domain.IsName ["duckduckgo".toList, "com".toList] where
  nonempty := List.cons_ne_nil _ _
  labels := by
    have hAll : ∀ text ∈ ["duckduckgo".toList, "com".toList],
        (text.all fun c => c.toNat < 0x80 ∧ Domain.stays c = true ∧ c ≠ '.') =
          true ∧
          Chars.dropLead? Domain.Label.mark text = none := by decide
    intro text hText
    obtain ⟨hCharacters, hUnmarked⟩ := hAll text hText
    refine Domain.isLabel_of_free (fun c hc => ?_) hUnmarked
    obtain ⟨hSmall, hPlain⟩ := Chars.forall_mem_of_all hCharacters c hc
    exact ⟨Domain.free_ascii hSmall, hPlain⟩
  oneWay := by decide
  allowed := by decide

theorem wellFormed_searchFor (text : String) : (searchFor text).WellFormed where
  username := nofun
  password := nofun
  host := by
    have hText : Domain.asciiOf ["duckduckgo".toList, "com".toList] =
        "duckduckgo.com".toList := by decide
    have hDomain := Host.WellFormed.domain isName_searchHost
    rw [hText] at hDomain
    exact hDomain (by decide) (by decide)
  port := nofun
  path := ⟨[], [], nofun, .nil, rfl⟩
  query := by
    rintro q ⟨⟩
    exact List.forall_mem_cons.mpr ⟨by decide, List.forall_mem_cons.mpr
      ⟨by decide, fun c hc => not_inQuery_of_mem_encodeChars hc⟩⟩
  fragment := nofun

/-! ## The address of a target -/

/-- The address that is opened for a target. -/
def addressOf (target : String) : Address :=
  (read? (Text.trim target).toList).getD (searchFor (Text.trim target))

theorem wellFormed_addressOf (target : String) :
    (addressOf target).WellFormed := by
  unfold addressOf
  cases hRead : read? (Text.trim target).toList with
  | some a => exact wellFormed_of_read? hRead
  | none => exact wellFormed_searchFor _

theorem url_of_some {target : String} {a : Address}
    (h : read? (Text.trim target).toList = some a) :
    url target = String.ofList a.render := by
  unfold url
  simp only [h]

theorem url_of_none {target : String}
    (h : read? (Text.trim target).toList = none) :
    url target = searchAddress ++ Percent.encode (Text.trim target) := by
  unfold url
  simp only [h]

/-- **What is opened is the normal form of an address.** -/
theorem url_eq (target : String) :
    url target = String.ofList (addressOf target).render := by
  unfold addressOf
  cases hRead : read? (Text.trim target).toList with
  | some a => exact url_of_some hRead
  | none =>
      rw [url_of_none hRead, Option.getD_none, render_searchFor,
        String.ofList_append, String.ofList_toList]
      rfl

theorem toList_url (target : String) :
    (url target).toList = (addressOf target).render := by
  rw [url_eq, String.toList_ofList]

/-- A printable text has no blanks and no control characters in it. -/
theorem solid_of_printable {c : Char} (h : Printable c) :
    Chars.isBlank c = false ∧ Query.isControl c = false := by
  obtain ⟨hLow, hHigh⟩ := h
  have hAll : ∀ n < 0x80, 0x21 ≤ n → n ≤ 0x7E →
      Chars.isBlank (Char.ofNat n) = false ∧
      Query.isControl (Char.ofNat n) = false := by decide
  have hc := hAll c.toNat (by omega) hLow hHigh
  rwa [Char.ofNat_toNat] at hc

theorem printable_url (target : String) :
    ∀ c ∈ (url target).toList, Printable c := by
  rw [toList_url]
  exact (wellFormed_addressOf target).printable

/-- What is opened is trimmed. -/
theorem trim_url (target : String) : Text.trim (url target) = url target :=
  Text.trim_of_solid fun c hc =>
    (solid_of_printable (printable_url target c hc)).1

/-- What is opened is read as the address that it is the normal form of. -/
theorem read?_url (target : String) :
    read? (Text.trim (url target)).toList = some (addressOf target) := by
  rw [trim_url, toList_url, (wellFormed_addressOf target).read?_render]

/-- **What is opened leads to itself.** -/
theorem url_url (target : String) : url (url target) = url target := by
  rw [url_of_some (read?_url target), ← url_eq]

/-! ## What is handed over -/

/-- What is opened names the web as its scheme. -/
theorem scheme_prefix (target : String) :
    "http://".toList <+: (url target).toList ∨
    "https://".toList <+: (url target).toList := by
  rw [toList_url, render_eq]
  unfold schemeText
  cases (addressOf target).secure with
  | true => exact .inr (List.prefix_append _ _)
  | false => exact .inl (List.prefix_append _ _)

/-- A search in the plain browser first has the target opened, and it records
the text that is opened. -/
def Recorded (target : String) : Prop :=
  ∀ {σ : Type} (d : Directory) (results : Nat) (t : Toolbox σ) (p : Plan)
    (now : Time) (s : σ) (o : Outcome),
    p.operation = .search → p.isBrowser = true →
      let r := Local.toolsRun d results t.partner p target now s
      r.ending = .done o → r.trace.head? =
        some (.asked now (.openTarget target)) ∧
        ∃ note, o.evidence.head? =
          some ⟨"Opened browser search", url target, note⟩

theorem recorded (target : String) : Recorded target := by
  intro σ d results t p now s o hSearch hBrowser r hDone
  obtain ⟨reply, -, hSurfaces⟩ :=
    Local.toolsRun_browserSearch d results t p target now s hSearch hBrowser
  cases reply with
  | breakdown => cases hSurfaces.1.symm.trans hDone
  | answer worked =>
      obtain ⟨hTrace, reply, -, hFound⟩ := hSurfaces
      cases reply with
      | breakdown => cases hFound.symm.trans hDone
      | answer found =>
          obtain ⟨o', hEnding, hTold⟩ := hFound
          obtain rfl := Ending.done.inj (hEnding.symm.trans hDone)
          exact ⟨congrArg List.head? hTrace, _, hTold.opening⟩

/-- What is so of the text that the browser is handed for a target. -/
structure Handed (target : String) : Prop where
  /-- The opener of the system gets this text as its one argument. -/
  sole : WebClient.openerArguments target = [url target]
  scheme : "http://".toList <+: (url target).toList ∨
    "https://".toList <+: (url target).toList
  solid : ∀ c ∈ (url target).toList, Chars.isBlank c = false ∧
    Query.isControl c = false
  printable : ∀ c ∈ (url target).toList, Printable c
  /-- A target that is an address is opened in its normal form. -/
  normal : ∀ a, read? (Text.trim target).toList = some a →
    url target = String.ofList a.render
  /-- Any other target is searched for, and the words of the search are the
  target. -/
  searched : read? (Text.trim target).toList = none →
    ∃ words, url target = "https://duckduckgo.com/?q=" ++ words ∧
    Percent.decode? words = some (Text.trim target)
  /-- It leads to itself. -/
  again : url (url target) = url target
  recorded : Recorded target

/-- **Whatever the target is, the browser is handed a web address.** -/
theorem url_handed (target : String) : Handed target where
  sole := rfl
  scheme := scheme_prefix target
  solid c hc := solid_of_printable (printable_url target c hc)
  printable := printable_url target
  normal _ hRead := url_of_some hRead
  searched hRead := ⟨_, url_of_none hRead, Percent.decode?_encode _⟩
  again := url_url target
  recorded := Target.recorded target

end Errand.Target
