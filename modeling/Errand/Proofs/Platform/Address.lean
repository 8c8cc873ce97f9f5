import Errand.Proofs.Plan.Extraction
import Errand.Proofs.Platform.Search
import Errand.Proofs.Text.Spacing

/-!
# Platforms named by an address

A platform can be named by a host or by an address on it. A host names the
platform whose domain it is or is below, or whose name or keyword it is. An
address does not follow its host: what stands behind the host is not taken off
before the end of the text is compared with the domains. So the end of the path
decides what the end of the host should. An address on a host below a domain
names no platform, and one whose path ends like a host below a domain names the
platform of that domain, whatever its own host is.

This file says what a host and an address on it name, and when the two agree:
an address on the very domain of a platform names that platform, and an address
on a host that names no platform names none, as long as the path does not end
like a host below a domain; all other hosts that name a platform lose it in an
address.

## Main results

* `bareName_host`, `bareName_address`: what is compared with the names of the
  platforms.
* `fits_address_iff`: what an address is compared with in the end.
* `find_address`: what an address names, and when it names what its host names.
* `address_misses_host`: addresses that do not name what their hosts name.
-/

namespace Errand

namespace Platform

/-! ## Hosts and addresses -/

/-- Small letters, digits and hyphens. -/
def inLabel (c : Char) : Bool := c.isLower || c.isDigit || c == '-'

/-- The text is a host: two labels or more with dots between them. -/
def IsHost (host : List Char) : Prop :=
  2 ≤ (host.splitOn '.').length ∧ ∀ label ∈ host.splitOn '.', label ≠ [] ∧
    label.all inLabel = true

instance (host : List Char) : Decidable (IsHost host) :=
  inferInstanceAs (Decidable (_ ∧ _))

/-- An address on a host. -/
def address (host path : String) : String := "https://" ++ host ++ "/" ++ path

/-- The host without what hosts of web pages begin with. -/
def bareHost (host : String) : List Char :=
  Chars.dropLeads "www.".toList host.toList

/-- What is true of a character of a host, as far as it matters here. -/
structure HostCharacter (c : Char) : Prop where
  small : c.toNat < 0x80
  notBlank : Chars.isBlank c = false
  lower : c.toLower = c
  noColon : c ≠ ':'
  noSlash : c ≠ '/'

theorem toNat_of_inLabel {c : Char} (h : inLabel c = true) :
    c.toNat < 0x80 := by
  rw [inLabel, Bool.or_eq_true, Bool.or_eq_true, beq_iff_eq] at h
  rcases h with (hLetter | hDigit) | rfl
  · have hBounds := Pattern.toNat_of_isLower hLetter
    omega
  · have hBounds : (decide (c.val ≥ '0'.val) && decide (c.val ≤ '9'.val)) =
          true := hDigit
    rw [Bool.and_eq_true, decide_eq_true_eq, decide_eq_true_eq] at hBounds
    have hHigh : c.toNat ≤ 57 := UInt32.le_iff_toNat_le.mp hBounds.2
    omega
  · decide

theorem hostCharacter {c : Char} (h : inLabel c = true ∨ c = '.') :
    HostCharacter c := by
  have hSmall : c.toNat < 0x80 := by
    rcases h with h | rfl
    · exact toNat_of_inLabel h
    · decide
  have hAll : (inLabel c = true ∨ c = '.') →
      Chars.isBlank c = false ∧ c.toLower = c ∧ c ≠ ':' ∧ c ≠ '/' :=
    Chars.of_ascii (P := fun c => (inLabel c = true ∨ c = '.') →
      Chars.isBlank c = false ∧ c.toLower = c ∧ c ≠ ':' ∧
      c ≠ '/') (by decide) hSmall
  obtain ⟨hBlank, hLower, hColon, hSlash⟩ := hAll h
  exact ⟨hSmall, hBlank, hLower, hColon, hSlash⟩

namespace IsHost

variable {host : List Char} (h : IsHost host)

include h

theorem hostCharacter : ∀ c ∈ host, HostCharacter c := by
  intro c hc
  have hJoined : c ∈ ['.'].intercalate (host.splitOn '.') := by
    rwa [List.intercalate_splitOn]
  apply Platform.hostCharacter
  rcases Chars.mem_intercalate hJoined with hDot | ⟨label, hLabel, hMem⟩
  · exact .inr (List.mem_singleton.mp hDot)
  · exact .inl (List.all_eq_true.mp (h.2 label hLabel).2 c hMem)

theorem ne_nil : host ≠ [] := by
  rintro rfl
  exact absurd h (by decide)

theorem not_mem {c : Char} (hc : ¬ HostCharacter c) : c ∉ host := fun hMem =>
    hc (h.hostCharacter c hMem)

theorem lower_eq : Chars.lower host = host := by
  rw [Chars.lower, Chars.lowerFrom_of_ascii fun c hc =>
    (h.hostCharacter c hc).small, Chars.asciiLower,
    List.map_congr_left fun c hc => (h.hostCharacter c hc).lower, List.map_id']

end IsHost

/-! ## What is compared with the names -/

/-- A scheme is not taken off a text that has no colon in front of its first
slash. -/
theorem dropLeads_of_noColon {scheme cs : List Char} (hScheme : '/' ∉ scheme)
    (h : ':' ∉ cs.takeWhile (· != '/')) :
    Chars.dropLeads (scheme ++ "://".toList) cs = cs := by
  apply Chars.dropLeads_of_none
  cases hDrop : Chars.dropLead? (scheme ++ "://".toList) cs with
  | none => rfl
  | some rest =>
      have hFront : cs.takeWhile (· != '/') = scheme ++ [':'] := by
        have hPassed : ∀ c ∈ scheme, (c != '/') = true := fun c hc =>
          bne_iff_ne.mpr fun hSlash => hScheme (hSlash ▸ hc)
        rw [Chars.eq_append_of_dropLead? hDrop, List.append_assoc,
          List.takeWhile_append_of_pos hPassed]
        simp
      rw [hFront] at h
      simp at h

theorem trim_of_noBlank {cs : List Char}
    (h : ∀ c ∈ cs, Chars.isBlank c = false) : Chars.trim cs = cs :=
  Chars.trim_of_solid_ends (fun c hc => h c (List.mem_of_head? hc)) fun c hc =>
    h c (List.mem_of_getLast? hc)

theorem bareName_eq (name : String) : bareName name =
    Chars.dropLeads "www.".toList
      (Chars.dropLeads ("http".toList ++ "://".toList)
        (Chars.dropLeads ("https".toList ++ "://".toList)
          (Chars.lower (Chars.trim name.toList)))) := rfl

section

variable {host path : String} (hHost : IsHost host.toList)

include hHost

theorem bareName_host : bareName host = bareHost host := by
  have hColon : ':' ∉ host.toList.takeWhile (· != '/') := fun hMem =>
    hHost.not_mem (fun hc => hc.noColon rfl)
      ((List.takeWhile_prefix _).subset hMem)
  rw [bareName_eq, trim_of_noBlank fun c hc =>
    (hHost.hostCharacter c hc).notBlank, hHost.lower_eq,
    dropLeads_of_noColon (by decide) hColon,
    dropLeads_of_noColon (by decide) hColon]
  rfl

theorem noSlash_bareHost : '/' ∉ bareHost host := fun hMem =>
  hHost.not_mem (fun hc => hc.noSlash rfl)
    ((Chars.isSuffix_dropLeads _ _).subset hMem)

theorem lower_address (hPath : path.toList.any Chars.isBlank = false) :
    Chars.lower (Chars.trim (address host path).toList) =
      ("https".toList ++ "://".toList) ++
        (host.toList ++ '/' :: Chars.lower path.toList) := by
  have hText : (address host path).toList = "https://".toList ++ host.toList ++
        '/' :: path.toList := by
    simp [address]
  have hFront : ∀ c ∈ "https://".toList ++ host.toList, c.toNat < 0x80 ∧
      Chars.isBlank c = false ∧ c.toLower = c := by
    intro c hc
    rcases List.mem_append.mp hc with hScheme | hMem
    · have hAll : ("https://".toList.all fun c => c.toNat <
            0x80 && !Chars.isBlank c && c.toLower == c) = true := by
        decide
      simpa [and_assoc] using List.all_eq_true.mp hAll c hScheme
    · have hc := hHost.hostCharacter c hMem
      exact ⟨hc.small, hc.notBlank, hc.lower⟩
  have hTrim : Chars.trim (address host path).toList =
        (address host path).toList := by
    apply trim_of_noBlank
    intro c hc
    rw [hText, List.mem_append, List.mem_cons] at hc
    rcases hc with hMem | rfl | hMem
    · exact (hFront c hMem).2.1
    · decide
    · exact Bool.eq_false_iff.mpr (List.any_eq_false.mp hPath c hMem)
  have hLower : Chars.lower ("https://".toList ++ host.toList) =
        "https://".toList ++ host.toList := by
    rw [Chars.lower, Chars.lowerFrom_of_ascii fun c hc => (hFront c hc).1,
      Chars.asciiLower, List.map_congr_left fun c hc => (hFront c hc).2.2,
      List.map_id']
  rw [hTrim, hText, Chars.lower_append_cons (by decide), hLower,
    show Chars.lowerForm '/' = ['/'] from by decide]
  simp

theorem bareName_address (hPath : path.toList.any Chars.isBlank = false) :
    bareName (address host path) =
      bareHost host ++ '/' :: Chars.lower path.toList := by
  have hColon : ':' ∉ (host.toList ++ '/' :: Chars.lower path.toList).takeWhile
        (· != '/') := by
    have hPassed : ∀ c ∈ host.toList, (c != '/') = true := fun c hc =>
      bne_iff_ne.mpr (hHost.hostCharacter c hc).noSlash
    rw [List.takeWhile_append_of_pos hPassed]
    simpa using hHost.not_mem fun hc => hc.noColon rfl
  rw [bareName_eq, lower_address hHost hPath,
    Chars.dropLeads_of_some (by decide) (Chars.dropLead?_append _ _),
    dropLeads_of_noColon (by decide) hColon,
    dropLeads_of_noColon (by decide) hColon,
    Chars.dropLeads_append_cons (by decide) (by decide)]
  rfl

end

/-! ## Which platforms fit -/

/-- The text ends like a host below the domain of the platform. -/
def EndsBelow (p : Platform) (cs : List Char) : Prop :=
  '.' :: p.domain.toList <:+ cs

/-- What is left of a text is the platform's name, its domain, a host below its
domain, an address on its domain or one of its keywords. -/
def Fits (p : Platform) (bare : List Char) : Prop :=
  bare = p.name.toList ∨ bare = p.domain.toList ∨ p.EndsBelow bare ∨
    bare.takeWhile (· != '/') = p.domain.toList ∨ ∃ k ∈ p.keywords,
    k.toList = bare

instance (p : Platform) (cs : List Char) : Decidable (p.EndsBelow cs) :=
  inferInstanceAs (Decidable (_ <:+ _))

instance (p : Platform) (bare : List Char) : Decidable (p.Fits bare) :=
  inferInstanceAs (Decidable (_ ∨ _))

/-- No name of the platform has a slash in it. -/
structure Slashless (p : Platform) : Prop where
  name : '/' ∉ p.name.toList
  domain : '/' ∉ p.domain.toList
  keywords : ∀ k ∈ p.keywords, '/' ∉ k.toList

theorem namedBy_iff {p : Platform} {name : String} :
    p.namedBy name = true ↔ Text.isBlank name = false ∧
    p.Fits (bareName name) := by
  have hEnds : ∀ cs : List Char, Chars.endsWith ('.' :: p.domain.toList) cs =
        true ↔ p.EndsBelow cs := by
    intro cs
    rw [Chars.endsWith, Chars.startsWith, Chars.isSome_dropLead?,
      List.reverse_prefix]
    rfl
  simp only [namedBy, Fits, Bool.and_eq_true, Bool.not_eq_true',
    Bool.or_eq_true, decide_eq_true_eq, hEnds, List.any_eq_true, or_assoc]

/-- Behind a slash, the end of a text is the end of what stands behind the
slash. -/
theorem suffix_append_cons {c : Char} {tail : List Char} (hc : c ∉ tail)
    (front rest : List Char) : tail <:+ front ++ c :: rest ↔ tail <:+ rest := by
  constructor
  · intro h
    rcases List.suffix_or_suffix_of_suffix h
      (List.suffix_append front (c :: rest)) with hInside | hOver
    · rcases List.suffix_cons_iff.mp hInside with rfl | hRest
      · exact absurd List.mem_cons_self hc
      · exact hRest
    · exact absurd (hOver.subset List.mem_cons_self) hc
  · intro h
    exact h.trans ((List.suffix_cons c rest).trans
        (List.suffix_append front (c :: rest)))

/-- **What an address is compared with in the end**: its host with the domain,
and its path with hosts below the domain. -/
theorem fits_address_iff {p : Platform} (hp : p.Slashless) {bare : List Char}
    (hBare : '/' ∉ bare) (rest : List Char) : p.Fits (bare ++ '/' :: rest) ↔
    bare = p.domain.toList ∨ p.EndsBelow rest := by
  have hNot : ∀ cs : List Char, '/' ∉ cs → bare ++ '/' :: rest ≠ cs := by
    rintro cs hcs rfl
    exact hcs (List.mem_append_right bare List.mem_cons_self)
  have hKeywords : ¬ ∃ k ∈ p.keywords, k.toList = bare ++ '/' :: rest := by
    rintro ⟨k, hk, hSame⟩
    exact hNot _ (hp.keywords k hk) hSame.symm
  have hHost : (bare ++ '/' :: rest).takeWhile (· != '/') = bare := by
    have hPassed : ∀ c ∈ bare, (c != '/') = true := fun c hc =>
      bne_iff_ne.mpr fun hSlash => hBare (hSlash ▸ hc)
    rw [List.takeWhile_append_of_pos hPassed]
    simp
  have hBelow : p.EndsBelow (bare ++ '/' :: rest) ↔ p.EndsBelow rest :=
    suffix_append_cons (by simpa using hp.domain) bare rest
  unfold Fits
  rw [hHost, hBelow]
  simp only [hNot _ hp.name, hNot _ hp.domain, hKeywords, false_or, or_comm]

end Platform

namespace Directory

open Platform

/-- The domains of the table can be told apart: each is compared as it is
written, names its own platform, and none is below another. -/
structure Sited (d : Directory) : Prop where
  slashless : ∀ p ∈ d, p.Slashless
  bare : ∀ p ∈ d, bareName p.domain = p.domain.toList
  found : ∀ p ∈ d, d.find p.domain = some p
  apart : ∀ p ∈ d, ∀ q ∈ d, p.EndsBelow ('.' :: q.domain.toList) → p = q

theorem builtin_sited : Sited builtin where
  slashless p hp := by
    have hAll : ∀ p ∈ builtin, '/' ∉ p.name.toList ∧ '/' ∉ p.domain.toList ∧
        ∀ k ∈ p.keywords, '/' ∉ k.toList := by
      decide
    obtain ⟨hName, hDomain, hKeywords⟩ := hAll p hp
    exact ⟨hName, hDomain, hKeywords⟩
  bare := by decide +kernel
  found := builtin_unambiguous.found
  apart := by decide

/-- The first platform of a table that a text names, by any way to tell which
it names. -/
theorem find_eq {d : Directory} {name : String} {Q : Platform → Prop}
    [DecidablePred Q] (h : ∀ p ∈ d, p.namedBy name = true ↔ Q p) :
    d.find name = List.find? (fun p => decide (Q p)) d := by
  unfold find
  induction d with
  | nil => rfl
  | cons p d ih =>
      obtain ⟨hFirst, hRest⟩ := List.forall_mem_cons.mp h
      have hSame : p.namedBy name = decide (Q p) := by
        rw [Bool.eq_iff_iff, hFirst, decide_eq_true_eq]
      rw [List.find?_cons, List.find?_cons, hSame, ih hRest]

section

variable {d : Directory} {host path : String} (hHost : IsHost host.toList)

include hHost

theorem isBlank_host : Text.isBlank host = false := by
  obtain ⟨c, rest, hChars⟩ := List.exists_cons_of_ne_nil hHost.ne_nil
  have hMem : c ∈ host.toList := by
    rw [hChars]
    exact List.mem_cons_self
  rw [Text.isBlank, hChars, Chars.allBlank, List.all_cons,
    (hHost.hostCharacter c hMem).notBlank, Bool.false_and]

/-- **What a host names.** -/
theorem find_host :
    d.find host = List.find? (fun p => decide (p.Fits (bareHost host))) d := by
  apply find_eq
  intro p _
  rw [namedBy_iff, bareName_host hHost, isBlank_host hHost]
  exact and_iff_right rfl

/-- The domain of a platform names it. -/
theorem find_host_of_domain (hd : Sited d) {p : Platform} (hp : p ∈ d)
    (hDomain : p.domain.toList = bareHost host) : d.find host = some p := by
  have hFound := hd.found p hp
  have hNamed := List.find?_some hFound
  rw [← hFound]
  unfold find namedBy
  rw [bareName_host hHost, hd.bare p hp, hDomain, isBlank_host hHost,
    (namedBy_iff.mp hNamed).1]

variable (hPath : path.toList.any Chars.isBlank = false)

include hPath

/-- **What an address names**: the first platform whose domain is the host, or
below whose domain the path ends. -/
theorem find_address_eq (hd : Sited d) : d.find (address host path) =
    List.find?
      (fun p => decide (bareHost host = p.domain.toList ∨
        p.EndsBelow (Chars.lower path.toList))) d := by
  have hSome : Text.isBlank (address host path) = false := by
    rw [address, Text.isBlank, String.toList_append, String.toList_append,
      String.toList_append]
    rfl
  apply find_eq
  intro p hp
  rw [namedBy_iff, bareName_address hHost hPath, hSome,
    fits_address_iff (hd.slashless p hp) (noSlash_bareHost hHost)]
  exact and_iff_right rfl

/-- Where the path ends below no domain, an address names what its host names
if that is by the domain, and else it names nothing. -/
theorem find_address_of_free (hd : Sited d)
    (hFree : ∀ p ∈ d, ¬ p.EndsBelow (Chars.lower path.toList)) :
    d.find (address host path) = d.find host ↔
      d.find host = none ∨ ∃ p ∈ d, p.domain.toList = bareHost host := by
  rw [find_address_eq hHost hPath hd]
  cases hThere : List.find? (fun p => decide (bareHost host = p.domain.toList ∨
      p.EndsBelow (Chars.lower path.toList))) d with
  | none =>
      have hNoDomain : ¬ ∃ p ∈ d, p.domain.toList = bareHost host := by
        rintro ⟨p, hp, hDomain⟩
        have hNot := List.find?_eq_none.mp hThere p hp
        simp [hDomain] at hNot
      simp only [hNoDomain, or_false, eq_comm]
  | some p =>
      have hp := List.mem_of_find?_eq_some hThere
      have hNamed := List.find?_some hThere
      have hDomain : bareHost host = p.domain.toList :=
        (of_decide_eq_true hNamed).resolve_right (hFree p hp)
      have hHere := find_host_of_domain hHost hd hp hDomain.symm
      constructor
      · intro _
        exact .inr ⟨p, hp, hDomain.symm⟩
      · intro _
        exact hHere.symm

/-- Where the path ends below a domain and the host is none, the path
decides. -/
theorem find_address_of_endsBelow (hd : Sited d) {p : Platform} (hp : p ∈ d)
    (hEnds : p.EndsBelow (Chars.lower path.toList))
    (hHosts : ∀ q ∈ d, q.domain.toList ≠ bareHost host) :
    d.find (address host path) = some p := by
  rw [find_address_eq hHost hPath hd]
  cases hThere : List.find? (fun p => decide (bareHost host = p.domain.toList ∨
      p.EndsBelow (Chars.lower path.toList))) d with
  | none =>
      have hNot := List.find?_eq_none.mp hThere p hp
      simp [hEnds] at hNot
  | some q =>
      have hq := List.mem_of_find?_eq_some hThere
      have hNamed := List.find?_some hThere
      have hBelow : q.EndsBelow (Chars.lower path.toList) :=
        (of_decide_eq_true hNamed).resolve_left fun hSame =>
          hHosts q hq hSame.symm
      -- of two ends of the path, one is an end of the other
      rcases List.suffix_or_suffix_of_suffix hBelow hEnds with hInside | hInside
      · rw [hd.apart q hq p hp hInside]
      · rw [hd.apart p hp q hq hInside]

end

/-- **An address and its host.** A host names the first platform that fits it,
and an address on it the first one whose domain is the host or below whose
domain the path ends. If the path ends below no domain, the two agree exactly
for hosts that name no platform and for the domains themselves. If it ends
below one, the path decides on every host that is no domain. -/
theorem find_address {host path : String} (hHost : IsHost host.toList)
    (hPath : path.toList.any Chars.isBlank = false) :
    builtin.find host = List.find?
      (fun p => decide (p.Fits (bareHost host))) builtin ∧
      builtin.find (address host path) = List.find? (fun p =>
        decide (bareHost host = p.domain.toList ∨
            p.EndsBelow (Chars.lower path.toList))) builtin ∧
      ((∀ p ∈ builtin, ¬ p.EndsBelow (Chars.lower path.toList)) →
        (builtin.find (address host path) = builtin.find host ↔
          builtin.find host = none ∨ ∃ p ∈ builtin,
          p.domain.toList = bareHost host)) ∧
      ∀ p ∈ builtin, p.EndsBelow (Chars.lower path.toList) →
        (∀ q ∈ builtin, q.domain.toList ≠ bareHost host) →
        builtin.find (address host path) = some p := by
  refine ⟨find_host hHost, find_address_eq hHost hPath builtin_sited,
    find_address_of_free hHost hPath builtin_sited, ?_⟩
  intro p hp hEnds hHosts
  exact find_address_of_endsBelow hHost hPath builtin_sited hp hEnds hHosts

/-- The page of results of a platform is on a host below its domain, so its
address does not name the platform. -/
theorem find_address_results :
    IsHost "search.bilibili.com".toList ∧
    "all?keyword=tea".toList.any Chars.isBlank = false ∧
      builtin.find (address "search.bilibili.com" "all?keyword=tea") ≠
        builtin.find "search.bilibili.com" := by
  have hHost : IsHost "search.bilibili.com".toList := by decide +kernel
  have hPath : "all?keyword=tea".toList.any Chars.isBlank = false := by
    decide +kernel
  refine ⟨hHost, hPath, ?_⟩
  rw [ne_eq, (find_address hHost hPath).2.2.1 (by decide +kernel)]
  decide +kernel

/-- An address on a host below a domain does not name the platform that the
host names, and an address on a host that names none names the platform below
whose domain its path ends. -/
theorem address_misses_host :
    (IsHost "search.bilibili.com".toList ∧
      "all?keyword=tea".toList.any Chars.isBlank = false ∧
      (builtin.find "search.bilibili.com").map name = some "bilibili" ∧
      builtin.find (address "search.bilibili.com" "all?keyword=tea") = none) ∧
    IsHost "shop.test".toList ∧
    "x.taobao.com".toList.any Chars.isBlank = false ∧
      builtin.find "shop.test" = none ∧
      (builtin.find (address "shop.test" "x.taobao.com")).map name =
        some "taobao" := by
  decide +kernel

end Directory

end Errand
