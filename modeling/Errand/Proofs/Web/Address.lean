import Errand.Proofs.Web.Host
import Errand.Web.Address

/-!
# Web addresses are read back

The normal form of an address has no character that is passed over, encoded or
given another meaning when it is read, and each of its parts ends where the
next one begins. So it is read part by part as the address that it was written
for.

## Main results

* `wellFormed_of_read?`: what is so of every address that is read.
* `WellFormed.printable`: the normal form is of printable ASCII characters.
* `WellFormed.read?_render`: the normal form of an address is read as the
  address.
-/

namespace Errand.Address

/-! ## Encoded characters -/

/-- The character is ASCII and shows. -/
def Printable (c : Char) : Prop := 0x21 ≤ c.toNat ∧ c.toNat ≤ 0x7E

/-- What stands for an encoded character is not encoded again. -/
def KeepsEscapes (p : Char → Bool) : Prop :=
  p '%' = false ∧ ∀ d < 16, p (Percent.upperHexDigit d) = false

instance (p : Char → Bool) : Decidable (KeepsEscapes p) :=
  inferInstanceAs (Decidable (_ ∧ _))

theorem keepsEscapes : KeepsEscapes inUserinfo ∧ KeepsEscapes inPath ∧
    KeepsEscapes inQuery ∧ KeepsEscapes inFragment := by
  decide

variable {p : Char → Bool} {cs : List Char} {c : Char}

theorem not_of_mem_encodeWhere (hp : KeepsEscapes p)
    (h : c ∈ encodeWhere p cs) : p c = false := by
  obtain ⟨d, -, hc⟩ := List.mem_flatMap.mp h
  split at hc
  · obtain ⟨b, -, hEscape⟩ := List.mem_flatMap.mp hc
    have hByte : b.toNat < 256 := b.toNat_lt_size
    have hAll : ∀ c ∈ Percent.escapeByte b, p c = false := by
      simp only [Percent.escapeByte, List.forall_mem_cons]
      exact ⟨hp.1, hp.2 _ (by omega), hp.2 _ (by omega),
        fun _ hNil => (List.not_mem_nil hNil).elim⟩
    exact hAll c hEscape
  · next hKept =>
    obtain rfl := List.mem_singleton.mp hc
    exact Bool.eq_false_iff.mpr hKept

theorem encodeWhere_eq_self (h : ∀ c ∈ cs, p c = false) :
    encodeWhere p cs = cs := by
  induction cs with
  | nil => rfl
  | cons c cs ih =>
      obtain ⟨hc, hRest⟩ := List.forall_mem_cons.mp h
      rw [encodeWhere, List.flatMap_cons, hc, if_neg Bool.false_ne_true,
        ← encodeWhere, ih hRest]
      rfl

theorem inFragment_of_not_inPath (h : inPath c = false) :
    inFragment c = false :=
  (Bool.or_eq_false_iff.mp h).1

theorem inPath_of_not_inUserinfo (h : inUserinfo c = false) :
    inPath c = false :=
  (Bool.or_eq_false_iff.mp h).1

/-- Where also spaces are encoded, all that stays shows. -/
theorem printable_of_not {others : List Char}
    (hSpace : others.contains ' ' = true)
    (h : (outsideAscii c || others.contains c) = false) : Printable c := by
  obtain ⟨hAscii, hOther⟩ := Bool.or_eq_false_iff.mp h
  obtain ⟨hLow, hHigh⟩ := Bool.or_eq_false_iff.mp hAscii
  have hLow : ¬ c.toNat < 0x20 := of_decide_eq_false hLow
  have hHigh : ¬ 0x7E < c.toNat := of_decide_eq_false hHigh
  have hCode : c.toNat ≠ 0x20 := by
    intro hSame
    obtain rfl : c = ' ' := Char.toNat_inj.mp hSame
    cases hSpace.symm.trans hOther
  unfold Printable
  omega

theorem printable_of_not_inPath (h : inPath c = false) : Printable c :=
  printable_of_not (by decide) (inFragment_of_not_inPath h)

theorem printable_of_isPlain (h : Host.IsPlain c) : Printable c := by
  obtain ⟨hAscii, hAllowed⟩ := h
  unfold Domain.isForbidden at hAllowed
  simp only [Bool.or_eq_false_iff, decide_eq_false_iff_not] at hAllowed
  unfold Printable
  omega

/-! ## Parts of a text -/

/-- A text is cut where the characters of a kind end. -/
theorem cut_append {xs ys : List Char} (hxs : ∀ c ∈ xs, p c = true)
    (hys : ∀ c ∈ ys.head?, p c = false) :
    (xs ++ ys).takeWhile p = xs ∧ (xs ++ ys).dropWhile p = ys := by
  rw [List.takeWhile_append_of_pos hxs, List.dropWhile_append_of_pos hxs]
  cases ys with
  | nil => exact ⟨List.append_nil xs, rfl⟩
  | cons c ys =>
      have hStop : ¬ p c = true := Bool.eq_false_iff.mp (hys c rfl)
      rw [List.takeWhile_cons_of_neg hStop, List.dropWhile_cons_of_neg hStop]
      exact ⟨List.append_nil xs, rfl⟩

/-- A text is cut at a character that is not in front of it. -/
theorem cut_at {stop : Char} {xs ys : List Char} (hxs : stop ∉ xs)
    (hys : ∀ c ∈ ys.head?, c = stop) :
    (xs ++ ys).takeWhile (· != stop) = xs ∧
    (xs ++ ys).dropWhile (· != stop) = ys := by
  refine cut_append (fun c hc => ?_) fun c hc => ?_
  · refine bne_iff_ne.mpr ?_
    rintro rfl
    exact hxs hc
  · obtain rfl := hys c hc
    exact bne_self_eq_false c

theorem spanUntil_append {stops xs ys : List Char} (hxs : ∀ c ∈ xs, c ∉ stops)
    (hys : ∀ c ∈ ys.head?, c ∈ stops) :
    spanUntil stops (xs ++ ys) = (xs, ys) := by
  have hCut : (xs ++ ys).takeWhile (!stops.contains ·) = xs ∧
      (xs ++ ys).dropWhile (!stops.contains ·) = ys :=
    cut_append (fun c hc => by simpa using hxs c hc)
      (fun c hc => by simpa using hys c hc)
  unfold spanUntil
  rw [hCut.1, hCut.2]

/-! ## What is noticed -/

/-- Text without spaces and control characters is noticed as it stands. -/
theorem noticed_eq_self (h : ∀ c ∈ cs, 0x21 ≤ c.toNat) : noticed cs = cs := by
  have hKept : ∀ c ∈ cs, isC0OrSpace c = false ∧ isTabOrBreak c = false := by
    intro c hc
    have hLow := h c hc
    refine ⟨decide_eq_false (by omega), ?_⟩
    have hNot : ∀ d : Char, d.toNat < 0x21 → c ≠ d := by
      rintro d hd rfl
      omega
    unfold isTabOrBreak
    simp only [Bool.or_eq_false_iff, decide_eq_false_iff_not]
    exact ⟨⟨hNot _ (by decide), hNot _ (by decide)⟩, hNot _ (by decide)⟩
  have hDrop : ∀ ds : List Char, (∀ c ∈ ds, c ∈ cs) →
      ds.dropWhile isC0OrSpace = ds := by
    intro ds hds
    cases ds with
    | nil => rfl
    | cons c ds =>
        exact List.dropWhile_cons_of_neg
          (Bool.eq_false_iff.mp (hKept c (hds c List.mem_cons_self)).1)
  unfold noticed
  dsimp only
  rw [hDrop cs fun c hc => hc,
    hDrop cs.reverse fun c hc => List.mem_reverse.mp hc, List.reverse_reverse]
  refine List.filter_eq_self.mpr fun c hc => ?_
  rw [(hKept c hc).2]
  rfl

/-! ## Paths -/

/-- The character may stand in a segment of a path in normal form. -/
def InSegment (c : Char) : Prop := inPath c = false ∧ c ≠ '\\' ∧ c ≠ '/'

/-- A segment of a path in normal form: it is neither of the dots. -/
structure IsSegment (s : List Char) : Prop where
  characters : ∀ c ∈ s, InSegment c
  notDot : isDot s = false
  notDoubleDot : isDoubleDot s = false

theorem IsSegment.nil : IsSegment [] := ⟨nofun, by decide, by decide⟩

/-- **Resolving leaves no dots.** -/
theorem isSegment_of_resolve {passed segments : List (List Char)}
    (hPassed : ∀ s ∈ passed, IsSegment s)
    (hSegments : ∀ s ∈ segments, ∀ c ∈ s, InSegment c) :
    (∀ s ∈ (resolve passed segments).1, IsSegment s) ∧
    IsSegment (resolve passed segments).2 := by
  induction segments generalizing passed with
  | nil => exact ⟨hPassed, .nil⟩
  | cons s rest ih =>
      obtain ⟨hs, hRest⟩ := List.forall_mem_cons.mp hSegments
      have hLeave : ∀ s ∈ passed.tail, IsSegment s := fun s hs =>
        hPassed s (List.mem_of_mem_tail hs)
      cases rest with
      | nil =>
          unfold resolve
          split
          · exact ⟨hLeave, .nil⟩
          · next hDouble =>
            split
            · exact ⟨hPassed, .nil⟩
            · next hDot =>
                exact ⟨hPassed, hs, Bool.eq_false_iff.mpr hDot,
                  Bool.eq_false_iff.mpr hDouble⟩
      | cons next rest =>
          rw [resolve]
          · split
            · exact ih hLeave hRest
            · next hDouble =>
              split
              · exact ih hPassed hRest
              · next hDot =>
                have hs : IsSegment s :=
                  ⟨hs, Bool.eq_false_iff.mpr hDot,
                    Bool.eq_false_iff.mpr hDouble⟩
                exact ih (List.forall_mem_cons.mpr ⟨hs, hPassed⟩) hRest
          · exact List.cons_ne_nil next rest

/-- Segments that are no dots are passed one after the other. -/
theorem resolve_eq_self {passed segments : List (List Char)} {last : List Char}
    (h : ∀ s ∈ segments, IsSegment s) (hLast : IsSegment last) :
    resolve passed (segments ++ [last]) =
      (segments.reverse ++ passed, last) := by
  induction segments generalizing passed with
  | nil =>
      show resolve passed [last] = _
      rw [resolve, hLast.notDoubleDot, hLast.notDot, if_neg Bool.false_ne_true,
        if_neg Bool.false_ne_true]
      rfl
  | cons s rest ih =>
      obtain ⟨hs, hRest⟩ := List.forall_mem_cons.mp h
      rw [List.cons_append, resolve, hs.notDoubleDot, hs.notDot,
        if_neg Bool.false_ne_true, if_neg Bool.false_ne_true, ih hRest,
        List.reverse_cons, List.append_assoc]
      · rfl
      · exact List.append_ne_nil_of_right_ne_nil _ (List.cons_ne_nil _ _)

/-- The path is of segments in normal form. -/
def IsPath (path : List Char) : Prop :=
  ∃ (segments : List (List Char)) (last : List Char),
    (∀ s ∈ segments, IsSegment s) ∧ IsSegment last ∧
    path = '/' :: segments.flatMap (· ++ ['/']) ++ last

theorem flatMap_append_eq (segments : List (List Char)) (last : List Char) :
    segments.flatMap (· ++ ['/']) ++ last =
      ['/'].intercalate (segments ++ [last]) := by
  induction segments with
  | nil => exact List.intercalate_singleton.symm
  | cons s rest ih =>
      obtain ⟨next, more, hMore⟩ := List.exists_cons_of_ne_nil
        (List.append_ne_nil_of_right_ne_nil rest (List.cons_ne_nil last []))
      rw [List.flatMap_cons, List.append_assoc, ih, List.cons_append, hMore,
        List.intercalate_cons_cons]

/-- What is resolved is a path. -/
theorem isPath_of_resolve {text : List Char}
    (h : ∀ c ∈ text, inPath c = false ∧ c ≠ '\\') :
    IsPath ('/' :: (resolve [] (Chars.splitOn ['/'] text)).1.reverse.flatMap
      (· ++ ['/']) ++
      (resolve [] (Chars.splitOn ['/'] text)).2) := by
  have hSegments : ∀ s ∈ Chars.splitOn ['/'] text, ∀ c ∈ s, InSegment c := by
    intro s hs c hc
    obtain ⟨hPath, hSlash⟩ := h c (Chars.mem_of_mem_splitOn hs hc)
    refine ⟨hPath, hSlash, ?_⟩
    rintro rfl
    exact Chars.separator_not_mem hs hc
  have hNone : ∀ s ∈ ([] : List (List Char)), IsSegment s := nofun
  obtain ⟨hPassed, hLast⟩ := isSegment_of_resolve hNone hSegments
  exact ⟨_, _, fun s hs => hPassed s (List.mem_reverse.mp hs), hLast, rfl⟩

/-- **The normal form of a path is of segments in normal form.** -/
theorem isPath_normalPath (cs : List Char) : IsPath (normalPath cs) := by
  have hText :
      ∀ c ∈ (encodeWhere inPath cs).map fun c => if c = '\\' then '/' else c,
        inPath c = false ∧ c ≠ '\\' := by
    refine List.forall_mem_map.mpr fun c hc => ?_
    split
    · decide
    · next hSlash => exact ⟨not_of_mem_encodeWhere keepsEscapes.2.1 hc, hSlash⟩
  unfold normalPath
  dsimp only
  generalize (encodeWhere inPath cs).map
    (fun c => if c = '\\' then '/' else c) = text at hText
  split
  · exact isPath_of_resolve (List.forall_mem_cons.mp hText).2
  · exact isPath_of_resolve hText

namespace IsPath

variable {path : List Char} (h : IsPath path)

include h

theorem mem_path : ∀ c ∈ path, inPath c = false ∧ c ≠ '\\' := by
  obtain ⟨segments, last, hSegments, hLast, rfl⟩ := h
  have hSlash : inPath '/' = false ∧ '/' ≠ '\\' := by decide
  have hSegment : ∀ {s : List Char}, IsSegment s → ∀ c ∈ s, inPath c = false ∧
      c ≠ '\\' :=
    fun hs c hc => ⟨(hs.characters c hc).1, (hs.characters c hc).2.1⟩
  refine List.forall_mem_append.mpr
    ⟨List.forall_mem_cons.mpr ⟨hSlash, fun c hc => ?_⟩, hSegment hLast⟩
  obtain ⟨s, hs, hMem⟩ := List.mem_flatMap.mp hc
  obtain hIn | hEnd := List.mem_append.mp hMem
  · exact hSegment (hSegments s hs) c hIn
  · obtain rfl := List.mem_singleton.mp hEnd
    exact hSlash

/-- **A path in normal form stays as it is.** -/
theorem normalPath_eq : normalPath path = path := by
  have hCharacters := h.mem_path
  obtain ⟨segments, last, hSegments, hLast, hPath⟩ := h
  have hText : (encodeWhere inPath path).map
        (fun c => if c = '\\' then '/' else c) = path := by
    rw [encodeWhere_eq_self fun c hc => (hCharacters c hc).1]
    exact (List.map_congr_left fun c hc => if_neg (hCharacters c hc).2).trans
      (List.map_id' path)
  have hSplit : Chars.splitOn ['/'] (segments.flatMap (· ++ ['/']) ++ last) =
        segments ++ [last] := by
    have hPlain : ∀ s ∈ segments ++ [last], '/' ∉ s := by
      refine List.forall_mem_append.mpr ⟨fun s hs hMem => ?_,
        List.forall_mem_singleton.mpr fun hMem => ?_⟩
      · exact ((hSegments s hs).characters '/' hMem).2.2 rfl
      · exact (hLast.characters '/' hMem).2.2 rfl
    rw [flatMap_append_eq]
    exact Chars.splitOn_intercalate hPlain
      (List.append_ne_nil_of_right_ne_nil _ (List.cons_ne_nil _ _))
  unfold normalPath
  rw [hText, hPath]
  show '/' ::
        (resolve [] (Chars.splitOn ['/']
          (segments.flatMap (· ++ ['/']) ++ last))).1.reverse.flatMap
        (· ++ ['/']) ++
    (resolve [] (Chars.splitOn ['/']
        (segments.flatMap (· ++ ['/']) ++ last))).2 = _
  rw [hSplit, resolve_eq_self hSegments hLast, List.append_nil,
    List.reverse_reverse]

end IsPath

/-! ## What is read -/

/-- What is so of every address that is read. -/
structure WellFormed (a : Address) : Prop where
  username : ∀ c ∈ a.username, inUserinfo c = false
  password : ∀ p ∈ a.password, p ≠ [] ∧ ∀ c ∈ p, inUserinfo c = false
  host : a.host.WellFormed
  port : ∀ n ∈ a.port, n ≤ 65535 ∧ n ≠ if a.secure then 443 else 80
  path : IsPath a.path
  query : ∀ q ∈ a.query, ∀ c ∈ q, inQuery c = false
  fragment : ∀ f ∈ a.fragment, ∀ c ∈ f, inFragment c = false

theorem encodeWhere_ne_nil (hSome : cs ≠ []) : encodeWhere p cs ≠ [] := by
  obtain ⟨c, rest, rfl⟩ := List.exists_cons_of_ne_nil hSome
  rw [encodeWhere, List.flatMap_cons]
  refine List.append_ne_nil_of_left_ne_nil ?_ _
  split
  · obtain ⟨b, bs, hBytes⟩ :=
      List.exists_cons_of_ne_nil (String.utf8EncodeChar_ne_nil (c := c))
    rw [hBytes, List.flatMap_cons]
    exact List.cons_ne_nil _ _
  · exact List.cons_ne_nil _ _

theorem mem_userinfo (cs : List Char) :
    (∀ c ∈ (userinfo cs).1, inUserinfo c = false) ∧
    ∀ p ∈ (userinfo cs).2, p ≠ [] ∧ ∀ c ∈ p, inUserinfo c = false := by
  unfold userinfo
  dsimp only
  refine ⟨fun c hc => not_of_mem_encodeWhere keepsEscapes.1 hc, fun p hp => ?_⟩
  split at hp
  · obtain rfl := Option.some.inj hp
    exact ⟨encodeWhere_ne_nil (List.cons_ne_nil _ _),
      fun c hc => not_of_mem_encodeWhere keepsEscapes.1 hc⟩
  · cases hp

theorem port_of_port? {secure : Bool} {port : Option Nat}
    (h : port? secure cs = some port) :
    ∀ n ∈ port, n ≤ 65535 ∧ n ≠ if secure then 443 else 80 := by
  unfold port? at h
  generalize (if secure then 443 else 80) = own at *
  split at h
  · obtain rfl := Option.some.inj h
    exact nofun
  · split at h
    · obtain rfl := Option.some.inj h
      exact nofun
    · obtain ⟨m, -, hm⟩ := Option.bind_eq_some_iff.mp h
      split at hm
      · cases hm
      · next hSmall =>
        split at hm
        · obtain rfl := Option.some.inj hm
          exact nofun
        · next hOwn =>
          obtain rfl := Option.some.inj hm
          rintro n ⟨⟩
          exact ⟨Nat.le_of_not_lt hSmall, hOwn⟩

/-- The user name and the password in front of a host, and the host with its
port. -/
def splitLogin (authority : List Char) :
    (List Char × Option (List Char)) × List Char :=
  match breakAtLastAt authority with
  | some (before, after) => (userinfo before, after)
  | none => (([], none), authority)

/-- **An address is read part by part.** -/
theorem read?_of_parts
    {text rest authority path tail pathAndTail username hostAndPort hostText
      portText : List Char}
    {secure : Bool} {password : Option (List Char)}
    (hScheme : scheme? (noticed text) = some (secure, rest))
    (hAuthority : spanUntil ['/', '\\', '?', '#'] rest =
      (authority, pathAndTail))
    (hPath : spanUntil ['?', '#'] pathAndTail = (path, tail))
    (hLogin : splitLogin authority = ((username, password), hostAndPort))
    (hHost : spanHost false hostAndPort = (hostText, portText)) :
    read? text = (if hostText.isEmpty then none else Host.read? hostText).bind
      fun host =>
        (port? secure portText).map fun port =>
          ⟨secure, username, password, host, port, normalPath path,
            queryOf tail, fragmentOf tail⟩ := by
  unfold splitLogin at hLogin
  unfold read?
  rw [hScheme]
  cases hBreak : breakAtLastAt authority with
  | none =>
      rw [hBreak] at hLogin
      cases hLogin
      simp only [Option.bind_eq_bind, Option.bind_some, hAuthority, hPath,
        hBreak, hHost]
      split <;>
        simp only [Option.bind_none, Option.map_eq_bind, Function.comp_def]
  | some p =>
      obtain ⟨before, after⟩ := p
      rw [hBreak] at hLogin
      obtain ⟨hUser, hAfter⟩ := Prod.mk.inj hLogin
      simp only [Option.bind_eq_bind, Option.bind_some, hAuthority, hPath,
        hBreak, hUser, hAfter, hHost]
      split <;>
        simp only [Option.bind_none, Option.map_eq_bind, Function.comp_def]

theorem mem_splitLogin (authority : List Char) :
    (∀ c ∈ (splitLogin authority).1.1, inUserinfo c = false) ∧
    ∀ p ∈ (splitLogin authority).1.2, p ≠ [] ∧ ∀ c ∈ p,
    inUserinfo c = false := by
  unfold splitLogin
  split
  · next before after _ => exact mem_userinfo before
  · exact ⟨nofun, nofun⟩

/-- The query and the fragment are written encoded. -/
theorem exists_encoded (tail : List Char) :
    (∃ part, queryOf tail = Option.map (encodeWhere inQuery) part) ∧
      ∃ part, fragmentOf tail = Option.map (encodeWhere inFragment) part := by
  unfold queryOf fragmentOf
  constructor
  · split
    · exact ⟨some _, rfl⟩
    · exact ⟨none, rfl⟩
  · split
    · exact ⟨some _, rfl⟩
    · exact ⟨none, rfl⟩

/-- A part that is written encoded has no character left that is encoded
there. -/
theorem not_of_mem_encoded (hp : KeepsEscapes p) {written : Option (List Char)}
    (h : ∃ part, written = Option.map (encodeWhere p) part) :
    ∀ text ∈ written, ∀ c ∈ text, p c = false := by
  obtain ⟨part, rfl⟩ := h
  intro text hText c hc
  obtain ⟨cs, -, rfl⟩ := Option.map_eq_some_iff.mp hText
  exact not_of_mem_encodeWhere hp hc

/-- **Every address that is read is well-formed.** -/
theorem wellFormed_of_read? {text : List Char} {a : Address}
    (h : read? text = some a) : a.WellFormed := by
  cases hScheme : scheme? (noticed text) with
  | none =>
      unfold read? at h
      rw [hScheme] at h
      cases h
  | some p =>
      obtain ⟨secure, rest⟩ := p
      obtain ⟨authority, pathAndTail, hAuthority⟩ : ∃ xs ys,
          spanUntil ['/', '\\', '?', '#'] rest = (xs, ys) := ⟨_, _, rfl⟩
      obtain ⟨path, tail, hPath⟩ : ∃ xs ys,
          spanUntil ['?', '#'] pathAndTail = (xs, ys) := ⟨_, _, rfl⟩
      obtain ⟨username, password, hostAndPort, hLogin⟩ : ∃ u p xs,
          splitLogin authority = ((u, p), xs) := ⟨_, _, _, rfl⟩
      obtain ⟨hostText, portText, hHostText⟩ : ∃ xs ys,
          spanHost false hostAndPort = (xs, ys) := ⟨_, _, rfl⟩
      rw [read?_of_parts hScheme hAuthority hPath hLogin hHostText] at h
      obtain ⟨host, hHost, hRest⟩ := Option.bind_eq_some_iff.mp h
      obtain ⟨port, hPort, rfl⟩ := Option.map_eq_some_iff.mp hRest
      have hCharacters := mem_splitLogin authority
      rw [hLogin] at hCharacters
      split at hHost
      · cases hHost
      · exact {
          username := hCharacters.1
          password := hCharacters.2
          host := Host.wellFormed_of_read? hHost
          port := port_of_port? hPort
          path := isPath_normalPath path
          query := not_of_mem_encoded keepsEscapes.2.2.1 (exists_encoded tail).1
          fragment :=
            not_of_mem_encoded keepsEscapes.2.2.2 (exists_encoded tail).2 }

/-! ## The parts of the normal form -/

/-- A part that may be missing, behind its mark. -/
def marked (mark : Char) (part : Option (List Char)) : List Char :=
  match part with
  | some text => mark :: text
  | none => []

theorem head?_marked (mark : Char) (part : Option (List Char)) :
    ∀ c ∈ (marked mark part).head?, c = mark := by
  cases part with
  | none => exact nofun
  | some text =>
      rintro c ⟨⟩
      rfl

theorem mem_marked {P : Char → Prop} {mark : Char} {part : Option (List Char)}
    (hMark : P mark) (h : ∀ text ∈ part, ∀ c ∈ text, P c) :
    ∀ c ∈ marked mark part, P c := by
  cases part with
  | none => exact nofun
  | some text => exact List.forall_mem_cons.mpr ⟨hMark, h text rfl⟩

/-- The user name and the password as they stand in front of the host. -/
def login (a : Address) : List Char :=
  a.username ++ marked ':' a.password ++
    if a.username.isEmpty && a.password.isNone then [] else ['@']

/-- The port as it stands behind the host. -/
def portText (a : Address) : List Char := marked ':' (a.port.map Decimal.ofNat)

/-- The query and the fragment as they stand at the end. -/
def tail (a : Address) : List Char :=
  marked '?' a.query ++ marked '#' a.fragment

/-- The part of an address that names the host. -/
def authority (a : Address) : List Char :=
  a.login ++ (a.host.render ++ a.portText)

/-- The scheme in front of an address. -/
def schemeText (a : Address) : List Char :=
  if a.secure then "https://".toList
  else "http://".toList

theorem render_eq (a : Address) :
    a.render = a.schemeText ++ (a.authority ++ (a.path ++ a.tail)) := by
  unfold render schemeText authority login portText tail
  cases a.port with
  | none =>
      simp only [List.append_assoc]
      rfl
  | some n =>
      simp only [List.append_assoc]
      rfl

/-- The character shows and does not end the part of an address that names the
host. -/
def InAuthority (c : Char) : Prop := Printable c ∧ c ∉ ['/', '\\', '?', '#']

/-- What holds of all of some characters and not of another tells it from
them. -/
theorem not_mem_of_false {stops : List Char} (hAll : stops.all p = true)
    (h : p c = false) : c ∉ stops :=
  fun hMem =>
    Bool.false_ne_true (h.symm.trans (List.all_eq_true.mp hAll c hMem))

theorem inAuthority_of_not_inUserinfo (h : inUserinfo c = false) :
    InAuthority c :=
  ⟨printable_of_not_inPath (inPath_of_not_inUserinfo h),
    not_mem_of_false (by decide) h⟩

theorem inAuthority_of_isPlain (h : Host.IsPlain c) : InAuthority c :=
  ⟨printable_of_isPlain h, not_mem_of_false (by decide) h.2⟩

theorem breakAtLastAt_append {before after : List Char} (h : '@' ∉ after) :
    breakAtLastAt (before ++ '@' :: after) = some (before, after) := by
  have hAfter : '@' ∉ after.reverse := mt List.mem_reverse.mp h
  have hStop : ∀ c ∈ ('@' :: before.reverse).head?, c = '@' := by
    rintro c ⟨⟩
    rfl
  have hCut := cut_at hAfter hStop
  have hReverse : (before ++ '@' :: after).reverse =
        after.reverse ++ '@' :: before.reverse := by simp
  unfold breakAtLastAt
  dsimp only
  rw [hReverse, hCut.1, hCut.2, List.reverse_reverse]
  exact congrArg (fun text => some (text, after)) (List.reverse_reverse before)

theorem breakAtLastAt_eq_none (h : '@' ∉ cs) : breakAtLastAt cs = none := by
  have hNone : '@' ∉ cs.reverse := mt List.mem_reverse.mp h
  have hCut := cut_at hNone (nofun : ∀ c ∈ ([] : List Char).head?, c = '@')
  rw [List.append_nil] at hCut
  unfold breakAtLastAt
  dsimp only
  rw [hCut.2]

/-- The part of a host outside brackets goes up to the colon. -/
theorem spanHost_plain {xs ys : List Char}
    (hxs : ∀ c ∈ xs, c ≠ ':' ∧ c ≠ '[' ∧ c ≠ ']')
    (hys : ∀ c ∈ ys.head?, c = ':') : spanHost false (xs ++ ys) = (xs, ys) := by
  induction xs with
  | nil =>
      cases ys with
      | nil => rfl
      | cons c ys =>
          obtain rfl := hys c rfl
          rfl
  | cons c xs ih =>
      obtain ⟨⟨hColon, hOpen, hClose⟩, hRest⟩ := List.forall_mem_cons.mp hxs
      have hGoes : ¬ (decide (c = ':') && !false) = true := by
        rw [decide_eq_false hColon]
        exact Bool.false_ne_true
      rw [List.cons_append, spanHost, if_neg hGoes, if_neg hOpen,
        if_neg hClose, ih hRest]

/-- The part of a host in brackets goes up to the bracket that closes. -/
theorem spanHost_bracketed {inner ys : List Char}
    (hInner : ∀ c ∈ inner, c ≠ '[' ∧ c ≠ ']') (hys : ∀ c ∈ ys.head?, c = ':') :
    spanHost true (inner ++ ']' :: ys) = (inner ++ [']'], ys) := by
  induction inner with
  | nil =>
      have hRest : spanHost false ([] ++ ys) = ([], ys) :=
        spanHost_plain nofun hys
      rw [List.nil_append] at hRest
      show spanHost true (']' :: ys) = _
      rw [spanHost]
      simp [hRest]
  | cons c inner ih =>
      obtain ⟨⟨hOpen, hClose⟩, hRest⟩ := List.forall_mem_cons.mp hInner
      have hGoes : ¬ (decide (c = ':') && !true) = true := by
        rw [Bool.not_true, Bool.and_false]
        exact Bool.false_ne_true
      rw [List.cons_append, spanHost, if_neg hGoes, if_neg hOpen,
        if_neg hClose, ih hRest]
      rfl

namespace WellFormed

variable {a : Address} (h : a.WellFormed)

include h

theorem mem_login : ∀ c ∈ a.login, InAuthority c := by
  have hMark : InAuthority ':' ∧ InAuthority '@' := by
    unfold InAuthority Printable
    decide
  have hName : ∀ c ∈ a.username, InAuthority c := fun c hc =>
    inAuthority_of_not_inUserinfo (h.username c hc)
  have hPassword : ∀ c ∈ marked ':' a.password, InAuthority c :=
    mem_marked hMark.1 fun p hp c hc =>
      inAuthority_of_not_inUserinfo ((h.password p hp).2 c hc)
  refine List.forall_mem_append.mpr
    ⟨List.forall_mem_append.mpr ⟨hName, hPassword⟩, ?_⟩
  split
  · exact nofun
  · exact List.forall_mem_singleton.mpr hMark.2

theorem mem_host : ∀ c ∈ a.host.render, InAuthority c ∧ c ≠ '@' := by
  have hPlain : ∀ {c : Char}, Host.IsPlain c → InAuthority c ∧ c ≠ '@' := by
    refine fun hc => ⟨inAuthority_of_isPlain hc, ?_⟩
    rintro rfl
    exact absurd hc.2 (by decide)
  obtain hAll | ⟨inner, hRender, hInner⟩ := h.host.render_shape
  · exact fun c hc => hPlain (hAll c hc)
  · have hMark : (InAuthority '[' ∧ '[' ≠ '@') ∧ (InAuthority ']' ∧ ']' ≠ '@') ∧
        InAuthority ':' ∧ ':' ≠ '@' := by
      unfold InAuthority Printable
      decide
    obtain ⟨hOpen, hClose, hColon⟩ := hMark
    rw [hRender]
    refine List.forall_mem_cons.mpr
      ⟨hOpen, List.forall_mem_append.mpr ⟨fun c hc => ?_, ?_⟩⟩
    · obtain rfl | hc := hInner c hc
      · exact hColon
      · exact hPlain hc
    · exact List.forall_mem_singleton.mpr hClose

omit h in
theorem mem_portText : ∀ c ∈ a.portText, InAuthority c ∧ c ≠ '@' := by
  refine mem_marked (by unfold InAuthority Printable; decide)
    fun text hText c hc => ?_
  obtain ⟨n, -, rfl⟩ := Option.map_eq_some_iff.mp hText
  have hc := Host.isPlain_of_mem_ofNat hc
  refine ⟨inAuthority_of_isPlain hc, ?_⟩
  rintro rfl
  exact absurd hc.2 (by decide)

theorem mem_authority : ∀ c ∈ a.authority, InAuthority c :=
  List.forall_mem_append.mpr ⟨h.mem_login, List.forall_mem_append.mpr
    ⟨fun c hc => (h.mem_host c hc).1, fun c hc => (mem_portText c hc).1⟩⟩

theorem mem_tail : ∀ c ∈ a.tail, Printable c := by
  have hMark : Printable '?' ∧ Printable '#' := by unfold Printable; decide
  refine List.forall_mem_append.mpr ⟨?_, ?_⟩
  · exact mem_marked hMark.1 fun q hq c hc =>
      printable_of_not (by decide) (h.query q hq c hc)
  · exact mem_marked hMark.2 fun f hf c hc =>
      printable_of_not (by decide) (h.fragment f hf c hc)

omit h in
theorem head?_tail : ∀ c ∈ a.tail.head?, c ∈ ['?', '#'] := by
  unfold tail
  cases a.query with
  | some q =>
      rintro c ⟨⟩
      decide
  | none =>
      intro c hc
      obtain rfl := head?_marked '#' a.fragment c hc
      decide

omit h in
theorem mem_schemeText : ∀ c ∈ a.schemeText, Printable c := by
  unfold schemeText Printable
  split
  · exact Chars.forall_mem_of_all (by decide)
  · exact Chars.forall_mem_of_all (by decide)

/-- **The normal form of an address is printable.** -/
theorem printable : ∀ c ∈ a.render, Printable c := by
  rw [render_eq]
  refine List.forall_mem_append.mpr ⟨mem_schemeText, List.forall_mem_append.mpr
    ⟨fun c hc => (h.mem_authority c hc).1,
      List.forall_mem_append.mpr ⟨fun c hc => ?_, h.mem_tail⟩⟩⟩
  exact printable_of_not_inPath (h.path.mem_path c hc).1

theorem authority_ne_nil : a.authority ≠ [] :=
  List.append_ne_nil_of_right_ne_nil _
    (List.append_ne_nil_of_left_ne_nil h.host.render_ne_nil _)

theorem scheme?_eq :
    scheme? a.render = some (a.secure, a.authority ++ (a.path ++ a.tail)) := by
  have hSlashes : ('/' :: '/' :: (a.authority ++ (a.path ++ a.tail))).dropWhile
        isSlash =
      a.authority ++ (a.path ++ a.tail) := by
    obtain ⟨c, rest, hText⟩ := List.exists_cons_of_ne_nil h.authority_ne_nil
    have hc := (h.mem_authority c (hText ▸ List.mem_cons_self)).2
    have hSlash : isSlash c = false := by
      unfold isSlash
      rw [Bool.or_eq_false_iff, decide_eq_false_iff_not,
        decide_eq_false_iff_not]
      constructor
      all_goals
        rintro rfl
        exact hc (by decide)
    rw [hText, List.cons_append, List.dropWhile_cons_of_pos (by decide),
      List.dropWhile_cons_of_pos (by decide),
      List.dropWhile_cons_of_neg (Bool.eq_false_iff.mp hSlash)]
  rw [render_eq]
  generalize a.authority ++ (a.path ++ a.tail) = rest at *
  unfold schemeText
  cases a.secure with
  | true =>
      show some (true, ('/' :: '/' :: rest).dropWhile isSlash) = _
      rw [hSlashes]
  | false =>
      show some (false, ('/' :: '/' :: rest).dropWhile isSlash) = _
      rw [hSlashes]

theorem userinfo_eq :
    userinfo (a.username ++ marked ':' a.password) =
      (a.username, a.password) := by
  have hPlain : ':' ∉ a.username := fun hColon =>
    absurd (h.username ':' hColon) (by decide)
  obtain ⟨hName, hRest⟩ := cut_at hPlain (head?_marked ':' a.password)
  have hPassword := h.password
  unfold userinfo
  dsimp only
  rw [hName, hRest, encodeWhere_eq_self h.username]
  refine congrArg (a.username, ·) ?_
  cases hSecret : a.password with
  | none => rfl
  | some p =>
      obtain ⟨hSome, hCharacters⟩ := hPassword p hSecret
      obtain ⟨c, p, rfl⟩ := List.exists_cons_of_ne_nil hSome
      exact congrArg some (encodeWhere_eq_self hCharacters)

theorem splitLogin_eq :
    splitLogin a.authority = ((a.username, a.password),
      a.host.render ++ a.portText) := by
  have hAfter : '@' ∉ a.host.render ++ a.portText := by
    intro hAt
    obtain hHost | hPort := List.mem_append.mp hAt
    · exact (h.mem_host '@' hHost).2 rfl
    · exact (mem_portText '@' hPort).2 rfl
  unfold splitLogin authority login
  cases hNone : a.username.isEmpty && a.password.isNone with
  | true =>
      obtain ⟨hName, hPassword⟩ := Bool.and_eq_true_iff.mp hNone
      have hName := List.isEmpty_iff.mp hName
      have hPassword := Option.isNone_iff_eq_none.mp hPassword
      rw [if_pos rfl, List.append_nil, hName, hPassword]
      show (match breakAtLastAt (a.host.render ++ a.portText) with
        | some (before, after) => (userinfo before, after)
        | none => (([], none), a.host.render ++ a.portText)) = _
      rw [breakAtLastAt_eq_none hAfter]
  | false =>
      rw [if_neg Bool.false_ne_true, List.append_assoc, List.singleton_append,
        breakAtLastAt_append hAfter]
      exact congrArg (·, a.host.render ++ a.portText) h.userinfo_eq

theorem spanHost_eq :
    spanHost false (a.host.render ++ a.portText) =
      (a.host.render, a.portText) := by
  have hPlain : ∀ {c : Char}, Host.IsPlain c → c ≠ ':' ∧ c ≠ '[' ∧ c ≠ ']' := by
    intro c hc
    have hNot : c ∉ [':', '[', ']'] := not_mem_of_false (by decide) hc.2
    simpa using hNot
  obtain hAll | ⟨inner, hRender, hInner⟩ := h.host.render_shape
  · exact spanHost_plain (fun c hc => hPlain (hAll c hc)) (head?_marked ':' _)
  · have hBracket : ∀ c ∈ inner, c ≠ '[' ∧ c ≠ ']' := by
      intro c hc
      obtain rfl | hc := hInner c hc
      · decide
      · exact (hPlain hc).2
    have hClose : spanHost true (inner ++ ']' :: a.portText) =
          (inner ++ [']'], a.portText) :=
      spanHost_bracketed hBracket (head?_marked ':' _)
    rw [hRender, List.cons_append, List.append_assoc, List.singleton_append,
      spanHost, if_neg (by decide), if_pos rfl, hClose]

theorem port?_eq : port? a.secure a.portText = some a.port := by
  have hPort := h.port
  unfold portText
  cases hText : a.port with
  | none => rfl
  | some n =>
      obtain ⟨hSmall, hOwn⟩ := hPort n hText
      have hSome : ¬ (Decimal.ofNat n).isEmpty = true :=
        mt List.isEmpty_iff.mp (Host.ofNat_ne_nil n)
      show port? a.secure (':' :: Decimal.ofNat n) = _
      unfold port?
      dsimp only
      rw [if_neg hSome, Decimal.toNat?, if_neg hSome, Decimal.readFrom_ofNat,
        Option.bind_some, if_neg (Nat.not_lt_of_le hSmall), if_neg hOwn]

/-- The query ends where the fragment begins. -/
theorem cut_query :
    ∀ q ∈ a.query, (q ++ marked '#' a.fragment).takeWhile (· != '#') = q ∧
    (q ++ marked '#' a.fragment).dropWhile (· != '#') =
      marked '#' a.fragment := by
  intro q hq
  have hPlain : '#' ∉ q := fun hHash =>
    absurd (h.query q hq '#' hHash) (by decide)
  exact cut_at hPlain (head?_marked '#' a.fragment)

theorem queryOf_eq : queryOf a.tail = a.query := by
  have hQuery := h.query
  have hCut := h.cut_query
  unfold tail
  cases hText : a.query with
  | none =>
      cases a.fragment with
      | none => rfl
      | some f => rfl
  | some q =>
      show some (encodeWhere inQuery
            ((q ++ marked '#' a.fragment).takeWhile (· != '#'))) = some q
      rw [(hCut q hText).1, encodeWhere_eq_self (hQuery q hText)]

theorem fragmentOf_eq : fragmentOf a.tail = a.fragment := by
  have hFragment := h.fragment
  have hCut := h.cut_query
  have hDrop : a.tail.dropWhile (· != '#') = marked '#' a.fragment := by
    unfold tail
    cases hText : a.query with
    | none => exact (cut_at List.not_mem_nil (head?_marked '#' a.fragment)).2
    | some q =>
        show (q ++ marked '#' a.fragment).dropWhile (· != '#') = _
        exact (hCut q hText).2
  unfold fragmentOf
  rw [hDrop]
  cases hText : a.fragment with
  | none => rfl
  | some f => exact congrArg some (encodeWhere_eq_self (hFragment f hText))

/-- **The normal form of an address is read as the address.** -/
theorem read?_render : read? a.render = some a := by
  have hStop : ∀ c ∈ (a.path ++ a.tail).head?, c ∈ ['/', '\\', '?', '#'] := by
    obtain ⟨segments, last, -, -, hPath⟩ := h.path
    rw [hPath]
    rintro c ⟨⟩
    decide
  have hPath : ∀ c ∈ a.path, c ∉ ['?', '#'] := fun c hc =>
    not_mem_of_false (by decide) (h.path.mem_path c hc).1
  have hScheme : scheme? (noticed a.render) =
        some (a.secure, a.authority ++ (a.path ++ a.tail)) := by
    rw [noticed_eq_self fun c hc => (h.printable c hc).1]
    exact h.scheme?_eq
  rw [read?_of_parts hScheme (spanUntil_append
      (fun c hc => (h.mem_authority c hc).2) hStop)
    (spanUntil_append hPath head?_tail) h.splitLogin_eq h.spanHost_eq,
    if_neg (mt List.isEmpty_iff.mp h.host.render_ne_nil), h.host.read?_render,
    Option.bind_some, h.port?_eq, Option.map_some, h.path.normalPath_eq,
    h.queryOf_eq, h.fragmentOf_eq]

end WellFormed

end Errand.Address
