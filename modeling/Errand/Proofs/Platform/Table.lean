import Errand.Platform.Basic
import Errand.Proofs.Json.Acceptance
import Errand.Proofs.Json.Indented

/-!
# The table file

The file with the table of platforms may hold anything: it is written by the
program once and by people from then on. `Platform.EntryOf` says which trees
are entries of a table and what entry each of them is, without mention of how
it is read, and `Directory.HoldsTable` which texts hold a table. The reader
accepts these and no others. Whatever else the file holds, also bytes that are
no text, leaves the built-in table in use, and a file that is there is never
changed.

## Main results

* `Platform.takes_decoder`, `Platform.entryOf_of_yields`: entries are read from
  the trees that are entries.
* `Directory.ofText?_eq_some_iff`: a table is read from the texts that hold one.
* `Directory.ofText?_of_events`: a table that was written is read back.
* `Directory.loadFile_settled`: what comes of a table file, for each of its
  contents.
-/

namespace Errand

open Json Json.Decoder

namespace Platform

/-! ## Entries -/

/-- The fields of an entry, in the order of a row. -/
def fieldNames : List String :=
  ["name", "domain", "keywords", "search_url", "recipe", "result_selectors"]

/-- An array of texts. -/
def textsTree (ss : List String) : Tree := .arr (ss.map fun s => .str (some s))

/-- What the members of an object say of an entry. Each of the names stands
there at most once, the last two may be absent, and members with other names
may hold anything. -/
structure Described (members : List (Option String × Tree)) (p : Platform) :
    Prop where
  keys : ∀ m ∈ members, ∃ key, m.1 = some key
  name : Tree.heldBy "name" members = [.str (some p.name)]
  domain : Tree.heldBy "domain" members = [.str (some p.domain)]
  keywords : Tree.heldBy "keywords" members = [textsTree p.keywords]
  searchUrl : Tree.heldBy "search_url" members = [.str (some p.searchUrl)]
  recipe : Tree.heldBy "recipe" members = [] ∧ p.recipe = .page ∨
    ∃ t, Tree.heldBy "recipe" members = [t] ∧ Names Recipe.names t p.recipe
  resultSelectors : Tree.heldBy "result_selectors" members = [] ∧
    p.resultSelectors = [] ∨
    Tree.heldBy "result_selectors" members = [textsTree p.resultSelectors]

/-- The tree is this entry: an object with the fields of the entry, or an array
of them in their order. -/
def EntryOf (t : Tree) (p : Platform) : Prop :=
  ∃ members, t.members? fieldNames = some members ∧ Described members p

/-- The fields as they are read. -/
def slots : List (Slot Platform) :=
  [slot "name" .required text fun s p => { p with name := s },
    slot "domain" .required text fun s p => { p with domain := s },
    slot "keywords" .required (list text) fun ss p => { p with keywords := ss },
    slot "search_url" .required text fun s p => { p with searchUrl := s },
    slot "recipe" .defaulted (choice Recipe.names) fun r p =>
      { p with recipe := r },
    slot "result_selectors" .defaulted (list text) fun ss p =>
      { p with resultSelectors := ss }]

/-- An entry of which nothing has been read. -/
def blank : Platform := ⟨"", "", [], "", .page, []⟩

theorem decoder_eq_record : decoder = record "PlatformEntry" slots blank := rfl

theorem map_name_slots : slots.map Slot.name = fieldNames := rfl

theorem forall_mem_slots {P : Slot Platform → Prop} : (∀ s ∈ slots, P s) ↔
    P (slot "name" .required text fun s p => { p with name := s }) ∧
    P (slot "domain" .required text fun s p => { p with domain := s }) ∧
    P (slot "keywords" .required (list text) fun ss p =>
      { p with keywords := ss }) ∧
    P (slot "search_url" .required text fun s p => { p with searchUrl := s }) ∧
    P (slot "recipe" .defaulted (choice Recipe.names) fun r p =>
      { p with recipe := r }) ∧
    P (slot "result_selectors" .defaulted (list text) fun ss p =>
      { p with resultSelectors := ss }) := by
  simp only [slots, List.forall_mem_cons, List.not_mem_nil, false_implies,
    implies_true, and_true]

theorem readsOne_slots : ∀ s ∈ slots, ReadsOne s.read :=
  forall_mem_slots.mpr ⟨ReadsOne.text.slot _ _ _, ReadsOne.text.slot _ _ _,
    ReadsOne.text.list.slot _ _ _, ReadsOne.text.slot _ _ _,
    (ReadsOne.choice _).slot _ _ _, ReadsOne.text.list.slot _ _ _⟩

theorem careful_decoder : Careful decoder :=
  .record (forall_mem_slots.mpr ⟨Careful.text.slot _ _ _,
      Careful.text.slot _ _ _, Careful.text.list.slot _ _ _,
      Careful.text.slot _ _ _, (Careful.choice _).slot _ _ _,
      Careful.text.list.slot _ _ _⟩) _ _

variable {t : Tree} {at_ : Depth} {p q : Platform} {room : Nat} {inText : Bool}
  {members : List (Option String × Tree)} {ss : List String}

theorem texts_of_yields (h : (list text).Yields at_ t ss) :
    t = textsTree ss := by
  obtain ⟨room, items, rfl, hItems⟩ := h.of_list ReadsOne.text
  have hTexts : items = ss.map fun s => Tree.str (some s) := by
    clear h
    induction hItems with
    | nil => rfl
    | cons hFirst _ ih => rw [hFirst.of_text, List.map_cons, ← ih]
  rw [hTexts, textsTree]

theorem takes_texts (ss : List String) :
    (list text).Takes ⟨room + 1, inText⟩ (textsTree ss) ss := by
  refine Takes.list ?_
  induction ss with
  | nil => exact .nil
  | cons s ss ih => exact .cons (Takes.text s) ih

/-! ### Reading entries -/

/-- A part of an entry is changed only by the slot for it. -/
theorem slots_keep {γ : Type} {key : String} {g : Platform → γ}
    (hName : key ≠ "name" → ∀ s p, g { p with name := s } = g p)
    (hDomain : key ≠ "domain" → ∀ s p, g { p with domain := s } = g p)
    (hKeywords : key ≠ "keywords" → ∀ ss p, g { p with keywords := ss } = g p)
    (hUrl : key ≠ "search_url" → ∀ s p, g { p with searchUrl := s } = g p)
    (hRecipe : key ≠ "recipe" → ∀ r p, g { p with recipe := r } = g p)
    (hSelectors : key ≠ "result_selectors" →
      ∀ ss p, g { p with resultSelectors := ss } = g p) :
    ∀ s ∈ slots, s.name ≠ key → ∀ at_ t f, s.read.Yields at_ t f →
    ∀ p, g (f p) = g p :=
  forall_mem_slots.mpr
    ⟨fun hNe _ _ _ hYields => hYields.keeps ReadsOne.text (hName hNe.symm),
      fun hNe _ _ _ hYields => hYields.keeps ReadsOne.text (hDomain hNe.symm),
      fun hNe _ _ _ hYields =>
        hYields.keeps ReadsOne.text.list (hKeywords hNe.symm),
      fun hNe _ _ _ hYields => hYields.keeps ReadsOne.text (hUrl hNe.symm),
      fun hNe _ _ _ hYields =>
        hYields.keeps (ReadsOne.choice _) (hRecipe hNe.symm),
      fun hNe _ _ _ hYields =>
        hYields.keeps ReadsOne.text.list (hSelectors hNe.symm)⟩

/-- **What is read from a tree is the entry that the tree is.** -/
theorem entryOf_of_yields (h : decoder.Yields at_ t p) : EntryOf t p := by
  obtain ⟨tail, hRead⟩ := h
  rw [decoder_eq_record] at hRead
  obtain ⟨-, room, members, hMembers, hFields⟩ :=
    membersRead_of_record readsOne_slots (by decide) hRead
  refine ⟨members, hMembers, hFields.keys, ?_, ?_, ?_, ?_, ?_, ?_⟩
  · obtain ⟨hPresence, -⟩ | ⟨t, hHeld, hYields⟩ :=
      hFields.slot_cases (g := Platform.name) ReadsOne.text
      (fun _ _ => rfl) rfl (slots_keep (absurd rfl) (fun _ _ _ => rfl)
        (fun _ _ _ => rfl) (fun _ _ _ => rfl)
        (fun _ _ _ => rfl) fun _ _ _ => rfl)
    · exact absurd rfl hPresence
    · rw [hHeld, hYields.of_text]
  · obtain ⟨hPresence, -⟩ | ⟨t, hHeld, hYields⟩ :=
      hFields.slot_cases (g := Platform.domain) ReadsOne.text
      (fun _ _ => rfl) rfl (slots_keep (fun _ _ _ => rfl) (absurd rfl)
        (fun _ _ _ => rfl) (fun _ _ _ => rfl)
        (fun _ _ _ => rfl) fun _ _ _ => rfl)
    · exact absurd rfl hPresence
    · rw [hHeld, hYields.of_text]
  · obtain ⟨hPresence, -⟩ | ⟨t, hHeld, hYields⟩ :=
      hFields.slot_cases (g := Platform.keywords) ReadsOne.text.list
      (fun _ _ => rfl) rfl (slots_keep (fun _ _ _ => rfl) (fun _ _ _ => rfl)
        (absurd rfl) (fun _ _ _ => rfl)
        (fun _ _ _ => rfl) fun _ _ _ => rfl)
    · exact absurd rfl hPresence
    · rw [hHeld, texts_of_yields hYields]
  · obtain ⟨hPresence, -⟩ | ⟨t, hHeld, hYields⟩ :=
      hFields.slot_cases (g := Platform.searchUrl) ReadsOne.text
      (fun _ _ => rfl) rfl (slots_keep (fun _ _ _ => rfl) (fun _ _ _ => rfl)
        (fun _ _ _ => rfl) (absurd rfl)
        (fun _ _ _ => rfl) fun _ _ _ => rfl)
    · exact absurd rfl hPresence
    · rw [hHeld, hYields.of_text]
  · obtain ⟨-, hNone, hSame⟩ | ⟨t, hHeld, hYields⟩ :=
      hFields.slot_cases (g := Platform.recipe) (ReadsOne.choice _)
      (fun _ _ => rfl) rfl (slots_keep (fun _ _ _ => rfl) (fun _ _ _ => rfl)
        (fun _ _ _ => rfl) (fun _ _ _ => rfl)
        (absurd rfl) fun _ _ _ => rfl)
    · exact .inl ⟨hNone, hSame⟩
    · exact .inr ⟨t, hHeld, hYields.of_choice⟩
  · obtain ⟨-, hNone, hSame⟩ | ⟨t, hHeld, hYields⟩ :=
      hFields.slot_cases (g := Platform.resultSelectors)
      ReadsOne.text.list (fun _ _ => rfl) rfl
        (slots_keep (fun _ _ _ => rfl) (fun _ _ _ => rfl) (fun _ _ _ => rfl)
        (fun _ _ _ => rfl) (fun _ _ _ => rfl) (absurd rfl))
    · exact .inl ⟨hNone, hSame⟩
    · exact .inr (by rw [hHeld, texts_of_yields hYields])

theorem textsTree_injective {ss' : List String}
    (h : textsTree ss = textsTree ss') : ss = ss' := by
  refine List.map_injective_iff.mpr ?_ (Tree.arr.inj h)
  intro s s' hSame
  cases hSame
  rfl

theorem recipe_unique {r r' : Recipe} (h : Names Recipe.names t r)
    (h' : Names Recipe.names t r') : r = r' := by
  obtain ⟨name, hName, hTree⟩ := h
  obtain ⟨name', hName', hTree'⟩ := h'
  have hSame : name = name' := by
    obtain rfl | rfl := hTree
    · obtain hEq | hEq := hTree'
      · cases hEq
        rfl
      · cases hEq
    · obtain hEq | hEq := hTree'
      · cases hEq
      · cases hEq
        rfl
  subst hSame
  exact Option.some.inj (hName.symm.trans hName')

/-- What the members say is said of no other entry. -/
theorem Described.unique (hp : Described members p) (hq : Described members q) :
    p = q := by
  have hText : ∀ {key : String} {s s' : String},
      Tree.heldBy key members = [.str (some s)] →
      Tree.heldBy key members = [.str (some s')] → s = s' := by
    intro key s s' h h'
    rw [h] at h'
    cases h'
    rfl
  have hTexts : ∀ {key : String} {ss ss' : List String},
      Tree.heldBy key members = [textsTree ss] →
      Tree.heldBy key members = [textsTree ss'] → ss = ss' := by
    intro key ss ss' h h'
    rw [h] at h'
    exact textsTree_injective (List.singleton_inj.mp h')
  have hRecipe : p.recipe = q.recipe := by
    obtain ⟨hNone, hPage⟩ | ⟨t, hHeld, hName⟩ := hp.recipe
    · obtain ⟨-, hPage'⟩ | ⟨t, hHeld, -⟩ := hq.recipe
      · rw [hPage, hPage']
      · cases hNone.symm.trans hHeld
    · obtain ⟨hNone, -⟩ | ⟨t', hHeld', hName'⟩ := hq.recipe
      · cases hNone.symm.trans hHeld
      · obtain rfl := List.singleton_inj.mp (hHeld.symm.trans hHeld')
        exact recipe_unique hName hName'
  have hSelectors : p.resultSelectors = q.resultSelectors := by
    obtain ⟨hNone, hNil⟩ | hHeld := hp.resultSelectors
    · obtain ⟨-, hNil'⟩ | hHeld := hq.resultSelectors
      · rw [hNil, hNil']
      · cases hNone.symm.trans hHeld
    · obtain ⟨hNone, -⟩ | hHeld' := hq.resultSelectors
      · cases hNone.symm.trans hHeld
      · exact hTexts hHeld hHeld'
  obtain ⟨name, domain, keywords, searchUrl, recipe, resultSelectors⟩ := p
  rw [show name = q.name from hText hp.name hq.name,
    show domain = q.domain from hText hp.domain hq.domain,
    show keywords = q.keywords from hTexts hp.keywords hq.keywords,
    show searchUrl = q.searchUrl from hText hp.searchUrl hq.searchUrl,
    show recipe = q.recipe from hRecipe,
    show resultSelectors = q.resultSelectors from hSelectors]

/-- Members that say something of an entry can be read. -/
theorem Described.readable (h : Described members p) :
    Readable slots ⟨room + 1, true⟩ [] members := by
  refine .of_ready h.keys (forall_mem_slots.mpr ⟨?_, ?_, ?_, ?_, ?_, ?_⟩)
  · exact .of_held h.name ((Takes.text p.name).slot _ _ _)
  · exact .of_held h.domain ((Takes.text p.domain).slot _ _ _)
  · exact .of_held h.keywords ((takes_texts p.keywords).slot _ _ _)
  · exact .of_held h.searchUrl ((Takes.text p.searchUrl).slot _ _ _)
  · obtain ⟨hNone, -⟩ | ⟨t, hHeld, hName⟩ := h.recipe
    · exact .of_absent nofun hNone
    · exact .of_held hHeld ((Takes.choice hName).slot _ _ _)
  · obtain ⟨hNone, -⟩ | hHeld := h.resultSelectors
    · exact .of_absent nofun hNone
    · exact .of_held hHeld ((takes_texts p.resultSelectors).slot _ _ _)

/-- **An entry is read from every tree that is this entry.** -/
theorem takes_decoder (h : EntryOf t p) :
    decoder.Takes ⟨room + 2, true⟩ t p := by
  obtain ⟨members, hMembers, hDescribed⟩ := h
  rw [← map_name_slots] at hMembers
  obtain ⟨q, hTakes⟩ :=
    hDescribed.readable.record (by decide) (by decide) hMembers
      "PlatformEntry" blank
  rw [← decoder_eq_record] at hTakes
  obtain ⟨members', hMembers', hDescribed'⟩ := entryOf_of_yields hTakes.yields
  obtain rfl := Option.some.inj (hMembers.symm.trans hMembers')
  rwa [hDescribed.unique hDescribed']

/-! ### Writing entries -/

theorem reads_texts (ss : List String) :
    (list text).Reads ⟨room + 1, inText⟩ (Json.ofTexts ss) ss := by
  have hTexts : (list text).Reads ⟨room + 1, inText⟩ (.arr (ss.map .str))
        (ss.map id) :=
    Reads.listOf fun s _ => Reads.text s
  rwa [List.map_id] at hTexts

/-- **An entry that was written is read back.** -/
theorem reads_toJson (p : Platform) :
    decoder.Reads ⟨room + 2, inText⟩ p.toJson p := by
  have hRecipe : Recipe.names.lookup p.recipe.name = some p.recipe := by
    cases p.recipe <;> rfl
  rw [decoder_eq_record]
  refine Reads.record _ ?_
  refine .cons rfl (by decide) ((Reads.text p.name).slot _ _ _) ?_
  refine .cons rfl (by decide) ((Reads.text p.domain).slot _ _ _) ?_
  refine .cons rfl (by decide) ((reads_texts p.keywords).slot _ _ _) ?_
  refine .cons rfl (by decide) ((Reads.text p.searchUrl).slot _ _ _) ?_
  refine .cons rfl (by decide) ((Reads.choice hRecipe).slot _ _ _) ?_
  refine .cons rfl (by decide) ((reads_texts p.resultSelectors).slot _ _ _) ?_
  exact .nil (by decide)

theorem exact_toJson (p : Platform) : p.toJson.all isExact = true := by
  have hTexts : ∀ ss : List String, (Json.ofTexts ss).all isExact = true := by
    intro ss
    refine all_arr.mpr ⟨rfl, allItems_iff.mpr fun item hItem => ?_⟩
    obtain ⟨s, -, rfl⟩ := List.mem_map.mp hItem
    rfl
  refine all_obj.mpr ⟨rfl, ?_⟩
  simp only [allFields_cons, hTexts, true_and]
  exact ⟨rfl, rfl, rfl, rfl, rfl⟩

end Platform

namespace Directory

open Platform

/-! ## Tables -/

variable {s : String} {d : Directory} {builtin : Directory}

/-- The text is an array of entries, and these are the entries of the table. -/
def HoldsTable (s : String) (d : Directory) : Prop :=
  ∃ items, (Tree.arr items).SpelledBy s ∧ List.Forall₂ EntryOf items d

/-- **A table is read from the texts that hold one**, and from no others. -/
theorem ofText?_eq_some_iff : ofText? s = some d ↔ HoldsTable s d := by
  constructor
  · intro h
    have hText : ofText (list Platform.decoder) s = .ok d := by
      unfold ofText? at h
      cases hRead : ofText (list Platform.decoder) s with
      | error e =>
          rw [hRead] at h
          cases h
      | ok d' =>
          rw [hRead] at h
          cases h
          rfl
    obtain ⟨t, hSpelled, hRead⟩ := exists_of_ofText careful_decoder.list hText
    have hOne : ReadsOne Platform.decoder :=
      ReadsOne.record readsOne_slots (by decide) "PlatformEntry" blank
    obtain ⟨-, room, items, rfl, hItems⟩ := forall₂_of_list hOne hRead
    exact ⟨items, hSpelled, hItems.imp fun _ _ => entryOf_of_yields⟩
  · rintro ⟨items, hSpelled, hItems⟩
    have hTakes : (list Platform.decoder).Takes ⟨maxDepth, true⟩
          (.arr items) d :=
      Takes.list (hItems.imp fun _ _ => takes_decoder)
    unfold ofText? ofText
    rw [show events s.toList = (Tree.arr items).eventsOnto [] from hSpelled,
      hTakes []]
    rfl

/-- No text holds two tables. -/
theorem HoldsTable.unique {d' : Directory} (h : HoldsTable s d)
    (h' : HoldsTable s d') : d = d' :=
  Option.some.inj ((ofText?_eq_some_iff.mpr h).symm.trans
      (ofText?_eq_some_iff.mpr h'))

/-- **A table that was written is read back**, from any text that spells it. -/
theorem ofText?_of_events (h : events s.toList = d.toJson.toEvents) :
    ofText? s = some d := by
  have hReads : (list Platform.decoder).Reads ⟨maxDepth, true⟩ d.toJson d := by
    have hList : (list Platform.decoder).Reads ⟨maxDepth, true⟩
          (.arr (d.map Platform.toJson)) (d.map id) :=
      Reads.listOf fun p _ => reads_toJson p
    rwa [List.map_id] at hList
  unfold ofText?
  rw [hReads.ofText h]
  rfl

theorem exact_toJson (d : Directory) : d.toJson.all isExact = true := by
  refine all_arr.mpr ⟨rfl, allItems_iff.mpr fun item hItem => ?_⟩
  obtain ⟨p, -, rfl⟩ := List.mem_map.mp hItem
  exact Platform.exact_toJson p

theorem ofText?_toText (d : Directory) : ofText? d.toText = some d := by
  refine ofText?_of_events ?_
  rw [toText, Json.pretty, String.toList_ofList]
  exact events_renderIndented d.exact_toJson

theorem ofText?_compress (d : Directory) :
    ofText? d.toJson.compress = some d := by
  refine ofText?_of_events ?_
  obtain ⟨hWhole, hBounded⟩ :=
    Bool.and_eq_true_iff.mp ((all_and d.toJson).symm.trans d.exact_toJson)
  rw [Json.compress, String.toList_ofList]
  exact events_render hWhole hBounded

/-! ## Files -/

theorem ofBytes?_toUTF8 (s : String) : ofBytes? s.toUTF8 = ofText? s := by
  have hText : String.fromUTF8? s.toUTF8 = some s := dif_pos s.isValidUTF8
  rw [ofBytes?, hText, Option.bind_some]

/-- Bytes that hold a table are those of a text that does. -/
theorem exists_of_ofBytes? {bytes : ByteArray} (h : ofBytes? bytes = some d) :
    ∃ s : String, s.toUTF8 = bytes ∧ ofText? s = some d := by
  obtain ⟨s, hText, hTable⟩ := Option.bind_eq_some_iff.mp h
  unfold String.fromUTF8? at hText
  split at hText
  · cases hText
    exact ⟨_, rfl, hTable⟩
  · cases hText

theorem loadFile_of_ofText? (h : ofText? s = some d) :
    loadFile builtin (some s.toUTF8) = (d, s.toUTF8) := by
  show ((ofBytes? s.toUTF8).getD builtin, s.toUTF8) = _
  rw [ofBytes?_toUTF8, h, Option.getD_some]

/-- What loading a table file comes to, whatever is in it. -/
structure Settled (builtin : Directory) : Prop where
  /-- A file that is there stays as it is, byte for byte. -/
  kept : ∀ bytes, (loadFile builtin (some bytes)).2 = bytes
  /-- The table that a file holds is the one in use. -/
  held : ∀ s d, HoldsTable s d → (loadFile builtin (some s.toUTF8)).1 = d
  /-- With any other file it is the built-in one. -/
  unread : ∀ bytes, (∀ s d, s.toUTF8 = bytes → ¬ HoldsTable s d) →
    (loadFile builtin (some bytes)).1 = builtin
  /-- An absent file is written, and holds the built-in table then. -/
  created : (loadFile builtin none).1 = builtin ∧
    ∃ s, (loadFile builtin none).2 = s.toUTF8 ∧ HoldsTable s builtin
  /-- Loading the file once more changes nothing. -/
  again : ∀ file, loadFile builtin (some (loadFile builtin file).2) =
    loadFile builtin file
  /-- A file with a table that was written, on one line or on several, is read
  back. -/
  written : ∀ d : Directory, (loadFile builtin (some d.toText.toUTF8)).1 = d ∧
    (loadFile builtin (some d.toJson.compress.toUTF8)).1 = d

/-- **Every content of a table file is settled.** -/
theorem loadFile_settled (builtin : Directory) : Settled builtin := by
  have hTable : ∀ {s d}, ofText? s = some d →
      (loadFile builtin (some s.toUTF8)).1 = d :=
    fun hRead => congrArg Prod.fst (loadFile_of_ofText? hRead)
  have hBuiltin := builtin.ofText?_toText
  constructor
  case kept => exact fun bytes => rfl
  case held => exact fun s d hHeld => hTable (ofText?_eq_some_iff.mpr hHeld)
  case unread =>
    intro bytes hNone
    have hUnread : ofBytes? bytes = none := by
      refine Option.eq_none_iff_forall_ne_some.mpr fun d hRead => ?_
      obtain ⟨s, hBytes, hText⟩ := exists_of_ofBytes? hRead
      exact hNone s d hBytes (ofText?_eq_some_iff.mp hText)
    show (ofBytes? bytes).getD builtin = builtin
    rw [hUnread, Option.getD_none]
  case created =>
    exact ⟨hTable hBuiltin, builtin.toText, rfl,
      ofText?_eq_some_iff.mp hBuiltin⟩
  case again => exact fun file => rfl
  case written =>
    exact fun d => ⟨hTable d.ofText?_toText, hTable d.ofText?_compress⟩

end Directory

end Errand
