import Errand.Json.Record
import Errand.Proofs.Json.Lines

/-!
# Faults are not passed over

The events of a text that leaves the grammar end with a fault, and no decoder
steps over it: if there is a fault among the events, a decoder that reads
something leaves it behind (`Decoder.Careful`). There is one lemma for each way
to build a decoder. A text must be read to its end, so a text whose events have
a fault is not read at all.

## Main results

* `Decoder.Careful.record`: a decoder for a record is careful if those for its
  fields are.
* `Decoder.Careful.ofText_of_faulty`: nothing is read from a text whose events
  have a fault, such as one that is broken.
-/

namespace Errand.Json

/-- There is a fault among the events. -/
def Faulty (es : List Event) : Prop := ∃ f, .fault f ∈ es

/-- A fault that is not the next event comes later. -/
theorem Faulty.later {e : Event} {es : List Event} (h : Faulty (e :: es))
    (he : ∀ f, e ≠ .fault f) : Faulty es := by
  obtain ⟨f, hMem⟩ := h
  exact ⟨f, (List.mem_cons.mp hMem).resolve_left (he f).symm⟩

/-- What is passed over has no fault in it. -/
theorem faulty_of_skip {depth : Nat} {es rest : List Event}
    (h : skip depth es = .ok rest) (hFaulty : Faulty es) : Faulty rest := by
  fun_induction skip depth es with
  | case1 | case2 => cases h
  | case3 _ _ ih | case4 _ _ ih | case9 _ _ _ ih =>
      exact ih h (hFaulty.later nofun)
  | case6 _ _ _ ih | case8 _ _ _ ih => exact ih h (hFaulty.later nofun)
  | case5 | case7 =>
      cases h
      exact hFaulty.later nofun
  | case10 e es hFault =>
      cases h
      exact hFaulty.later hFault
  | case11 _ e es hFault _ _ _ _ _ _ ih => exact ih h (hFaulty.later hFault)

namespace Decoder

variable {α β : Type}

/-- The decoder steps over no fault when it reads from these events. -/
def CarefulAt (d : Decoder α) (at_ : Depth) (es : List Event) : Prop :=
  ∀ a rest, d at_ es = .ok (a, rest) → Faulty es → Faulty rest

/-- The decoder steps over no fault. -/
def Careful (d : Decoder α) : Prop := ∀ at_ es, d.CarefulAt at_ es

namespace Careful

theorem done (a : α) : Careful (done a) := by
  rintro at_ es _ _ ⟨rfl⟩ hFaulty
  exact hFaulty

theorem fail (e : ReadError) : Careful (fail e : Decoder α) :=
  fun _ _ _ _ h => nomatch h

theorem bind {d : Decoder α} {k : α → Decoder β} (hd : Careful d)
    (hk : ∀ a, Careful (k a)) : Careful (d >>= k) := by
  intro at_ es b rest h hFaulty
  change Decoder.bind d k at_ es = .ok (b, rest) at h
  unfold Decoder.bind at h
  split at h
  · cases h
  · next a rest' hd' =>
      exact hk a at_ rest' b rest h (hd at_ es a rest' hd' hFaulty)

/-- An event is read with care if nothing is made of a fault. -/
theorem event {k : Event → Decoder β} (hk : ∀ e, Careful (k e))
    (hFault : ∀ f, ∃ error, k (.fault f) = Decoder.fail error) :
    Careful (event >>= k) := by
  intro at_ es b rest h hFaulty
  change Decoder.bind Decoder.event k at_ es = .ok (b, rest) at h
  cases es with
  | nil => cases h
  | cons e es =>
      have hNext : k e at_ es = .ok (b, rest) := h
      refine hk e at_ es b rest hNext (hFaulty.later ?_)
      rintro f rfl
      obtain ⟨error, hError⟩ := hFault f
      rw [hError] at hNext
      cases hNext

/-- What follows a look at the next event may rely on the event being there. -/
theorem peek {k : Event → Decoder β}
    (hk : ∀ e at_ es, (k e).CarefulAt at_ (e :: es)) :
    Careful (peek >>= k) := by
  intro at_ es b rest h hFaulty
  change Decoder.bind Decoder.peek k at_ es = .ok (b, rest) at h
  cases es with
  | nil => cases h
  | cons e es => exact hk e at_ es b rest h hFaulty

theorem text : Careful text := by
  refine event (fun e => ?_) fun f => ⟨_, rfl⟩
  split
  · exact done _
  · exact fail _

theorem bool : Careful bool := by
  refine event (fun e => ?_) fun f => ⟨_, rfl⟩
  split
  · exact done _
  · exact fail _

theorem int (low high : Int) (expected : String) :
    Careful (int low high expected) := by
  refine event (fun e => ?_) fun f => ⟨_, rfl⟩
  split
  · split
    · exact done _
    · exact fail _
  · exact fail _

theorem count (expected : String) : Careful (count expected) :=
  bind (int _ _ expected) fun _ => done _

theorem skipped : Careful skipped := by
  intro at_ es a rest h hFaulty
  unfold Decoder.skipped at h
  split at h
  · cases h
  · next hSkip =>
    cases h
    exact faulty_of_skip hSkip hFaulty

theorem nullable {d : Decoder α} (hd : Careful d) : Careful (nullable d) := by
  refine peek fun e at_ es => ?_
  split
  · rintro a rest ⟨rfl⟩ hFaulty
    exact hFaulty.later nofun
  · exact bind hd (fun _ => done _) at_ _

theorem deeper {d : Decoder α} (hd : Careful d) : Careful (deeper d) := by
  intro at_ es a rest h
  unfold Decoder.deeper at h
  split at h
  · cases h
  · exact hd _ es a rest h

theorem itemsUpTo {d : Decoder α} (hd : Careful d) (fuel : Nat) :
    Careful (itemsUpTo fuel d) := by
  induction fuel with
  | zero => exact fail _
  | succ fuel ih =>
      refine peek fun e at_ es => ?_
      split
      · rintro a rest ⟨rfl⟩ hFaulty
        exact hFaulty.later nofun
      · exact bind hd (fun _ => bind ih fun _ => done _) at_ _

theorem list {d : Decoder α} (hd : Careful d) : Careful (list d) := by
  refine event (fun e => ?_) fun f => ⟨_, rfl⟩
  split
  · exact deeper fun at_ es => itemsUpTo hd _ at_ es
  · exact fail _

/-! ### Names -/

theorem named (alternatives : List (String × α)) (name : String) :
    Careful (fun _ es => (named alternatives name).map (·, es)) := by
  intro at_ es a rest h hFaulty
  cases hNamed : Decoder.named alternatives name with
  | error e => rw [hNamed] at h; cases h
  | ok b =>
      rw [hNamed] at h
      cases h
      exact hFaulty

theorem longName (alternatives : List (String × α)) :
    Careful (longName alternatives) := by
  refine event (fun name => ?_) fun f => ⟨_, rfl⟩
  dsimp only
  split
  · refine bind (named alternatives _) fun a =>
      event (fun e => ?_) fun f => ⟨_, rfl⟩
    split
    · refine event (fun e => ?_) fun f => ⟨_, rfl⟩
      split
      · exact done a
      · exact fail _
      · exact fail _
    · exact fail _
  · exact fun _ _ _ _ h => nomatch h

theorem choice (alternatives : List (String × α)) :
    Careful (choice alternatives) := by
  intro at_ es a rest h hFaulty
  unfold Decoder.choice at h
  split at h
  · next name es =>
    exact named alternatives name at_ es a rest h (hFaulty.later nofun)
  · have hLater := hFaulty.later nofun
    split at h
    · exact deeper (longName alternatives) at_ _ a rest h hLater
    · split at h
      · exact longName alternatives at_ _ a rest h hLater
      · cases h
  · split at h
    · cases h
    · cases h
  · cases h

/-! ### Records -/

theorem slot {d : Decoder β} (hd : Careful d) (name : String)
    (presence : Presence) (set : β → α → α) :
    Careful (slot name presence d set).read :=
  bind hd fun _ => done _

section

variable {slots : List (Slot α)} (hSlots : ∀ s ∈ slots, Careful s.read)

include hSlots

theorem fieldsUpTo (fuel : Nat) (seen : List String) (a : α) :
    Careful (fieldsUpTo slots fuel seen a) := by
  induction fuel generalizing seen a with
  | zero => exact fail _
  | succ fuel ih =>
      refine event (fun e => ?_) fun f => ⟨_, rfl⟩
      split
      · split
        · exact fail _
        · exact done a
      · split
        · next s hFind =>
          split
          · exact fail _
          · exact bind (hSlots s (List.mem_of_find?_eq_some hFind)) fun set =>
              ih _ _
        · exact bind skipped fun _ => ih seen a
      · exact fail _

theorem row (name : String) (total read : Nat) (a : α) :
    Careful (row name total slots read a) := by
  induction slots generalizing read a with
  | nil =>
      refine peek fun e at_ es => ?_
      split
      · rintro b rest ⟨rfl⟩ hFaulty
        exact hFaulty.later nofun
      · exact fail _ at_ _
      · intro b rest h
        dsimp only at h
        split at h
        · cases h
        · cases h
  | cons s slots ih =>
      obtain ⟨hFirst, hRest⟩ := List.forall_mem_cons.mp hSlots
      refine peek fun e at_ es => ?_
      split
      · split
        · exact ih hRest read a at_ _
        · exact fail _ at_ _
      · exact bind hFirst (fun set => ih hRest _ _) at_ _

/-- **A decoder for a record is careful if those for its fields are.** -/
theorem record (name : String) (start : α) :
    Careful (record name slots start) := by
  refine event (fun e => ?_) fun f => ⟨_, rfl⟩
  split
  · exact deeper fun at_ es => fieldsUpTo hSlots _ [] start at_ es
  · exact deeper (row hSlots name _ 0 start)
  · exact fail _

end

/-- **Nothing is read from a text with a fault among its events.** -/
theorem ofText_of_faulty {d : Decoder α} (hd : Careful d) {s : String}
    (hFaulty : Faulty (events s.toList)) : ∃ e, ofText d s = .error e := by
  unfold Decoder.ofText
  cases hRead : d ⟨maxDepth, true⟩ (events s.toList) with
  | error e => exact ⟨e, rfl⟩
  | ok read =>
      obtain ⟨a, rest⟩ := read
      obtain ⟨f, hFault⟩ := hd _ _ a rest hRead hFaulty
      -- the fault is among what is left, so the decoder did not come to the
      -- end of the text
      cases rest with
      | nil => cases hFault
      | cons e rest => cases e <;> exact ⟨_, rfl⟩

/-- Nothing is read from a broken text. -/
theorem ofText {d : Decoder α} (hd : Careful d) {s : String}
    (hBroken : IsBrokenText s.toList) : ∃ e, ofText d s = .error e :=
  hd.ofText_of_faulty (exists_fault_of_isBrokenText hBroken)

end Careful

end Decoder

end Errand.Json
