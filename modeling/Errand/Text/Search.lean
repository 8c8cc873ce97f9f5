/-!
# Finding and replacing

Plain substrings of character lists: the first occurrence, the split at every
occurrence, and replacement. Occurrences are taken from the left and do not
overlap.

* `breakAt? needle cs` is the text before the first occurrence and the text
  after it.
* `splitOn` and `replace` go on after each occurrence. An empty needle is never
  looked for.
-/

namespace Errand.Chars

/-- What follows `lead` in a text that starts with it. -/
def dropLead? : (lead cs : List Char) → Option (List Char)
  | [], cs => some cs
  | _ :: _, [] => none
  | a :: lead, b :: cs => if a = b then dropLead? lead cs else none

@[simp] theorem dropLead?_append (lead cs : List Char) :
    dropLead? lead (lead ++ cs) = some cs := by
  induction lead with
  | nil => rfl
  | cons a lead ih => simp [dropLead?, ih]

theorem eq_append_of_dropLead? {lead cs rest : List Char}
    (h : dropLead? lead cs = some rest) : cs = lead ++ rest := by
  induction lead generalizing cs with
  | nil => simpa [dropLead?] using h
  | cons a lead ih =>
    cases cs with
    | nil => simp [dropLead?] at h
    | cons b cs =>
      simp only [dropLead?] at h
      split at h
      · next hab => simp [hab, ih h]
      · simp at h

/-- The text starts with `lead`. -/
def startsWith (lead cs : List Char) : Bool := (dropLead? lead cs).isSome

/-- The text ends with `tail`. -/
def endsWith (tail cs : List Char) : Bool := startsWith tail.reverse cs.reverse

/-- The text before the first occurrence of `needle`, and the text after it. -/
def breakAt? (needle : List Char) : List Char → Option (List Char × List Char)
  | [] => if needle.isEmpty then some ([], []) else none
  | c :: cs =>
    match dropLead? needle (c :: cs) with
    | some rest => some ([], rest)
    | none => (breakAt? needle cs).map fun (before, rest) => (c :: before, rest)

/-- The two parts around the first occurrence make up the text. -/
theorem eq_of_breakAt? {needle cs before rest : List Char}
    (h : breakAt? needle cs = some (before, rest)) :
    cs = before ++ needle ++ rest := by
  induction cs generalizing before rest with
  | nil =>
    simp only [breakAt?] at h
    split at h
    · next hn =>
      simp only [Option.some.injEq, Prod.mk.injEq] at h
      simp [← h.1, ← h.2, List.isEmpty_iff.mp hn]
    · simp at h
  | cons c cs ih =>
    simp only [breakAt?] at h
    split at h
    · next r hr =>
      simp only [Option.some.injEq, Prod.mk.injEq] at h
      simpa [← h.1, ← h.2] using eq_append_of_dropLead? hr
    · next hn =>
      obtain ⟨⟨b, r⟩, hbr, he⟩ := Option.map_eq_some_iff.mp h
      simp only [Prod.mk.injEq] at he
      have := ih hbr
      simp [← he.1, ← he.2, this]

/-- The needle occurs somewhere in the text. -/
def contains (needle cs : List Char) : Bool := (breakAt? needle cs).isSome

/-- The pieces between the occurrences of `needle`, each found after the end of
the one before; `skip` counts the characters of an occurrence that are still to
be passed, and `current` holds, reversed, the piece that is being read. -/
def splitFrom (needle : List Char) (skip : Nat) (current : List Char) :
    List Char → List (List Char)
  | [] => [current.reverse]
  | c :: cs =>
    match skip with
    | n + 1 => splitFrom needle n current cs
    | 0 =>
      if startsWith needle (c :: cs) then
        current.reverse :: splitFrom needle (needle.length - 1) [] cs
      else splitFrom needle 0 (c :: current) cs

/-- The pieces between the occurrences of `needle`. An empty needle does not
cut. -/
def splitOn (needle cs : List Char) : List (List Char) :=
  if needle.isEmpty then [cs] else splitFrom needle 0 [] cs

/-- Every occurrence of `needle`, taken from the left, replaced by
`replacement`. -/
def replace (needle replacement cs : List Char) : List Char :=
  replacement.intercalate (splitOn needle cs)

/-- The text without every leading occurrence of `lead`, for a `lead` that is
not empty. -/
def dropLeads (lead cs : List Char) : List Char :=
  if 0 < lead.length then
    match _h : dropLead? lead cs with
    | some rest => dropLeads lead rest
    | none => cs
  else cs
termination_by cs.length
decreasing_by
  have := congrArg List.length (eq_append_of_dropLead? ‹_›)
  simp at this
  omega

/-- The text without every trailing occurrence of `tail`. -/
def dropTails (tail cs : List Char) : List Char :=
  (dropLeads tail.reverse cs.reverse).reverse

end Errand.Chars

namespace Errand.Text

/-- The text starts with `lead`. -/
def startsWith (lead s : String) : Bool := Chars.startsWith lead.toList s.toList

/-- The text ends with `tail`. -/
def endsWith (tail s : String) : Bool := Chars.endsWith tail.toList s.toList

/-- The needle occurs somewhere in the text. -/
def contains (needle s : String) : Bool := Chars.contains needle.toList s.toList

/-- Every occurrence of `needle` replaced by `replacement`. -/
def replace (needle replacement s : String) : String :=
  String.ofList (Chars.replace needle.toList replacement.toList s.toList)

end Errand.Text
