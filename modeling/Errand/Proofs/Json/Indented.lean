import Errand.Proofs.Json.Spelling

/-!
# Values written over several lines

A value that is written over several lines is read like one that is written
without spaces: all that is added are spaces and line breaks between its parts,
and between two tokens these do not count. So the two texts have the same
tokens, whatever the level of indentation.

## Main results

* `tokens_newline`: a line break with its indentation is no token.
* `tokens_renderIndented`: the two ways to write a value have the same tokens.
* `events_renderIndented`: a value written over several lines has its own
  events.
-/

namespace Errand.Json

/-! ## Spaces between tokens -/

theorem tokens_eq (cs : List Char) : tokens cs =
    match skipSpace cs with
    | [] => []
    | c :: rest =>
      match scanToken c rest with
      | (t, none) => [t]
      | (t, some r) => t :: tokens r.1 := by
  rw [tokens]
  split
  · next hNil => simp only [hNil]
  · next c rest hCons =>
    rcases hScan : scanToken c rest with ⟨t, _ | r⟩ <;> simp only [hCons, hScan]

/-- The tokens of a text depend on what is left of it without its leading
spaces. -/
theorem tokens_of_skipSpace {cs ds : List Char}
    (h : skipSpace cs = skipSpace ds) : tokens cs = tokens ds := by
  rw [tokens_eq, tokens_eq ds, h]

theorem tokens_space {c : Char} (hc : isSpace c = true) (rest : List Char) :
    tokens (c :: rest) = tokens rest :=
  tokens_of_skipSpace (List.dropWhile_cons_of_pos hc)

/-- A line break with its indentation is no token. -/
theorem tokens_newline (level : Nat) (rest : List Char) :
    tokens (newline level ++ rest) = tokens rest := by
  have hIndent : ∀ n, tokens (List.replicate n ' ' ++ rest) = tokens rest := by
    intro n
    induction n with
    | zero => rfl
    | succ n ih =>
        rw [List.replicate_succ, List.cons_append, tokens_space rfl, ih]
  rw [newline, List.cons_append, tokens_space rfl, hIndent]

theorem stops_newline (level : Nat) (rest : List Char) :
    Stops (newline level ++ rest) :=
  stops_cons (by decide) _

theorem stops_renderIndentedItems (level : Nat) (items : List Json)
    (rest : List Char) : Stops (renderIndentedItems level items ++ rest) := by
  cases items with
  | nil =>
      rw [renderIndentedItems, List.append_assoc]
      exact stops_newline level _
  | cons item items => exact stops_cons (by decide) _

theorem stops_renderIndentedFields (level : Nat) (fields : Fields)
    (rest : List Char) : Stops (renderIndentedFields level fields ++ rest) := by
  cases fields with
  | nil =>
      rw [renderIndentedFields, List.append_assoc]
      exact stops_newline level _
  | cons field fields => exact stops_cons (by decide) _

/-! ## The two ways to write a value -/

mutual

/-- **Written over several lines, a value has the tokens that it has without
spaces**, in front of texts that have the same tokens and do not go on with a
number. -/
theorem tokens_renderIndented : ∀ {j : Json}, j.all isExact = true →
    ∀ (level : Nat)
    {rest rest' : List Char}, Stops rest → Stops rest' →
    tokens rest = tokens rest' →
      tokens (renderIndented level j ++ rest) = tokens (render j ++ rest')
  | .null, _, _, rest, rest', _, _, h => by
      show tokens (render .null ++ rest) = _
      rw [(tokens_renderWord rest).1, (tokens_renderWord rest').1, h]
  | .bool b, _, _, rest, rest', _, _, h => by
      show tokens (render (.bool b) ++ rest) = _
      rw [(tokens_renderWord rest).2, (tokens_renderWord rest').2, h]
  | .num (.int i), hExact, _, rest, rest', hRest, hRest', h => by
      obtain ⟨hLow, hHigh⟩ := Bool.and_eq_true_iff.mp hExact
      show tokens (Decimal.ofInt i ++ rest) = tokens (Decimal.ofInt i ++ rest')
      rw [tokens_ofInt (of_decide_eq_true hLow) (of_decide_eq_true hHigh) hRest,
        tokens_ofInt (of_decide_eq_true hLow) (of_decide_eq_true hHigh) hRest',
        h]
  | .num (.float x), hExact, _, _, _, _, _, _ => by
      cases hExact
  | .str s, _, _, rest, rest', _, _, h => by
      show tokens (renderString s ++ rest) = tokens (renderString s ++ rest')
      rw [tokens_renderString, tokens_renderString, h]
  | .arr [], _, _, rest, rest', _, _, h => by
      show tokens ('[' :: ']' :: rest) = tokens ('[' :: ']' :: rest')
      simp only [tokens_openArr, tokens_closeArr, h]
  | .arr (item :: items), hExact, level, rest, rest', _, _, h => by
      obtain ⟨hItem, hItems⟩ := allItems_cons.mp (all_arr.mp hExact).2
      rw [renderIndented, render]
      simp only [List.append_assoc, List.cons_append, tokens_openArr,
        tokens_newline]
      rw [tokens_renderIndented hItem (level + 1)
        (stops_renderIndentedItems level items rest)
        (stops_renderItems items rest')
          (tokens_renderIndentedItems hItems level h)]
  | .obj [], _, _, rest, rest', _, _, h => by
      show tokens ('\x7b' :: '\x7d' :: rest) =
            tokens ('\x7b' :: '\x7d' :: rest')
      simp only [tokens_openObj, tokens_closeObj, h]
  | .obj ((key, value) :: fields), hExact, level, rest, rest', _, _, h => by
      obtain ⟨hValue, hFields⟩ := allFields_cons.mp (all_obj.mp hExact).2
      rw [renderIndented, render]
      simp only [List.append_assoc, List.cons_append, tokens_openObj,
        tokens_newline, tokens_renderString, tokens_colon]
      rw [tokens_space rfl, tokens_renderIndented hValue (level + 1)
        (stops_renderIndentedFields level fields rest)
          (stops_renderFields fields rest')
        (tokens_renderIndentedFields hFields level h)]

theorem tokens_renderIndentedItems :
    ∀ {items : List Json}, allItems isExact items = true →
    ∀ (level : Nat) {rest rest' : List Char}, tokens rest = tokens rest' →
      tokens (renderIndentedItems level items ++ rest) =
        tokens (renderItems items ++ rest')
  | [], _, level, rest, rest', h => by
      rw [renderIndentedItems, renderItems, List.append_assoc, tokens_newline]
      simp only [List.cons_append, List.nil_append, tokens_closeArr, h]
  | item :: items, hExact, level, rest, rest', h => by
      obtain ⟨hItem, hItems⟩ := allItems_cons.mp hExact
      rw [renderIndentedItems, renderItems]
      simp only [List.append_assoc, List.cons_append, tokens_comma,
        tokens_newline]
      rw [tokens_renderIndented hItem (level + 1)
        (stops_renderIndentedItems level items rest)
        (stops_renderItems items rest')
          (tokens_renderIndentedItems hItems level h)]

theorem tokens_renderIndentedFields : ∀ {fields : List (String × Json)},
    allFields isExact fields = true → ∀ (level : Nat) {rest rest' : List Char},
      tokens rest = tokens rest' →
        tokens (renderIndentedFields level fields ++ rest) =
          tokens (renderFields fields ++ rest')
  | [], _, level, rest, rest', h => by
      rw [renderIndentedFields, renderFields, List.append_assoc, tokens_newline]
      simp only [List.cons_append, List.nil_append, tokens_closeObj, h]
  | (key, value) :: fields, hExact, level, rest, rest', h => by
      obtain ⟨hValue, hFields⟩ := allFields_cons.mp hExact
      rw [renderIndentedFields, renderFields]
      simp only [List.append_assoc, List.cons_append, tokens_comma,
        tokens_newline, tokens_renderString, tokens_colon]
      rw [tokens_space rfl, tokens_renderIndented hValue (level + 1)
        (stops_renderIndentedFields level fields rest)
          (stops_renderFields fields rest')
        (tokens_renderIndentedFields hFields level h)]

end

/-- **A value written over several lines has its own events.** -/
theorem events_renderIndented {j : Json} (hExact : j.all isExact = true) :
    events (renderIndented 0 j) = toEvents j := by
  obtain ⟨hWhole, hBounded⟩ :=
    Bool.and_eq_true_iff.mp ((all_and j).symm.trans hExact)
  have hTokens : tokens (renderIndented 0 j ++ []) = tokens (render j ++ []) :=
    tokens_renderIndented hExact 0 nofun nofun rfl
  rw [List.append_nil, List.append_nil] at hTokens
  rw [← events_render hWhole hBounded, events, events, hTokens]

/-! ## The ends of a written object -/

theorem exists_renderIndentedFields (level : Nat) (fields : Fields) :
    ∃ front, renderIndentedFields level fields = front ++ ['\x7d'] := by
  induction fields with
  | nil => exact ⟨newline level, rfl⟩
  | cons field rest ih =>
      obtain ⟨key, value⟩ := field
      obtain ⟨front, hFront⟩ := ih
      exact ⟨_, by rw [renderIndentedFields, hFront, ← List.append_assoc]⟩

/-- The text of an object stands between braces, also over several lines. -/
theorem exists_renderIndented_obj (level : Nat) (fields : Fields) :
    ∃ middle, renderIndented level (.obj fields) =
      '\x7b' :: (middle ++ ['\x7d']) := by
  cases fields with
  | nil => exact ⟨[], rfl⟩
  | cons field rest =>
      obtain ⟨key, value⟩ := field
      obtain ⟨front, hFront⟩ := exists_renderIndentedFields level rest
      refine ⟨newline (level + 1) ++ renderString key ++ ':' :: ' ' ::
        renderIndented (level + 1) value ++ front, ?_⟩
      rw [renderIndented, hFront]
      simp

end Errand.Json
