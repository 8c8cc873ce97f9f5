import Errand.Platform.Mention

/-!
# Search words

What is left of a request to search for, once the platform and the words around
it are taken away. Mentions of platforms cut the request into segments
(`segments`). From the edges of every segment, filler words are peeled off
(`peel`): whole words of the list of ASCII fillers, and Chinese fillers from
the start or the end of a word. A Chinese filler of a single character goes
only where the edge touches a mention, because elsewhere it is too likely to be
part of what is searched for. If nothing is left, the whole request is.
-/

namespace Errand

/-! ### Segments -/

/-- A part of a request between mentions, and whether a mention stands on
either side of it. -/
structure Segment where
  text : List Char
  afterMention : Bool
  beforeMention : Bool
deriving DecidableEq, Repr

/-- The places where `needle` begins in the text, from the left and without
overlap, counted from `at_`; `skip` characters of an occurrence are still to be
passed. -/
def placesFrom (needle : List Char) (skip at_ : Nat) : List Char → List Nat
  | [] => []
  | c :: cs =>
    match skip with
    | n + 1 => placesFrom needle n (at_ + 1) cs
    | 0 =>
      if Chars.startsWith needle (c :: cs) then
        at_ :: placesFrom needle (needle.length - 1) (at_ + 1) cs
      else placesFrom needle 0 (at_ + 1) cs

/-- The spans of a needle in a text, each with its start and its end. -/
def spansOf (needle text : List Char) : List (Nat × Nat) :=
  if needle.isEmpty then []
  else (placesFrom needle 0 0 text).map fun at_ => (at_, at_ + needle.length)

/-- Spans in increasing order of their starts, then of their ends. -/
def spanLe (a b : Nat × Nat) : Bool := a.1 < b.1 || (a.1 == b.1 && a.2 ≤ b.2)

/-- Spans in order, with those joined that overlap or touch; `last` is the span
that is being joined. -/
def joinOnto (last : Nat × Nat) : List (Nat × Nat) → List (Nat × Nat)
  | [] => [last]
  | s :: rest =>
    if s.1 ≤ last.2 then joinOnto (last.1, max last.2 s.2) rest
    else last :: joinOnto s rest

/-- Spans in order, with those joined that overlap or touch. -/
def joinSpans : List (Nat × Nat) → List (Nat × Nat)
  | [] => []
  | s :: rest => joinOnto s rest

/-- The segments between spans, where `text` is what begins at position
`at_`. -/
def cutAt (at_ : Nat) (text : List Char) : List (Nat × Nat) → List Segment
  | [] => [⟨text, 0 < at_, false⟩]
  | (start, stop) :: spans =>
    ⟨text.take (start - at_), 0 < at_, true⟩ ::
      cutAt stop (text.drop (stop - at_)) spans

namespace Directory

/-- The spans of all mentions of platforms, in ASCII letters of either case,
joined where they meet. -/
def mentionSpans (d : Directory) (request : List Char) : List (Nat × Nat) :=
  let lower := Chars.asciiLower request
  let needles := d.flatMap fun p => p.keywords ++ [p.domain]
  let spans := needles.flatMap fun k =>
    spansOf (Chars.asciiLower (Chars.trim k.toList)) lower
  joinSpans (spans.mergeSort spanLe)

/-- The parts of a request between the mentions of platforms. -/
def segments (d : Directory) (request : List Char) : List Segment :=
  cutAt 0 request (d.mentionSpans request)

end Directory

/-! ### Fillers -/

namespace Filler

/-- Words that say what to do and not what to look for. -/
def words : List String :=
  ["search", "for", "find", "look", "up", "on", "in", "at", "play", "watch",
    "open", "the", "please", "me", "a", "video", "videos", "and", "then"]

/-- Chinese fillers; of two where one begins the other, the longer comes
first. -/
def chinese : List String :=
  ["搜索", "搜一下", "搜", "查找", "播放", "看视频", "观看", "打开", "帮我", "在", "上的", "上", "里"]

/-- The token is a filler word, in any case. -/
def isWord (token : List Char) : Bool := words.any fun w =>
    Chars.sameAsciiCase w.toList token

/-- The Chinese fillers that go at an edge: all of them if it touches a
mention, else those of more than one character. -/
def chineseAt (touching : Bool) : List (List Char) :=
  (chinese.map String.toList).filter fun f => touching || 1 < f.length

/-- The token without the first filler that it starts with. -/
def stripOne? (touching : Bool) (token : List Char) : Option (List Char) :=
  (chineseAt touching).findSome? fun f => Chars.dropLead? f token

/-- The same from the end of the token. -/
def stripOneEnd? (touching : Bool) (token : List Char) : Option (List Char) :=
  (chineseAt touching).findSome? fun f =>
    (Chars.dropLead? f.reverse token.reverse).map List.reverse

/-- A token stripped of fillers until none is left to strip, by a function that
strips one; only the first may count the edge as touching a mention. Says
whether anything was stripped. Every filler has a character, so as many rounds
as the token has characters suffice. -/
def stripAll (strip : Bool → List Char → Option (List Char)) :
    (rounds : Nat) → (touching : Bool) → List Char → List Char × Bool
  | 0, _, token => (token, false)
  | rounds + 1, touching, token =>
    match strip touching token with
    | some rest => ((stripAll strip rounds false rest).1, true)
    | none => (token, false)

/-- The tokens after those at the front that are fillers or come to nothing,
the next one being stripped. -/
def peel (strip : Bool → List Char → Option (List Char)) (touching : Bool) :
    List (List Char) → List (List Char)
  | [] => []
  | token :: rest =>
    if isWord token then peel strip false rest
    else
      let (stripped, _) := stripAll strip token.length touching token
      if stripped.isEmpty then peel strip false rest else stripped :: rest

end Filler

/-- The words of a segment without the fillers at its edges, joined with single
spaces. -/
def Segment.kept (s : Segment) : List Char :=
  let tokens := Chars.words s.text
  let touchesFront := s.afterMention && !s.text.head?.any Chars.isBlank
  let touchesEnd := s.beforeMention && !s.text.getLast?.any Chars.isBlank
  let tokens := Filler.peel Filler.stripOne? touchesFront tokens
  let tokens :=
    (Filler.peel Filler.stripOneEnd? touchesEnd tokens.reverse).reverse
  Chars.unwords tokens

/-- The words to search for in a request. -/
def Directory.searchWords (d : Directory) (request : String) : String :=
  let kept := ((d.segments request.toList).map Segment.kept).filter fun k =>
    !k.isEmpty
  let keyword := Chars.unwords kept
  if keyword.isEmpty then Text.trim request else String.ofList keyword

end Errand
