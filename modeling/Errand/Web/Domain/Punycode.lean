import Errand.Text.Search

/-!
# Labels in ASCII

`Punycode.encode` writes a text in the letters, digits and hyphens that domain
names were first made of. The ASCII characters come first and a hyphen ends
them. What follows says where the others go: taken by code point, and from the
left among equals, each is an insertion of a code point at a place of the text
so far. The next insertion is written as the number of (code point, place)
pairs that are passed over on the way to it.

A number is written in digits of base 36, lowest first, with a threshold for
each digit: a digit below its threshold is the last. Thresholds follow a bias
that adapts to the numbers so far. `Punycode.decode?` reads all this back.

This is the published algorithm for internationalized labels, with the
parameters that it sets for domain names: the base, the bounds of the
thresholds, how the bias begins and adapts, and the first code point. The
numbers have no bound. What the algorithm says of overflow concerns only
machines whose numbers have one.
-/

namespace Errand.Punycode

/-! ### Numbers -/

/-- The digit of a value below 36. -/
def digitChar (d : Nat) : Char :=
  if d < 26 then Char.ofNat (0x61 + d)
  else Char.ofNat (0x30 + (d - 26))

/-- The value of a digit. -/
def digitValue? (c : Char) : Option Nat :=
  if 'a' ≤ c ∧ c ≤ 'z' then some (c.toNat - 0x61)
  else if 'A' ≤ c ∧ c ≤ 'Z' then some (c.toNat - 0x41)
  else if '0' ≤ c ∧ c ≤ '9' then some (c.toNat - 0x30 + 26)
  else none

/-- The threshold of a digit, where the first digit is at 36, the second at 72,
and so on. -/
def threshold (bias k : Nat) : Nat := max 1 (min 26 (k - bias))

theorem one_le_threshold (bias k : Nat) : 1 ≤ threshold bias k := by
  unfold threshold; omega

theorem threshold_le (bias k : Nat) : threshold bias k ≤ 26 := by
  unfold threshold; omega

/-- How the bias follows from a number that has been brought to scale. -/
def biasOf (delta k : Nat) : Nat :=
  if 455 < delta then biasOf (delta / 35) (k + 36)
  else k + 36 * delta / (delta + 38)
termination_by delta
decreasing_by omega

/-- The bias after a number: `length` is the length of the text with its
insertion, and the first number counts for less. -/
def adapt (delta length : Nat) (first : Bool) : Nat :=
  let scaled := delta / (if first then 700 else 2)
  biasOf (scaled + scaled / length) 0

/-- The digits of a number, the first of them at `k`. -/
def digitsFrom (bias k n : Nat) : List Char :=
  let t := threshold bias k
  if n < t then [digitChar n]
  else digitChar (t + (n - t) % (36 - t)) ::
    digitsFrom bias (k + 36) ((n - t) / (36 - t))
termination_by n
decreasing_by
  have h1 := one_le_threshold bias k
  have h2 : (n - threshold bias k) / (36 - threshold bias k) ≤
    n - threshold bias k := Nat.div_le_self _ _
  omega

/-- A number and what follows its digits; the first digit is at `k` and has
the weight `weight`, and `sum` is the value so far. -/
def readFrom? (bias k weight sum : Nat) : List Char → Option (Nat × List Char)
  | [] => none
  | c :: rest => do
    let d ← digitValue? c
    let sum := sum + d * weight
    let t := threshold bias k
    if d < t then some (sum, rest)
    else readFrom? bias (k + 36) (weight * (36 - t)) sum rest

/-- Reading a number uses up at least one digit. -/
theorem length_lt_of_readFrom? {bias k weight sum n : Nat} {cs rest : List Char}
    (h : readFrom? bias k weight sum cs = some (n, rest)) :
    rest.length < cs.length := by
  induction cs generalizing k weight sum with
  | nil => simp [readFrom?] at h
  | cons c cs ih =>
    simp only [readFrom?, Option.bind_eq_bind, Option.bind_eq_some_iff] at h
    obtain ⟨d, _, h⟩ := h
    split at h
    · simp only [Option.some.injEq, Prod.mk.injEq] at h
      simp [← h.2]
    · exact Nat.lt_succ_of_lt (ih h)

/-! ### Insertions -/

/-- Where writing or reading stands: the pair that comes next in order, the
length of the text so far, the bias, and whether no number has been written
yet. -/
structure Progress where
  codePoint : Nat
  place : Nat
  length : Nat
  bias : Nat
  first : Bool

/-- The start behind a given number of ASCII characters. -/
def Progress.start (length : Nat) : Progress := ⟨0x80, 0, length, 72, true⟩

/-- The progress after an insertion that was written as `delta`. -/
def Progress.after (p : Progress) (codePoint place delta : Nat) : Progress :=
  ⟨codePoint, place + 1, p.length + 1,
    adapt delta (p.length + 1) p.first, false⟩

/-- The insertions of a text: the code points beyond ASCII in increasing order,
each with the number of characters before it that are there already. -/
def insertions (cs : List Char) : List (Nat × Nat) :=
  let beyond := cs.zipIdx.filter fun p => 0x80 ≤ p.1.toNat
  (beyond.mergeSort fun p q => p.1.toNat ≤ q.1.toNat).map fun (c, i) =>
    (c.toNat, (cs.take i).countP fun d => d.toNat ≤ c.toNat)

/-- The numbers of insertions, in digits. -/
def write (p : Progress) : List (Nat × Nat) → List Char
  | [] => []
  | (codePoint, place) :: rest =>
    let delta := (codePoint - p.codePoint) * (p.length + 1) + place - p.place
    digitsFrom p.bias 36 delta ++ write (p.after codePoint place delta) rest

/-- The text in ASCII. -/
def encode (cs : List Char) : List Char :=
  let basic := cs.filter fun c => c.toNat < 0x80
  basic ++ (if basic.isEmpty then [] else ['-']) ++
    write (.start basic.length) (insertions cs)

/-- The text with the insertions that digits describe. -/
def read? (p : Progress) (text : List Char) (digits : List Char) :
    Option (List Char) :=
  if digits.isEmpty then some text
  else
    match _h : readFrom? p.bias 36 1 0 digits with
    | none => none
    | some (delta, rest) =>
      let i := p.place + delta
      let codePoint := p.codePoint + i / (p.length + 1)
      let place := i % (p.length + 1)
      if codePoint.isValidChar then
        read? (p.after codePoint place delta)
          (text.take place ++ Char.ofNat codePoint :: text.drop place) rest
      else none
termination_by digits.length
decreasing_by exact length_lt_of_readFrom? ‹_›

/-- The text that is written in ASCII so. -/
def decode? (cs : List Char) : Option (List Char) :=
  let (tail, basic) := (Chars.breakAt? ['-'] cs.reverse).getD (cs.reverse, [])
  let basic := basic.reverse
  if cs.head? = some '-' ∧ basic.isEmpty ∨
    basic.any (fun c => 0x80 ≤ c.toNat) then none
  else read? (.start basic.length) basic tail.reverse

end Errand.Punycode
