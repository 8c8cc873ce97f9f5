/-!
# Keys

What a browser is told about a key that is pressed: the code of the key, its
virtual key number, and the text it enters, if it enters any. The keys are the
named ones that step lists use, and single letters and digits; any other name
is passed on as its own code.
-/

namespace Errand

/-- A key as a browser knows it. -/
structure Key where
  code : String
  number : Nat
  text : Option String
deriving DecidableEq, Repr

namespace Key

/-- The named keys. -/
def named : List (String × Key) :=
  [("Enter", ⟨"Enter", 13, some "\r"⟩), ("Tab", ⟨"Tab", 9, none⟩),
    ("Escape", ⟨"Escape", 27, none⟩), ("Backspace", ⟨"Backspace", 8, none⟩),
    (" ", ⟨"Space", 32, some " "⟩), ("Space", ⟨"Space", 32, some " "⟩),
    ("ArrowLeft", ⟨"ArrowLeft", 37, none⟩), ("ArrowUp", ⟨"ArrowUp", 38, none⟩),
    ("ArrowRight", ⟨"ArrowRight", 39, none⟩),
    ("ArrowDown", ⟨"ArrowDown", 40, none⟩)]

/-- The key of a letter or digit. -/
def ofChar (c : Char) : Key :=
  let upper := c.toUpper
  let row := if c.isDigit then "Digit" else "Key"
  ⟨row.push upper, upper.toNat, some (String.singleton c)⟩

/-- The key with this name. -/
def ofName (name : String) : Key :=
  match named.lookup name with
  | some key => key
  | none =>
    match name.toList with
    | [c] => if c.isAlphanum then ofChar c else ⟨name, 0, none⟩
    | _ => ⟨name, 0, none⟩

end Key

end Errand
