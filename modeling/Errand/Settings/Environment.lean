import Errand.Number.Decimal
import Errand.Text.Blank
import Errand.Text.Case
import Errand.Text.Search
import Errand.Text.Table.Ranges
import Errand.Text.Table.Word

/-!
# Environments

An environment gives values to names. Settings come from it, and a file in the
working directory may add to it: one assignment on a line, with comments,
quotes and references to other names (`Environment.extend`). What the
environment has already is never changed by the file, and the first line of the
file that cannot be read ends it.

A value is read character by character; `Reading` is what is known after some
of them. Outside quotes a blank ends the value and only a comment may follow;
in double quotes and outside quotes a backslash takes the next character as it
is, and `$name` or a name in braces after the dollar sign stands for the value
of the name; in single quotes every character stands for itself.
-/

namespace Errand

/-- Names with their values; the first value of a name counts. -/
structure Environment where
  entries : List (String × String)
deriving DecidableEq, Repr

namespace Environment

/-- The value of a name. -/
def get? (env : Environment) (name : String) : Option String :=
  env.entries.lookup name

/-- The environment with a value for a name that has none yet. -/
def offer (env : Environment) (name value : String) : Environment :=
  if (env.get? name).isSome then env else ⟨env.entries ++ [(name, value)]⟩

/-! ### Values in a file -/

/-- What quotes are open around a character. -/
inductive Quotes where
  | none
  | single
  | double
deriving DecidableEq, Repr

/-- A reference to a name that is being read, its characters reversed. -/
inductive Reference where
  | bare (name : List Char)
  | braced (name : List Char)
deriving DecidableEq, Repr

/-- What is known after some characters of a value. -/
structure Reading where
  quotes : Quotes
  /-- The next character is taken as it is. -/
  escaped : Bool
  /-- The value has ended; blanks or a comment may follow. -/
  ended : Bool
  reference : Option Reference
  /-- The value up to here, reversed. -/
  value : List Char
deriving DecidableEq, Repr

namespace Reading

/-- Nothing has been read yet. -/
def start : Reading := ⟨.none, false, false, none, []⟩

/-- The value goes on with a character. -/
def push (r : Reading) (c : Char) : Reading := { r with value := c :: r.value }

/-- The reference that has been read is over; the value of its name goes in its
place. -/
def resolve (valueOf : String → String) (name : List Char) (r : Reading) :
    Reading :=
  { r with
    reference := none
    value := (valueOf (String.ofList name.reverse)).toList.reverse ++ r.value }

/-- What a backslash and a character stand for. -/
def escape? (c : Char) : Option Char :=
  if ['\\', '\'', '"', '$', ' '].contains c then some c
  else if c = 'n' then some '\n' else none

/-- The character can be part of a name in a bare reference. -/
def isNamePart (c : Char) : Bool :=
  c.isAlphanum || (0x80 ≤ c.toNat &&
      Text.Table.inRanges c.toNat Text.Table.wordCharacters)

/-- The reading after one more character within a reference. -/
def referTo (valueOf : String → String) (c : Char) (r : Reading) :
    Reference → Reading
  | .bare name =>
    if isNamePart c then { r with reference := some (.bare (c :: name)) }
    else if c = '\x7b' ∧ name = [] then
      { r with reference := some (.braced []) }
    else if c = '$' then
      { r.resolve valueOf name with reference := some (.bare []) }
    else (r.resolve valueOf name).push c
  | .braced name =>
    if isNamePart c then { r with reference := some (.braced (c :: name)) }
    else if c = '\x7d' then r.resolve valueOf name
    else { r with reference := some (.braced (c :: name)) }

/-- The reading after one more character of the value itself, outside
references and single quotes. -/
def go (c : Char) (r : Reading) : Reading :=
  if c = '$' then { r with reference := some (.bare []) }
  else if c = '\\' then { r with escaped := true }
  else if c = '"' then
    { r with quotes := if r.quotes = .double then .none else .double }
  else if r.quotes = .double then r.push c
  else if c = '\'' then { r with quotes := .single }
  else if c = ' ' ∨ c = '\t' then { r with ended := true }
  else r.push c

/-- The value that the rest of a line makes, if it makes one. -/
def finish (valueOf : String → String) : Reading → List Char → Option String
  | r, [] =>
    match r.quotes, r.reference with
    | .single, _ | .double, _ | _, some (.braced _) => none
    | .none, some (.bare name) =>
      some (String.ofList (r.resolve valueOf name).value.reverse)
    | .none, none => some (String.ofList r.value.reverse)
  | r, c :: cs =>
    if r.ended then
      if c = ' ' ∨ c = '\t' then finish valueOf r cs
      else if c = '#' then finish valueOf r []
      else none
    else if r.escaped then
      match escape? c with
      | some c => finish valueOf ({ r with escaped := false }.push c) cs
      | none => none
    else if r.quotes = .single then
      finish valueOf (if c = '\'' then { r with quotes := .none } else r.push c)
        cs
    else
      match r.reference with
      | some ref => finish valueOf (r.referTo valueOf c ref) cs
      | none => finish valueOf (r.go c) cs
termination_by _ cs => cs.length

end Reading

/-! ### Lines of a file -/

/-- The character can begin a name. -/
def beginsName (c : Char) : Bool := c.isAlpha || c = '_'

/-- The character can be part of a name that is assigned. -/
def continuesName (c : Char) : Bool := c.isAlphanum || c = '_' || c = '.'

/-- The name at the front of a line and what follows it. -/
def name? (cs : List Char) : Option (List Char × List Char) :=
  if cs.head?.any beginsName then
    some (cs.takeWhile continuesName, cs.dropWhile continuesName)
  else none

/-- A name, an equals sign, and what follows both without leading blanks. A
name may come after the word `export`, which can be a name itself. -/
def assignment? (cs : List Char) : Option (List Char × List Char) :=
  (name? cs).bind fun (name, rest) =>
    match Chars.trimStart rest with
    | '=' :: rest => some (name, Chars.trimStart rest)
    | rest =>
      if name = "export".toList then
        (name? rest).bind fun (name, rest) =>
          match Chars.trimStart rest with
          | '=' :: rest => some (name, Chars.trimStart rest)
          | _ => none
      else none

/-- What a line of a file says. -/
inductive Line where
  | nothing
  | assigns (name value : String)
deriving DecidableEq, Repr

/-- What a line says, if it can be read. -/
def line? (valueOf : String → String) (cs : List Char) : Option Line :=
  match Chars.trim cs with
  | [] | '#' :: _ => some .nothing
  | cs =>
    (assignment? cs).bind fun (name, rest) =>
      let name := String.ofList name
      match rest with
      | [] | '#' :: _ => some (.assigns name "")
      | rest => (Reading.start.finish valueOf rest).map (.assigns name)

/-- The environment after some lines of a file, where `seen` holds what earlier
lines assign, the latest first. -/
def extendFrom (env : Environment) (seen : List (String × String)) :
    List (List Char) → Environment
  | [] => env
  | cs :: rest =>
    match line? (fun name => ((env.get? name).or (seen.lookup name)).getD "") cs
      with
    | none => env
    | some .nothing => extendFrom env seen rest
    | some (.assigns name value) =>
      extendFrom (env.offer name value) ((name, value) :: seen) rest

/-- The environment with what the text of a file adds to it. -/
def extend (env : Environment) (file : String) : Environment :=
  env.extendFrom [] (Chars.splitOn ['\n'] file.toList)

/-- The names that a text refers to. -/
def references : List Char → List String
  | [] => []
  | '$' :: '\x7b' :: rest =>
  String.ofList (rest.takeWhile (· ≠ '\x7d')) :: references rest
  | '$' :: rest =>
  String.ofList (rest.takeWhile Reading.isNamePart) :: references rest
  | _ :: rest => references rest

/-- All names whose values bear on what the text of a file adds: those that it
assigns and those that it refers to. -/
def namesIn (file : String) : List String :=
  ((Chars.splitOn ['\n'] file.toList).filterMap fun cs =>
    (assignment? (Chars.trim cs)).map fun (name, _) =>
      String.ofList name) ++ references file.toList

/-! ### Readings of a value -/

/-- A flag: the usual words for yes, and anything else for no. -/
def flag (env : Environment) (name : String) (default : Bool) : Bool :=
  match env.get? name with
  | some v => ["1", "true", "yes", "on"].contains (Text.lower (Text.trim v))
  | none => default

/-- A count; what is no count leaves the default. -/
def count (env : Environment) (name : String) (default : Nat) : Nat :=
  ((env.get? name).bind fun v =>
      Decimal.unsigned? maxCount (Chars.trim v.toList)).getD default

/-- A text without its outer blanks, unless nothing else is in it. -/
def text? (env : Environment) (name : String) : Option String :=
  ((env.get? name).map Text.trim).filter fun v => !v.isEmpty

end Environment

end Errand
