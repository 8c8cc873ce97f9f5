import Errand.Json.Basic
import Errand.Text.Quoted

/-!
# Writing JSON

`Json.render` writes a value without spaces, `Json.renderPretty` with one item
or field on a line, indented by two spaces a level. Fields are written in the
order in which the value lists them.

In a string only the quote, the backslash and the control characters below the
space are escaped; the usual control characters by letter, the rest as four
hexadecimal digits.

These are the two forms that the program's JSON library documents, the compact
and the pretty one (see `Errand.Json.Basic`).
-/

namespace Errand.Json

/-- One character as it stands in a written string. -/
def escapeChar (c : Char) : List Char :=
  match c with
  | '"' => ['\\', '"']
  | '\\' => ['\\', '\\']
  | '\x08' => ['\\', 'b']
  | '\t' => ['\\', 't']
  | '\n' => ['\\', 'n']
  | '\x0c' => ['\\', 'f']
  | '\r' => ['\\', 'r']
  | c =>
    if c.toNat < 0x20 then
      ['\\', 'u', '0', '0', Chars.hexDigit (c.toNat / 16),
        Chars.hexDigit (c.toNat % 16)]
    else [c]

/-- A string with its quotes. -/
def renderString (s : String) : List Char :=
  '"' :: s.toList.flatMap escapeChar ++ ['"']

/-- A number as written. -/
def renderNumber : Number → List Char
  | .int i => Decimal.ofInt i
  | .float x => x.render

mutual

/-- The value without spaces. -/
def render : Json → List Char
  | .null => ['n', 'u', 'l', 'l']
  | .bool true => ['t', 'r', 'u', 'e']
  | .bool false => ['f', 'a', 'l', 's', 'e']
  | .num n => renderNumber n
  | .str s => renderString s
  | .arr [] => ['[', ']']
  | .arr (item :: items) => '[' :: render item ++ renderItems items
  | .obj [] => ['\x7b', '\x7d']
  | .obj ((key, value) :: fields) =>
    '\x7b' :: renderString key ++ ':' :: render value ++ renderFields fields

/-- The items after the first, up to the closing bracket. -/
def renderItems : List Json → List Char
  | [] => [']']
  | item :: items => ',' :: render item ++ renderItems items

/-- The fields after the first, up to the closing brace. -/
def renderFields : List (String × Json) → List Char
  | [] => ['\x7d']
  | (key, value) :: fields =>
    ',' :: renderString key ++ ':' :: render value ++ renderFields fields

end

/-- A line break and two spaces for each level. -/
def newline (level : Nat) : List Char := '\n' :: List.replicate (2 * level) ' '

mutual

/-- The value over several lines, where the line it begins on is indented by
`level` levels. -/
def renderIndented (level : Nat) : Json → List Char
  | .arr (item :: items) =>
    '[' :: newline (level + 1) ++ renderIndented (level + 1) item ++
      renderIndentedItems level items
  | .obj ((key, value) :: fields) =>
    '\x7b' :: newline (level + 1) ++ renderString key ++ ':' :: ' ' ::
      renderIndented (level + 1) value ++ renderIndentedFields level fields
  | .arr [] => ['[', ']']
  | .obj [] => ['\x7b', '\x7d']
  | .null => render .null
  | .bool b => render (.bool b)
  | .num n => renderNumber n
  | .str s => renderString s

/-- The items after the first, each on its line, up to the closing bracket. -/
def renderIndentedItems (level : Nat) : List Json → List Char
  | [] => newline level ++ [']']
  | item :: items =>
    ',' :: newline (level + 1) ++ renderIndented (level + 1) item ++
      renderIndentedItems level items

/-- The fields after the first, each on its line, up to the closing brace. -/
def renderIndentedFields (level : Nat) : List (String × Json) → List Char
  | [] => newline level ++ ['\x7d']
  | (key, value) :: fields =>
    ',' :: newline (level + 1) ++ renderString key ++ ':' :: ' ' ::
      renderIndented (level + 1) value ++ renderIndentedFields level fields

end

/-- The text of a value, without spaces. -/
def compress (j : Json) : String := String.ofList j.render

/-- The text of a value over several lines. -/
def pretty (j : Json) : String := String.ofList (renderIndented 0 j)

end Errand.Json
