import Errand.Web.Domain.Label
import Errand.Web.Percent

/-!
# Domain names

`Domain.toAscii?` is the one ASCII form of a domain name that may be written in
any script, in any case and percent-encoded. The name is decoded, its
characters are mapped and composed, and its labels are checked and, where they
are not ASCII, written as codes. Labels may be empty.

This is the step from a domain to ASCII in the host parser of the URL standard.
It is Unicode's processing of domain names in the form that the standard asks
for: deviating characters stay, joiners and directions are checked, and
hyphens, lengths and empty labels are not. So no label and no name is too long,
and no code is.
-/

namespace Errand.Domain

/-- The characters that no domain name may hold. -/
def isForbidden (c : Char) : Bool :=
  c.toNat ≤ 0x20 || c.toNat = 0x7F || "%#/:<>?@[\\]^|".toList.contains c

/-- The labels of a name, as text. Where one runs from right to left, all run
one way. -/
def labels? (name : List Char) : Option (List (List Char)) := do
  let mapped ← map? name
  let labels ← (Chars.splitOn ['.'] (composed mapped)).mapM Label.toUnicode?
  if labels.any (·.any turnsName) && !labels.all runsOneWay then none
  else some labels

/-- The ASCII form of a domain name that is given percent-encoded and in
Unicode. -/
def toAscii? (cs : List Char) : Option (List Char) := do
  let name ← Percent.decode? (String.ofList cs)
  let labels ← labels? name.toList
  let ascii := ['.'].intercalate (labels.map Label.toAscii)
  if ascii.any isForbidden then none else some ascii

end Errand.Domain
