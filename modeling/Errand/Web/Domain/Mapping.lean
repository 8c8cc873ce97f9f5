import Errand.Text.Table.Ranges
import Errand.Web.Domain.Table.Entry
import Errand.Web.Domain.Table.Mapping

/-!
# Mapping the characters of a domain name

Each character of a domain name stays, is replaced by others, goes, or is not
allowed. ASCII letters are replaced by their lower case, and the rest of ASCII
stays. `map?` does this for a whole name and has no result if one of the
characters is not allowed.

The characters and what becomes of them are the published mapping table of
Unicode's processing of domain names.
-/

namespace Errand.Domain

/-- The characters beyond ASCII that stay. -/
def stayingRanges : List (Nat × Nat) := Table.rangesOf Table.validRuns

/-- The characters beyond ASCII that are replaced, with the replacement for the
first of each run. -/
def replacements : List (Table.Entry (List Nat)) :=
  (Table.mapped.map fun (first, value) => ⟨first, 1, 1, value⟩) ++
    Table.mappedRuns.map fun (first, count, step, value) =>
      ⟨first, count, step, value⟩

/-- The character stays as it is. -/
def stays (c : Char) : Bool :=
  if c.toNat < 0x80 then c.toLower == c
  else Text.Table.inRanges c.toNat stayingRanges

/-- What stands for a character, if it is allowed. -/
def mapChar? (c : Char) : Option (List Char) :=
  if stays c then some [c]
  else if c.toNat < 0x80 then some [c.toLower]
  else (Table.valueAt? replacements c.toNat).map fun (targets, offset) =>
    targets.map fun n => Char.ofNat (n + offset)

/-- What stands for a whole name, if all its characters are allowed. -/
def map? (cs : List Char) : Option (List Char) :=
  (cs.mapM mapChar?).map List.flatten

end Errand.Domain
