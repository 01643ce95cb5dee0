import SyntaxShade.Pattern.Class
import SyntaxShade.Text.Utf8
/-! The names of `\p{Name}`, looked up loosely among `Any`, `Assigned`, `ASCII`, the general
categories and the scripts. -/
namespace SyntaxShade.Pattern

/-- The form a class name is compared in: its bytes `_`, `-` and space dropped, the first of the
others in upper case and the rest in lower case. -/
def canonicalName (name : Bytes) : Bytes := go name true
where
  /-- Writes the rest of a name, where `first` holds while no byte has been kept. -/
  go : Bytes → Bool → Bytes
    | [], _ => []
    | c :: cs, first =>
      if c == 0x5F || c == 0x2D || c == 0x20 then go cs first
      else if first then (if 0x61 ≤ c && c ≤ 0x7A then c - 0x20 else c) :: go cs false
      else (if 0x41 ≤ c && c ≤ 0x5A then c + 0x20 else c) :: go cs false

/-- The short names of the general categories and of their unions. -/
def categoryShortNames : List String :=
  Unicode.categoryNames ++ ["L", "LC", "M", "N", "P", "S", "Z", "C"]

/-- The item a general category's short name stands for, its complement when `negated` is set. -/
def categoryItem? (negated : Bool) (short : String) : Option Item :=
  (Unicode.categoryGroup? short).map fun cs => .group (.categories cs) negated (short != "LC")

/-- The item `\p{name}` stands for, its complement when `negated` is set; none for a name that
is not known. -/
def unicodeClass? (negated : Bool) (name : Bytes) : Option Item :=
  let key := canonicalName name
  let names (known : String) : Bool := canonicalName (Bytes.ofString known) == key
  if names "Any" then some (.group .any negated true)
  else if names "Assigned" then some (.group (.categories [Unicode.unassigned]) (!negated) false)
  else if names "ASCII" then some (.group (.ranges [(0, 0x7F)]) negated true)
  else
    match categoryShortNames.find? names with
    | some short => categoryItem? negated short
    | none =>
      match Unicode.scriptNames.findIdx? names with
      | some i => some (.group (.script i) negated true)
      | none => (Unicode.categoryAliases.find? (names ·.1)).bind (categoryItem? negated ·.2)

end SyntaxShade.Pattern
