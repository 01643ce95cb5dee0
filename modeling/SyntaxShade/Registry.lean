import SyntaxShade.Builtin
import SyntaxShade.Text.Case
/-! Registries of languages by lower-case name, starting from `universal`, `shell` and `bash`. -/
namespace SyntaxShade

/-- Names in lower case, each with its language, latest first; no name appears twice. -/
structure Registry where
  entries : List (Bytes × Language)

namespace Registry

def builtin : Registry :=
  ⟨[(Bytes.ofString "universal", Builtin.universal), (Bytes.ofString "shell", Builtin.shell),
    (Bytes.ofString "bash", Builtin.shell)]⟩

/-- Puts a language under a name, replacing the one under its lower-case form. -/
def register (r : Registry) (name : Bytes) (lang : Language) : Registry :=
  let key := name.toLower
  ⟨(key, lang) :: r.entries.filter (·.1 != key)⟩

/-- The language under a name's lower-case form. -/
def find? (r : Registry) (name : Bytes) : Option Language := r.entries.lookup name.toLower

/-- The names, sorted bytewise. -/
def names (r : Registry) : List Bytes :=
  (r.entries.map (·.1)).mergeSort fun a b => decide (a ≤ b)

end Registry

end SyntaxShade
