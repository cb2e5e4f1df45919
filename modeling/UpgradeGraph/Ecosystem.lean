import UpgradeGraph.Text

/-!
# Ecosystems

Packages and ranges belong to the ecosystem of the registry that they came from. Two
ecosystems can be selected by name; `unknown` marks what came from neither and is
never a valid selection.
-/

namespace UpgradeGraph

/-- Where a package or a range comes from. -/
inductive Ecosystem where
  /-- From no registry that has a parser. -/
  | unknown
  /-- The npm registry. -/
  | npm
  /-- The NuGet gallery. -/
  | nuget
deriving DecidableEq, Repr

/-- A name that selects no ecosystem. -/
structure UnknownEcosystem where
  /-- The name as it was given. -/
  label : Text
deriving DecidableEq, Repr

/-- The wording of the error. -/
def UnknownEcosystem.message (e : UnknownEcosystem) : Text :=
  ("Unknown ecosystem label: " : Text) ++ e.label

namespace Ecosystem

/-- The name of an ecosystem. -/
def label : Ecosystem → Text
  | unknown => "unknown"
  | npm => "npm"
  | nuget => "nuget"

/-- Selects an ecosystem by name, whatever the case of its letters and the blanks
around it. -/
def parse (name : Text) : Except UnknownEcosystem Ecosystem :=
  let key := (Text.trim name).map Char.toLower
  if key = npm.label then .ok npm
  else if key = nuget.label then .ok nuget
  else .error ⟨name⟩

end Ecosystem

end UpgradeGraph
