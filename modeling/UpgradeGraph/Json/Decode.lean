import UpgradeGraph.Entries
import UpgradeGraph.Json.Reader

/-!
# Taking values out of JSON

A decoder says what it wants of a tree; what it does not want is never looked at. So the
value of a member that a record does not know may be any JSON at all, while its key has
to be a proper string, since only then can it be told from the others. A record may be
written as an object, whose members are found by name, or as an array, whose items are
the fields in their order.

Containers may be nested 127 deep; each decoder of a container spends one of these.
-/

namespace UpgradeGraph.Json

/-- How many containers may stand inside one another. -/
def maxDepth : Nat := 127

/-- Takes a value out of a tree, with the given number of containers left to enter. -/
abbrev Decoder (α : Type) := (depth : Nat) → Tree → Option α

namespace Decoder

variable {α : Type}

/-- A string. -/
def text : Decoder Text := fun _ tree =>
  match tree with
  | .string s => characters? s
  | _ => none

/-- Whether or not. -/
def bool : Decoder Bool := fun _ tree =>
  match tree with
  | .bool b => some b
  | _ => none

/-- A whole number below a bound. -/
def natural (bound : Nat) : Decoder Nat := fun _ tree =>
  match tree with
  | .number n => n.natural? bound
  | _ => none

/-- A whole number with or without a sign. -/
def integer : Decoder Int := fun _ tree =>
  match tree with
  | .number n => n.integer?
  | _ => none

/-- A value or null. -/
def nullable (decode : Decoder α) : Decoder (Option α) := fun depth tree =>
  match tree with
  | .null => some none
  | _ => (decode depth tree).map some

/-- Any value, taken in full. -/
def any : Decoder Tree := fun depth tree => if tree.isReadable depth then some tree else none

/-- An array of values. -/
def list (decode : Decoder α) : Decoder (List α) := fun depth tree =>
  match tree with
  | .array items => if depth = 0 then none else items.mapM (decode (depth - 1))
  | _ => none

/-- An object of values under any keys. -/
def entries (decode : Decoder α) : Decoder (Entries α) := fun depth tree =>
  match tree with
  | .object members =>
    if depth = 0 then none
    else do
      let pairs ← members.mapM fun (key, value) => do
        return ((← characters? key), (← decode (depth - 1) value))
      return Entries.ofList pairs
  | _ => none

end Decoder

/-- The fields of a record that were found, in the order of their names, and the depth
that is left for their values. -/
structure Fields where
  /-- The record was written as an object. -/
  byName : Bool
  values : List (Option Tree)
  depth : Nat

namespace Fields

variable {α : Type}

/-- The value of a field among the members of an object. A field may not come twice. -/
def pick (members : List (Text × Tree)) (name : Text) : Option (Option Tree) :=
  match members.filter (·.1 = name) with
  | [] => some none
  | [(_, value)] => some (some value)
  | _ => none

/-- The fields with the given names. -/
def ofTree (names : List Text) (depth : Nat) (tree : Tree) : Option Fields :=
  if depth = 0 then none
  else
    match tree with
    | .object members => do
      let members ← members.mapM fun (key, value) => do return ((← characters? key), value)
      return ⟨true, ← names.mapM (pick members), depth - 1⟩
    | .array items =>
      if items.length ≤ names.length then some ⟨false, items.map some, depth - 1⟩ else none
    | _ => none

/-- A field that has to be there. -/
def required (fields : Fields) (i : Nat) (decode : Decoder α) : Option α :=
  match fields.values[i]? with
  | some (some tree) => decode fields.depth tree
  | _ => none

/-- A field with a value of its own if it is left out. -/
def withDefault (fields : Fields) (i : Nat) (decode : Decoder α) (default : α) : Option α :=
  match fields.values[i]? with
  | some (some tree) => decode fields.depth tree
  | _ => some default

/-- A field that may be null, or left out of an object; an array has to hold its place. -/
def optional (fields : Fields) (i : Nat) (decode : Decoder α) : Option (Option α) :=
  match fields.values[i]? with
  | some (some tree) => (decode.nullable) fields.depth tree
  | _ => if fields.byName then some none else none

end Fields

/-- A record with the given field names. -/
def Decoder.record {α : Type} (names : List Text) (build : Fields → Option α) : Decoder α :=
  fun depth tree => (Fields.ofTree names depth tree).bind build

/-- Reads a text as one JSON value and takes what the decoder wants. -/
def decode {α : Type} (decoder : Decoder α) (s : Text) : Option α :=
  (parse s).bind (decoder maxDepth)

end UpgradeGraph.Json
