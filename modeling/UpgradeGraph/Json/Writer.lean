import UpgradeGraph.Text

/-!
# Writing JSON

Payloads are stored as compact JSON: no blanks between tokens, and in strings only the
quote, the backslash and the control characters escaped.
-/

namespace UpgradeGraph.Json

/-- A hexadecimal digit in lower case. -/
def hexChar (n : Nat) : Char := Nat.digitChar n

/-- A character of a string as it is written. -/
def escapeChar (c : Char) : Text :=
  if c = '"' then ['\\', '"']
  else if c = '\\' then ['\\', '\\']
  else if c = Char.ofNat 8 then ['\\', 'b']
  else if c = Char.ofNat 12 then ['\\', 'f']
  else if c = '\n' then ['\\', 'n']
  else if c = '\r' then ['\\', 'r']
  else if c = '\t' then ['\\', 't']
  else if c.toNat < 0x20 then
    ['\\', 'u', '0', '0', hexChar (c.toNat / 16), hexChar (c.toNat % 16)]
  else [c]

/-- A string in quotes. -/
def writeString (s : Text) : Text := '"' :: s.flatMap escapeChar ++ ['"']

/-- A whole number. -/
def writeInt (n : Int) : Text :=
  if n < 0 then '-' :: Text.ofNat n.natAbs else Text.ofNat n.natAbs

/-- Whether or not. -/
def writeBool (b : Bool) : Text := if b then "true" else "false"

/-- Written items in square brackets. -/
def writeArray (items : List Text) : Text := '[' :: [','].intercalate items ++ [']']

/-- Written members in curly brackets. -/
def writeObject (members : List (Text × Text)) : Text :=
  '{' :: [','].intercalate (members.map fun (key, value) => writeString key ++ ':' :: value) ++
    ['}']

end UpgradeGraph.Json
