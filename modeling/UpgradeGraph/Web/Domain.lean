import UpgradeGraph.Web.Domain.Direction
import UpgradeGraph.Web.Domain.Joining
import UpgradeGraph.Web.Domain.MappingTable
import UpgradeGraph.Web.Domain.Punycode

/-!
# Domain names

A domain name may be written in any script and with any capitals, but is looked up in one
form, in ASCII: its characters are replaced by what they stand for, its labels are composed
and checked, and a label that is not ASCII is written in Punycode, with `xn--` before it. A
label that comes in that form already is read, checked like any other, and stays.
-/

namespace UpgradeGraph.Domain

/-- What begins a label in Punycode. -/
def mark : Text := "xn--"

/-- What a character stands for, if it may stand in a domain name. -/
def standsFor? (c : Char) : Option Text :=
  if standing.has c then some [c]
  else if traceless.has c then some []
  else replaced.get? c

/-- The text is ASCII. -/
def isAscii (s : Text) : Bool := s.all (·.toNat < 0x80)

/-- A label that may be part of a domain name, as far as it can be judged alone. -/
def isLabel (label : Text) : Bool :=
  label.all standing.has && Text.composed label = label && !label.head?.any marks.has &&
    joinersFit [] label

/-- Reads a label. There is Punycode only for what needs it. -/
def readLabel? (label : Text) : Option Text := do
  let isEncoded := Text.startsWith mark label
  let label ← if isEncoded then Punycode.decode? (label.drop mark.length) else some label
  if isEncoded && (isAscii label || Text.startsWith mark label) then none
  else if isLabel label then return label
  else none

/-- A label in ASCII. -/
def writeLabel (label : Text) : Text :=
  if isAscii label then label else mark ++ Punycode.encode label

/-- Characters that no domain name has. -/
def isForbidden (c : Char) : Bool :=
  c.toNat ≤ 0x20 || c.toNat = 0x7F || "#/:<>?@[\\]^|%".toList.contains c

/-- The labels go in one direction each, if any of them goes from right to left. -/
def directionsFit (labels : List Text) : Bool :=
  !labels.any (·.any isFromRight) || labels.all goesOneWay

/-- The labels of a domain name. -/
def labels? (s : Text) : Option (List Text) := do
  let meant ← s.mapM standsFor?
  let labels ← ((Text.composed meant.flatten).splitOn '.').mapM readLabel?
  if directionsFit labels then return labels else none

/-- A domain name in ASCII. -/
def ascii? (s : Text) : Option Text := do
  let name := ['.'].intercalate ((← labels? s).map writeLabel)
  if name.any isForbidden then none else return name

end UpgradeGraph.Domain
