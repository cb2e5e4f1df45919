import UpgradeGraph.Web.Domain

/-!
# Hosts

A host is an address of eight pieces in brackets, an address of four numbers, or the name
of a domain. Each is brought into one form.
-/

/-! ## Addresses of four numbers

An address of 32 bits is written as four numbers below 256, but read in many forms: with
fewer numbers, of which the last one counts for all places that are left, and with numbers
in octal (after a `0`) or hexadecimal (after `0x`). -/

namespace UpgradeGraph.Ipv4

/-- Reads a number in any of its three bases. `0x` alone is zero. -/
def number? : Text → Option Nat
  | [] => none
  | '0' :: 'x' :: digits => Text.digitsValue? 16 digits
  | '0' :: 'X' :: digits => Text.digitsValue? 16 digits
  | '0' :: digits => Text.digitsValue? 8 digits
  | digits => Text.digitsValue? 10 digits

/-- The numbers of an address as they are written; a dot at the end does not count. -/
def pieces (s : Text) : List Text :=
  let pieces := s.splitOn '.'
  if pieces.getLast? = some [] then pieces.dropLast else pieces

/-- Whether a host is meant to be an address: its last piece is a number, or would be one
if all its digits were allowed. -/
def isMeant (s : Text) : Bool :=
  (pieces s).getLast?.any fun last => Text.isNumeral last || (number? last).isSome

/-- Reads an address as a number of 32 bits. -/
def parse? (s : Text) : Option Nat := do
  let numbers ← (pieces s).mapM number?
  let last ← numbers.getLast?
  let others := numbers.dropLast
  let places := 4 - others.length
  if others.length ≤ 3 && others.all (· < 256) && last < Nat.pow 256 places then
    return others.foldl (256 * · + ·) 0 * Nat.pow 256 places + last
  else none

/-- An address as it is written. -/
def display (address : Nat) : Text :=
  ['.'].intercalate ([3, 2, 1, 0].map fun i => Text.ofNat (address / Nat.pow 256 i % 256))

end UpgradeGraph.Ipv4

/-! ## Addresses of eight pieces

An address of 128 bits is written as eight pieces of up to four hexadecimal digits with
colons between them. Two colons stand for pieces of zero that are left out, once in an
address; the last two pieces may be written as four decimal numbers instead. -/

namespace UpgradeGraph.Ipv6

/-! ### Reading -/

/-- Reads a piece. -/
def piece? (s : Text) : Option Nat :=
  if s.isEmpty || 4 < s.length then none else Text.digitsValue? 16 s

/-- Reads a decimal number below 256 without leading zeros. -/
def byte? (s : Text) : Option Nat :=
  if Text.isNumeral s && (s.length = 1 || s.head? ≠ some '0') && Text.numeralValue s < 256 then
    some (Text.numeralValue s)
  else none

/-- Reads the two pieces that four decimal numbers make. -/
def dottedPieces? (s : Text) : Option (List Nat) :=
  match (s.splitOn '.').mapM byte? with
  | some [a, b, c, d] => some [256 * a + b, 256 * c + d]
  | _ => none

/-- Reads pieces with colons between them; the last ones may be dotted. -/
def pieces? (mayBeDotted : Bool) : List Text → Option (List Nat)
  | [] => some []
  | [last] =>
    if mayBeDotted && last.contains '.' then dottedPieces? last else (piece? last).map ([·])
  | s :: rest => do return (← piece? s) :: (← pieces? mayBeDotted rest)

/-- The texts between colons; an empty text has none. -/
def between (s : Text) : List Text := if s.isEmpty then [] else s.splitOn ':'

/-- What stands before the first two colons in a row, and what behind them. -/
def gap? : Text → Option (Text × Text)
  | [] => none
  | ':' :: ':' :: rest => some ([], rest)
  | c :: rest => (gap? rest).map fun (before, after) => (c :: before, after)

/-- Reads the eight pieces of an address. A gap stands for one piece at least. -/
def parse? (s : Text) : Option (List Nat) := do
  match gap? s with
  | none =>
    let pieces ← pieces? true (between s)
    if pieces.length = 8 then return pieces else none
  | some (before, after) =>
    let before ← pieces? false (between before)
    let after ← pieces? true (between after)
    let given := before.length + after.length
    if given < 8 then return before ++ List.replicate (8 - given) 0 ++ after else none

/-! ### Writing -/

/-- The length of the run of zeros that begins a list. -/
def zeros (pieces : List Nat) : Nat := (pieces.takeWhile (· = 0)).length

/-- Where the longest run of zeros begins, the first one of these, and its length. -/
def longestZeros (pieces : List Nat) : Nat × Nat :=
  (List.range pieces.length).foldl (fun best i =>
    let length := zeros (pieces.drop i)
    if best.2 < length then (i, length) else best) (0, 0)

/-- Pieces with colons between them. -/
def displayPieces (pieces : List Nat) : Text :=
  [':'].intercalate (pieces.map (Nat.toDigits 16))

/-- An address as it is written: the longest run of at least two zeros is left out. -/
def display (pieces : List Nat) : Text :=
  let (start, length) := longestZeros pieces
  if length < 2 then displayPieces pieces
  else displayPieces (pieces.take start) ++ [':', ':'] ++
    displayPieces (pieces.drop (start + length))

end UpgradeGraph.Ipv6

/-! ## Hosts of all kinds -/

namespace UpgradeGraph.Host

/-- Reads what stands between brackets. -/
def bracketed? (s : Text) : Option Text := do
  return '[' :: Ipv6.display (← Ipv6.parse? s) ++ [']']

/-- Reads a name, which may be percent-encoded, or an address of four numbers. -/
def named? (s : Text) : Option Text := do
  let name ← Domain.ascii? (← Percent.decode? s)
  if name.isEmpty then none
  else if Ipv4.isMeant name then return Ipv4.display (← Ipv4.parse? name)
  else return name

/-- Reads a host. -/
def parse? (s : Text) : Option Text :=
  match s with
  | '[' :: rest => (Text.before? [']'] rest).bind bracketed?
  | _ => named? s

end UpgradeGraph.Host
