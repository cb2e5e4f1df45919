import UpgradeGraph.Text

/-!
# JSON trees

What a JSON text says, before anything is asked of it. A tree keeps the digits of its
numbers and the escapes of its strings: a reader that skips a value wants the grammar
only, while a reader that takes a value also wants its numbers to fit a double, its
surrogates to come in pairs, and its containers not to nest too deep. `Tree.isReadable`
is that second, stricter question.
-/

namespace UpgradeGraph.Json

/-- A piece of a string: a character, or a UTF-16 code unit that was written in
hexadecimal. -/
inductive Piece where
  | char (c : Char)
  | unit (n : Nat)
deriving DecidableEq, Repr

/-- The digits of a number. -/
structure Numeral where
  negative : Bool
  whole : Text
  fraction : Option Text
  /-- Whether the exponent is negative, and its digits. -/
  exponent : Option (Bool × Text)
deriving DecidableEq, Repr

/-- A JSON value as it was written, members in order and repeated ones kept. -/
inductive Tree where
  | null
  | bool (b : Bool)
  | number (n : Numeral)
  | string (s : List Piece)
  | array (items : List Tree)
  | object (members : List (List Piece × Tree))

/-- The unit opens a surrogate pair. -/
def isHighSurrogate (n : Nat) : Bool := 0xD800 ≤ n && n ≤ 0xDBFF

/-- The unit closes a surrogate pair. -/
def isLowSurrogate (n : Nat) : Bool := 0xDC00 ≤ n && n ≤ 0xDFFF

/-- The characters of a string; none if a surrogate stands alone. -/
def characters? : List Piece → Option Text
  | [] => some []
  | .char c :: rest => (characters? rest).map (c :: ·)
  | .unit n :: rest =>
    if isHighSurrogate n then
      match rest with
      | .unit m :: rest =>
        if isLowSurrogate m then
          (characters? rest).map (Char.ofNat (0x10000 + (n - 0xD800) * 0x400 + (m - 0xDC00)) :: ·)
        else none
      | _ => none
    else if isLowSurrogate n then none
    else (characters? rest).map (Char.ofNat n :: ·)

namespace Numeral

/-- The first digits of a numeral, as many as fit 64 bits, and how many of the remaining
digits of its whole part were left out. The digits left out of the fraction do not
count. -/
def leading (n : Numeral) : Nat × Int :=
  let fits (m : Nat) (c : Char) : Bool := 10 * m + (c.toNat - '0'.toNat) < Nat.pow 2 64
  let rec whole (m : Nat) : Text → Nat × Int
    | [] => (m, 0)
    | c :: rest =>
      if fits m c then whole (10 * m + (c.toNat - '0'.toNat)) rest
      else (m, (rest.length : Int) + 1)
  let rec fraction (m : Nat) (e : Int) : Text → Nat × Int
    | [] => (m, e)
    | c :: rest =>
      if fits m c then fraction (10 * m + (c.toNat - '0'.toNat)) (e - 1) rest else (m, e)
  let (m, e) := whole 0 n.whole
  fraction m e (n.fraction.getD [])

/-- A natural number with all but its first 53 bits rounded off, to the nearest and on a
tie to the even one. -/
def round53 (m : Nat) : Nat :=
  let excess := (Nat.log2 m + 1) - 53
  let unit := Nat.pow 2 excess
  let (q, r) := (m / unit, m % unit)
  let up := 2 * r > unit || (2 * r = unit && q % 2 = 1)
  (if up then q + 1 else q) * unit

/-- The numeral fits a finite double. Its leading digits and the power of ten are each
rounded to a double and then multiplied; what rounds to infinity does not fit. -/
def isFinite (n : Numeral) : Bool :=
  let (digits, shift) := n.leading
  let exponent : Int :=
    match n.exponent with
    | some (true, e) => shift - Text.numeralValue e
    | some (false, e) => shift + Text.numeralValue e
    | none => shift
  digits = 0 || exponent ≤ 0 ||
    (exponent ≤ 308 &&
      round53 digits * round53 (Nat.pow 10 exponent.toNat) < Nat.pow 2 1024 - Nat.pow 2 970)

/-- The value of a numeral that is a whole number below `bound`, without a sign, fraction
or exponent. -/
def natural? (bound : Nat) (n : Numeral) : Option Nat :=
  if n.negative || n.fraction.isSome || n.exponent.isSome then none
  else
    let value := Text.numeralValue n.whole
    if value < bound then some value else none

/-- The value of a numeral that is a whole number, without a fraction or exponent. -/
def integer? (n : Numeral) : Option Int :=
  if n.fraction.isSome || n.exponent.isSome then none
  else
    let value : Int := Text.numeralValue n.whole
    some (if n.negative then -value else value)

end Numeral

mutual

/-- The tree can be taken as a value, with at most `depth` containers inside one
another. -/
def Tree.isReadable (depth : Nat) : Tree → Bool
  | .null => true
  | .bool _ => true
  | .number n => n.isFinite
  | .string s => (characters? s).isSome
  | .array items => 0 < depth && areReadable (depth - 1) items
  | .object members => 0 < depth && membersReadable (depth - 1) members

/-- Every item can be taken as a value. -/
def areReadable (depth : Nat) : List Tree → Bool
  | [] => true
  | item :: rest => item.isReadable depth && areReadable depth rest

/-- Every member can be taken, its key included. -/
def membersReadable (depth : Nat) : List (List Piece × Tree) → Bool
  | [] => true
  | (key, value) :: rest =>
    (characters? key).isSome && value.isReadable depth && membersReadable depth rest

end

end UpgradeGraph.Json
