import UpgradeGraph.Text

/-!
# Version levels

A version is a row of levels between dots: `1.2.0-rc` has the levels `1`, `2` and
`0-rc`. A level is what its text says, so this file stores nothing but the text and
reads the rest off it: the part before the first mark (`-`, or else `+`) is its
qualifier, what follows is its tail, and a level is a number, a wildcard or a plain
word according to the qualifier.

Two orders are defined. `partialCompare` leaves two different wildcards without an
order; `totalCompare` lets all wildcards tie and puts them above everything else.
Numbers are compared digit by digit, whatever their length: without leading zeros,
the longer run of digits is the larger number.
-/

namespace UpgradeGraph

/-- One level of a version, given by its text. -/
structure Level where
  /-- The text between two dots. -/
  raw : Text
deriving DecidableEq, Repr

namespace Level

/-- The characters before the first `mark` and those after it. -/
def cutAt? (mark : Char) : Text → Option (Text × Text)
  | [] => none
  | c :: rest =>
    if c = mark then some ([], rest)
    else (cutAt? mark rest).map fun (before, behind) => (c :: before, behind)

/-- The level cut at its mark: qualifier, mark and tail. A hyphen anywhere counts
before a plus sign does. -/
def cut? (level : Level) : Option (Text × Char × Text) :=
  match cutAt? '-' level.raw with
  | some (qualifier, tail) => some (qualifier, '-', tail)
  | none => (cutAt? '+' level.raw).map fun (qualifier, tail) => (qualifier, '+', tail)

/-- What stands before the mark; all of the text if there is none. -/
def qualifier (level : Level) : Text :=
  match level.cut? with
  | some (qualifier, _, _) => qualifier
  | none => level.raw

/-- The mark between qualifier and tail. -/
def separator? (level : Level) : Option Char := level.cut?.map (·.2.1)

/-- What stands after the mark: a prerelease or build name. -/
def tail? (level : Level) : Option Text := level.cut?.map (·.2.2)

/-- The qualifier is a number. -/
def isNumeric (level : Level) : Bool := Text.isNumeral level.qualifier

/-- The level stands for any number. A tail changes nothing: `x-1` is a wildcard. -/
def isWildcard (level : Level) : Bool := level.qualifier = ['*'] || level.qualifier = ['x']

/-- Numbers from here on have no numeric value of their own. -/
def numberBound : Nat := Nat.pow 2 128

/-- The value of a numeric level, if it is below `numberBound`. -/
def number? (level : Level) : Option Nat :=
  if level.isNumeric && Text.numeralValue level.qualifier < numberBound then
    some (Text.numeralValue level.qualifier)
  else none

/-- The next number, which stays at the largest one below `numberBound`. -/
def bump (n : Nat) : Nat := min (n + 1) (numberBound - 1)

/-- The digits of a numeric level without leading zeros. They write a number of any
size, and of two such the longer one, or else the later in text order, is larger. -/
def digits (level : Level) : Text := level.qualifier.dropWhile (· = '0')

/-- The order of the tails of two levels with the same number: a tail is below none,
and of two levels without a tail the longer one, with more leading zeros, is below. -/
def compareTails (a b : Level) : Ordering :=
  match a.tail?, b.tail? with
  | some _, none => .lt
  | none, some _ => .gt
  | none, none => compare b.raw.length a.raw.length
  | some s, some t => compare s t

/-- The order of two numeric levels with the same number: by their tails, then by their
whole text. -/
def compareSameNumber (a b : Level) : Ordering :=
  (compareTails a b).then (compare a.raw b.raw)

/-- The order of two levels that are no wildcards: words below numbers, words by
their text, numbers by their value. -/
def compareConcrete (a b : Level) : Ordering :=
  match a.isNumeric, b.isNumeric with
  | false, false => compare a.raw b.raw
  | false, true => .lt
  | true, false => .gt
  | true, true =>
    ((compare a.digits.length b.digits.length).then (compare a.digits b.digits)).then
      (compareSameNumber a b)

/-- The order of all levels, in which wildcards tie and come last. -/
def totalCompare (a b : Level) : Ordering :=
  match a.isWildcard, b.isWildcard with
  | true, true => .eq
  | true, false => .gt
  | false, true => .lt
  | false, false => compareConcrete a b

/-- The order of levels as bounds: two different wildcards have none. -/
def partialCompare (a b : Level) : Option Ordering :=
  if a = b then some .eq
  else if a.isWildcard && b.isWildcard then none
  else some (totalCompare a b)

end Level

end UpgradeGraph
