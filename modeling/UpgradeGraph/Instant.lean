import UpgradeGraph.Text

/-!
# Instants

When a release was published, as a registry says it: a date and a time of day with an
offset from universal time, such as `2021-06-08T03:18:45.57+00:00`. `Instant.parse?`
counts from it the seconds since 1970-01-01T00:00:00Z.

Digits beyond nanoseconds are cut off. A minute may have a second 60, which is kept as
second 59 with a thousand million nanoseconds more.
-/

namespace UpgradeGraph

/-- A moment, by the seconds since the epoch and the nanoseconds that follow. -/
structure Instant where
  seconds : Int
  nanos : Nat
deriving DecidableEq, Repr

namespace Instant

/-- Milliseconds since the epoch; what is left of a millisecond is cut off. -/
def millis (t : Instant) : Int := t.seconds * 1000 + t.nanos / 1000000

/-- The moment with a number of milliseconds since the epoch. -/
def ofMillis (millis : Int) : Instant := ⟨millis / 1000, (millis % 1000).toNat * 1000000⟩

theorem millis_ofMillis (n : Int) : (ofMillis n).millis = n := by
  simp only [ofMillis, millis]
  omega

/-! ## Dates -/

/-- A year with a 29 February. -/
def isLeapYear (year : Nat) : Bool := year % 4 = 0 && (year % 100 ≠ 0 || year % 400 = 0)

/-- How many days a month has. -/
def daysInMonth (year month : Nat) : Nat :=
  if month = 2 then if isLeapYear year then 29 else 28
  else if [4, 6, 9, 11].contains month then 30
  else 31

/-- How many days the years before a year have, counted from year 0. -/
def daysBeforeYear (year : Nat) : Nat :=
  365 * year + (year + 3) / 4 - (year + 99) / 100 + (year + 399) / 400

/-- How many days of a year come before a month. -/
def daysBeforeMonth (year month : Nat) : Nat :=
  (List.range' 1 (month - 1)).foldl (fun days m => days + daysInMonth year m) 0

/-- The days from the epoch to a date. -/
def daysSinceEpoch (year month day : Nat) : Int :=
  ((daysBeforeYear year + daysBeforeMonth year month + day : Nat) : Int) -
    (daysBeforeYear 1970 + 1 : Nat)

/-! ## Reading -/

/-- A number of exactly so many digits, and what follows it. -/
def digits? (count : Nat) (s : Text) : Option (Nat × Text) :=
  let head := s.take count
  if head.length = count && head.all Char.isDigit then
    some (Text.numeralValue head, s.drop count)
  else none

/-- What follows a character that has to be there. -/
def skip? (c : Char) : Text → Option Text
  | [] => none
  | d :: rest => if d = c then some rest else none

/-- A date, and what follows it. -/
def date? (s : Text) : Option (Int × Text) := do
  let (year, s) ← digits? 4 s
  let s ← skip? '-' s
  let (month, s) ← digits? 2 s
  let s ← skip? '-' s
  let (day, s) ← digits? 2 s
  if 1 ≤ month && month ≤ 12 && 1 ≤ day && day ≤ daysInMonth year month then
    return (daysSinceEpoch year month day, s)
  else none

/-- Nanoseconds after a decimal point; nothing if there is no point. -/
def fraction? : Text → Option (Nat × Text)
  | '.' :: s =>
    let digits := s.takeWhile Char.isDigit
    if digits.isEmpty then none
    else
      let kept := digits.take 9
      some (Text.numeralValue kept * Nat.pow 10 (9 - kept.length), s.dropWhile Char.isDigit)
  | s => some (0, s)

/-- The seconds and nanoseconds of a day, and what follows. -/
def timeOfDay? (s : Text) : Option ((Nat × Nat) × Text) := do
  let (hour, s) ← digits? 2 s
  let s ← skip? ':' s
  let (minute, s) ← digits? 2 s
  let s ← skip? ':' s
  let (second, s) ← digits? 2 s
  let (nanos, s) ← fraction? s
  if hour ≤ 23 && minute ≤ 59 && second ≤ 60 then
    let seconds := hour * 3600 + minute * 60 + min second 59
    return ((seconds, if second = 60 then nanos + 1000000000 else nanos), s)
  else none

/-- The sign of an offset: a plus, a hyphen or a minus sign. -/
def sign? : Text → Option (Int × Text)
  | [] => none
  | c :: rest =>
    if c = '+' then some (1, rest)
    else if c = '-' || c.toNat = 0x2212 then some (-1, rest)
    else none

/-- The offset from universal time in seconds, with nothing after it. -/
def offset? (s : Text) : Option Int :=
  if s = ['Z'] || s = ['z'] then some 0
  else do
    let (sign, s) ← sign? s
    let (hours, s) ← digits? 2 s
    let s ← skip? ':' s
    let (minutes, s) ← digits? 2 s
    if hours ≤ 23 && minutes ≤ 59 && s.isEmpty then
      return sign * ((hours * 3600 + minutes * 60 : Nat) : Int)
    else none

/-- Reads a date, a `T` or a blank, a time of day and an offset. -/
def parse? (s : Text) : Option Instant := do
  let (days, s) ← date? s
  let s ← match s with
    | 'T' :: s => some s
    | 't' :: s => some s
    | ' ' :: s => some s
    | _ => none
  let ((seconds, nanos), s) ← timeOfDay? s
  let offset ← offset? s
  return ⟨days * 86400 + seconds - offset, nanos⟩

end Instant

end UpgradeGraph
