import UpgradeGraph.Text

/-!
# Punycode

The way in which a label of a domain name is written in ASCII. The ASCII characters of the
label come first; then, after a hyphen, follows a row of numbers that says which characters
are to be put in and where. The characters are put in by ascending code point, and each
number is how far one has to go from the last insertion to the next one, counted through
all places of the label for one code point after another.

Numbers are written in base 36, lowest digit first. Each place has a threshold; a digit
below it is the last one. The thresholds adapt to the size of the numbers seen so far.
-/

namespace UpgradeGraph.Punycode

/-! ## Numbers -/

/-- A digit as it is written. -/
def digit (n : Nat) : Char := Char.ofNat (if n < 26 then 'a'.toNat + n else '0'.toNat + (n - 26))

/-- The value of a digit. -/
def digit? (c : Char) : Option Nat :=
  if '0' ≤ c && c ≤ '9' then some (c.toNat - '0'.toNat + 26)
  else (Text.digit? 36 c).map (· - 10)

/-- The threshold of a place, of which the lowest is place 36 and each further one 36 more. -/
def threshold (bias place : Nat) : Nat := min 26 (max 1 (place - bias))

theorem one_le_threshold (bias place : Nat) : 1 ≤ threshold bias place := by
  simp only [threshold]
  omega

theorem threshold_le (bias place : Nat) : threshold bias place ≤ 26 := by
  simp only [threshold]
  omega

/-- The digits of a number, from a place on. -/
def writeNumber (bias place n : Nat) : Text :=
  let t := threshold bias place
  if n < t then [digit n]
  else digit (t + (n - t) % (36 - t)) :: writeNumber bias (place + 36) ((n - t) / (36 - t))
termination_by n
decreasing_by
  have h := one_le_threshold bias place
  exact Nat.lt_of_le_of_lt (Nat.div_le_self _ _) (by omega)

/-- Reads a number whose digits from a place on count `weight` times; with what follows
it. -/
def readNumber? (bias place weight : Nat) : Text → Option (Nat × Text)
  | [] => none
  | c :: rest => do
    let n ← digit? c
    let t := threshold bias place
    if n < t then return (n * weight, rest)
    let (more, rest) ← readNumber? bias (place + 36) (weight * (36 - t)) rest
    return (n * weight + more, rest)

theorem length_of_readNumber? {bias place weight n : Nat} {s rest : Text}
    (h : readNumber? bias place weight s = some (n, rest)) : rest.length < s.length := by
  induction s generalizing place weight n with
  | nil => simp [readNumber?] at h
  | cons c s ih =>
    simp only [readNumber?, Option.bind_eq_bind, Option.bind_eq_some_iff] at h
    obtain ⟨d, -, h⟩ := h
    split at h
    · simp only [Option.pure_def, Option.some.injEq, Prod.mk.injEq] at h
      simp [← h.2]
    · obtain ⟨⟨more, r⟩, hr, h⟩ := Option.bind_eq_some_iff.1 h
      simp only [Option.pure_def, Option.some.injEq, Prod.mk.injEq] at h
      obtain ⟨-, rfl⟩ := h
      exact Nat.lt_succ_of_lt (ih hr)

/-! ## Adaptation -/

/-- Shrinks a number until it is small, and counts the places that this takes. -/
def shrink (n places : Nat) : Nat × Nat :=
  if 455 < n then shrink (n / 35) (places + 36) else (n, places)
termination_by n
decreasing_by omega

/-- The bias after a number, with so many characters in the label then. -/
def adapt (isFirst : Bool) (n characters : Nat) : Nat :=
  let n := if isFirst then n / 700 else n / 2
  let (n, places) := shrink (n + n / characters) 0
  places + 36 * n / (n + 38)

/-! ## Writing -/

/-- A label half written: what has been written of the numbers, the bias, how many
characters have been put in, and how far it is from the last insertion. -/
structure Progress where
  written : Text := []
  bias : Nat := 72
  count : Nat
  distance : Nat := 0

/-- Passes a place of the label on the way of a code point. -/
def pass (code ascii : Nat) (p : Progress) (c : Char) : Progress :=
  if c.toNat < code then { p with distance := p.distance + 1 }
  else if c.toNat = code then
    { written := p.written ++ writeNumber p.bias 36 p.distance
      bias := adapt (p.count = ascii) p.distance (p.count + 1)
      count := p.count + 1 }
  else p

/-- Puts in the characters with some code points, the last of which was `code`. -/
def putIn (label : Text) (ascii : Nat) : (codes : List Nat) → (code : Nat) → Progress → Progress
  | [], _, p => p
  | next :: codes, code, p =>
    let p := { p with distance := p.distance + (next - code) * (p.count + 1) }
    let p := label.foldl (pass next ascii) p
    putIn label ascii codes (next + 1) { p with distance := p.distance + 1 }

/-- The code points beyond ASCII in a label, each once and in ascending order. -/
def codesBeyond (label : Text) : List Nat :=
  ((label.map Char.toNat).filter (0x80 ≤ ·)).eraseDups.mergeSort

/-- A label in ASCII. -/
def encode (label : Text) : Text :=
  let ascii := label.filter (·.toNat < 0x80)
  let p := putIn label ascii.length (codesBeyond label) 0x80 { count := ascii.length }
  (if ascii.isEmpty then [] else ascii ++ ['-']) ++ p.written

/-! ## Reading -/

/-- Follows the numbers: puts in one character after another. The way goes on from a code
point and a place in the label. -/
def follow? (label : Text) (code place bias : Nat) (isFirst : Bool) (s : Text) : Option Text :=
  if s.isEmpty then some label
  else
    match h : readNumber? bias 36 1 s with
    | none => none
    | some (n, rest) =>
      have := length_of_readNumber? h
      let places := label.length + 1
      let code := code + (place + n) / places
      let place := (place + n) % places
      if code.isValidChar then
        follow? (label.insertIdx place (Char.ofNat code)) code (place + 1)
          (adapt isFirst n places) false rest
      else none
termination_by s.length

/-- Reads a label in ASCII. A hyphen that has no characters before it is not called for. -/
def decode? (s : Text) : Option Text :=
  let numbers := (s.reverse.takeWhile (· ≠ '-')).reverse
  let ascii := s.take (s.length - numbers.length)
  if ascii = ['-'] || s.any (0x80 ≤ ·.toNat) then none
  else follow? ascii.dropLast 0x80 0 72 true numbers

end UpgradeGraph.Punycode
