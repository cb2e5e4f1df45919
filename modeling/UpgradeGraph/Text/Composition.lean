import UpgradeGraph.Text.CompositionTable

/-!
# Composed texts

An accented letter can be written as one character or as a letter and marks after it, and
marks on one letter in any order. `composed` gives the one form of a text in which all is
composed that can be (Normalization Form C of Unicode): everything is taken apart, the
marks on each letter are put in order, and letters and marks are put together again.
-/

namespace UpgradeGraph.Text

/-! ## Hangul syllables -/

/-- Where the syllables start. -/
def syllables : Nat := 0xAC00

/-- Where the leading consonants start, of which there are 19. -/
def leads : Nat := 0x1100

/-- Where the vowels start, of which there are 21. -/
def vowels : Nat := 0x1161

/-- What comes before the 27 trailing consonants. -/
def tails : Nat := 0x11A7

/-- How many syllables there are, with a trailing consonant and without. -/
def syllableCount : Nat := 19 * 21 * 28

/-- The letters of a syllable: a leading consonant, a vowel, and perhaps a trailing
consonant. -/
def syllableLetters? (c : Char) : Option Text :=
  let i := c.toNat - syllables
  if syllables ≤ c.toNat && i < syllableCount then
    let trailing := if i % 28 = 0 then [] else [tails + i % 28]
    some (([leads + i / (21 * 28), vowels + i / 28 % 21] ++ trailing).map Char.ofNat)
  else none

/-- The syllable that a consonant and a vowel make, or a syllable and a trailing consonant. -/
def syllable? (a b : Char) : Option Char :=
  let lead := a.toNat - leads
  let vowel := b.toNat - vowels
  let opened := a.toNat - syllables
  let tail := b.toNat - tails
  if leads ≤ a.toNat && lead < 19 && vowels ≤ b.toNat && vowel < 21 then
    some (Char.ofNat (syllables + (lead * 21 + vowel) * 28))
  else if syllables ≤ a.toNat && opened < syllableCount && opened % 28 = 0 &&
      tails < b.toNat && tail < 28 then
    some (Char.ofNat (a.toNat + tail))
  else none

/-! ## Taking apart -/

/-- Takes a character apart, in at most so many steps. -/
def partsWithin : (steps : Nat) → Char → Text
  | 0, c => [c]
  | steps + 1, c =>
    match composites.get? c with
    | some (first :: rest) => partsWithin steps first ++ rest
    | _ => ((standIns.get? c).or (syllableLetters? c)).getD [c]

/-- Takes a character apart. No character is composed in more than three steps. -/
def parts (c : Char) : Text := partsWithin 4 c

/-! ## Marks in order -/

/-- The class of a mark; what is no mark, and a mark that keeps its place, has class 0. -/
def markClass (c : Char) : Nat := ((markClasses.find? (·.2.has c)).map Prod.fst).getD 0

/-- Puts a character behind others, which are given last one first; a mark goes before
marks of higher classes. -/
def putMark (c : Char) : Text → Text
  | [] => [c]
  | d :: before =>
    if 0 < markClass c && markClass c < markClass d then d :: putMark c before
    else c :: d :: before

/-- Puts the marks on each letter in order. -/
def inMarkOrder (s : Text) : Text := (s.foldl (fun before c => putMark c before) []).reverse

/-! ## Putting together -/

/-- The character that two others make. -/
def pair? (a b : Char) : Option Char :=
  ((composites.find? (·.2 = [a.toNat, b.toNat])).map fun entry => Char.ofNat entry.1.first).or
    (syllable? a b)

/-- Puts together a character, the marks on it that have been passed over, last one first,
and what follows. A mark that has one of its own class or a higher one before it stays. -/
def join (c : Char) (marks : Text) : Text → Text
  | [] => c :: marks.reverse
  | d :: rest =>
    let free := match marks with
      | [] => true
      | mark :: _ => markClass mark < markClass d
    match (if free then pair? c d else none) with
    | some c => join c marks rest
    | none =>
      if markClass d = 0 then c :: marks.reverse ++ join d [] rest
      else join c (d :: marks) rest

/-- The text in its composed form. -/
def composed (s : Text) : Text :=
  match inMarkOrder (s.flatMap parts) with
  | [] => []
  | c :: rest => join c [] rest

end UpgradeGraph.Text
