/-!
# Texts

Versions, ranges, coordinates and payloads are read character by character, so a
text is the list of its characters and a rule about texts is a recursion on a
list. Texts compare by code point, which is what `compare` on lists of characters
does.

Besides cutting known ends off a text, this file holds the readings of numbers that the
library uses: `numeralValue`, the number that a run of decimal digits writes,
`unsigned?`, a whole number that has to fit a given width, and `digitsValue?`, a number
in another base. Ranges and payloads may stand between blanks: `trim` takes them off both
ends of a text and `words` cuts a text into the runs between them. `Percent` writes a text
so that it can stand in a part of an address.
-/

namespace UpgradeGraph

/-- A text, as the list of its characters. -/
abbrev Text := List Char

namespace Text

/-- Fixed wording is written as a string literal. -/
instance : Coe String Text := ⟨String.toList⟩

/-- What follows `head`, if the text starts with it. -/
def after? : (head : Text) → Text → Option Text
  | [], s => some s
  | _ :: _, [] => none
  | h :: head, c :: s => if h = c then after? head s else none

/-- What precedes `tail`, if the text ends with it. -/
def before? (tail s : Text) : Option Text :=
  (after? tail.reverse s.reverse).map List.reverse

@[simp] theorem after?_nil (s : Text) : after? [] s = some s := by
  cases s <;> rfl

theorem after?_eq_some_iff {head s rest : Text} :
    after? head s = some rest ↔ s = head ++ rest := by
  induction head generalizing s with
  | nil => simp
  | cons h head ih =>
    cases s with
    | nil => simp [after?]
    | cons c s =>
      by_cases hc : h = c
      · simp [after?, hc, ih]
      · simp [after?, hc, Ne.symm hc]

theorem before?_eq_some_iff {tail s rest : Text} :
    before? tail s = some rest ↔ s = rest ++ tail := by
  simp only [before?, Option.map_eq_some_iff, after?_eq_some_iff]
  constructor
  · rintro ⟨r, hr, rfl⟩
    simpa using congrArg List.reverse hr
  · rintro rfl
    exact ⟨rest.reverse, by simp, by simp⟩

/-- The text starts with `head`. -/
def startsWith (head s : Text) : Bool := (after? head s).isSome

/-- The text without the given character at its end. -/
def dropTrailing (c : Char) (s : Text) : Text := (s.reverse.dropWhile (· == c)).reverse

/-- The number of bytes that a text takes. -/
def size (s : Text) : Nat := s.foldl (fun n c => n + c.utf8Size) 0

/-- A number in decimal, without leading zeros. -/
def ofNat (n : Nat) : Text := Nat.toDigits 10 n

/-- A non-empty run of ASCII digits. -/
def isNumeral (s : Text) : Bool := !s.isEmpty && s.all Char.isDigit

/-- The number that a run of digits writes. -/
def numeralValue (s : Text) : Nat := Nat.ofDigitChars 10 s 0

/-- A whole number below `bound`: digits, after at most one plus sign. -/
def unsigned? (bound : Nat) (s : Text) : Option Nat :=
  let digits := match s with
    | '+' :: rest => rest
    | _ => s
  if isNumeral digits && numeralValue digits < bound then some (numeralValue digits) else none

theorem isNumeral_ofNat (n : Nat) : isNumeral (ofNat n) = true := by
  simp only [isNumeral, ofNat, Bool.and_eq_true, List.all_eq_true]
  exact ⟨by simp [Nat.toDigits_ne_nil], fun c hc =>
    Nat.isDigit_of_mem_toDigits (by decide) (by decide) hc⟩

theorem numeralValue_ofNat (n : Nat) : numeralValue (ofNat n) = n :=
  Nat.ofDigitChars_ten_toDigits

/-- The lines of a text: what stands before each line feed, and a last line only if it is
not empty. -/
def lines (s : Text) : List Text :=
  let pieces := s.splitOn '\n'
  if pieces.getLast? = some [] then pieces.dropLast else pieces

/-! ## Other bases

Digits past nine are letters, of either case. -/

/-- The value of a digit in some base. -/
def digit? (base : Nat) (c : Char) : Option Nat :=
  let value :=
    if '0' ≤ c && c ≤ '9' then c.toNat - '0'.toNat
    else if 'a' ≤ c && c ≤ 'z' then c.toNat - 'a'.toNat + 10
    else if 'A' ≤ c && c ≤ 'Z' then c.toNat - 'A'.toNat + 10
    else base
  if value < base then some value else none

/-- The number that digits write, the most significant first; no digits write zero. -/
def digitsValue? (base : Nat) (s : Text) : Option Nat :=
  s.foldlM (fun n c => (digit? base c).map (base * n + ·)) 0

theorem lt_of_digit? {base n : Nat} {c : Char} (h : digit? base c = some n) : n < base := by
  simp only [digit?] at h
  obtain ⟨hv, he⟩ := Option.ite_none_right_eq_some.1 h
  exact Option.some.inj he ▸ hv

/-! ## Blanks -/

/-- The character has the Unicode property `White_Space`. -/
def isBlank (c : Char) : Bool :=
  let n := c.toNat
  (0x09 ≤ n && n ≤ 0x0D) || n = 0x20 || n = 0x85 || n = 0xA0 || n = 0x1680 ||
    (0x2000 ≤ n && n ≤ 0x200A) || n = 0x2028 || n = 0x2029 || n = 0x202F ||
    n = 0x205F || n = 0x3000

theorem isBlank_of_isWhitespace (c : Char) (h : c.isWhitespace = true) :
    isBlank c = true := by
  simp only [Char.isWhitespace, Bool.or_eq_true, decide_eq_true_eq] at h
  rcases h with ((rfl | rfl) | rfl) | rfl <;> decide

/-- The text without the blanks at its two ends. -/
def trim (s : Text) : Text :=
  ((s.dropWhile isBlank).reverse.dropWhile isBlank).reverse

/-- The maximal runs without a blank, in order. -/
def words (s : Text) : List Text :=
  (s.splitOnP isBlank).filter (!·.isEmpty)

end Text

/-! ## Percent-encoding

What may not stand in a part of an address is written as a percent sign and two hexadecimal
digits for each byte of its UTF-8 form. -/

namespace Percent

/-- A hexadecimal digit in capitals. -/
def hexDigit (n : Nat) : Char := Char.ofNat (if n < 10 then '0'.toNat + n else 'A'.toNat + (n - 10))

/-- The percent-encoded form of a character. -/
def form (c : Char) : Text :=
  (String.utf8EncodeChar c).flatMap fun byte =>
    ['%', hexDigit (byte.toNat / 16), hexDigit (byte.toNat % 16)]

/-- Percent-encodes what does not stand for itself. -/
def encode (stands : Char → Bool) (s : Text) : Text :=
  s.flatMap fun c => if stands c then [c] else form c

theorem encode_eq_self {stands : Char → Bool} {s : Text} (h : ∀ c ∈ s, stands c = true) :
    encode stands s = s := by
  induction s with
  | nil => rfl
  | cons c s ih =>
    have := ih fun d hd => h d (List.mem_cons_of_mem _ hd)
    simp only [encode] at this ⊢
    simp [h c List.mem_cons_self, this]

/-- The bytes that a text stands for; a percent sign without two digits stands for itself. -/
def bytes : Text → List UInt8
  | [] => []
  | '%' :: a :: b :: rest =>
    match Text.digitsValue? 16 [a, b] with
    | some n => UInt8.ofNat n :: bytes rest
    | none => String.utf8EncodeChar '%' ++ bytes (a :: b :: rest)
  | c :: rest => String.utf8EncodeChar c ++ bytes rest

/-- The text that a text stands for, if the bytes are UTF-8. -/
def decode? (s : Text) : Option Text :=
  (String.fromUTF8? ⟨(bytes s).toArray⟩).map String.toList

end Percent

end UpgradeGraph
