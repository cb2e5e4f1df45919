import UpgradeGraph.Json.Tree
import UpgradeGraph.Text

/-!
# Reading JSON

`read` takes the first JSON value off a text and returns the rest. The grammar is the
strict one: four blanks, no comments, no trailing comma, no leading zeros, no raw
control characters in strings.

Containers that are still open wait on a stack of frames, so the reader goes once from
left to right. Every step takes at least one character, and that is why it ends.
-/

namespace UpgradeGraph.Json

/-- The four characters that may stand between tokens. -/
def isBlank (c : Char) : Bool := c = ' ' || c = '\n' || c = '\r' || c = '\t'

/-- The text without the blanks at its start. -/
def skipBlanks (s : Text) : Text := s.dropWhile isBlank

/-- The value of four hexadecimal digits. -/
def hexUnit? (a b c d : Char) : Option Nat := Text.digitsValue? 16 [a, b, c, d]

/-- The character that a backslash and a letter stand for. -/
def escaped? : Char → Option Char
  | '"' => some '"'
  | '\\' => some '\\'
  | '/' => some '/'
  | 'b' => some (Char.ofNat 8)
  | 'f' => some (Char.ofNat 12)
  | 'n' => some '\n'
  | 'r' => some '\r'
  | 't' => some '\t'
  | _ => none

/-- Reads a string whose opening quote has been taken. -/
def scanString : Text → Option (List Piece × Text)
  | [] => none
  | '"' :: rest => some ([], rest)
  | '\\' :: 'u' :: a :: b :: c :: d :: rest => do
    let n ← hexUnit? a b c d
    let (pieces, rest) ← scanString rest
    return (.unit n :: pieces, rest)
  | '\\' :: c :: rest => do
    let c ← escaped? c
    let (pieces, rest) ← scanString rest
    return (.char c :: pieces, rest)
  | c :: rest =>
    if c.toNat < 0x20 || c = '\\' then none
    else do
      let (pieces, rest) ← scanString rest
      return (.char c :: pieces, rest)

/-- Takes a non-empty run of digits off a text. -/
def scanDigits (s : Text) : Option (Text × Text) :=
  let digits := s.takeWhile Char.isDigit
  if digits.isEmpty then none else some (digits, s.dropWhile Char.isDigit)

/-- Takes a fraction off a text, if one starts there. -/
def scanFraction (s : Text) : Option (Option Text × Text) :=
  match s with
  | '.' :: rest => (scanDigits rest).map fun (digits, rest) => (some digits, rest)
  | _ => some (none, s)

/-- Takes an exponent off a text, if one starts there. -/
def scanExponent (s : Text) : Option (Option (Bool × Text) × Text) :=
  match s with
  | c :: rest =>
    if c = 'e' || c = 'E' then
      let (negative, rest) :=
        match rest with
        | '-' :: rest => (true, rest)
        | '+' :: rest => (false, rest)
        | _ => (false, rest)
      (scanDigits rest).map fun (digits, rest) => (some (negative, digits), rest)
    else some (none, s)
  | [] => some (none, s)

/-- Reads a number. -/
def scanNumber (s : Text) : Option (Numeral × Text) := do
  let (negative, s) := match s with
    | '-' :: rest => (true, rest)
    | _ => (false, s)
  let (whole, s) ← scanDigits s
  if whole.length > 1 && whole.head? = some '0' then none
  let (fraction, s) ← scanFraction s
  let (exponent, s) ← scanExponent s
  return ({ negative, whole, fraction, exponent }, s)

/-- Reads a value that is no container. -/
def scanScalar (s : Text) : Option (Tree × Text) :=
  match s with
  | '"' :: rest => (scanString rest).map fun (pieces, rest) => (.string pieces, rest)
  | 't' :: 'r' :: 'u' :: 'e' :: rest => some (.bool true, rest)
  | 'f' :: 'a' :: 'l' :: 's' :: 'e' :: rest => some (.bool false, rest)
  | 'n' :: 'u' :: 'l' :: 'l' :: rest => some (.null, rest)
  | _ => (scanNumber s).map fun (n, rest) => (.number n, rest)

/-- A container that is still open, with what it holds so far, last item first. -/
inductive Frame where
  | array (items : List Tree)
  /-- The key is the one whose value is being read. -/
  | object (members : List (List Piece × Tree)) (key : List Piece)

/-- What comes next in the text. -/
inductive Expected where
  | value
  /-- A key of an object that has these members so far. -/
  | key (members : List (List Piece × Tree))
  /-- What may follow a value that has just been read. -/
  | after (value : Tree)

/-! ## Every step takes a character -/

theorem length_skipBlanks_le (s : Text) : (skipBlanks s).length ≤ s.length :=
  (List.dropWhile_sublist isBlank).length_le

theorem length_of_skipBlanks {s rest : Text} {c : Char} (h : skipBlanks s = c :: rest) :
    rest.length < s.length := by
  have := length_skipBlanks_le s
  rw [h, List.length_cons] at this
  omega

theorem length_of_scanString {s rest : Text} {pieces : List Piece}
    (h : scanString s = some (pieces, rest)) : rest.length < s.length := by
  fun_induction scanString s generalizing pieces rest with
  | case1 => simp at h
  | case2 r =>
    simp only [Option.some.injEq, Prod.mk.injEq] at h
    simp [h.2]
  | case3 a b c d r ih =>
    simp only [Option.bind_eq_bind, Option.bind_eq_some_iff] at h
    obtain ⟨n, -, ⟨ps, rs⟩, hr, h⟩ := h
    simp only [Option.pure_def, Option.some.injEq, Prod.mk.injEq] at h
    obtain ⟨-, rfl⟩ := h
    have := ih hr
    simp only [List.length_cons]
    omega
  | case4 c r _ ih =>
    simp only [Option.bind_eq_bind, Option.bind_eq_some_iff] at h
    obtain ⟨n, -, ⟨ps, rs⟩, hr, h⟩ := h
    simp only [Option.pure_def, Option.some.injEq, Prod.mk.injEq] at h
    obtain ⟨-, rfl⟩ := h
    have := ih hr
    simp only [List.length_cons]
    omega
  | case5 => simp at h
  | case6 c r _ _ _ hc ih =>
    simp only [Option.bind_eq_bind, Option.bind_eq_some_iff] at h
    obtain ⟨⟨ps, rs⟩, hr, h⟩ := h
    simp only [Option.pure_def, Option.some.injEq, Prod.mk.injEq] at h
    obtain ⟨-, rfl⟩ := h
    have := ih hr
    simp only [List.length_cons]
    omega

theorem length_of_scanDigits {s digits rest : Text}
    (h : scanDigits s = some (digits, rest)) : rest.length < s.length := by
  simp only [scanDigits] at h
  split at h
  · simp at h
  · rename_i hne
    simp only [Option.some.injEq, Prod.mk.injEq] at h
    obtain ⟨-, rfl⟩ := h
    have happ := congrArg List.length (List.takeWhile_append_dropWhile (p := Char.isDigit) (l := s))
    rw [List.length_append] at happ
    have : (s.takeWhile Char.isDigit).length ≠ 0 := by
      simpa [List.isEmpty_iff] using hne
    omega

theorem length_of_scanFraction {s rest : Text} {fraction : Option Text}
    (h : scanFraction s = some (fraction, rest)) : rest.length ≤ s.length := by
  unfold scanFraction at h
  split at h
  · simp only [Option.map_eq_some_iff, Prod.mk.injEq] at h
    obtain ⟨⟨digits, r⟩, hr, -, rfl⟩ := h
    have := length_of_scanDigits hr
    simp only [List.length_cons]
    omega
  · simp only [Option.some.injEq, Prod.mk.injEq] at h
    simp [h.2]

theorem length_of_scanExponent {s rest : Text} {exponent : Option (Bool × Text)}
    (h : scanExponent s = some (exponent, rest)) : rest.length ≤ s.length := by
  unfold scanExponent at h
  split at h
  · split at h
    · simp only [Option.map_eq_some_iff, Prod.mk.injEq] at h
      obtain ⟨⟨digits, r⟩, hr, -, rfl⟩ := h
      have := length_of_scanDigits hr
      split at this <;> simp_all only [List.length_cons] <;> omega
    · simp only [Option.some.injEq, Prod.mk.injEq] at h
      simp [h.2]
  · simp only [Option.some.injEq, Prod.mk.injEq] at h
    simp [h.2]

theorem length_of_scanNumber {s rest : Text} {n : Numeral}
    (h : scanNumber s = some (n, rest)) : rest.length < s.length := by
  unfold scanNumber at h
  simp only [Option.bind_eq_bind, Option.bind_eq_some_iff] at h
  obtain ⟨⟨whole, s₁⟩, h₁, h⟩ := h
  split at h
  · simp at h
  · simp only [Option.bind_eq_some_iff] at h
    obtain ⟨⟨fraction, s₂⟩, h₂, ⟨exponent, s₃⟩, h₃, h⟩ := h
    simp only [Option.pure_def, Option.some.injEq, Prod.mk.injEq] at h
    have l₁ := length_of_scanDigits h₁
    have l₂ := length_of_scanFraction h₂
    have l₃ := length_of_scanExponent h₃
    have : rest = s₃ := h.2.symm
    subst this
    split at l₁ <;> simp_all only [List.length_cons] <;> omega

theorem length_of_scanScalar {s rest : Text} {t : Tree}
    (h : scanScalar s = some (t, rest)) : rest.length < s.length := by
  unfold scanScalar at h
  split at h
  · simp only [Option.map_eq_some_iff, Prod.mk.injEq] at h
    obtain ⟨⟨pieces, r⟩, hr, -, rfl⟩ := h
    have := length_of_scanString hr
    simp only [List.length_cons]
    omega
  · simp_all only [Option.some.injEq, Prod.mk.injEq, List.length_cons]
    omega
  · simp_all only [Option.some.injEq, Prod.mk.injEq, List.length_cons]
    omega
  · simp_all only [Option.some.injEq, Prod.mk.injEq, List.length_cons]
    omega
  · simp only [Option.map_eq_some_iff, Prod.mk.injEq] at h
    obtain ⟨⟨n, r⟩, hr, -, rfl⟩ := h
    exact length_of_scanNumber hr

set_option linter.unusedVariables false in
/-- Reads on from what is expected, with the open containers on a stack, to the end of
the outermost value. -/
def readFrom (expected : Expected) (stack : List Frame) (s : Text) : Option (Tree × Text) :=
  match expected with
  | .value =>
    match hs : skipBlanks s with
    -- An empty container is a value at once; any other waits on the stack for its items.
    | '[' :: rest =>
      match hr : skipBlanks rest with
      | ']' :: behind => readFrom (.after (.array [])) stack behind
      | _ => readFrom .value (.array [] :: stack) rest
    | '{' :: rest =>
      match hr : skipBlanks rest with
      | '}' :: behind => readFrom (.after (.object [])) stack behind
      | _ => readFrom (.key []) stack rest
    | t =>
      match ht : scanScalar t with
      | some (value, rest) => readFrom (.after value) stack rest
      | none => none
  | .key members =>
    match hs : skipBlanks s with
    | '"' :: rest =>
      match hk : scanString rest with
      | some (key, behind) =>
        match hr : skipBlanks behind with
        | ':' :: rest => readFrom .value (.object members key :: stack) rest
        | _ => none
      | none => none
    | _ => none
  | .after value =>
    match stack with
    | [] => some (value, s)
    | .array items :: stack =>
      match hs : skipBlanks s with
      | ',' :: rest => readFrom .value (.array (value :: items) :: stack) rest
      | ']' :: rest => readFrom (.after (.array (value :: items).reverse)) stack rest
      | _ => none
    | .object members key :: stack =>
      match hs : skipBlanks s with
      | ',' :: rest => readFrom (.key ((key, value) :: members)) stack rest
      | '}' :: rest =>
        readFrom (.after (.object ((key, value) :: members).reverse)) stack rest
      | _ => none
termination_by s.length
decreasing_by
  · have := length_of_skipBlanks hs
    have := length_of_skipBlanks hr
    omega
  · exact length_of_skipBlanks hs
  · have := length_of_skipBlanks hs
    have := length_of_skipBlanks hr
    omega
  · exact length_of_skipBlanks hs
  · have := length_of_scanScalar ht
    have := length_skipBlanks_le s
    simp_all only
    omega
  · have := length_of_skipBlanks hs
    have := length_of_scanString hk
    have := length_of_skipBlanks hr
    omega
  · exact length_of_skipBlanks hs
  · exact length_of_skipBlanks hs
  · exact length_of_skipBlanks hs
  · exact length_of_skipBlanks hs

/-- Takes the first value off a text. -/
def read (s : Text) : Option (Tree × Text) := readFrom .value [] s

/-- Reads a text that is one value, with nothing but blanks after it. -/
def parse (s : Text) : Option Tree :=
  match read s with
  | some (tree, rest) => if skipBlanks rest = [] then some tree else none
  | none => none

end UpgradeGraph.Json
