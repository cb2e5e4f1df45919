import UpgradeGraph.Proofs.Range.Pattern

/-!
# Operands of npm ranges

Mostly the numbers of an npm range have no tails, and are numbers and nothing else (`Operand`).
Texts of such numbers and of wildcards are terse (`Operand.terse_text`): there is nothing to trim,
and no bar to cut at. As levels they are read as any others are (`Operand.pattern`).
-/

namespace UpgradeGraph.Range

open Version

variable {spec : Text}

/-! ## Texts of ranges -/

/-- What may stand in a range besides digits. -/
def marks : List Char := ['.', 'x', '*', '^', '~']

/-- The text of one range, written with nothing but numbers, dots, wildcards and a mark. -/
def Terse (spec : Text) : Prop :=
  spec ≠ [] ∧ ∀ c ∈ spec, c.isDigit = true ∨ c ∈ marks

/-- The character stands in no text of a terse range. -/
theorem Terse.not_mem {c : Char} (h : Terse spec) (hdigit : c.isDigit = false)
    (hmark : c ∉ marks) : c ∉ spec := fun hmem =>
  (h.2 c hmem).elim (fun hc => by simp [hdigit] at hc) hmark

theorem Terse.unblank (h : Terse spec) : ∀ c ∈ spec, Text.isBlank c = false := by
  have hmarks : ∀ c ∈ marks, Text.isBlank c = false := by simp [marks, Text.isBlank]
  exact fun c hc => (h.2 c hc).elim Text.isBlank_of_isDigit (hmarks c)

/-! ## Operands -/

/-- The levels of a text that starts with numbers: what follows them, if anything does, starts
with a wildcard. -/
structure Operand where
  numbers : List Text
  /-- The first wildcard and what follows it. -/
  rest : List Text
  isNumeral : ∀ piece ∈ numbers, Text.isNumeral piece = true
  dotless : ∀ piece ∈ rest, '.' ∉ piece
  opens : ∀ piece ∈ rest.head?, (Level.mk piece).isWildcard = true

/-- Numbers and wildcards, in whichever order they come. -/
def Operand.ofLevels (levels : List Text)
    (h : ∀ level ∈ levels, Text.isNumeral level = true ∨ level = ['x'] ∨ level = ['*']) :
    Operand where
  numbers := levels.takeWhile Text.isNumeral
  rest := levels.dropWhile Text.isNumeral
  isNumeral _ := List.mem_takeWhile_imp
  dotless piece hpiece := by
    rcases h piece ((List.dropWhile_suffix _).subset hpiece) with hnumeral | rfl | rfl
    · exact Text.not_mem_of_isNumeral hnumeral rfl
    · decide
    · decide
  opens piece hpiece := by
    have hrest : Text.isNumeral piece = false := by
      simpa [Option.mem_def.1 hpiece] using List.head?_dropWhile_not Text.isNumeral levels
    have hmem : piece ∈ levels := (List.dropWhile_suffix _).subset (List.mem_of_mem_head? hpiece)
    rcases h piece hmem with hnumeral | rfl | rfl
    · simp [hrest] at hnumeral
    · decide
    · decide

namespace Operand

variable (w : Operand)

/-- All levels of the text. -/
def pieces : List Text := w.numbers ++ w.rest

def text : Text := joinLevels w.pieces

/-- The number of levels that the text has when missing ones are completed. -/
def width : Nat := max w.pieces.length 3

/-- The lowest row of levels that starts with the numbers and is as wide as the operand. -/
def floor : List Level :=
  w.numbers.map Level.mk ++ List.replicate (w.width - w.numbers.length) zero

theorem dot_not_mem : ∀ piece ∈ w.pieces, '.' ∉ piece :=
  List.forall_mem_append.2
    ⟨fun piece h => Text.not_mem_of_isNumeral (w.isNumeral piece h) rfl, w.dotless⟩

/-- Numbers and nothing else are numbers. -/
def pattern : Pattern where
  fixed := w.numbers
  rest := w.rest
  isNumeric piece h := Level.isNumeric_of_isNumeral (w.isNumeral piece h)
  dotless := w.dot_not_mem
  opens := w.opens

theorem closed_numbers : Closed (w.numbers.map Level.mk) := w.pattern.closed_fixed

theorem length_numbers_le : 3 ≤ w.width ∧ w.numbers.length ≤ w.width := w.pattern.length_fixed_le

variable {w}

theorem levels_unpadded (hne : w.pieces ≠ []) :
    (unpadded w.text).levels = w.numbers.map Level.mk ++ w.rest.map Level.mk :=
  w.pattern.levels_unpadded hne

theorem levels_concrete (hne : w.pieces ≠ []) : (concrete w.text).levels =
    w.numbers.map Level.mk ++ (w.rest.map Level.mk ++
      List.replicate (3 - w.pieces.length) zero) :=
  w.pattern.levels_concrete hne

/-- If no wildcard is in the text, the lowest row is the text itself. -/
theorem levels_concrete_of_numbers (hne : w.pieces ≠ []) (hrest : w.rest = []) :
    (concrete w.text).levels = w.floor :=
  w.pattern.levels_concrete_of_fixed hne hrest

theorem text_ne_nil (hne : w.pieces ≠ []) : w.text ≠ [] := by
  suffices hpieces : ∀ piece ∈ w.pieces.head?, piece ≠ [] by
    obtain ⟨piece, more, hcons⟩ := List.exists_cons_of_ne_nil hne
    rw [text, hcons, joinLevels_cons]
    exact List.append_ne_nil_of_left_ne_nil (hpieces piece (by rw [hcons]; rfl)) _
  rintro piece hpiece rfl
  rw [pieces, List.head?_append, Option.mem_def, Option.or_eq_some_iff] at hpiece
  rcases hpiece with hpiece | ⟨-, hpiece⟩
  · exact absurd (w.isNumeral [] (List.mem_of_mem_head? hpiece)) (by decide)
  · exact absurd (w.opens [] hpiece) (by decide)

/-- With nothing but numbers and wildcards in its levels a text is terse. -/
theorem terse_text (hne : w.pieces ≠ [])
    (hrest : ∀ piece ∈ w.rest, ∀ c ∈ piece, c.isDigit = true ∨ c ∈ marks) : Terse w.text := by
  refine ⟨text_ne_nil hne, fun c hc => ?_⟩
  have hpieces : ∀ piece ∈ w.pieces, ∀ c ∈ piece, c.isDigit = true ∨ c ∈ marks :=
    List.forall_mem_append.2 ⟨fun piece hpiece c hc =>
      .inl (Text.isDigit_of_isNumeral (w.isNumeral piece hpiece) c hc), hrest⟩
  exact forall_mem_joinLevels (.inr (by decide)) hpieces c hc

section OfLevels

variable {levels : List Text}
  (h : ∀ level ∈ levels, Text.isNumeral level = true ∨ level = ['x'] ∨ level = ['*'])

theorem pieces_ofLevels : (ofLevels levels h).pieces = levels := List.takeWhile_append_dropWhile

theorem text_ofLevels : (ofLevels levels h).text = joinLevels levels :=
  congrArg joinLevels (pieces_ofLevels h)

include h in
theorem terse_ofLevels (hne : levels ≠ []) : Terse (joinLevels levels) := by
  rw [← text_ofLevels h]
  refine terse_text (by rwa [pieces_ofLevels]) fun piece hpiece c hc => ?_
  rcases h piece ((List.dropWhile_suffix _).subset hpiece) with hnumeral | rfl | rfl
  · exact .inl (Text.isDigit_of_isNumeral hnumeral c hc)
  · exact .inr (by rw [List.mem_singleton.1 hc]; decide)
  · exact .inr (by rw [List.mem_singleton.1 hc]; decide)

end OfLevels

end Operand

end UpgradeGraph.Range
