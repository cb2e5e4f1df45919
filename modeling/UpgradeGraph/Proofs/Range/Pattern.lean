import Mathlib.Data.List.TakeWhile
import UpgradeGraph.Proofs.Text
import UpgradeGraph.Proofs.Version.Natural
import UpgradeGraph.Range.Npm

/-!
# Levels of npm ranges

Behind the mark of an npm range, if it has one, stand levels between dots: numbers, perhaps with
tails, as many as there are before the first wildcard, and perhaps that wildcard and more
(`Pattern`). The numbers are what the range fixes (`Pattern.fixedLevels_unpadded`), and with zeros
in the place of all that comes after them they are where it begins (`Pattern.exists_floor`).
-/

namespace UpgradeGraph.Range

open Version

/-! ## Texts of levels -/

/-- Each level but the first one follows a dot. -/
theorem joinLevels_cons (level : Text) (levels : List Text) :
    joinLevels (level :: levels) = level ++ levels.flatMap ('.' :: ·) :=
  Text.intercalate_cons ['.'] level levels

/-- What holds of the dot and in all levels holds in the text. -/
theorem forall_mem_joinLevels {P : Char → Prop} {levels : List Text} (hdot : P '.')
    (h : ∀ level ∈ levels, ∀ c ∈ level, P c) : ∀ c ∈ joinLevels levels, P c := by
  cases levels with
  | nil => nofun
  | cons first more =>
    intro c hc
    rw [List.forall_mem_cons] at h
    rw [joinLevels_cons, List.mem_append, List.mem_flatMap] at hc
    rcases hc with hc | ⟨level, hlevel, hc⟩
    · exact h.1 c hc
    rcases List.mem_cons.1 hc with rfl | hc
    · exact hdot
    · exact h.2 level hlevel c hc

/-! ## Patterns -/

/-- The levels of a text that starts with numbers, with or without tails: what follows them, if
anything does, starts with a wildcard. -/
structure Pattern where
  fixed : List Text
  /-- The first wildcard and what follows it. -/
  rest : List Text
  isNumeric : ∀ piece ∈ fixed, (Level.mk piece).isNumeric = true
  dotless : ∀ piece ∈ fixed ++ rest, '.' ∉ piece
  opens : ∀ piece ∈ rest.head?, (Level.mk piece).isWildcard = true

namespace Pattern

variable (p : Pattern)

/-- All levels of the text. -/
def pieces : List Text := p.fixed ++ p.rest

def text : Text := joinLevels p.pieces

/-- The number of levels that the text has when missing ones are completed. -/
def width : Nat := max p.pieces.length 3

/-- The lowest row of levels that starts with the numbers and is as wide as the pattern. -/
def floor : List Level :=
  p.fixed.map Level.mk ++ List.replicate (p.width - p.fixed.length) zero

theorem length_fixed_le : 3 ≤ p.width ∧ p.fixed.length ≤ p.width := by
  simp only [width, pieces, List.length_append]
  omega

theorem closed_fixed : Closed (p.fixed.map Level.mk) :=
  List.forall_mem_map.2 fun piece h => Level.isWildcard_of_isNumeric (p.isNumeric piece h)

theorem dot_not_mem_fixed : ∀ piece ∈ p.fixed, '.' ∉ piece := fun piece h =>
  p.dotless piece (List.mem_append_left _ h)

/-- Zeros may stand behind other levels. -/
theorem dot_not_mem_zeros (k : Nat) : ∀ piece ∈ List.replicate k ['0'], '.' ∉ piece :=
  fun piece h => by
    rw [List.eq_of_mem_replicate h]
    decide

variable {p}

/-! ## What is fixed -/

theorem levels_unpadded (hne : p.pieces ≠ []) :
    (unpadded p.text).levels = p.fixed.map Level.mk ++ p.rest.map Level.mk := by
  rw [text, joinLevels, levels_unpadded_intercalate hne p.dotless, pieces, List.map_append]

theorem levels_concrete (hne : p.pieces ≠ []) : (concrete p.text).levels =
    p.fixed.map Level.mk ++ (p.rest.map Level.mk ++
      List.replicate (3 - p.pieces.length) zero) := by
  rw [Version.levels_concrete, levels_unpadded hne, List.append_assoc]
  simp [pieces]

/-- A range without a mark completes missing levels with wildcards. -/
theorem levels_reference (hne : p.pieces ≠ []) : (reference p.text).levels =
    p.fixed.map Level.mk ++ (p.rest.map Level.mk ++
      List.replicate (3 - p.pieces.length) ⟨['x']⟩) := by
  rw [Version.levels_reference, levels_unpadded hne, List.append_assoc]
  simp [pieces]

theorem length_levels_reference (hne : p.pieces ≠ []) :
    (reference p.text).levels.length = p.width := by
  simp only [levels_reference hne, List.length_append, List.length_map, List.length_replicate,
    width, pieces]
  omega

/-- What is fixed are the numbers, whether the rest is padding or stands in the text. -/
theorem fixedLevels_eq {v : Version} {wild : List Level}
    (h : v.levels = p.fixed.map Level.mk ++ wild)
    (hwild : ∀ level ∈ wild.head?, level.isWildcard = true) : fixedLevels v = p.fixed := by
  have hfixed : ∀ level ∈ p.fixed.map Level.mk, (!level.isWildcard) = true :=
    fun level hlevel => by
      rw [p.closed_fixed level hlevel]
      rfl
  have hnone : wild.takeWhile (!·.isWildcard) = [] := by
    cases wild with
    | nil => rfl
    | cons level wild => simp [hwild level rfl]
  rw [fixedLevels, h, List.takeWhile_append_of_pos hfixed, hnone, List.append_nil,
    List.map_map]
  exact List.map_id _

theorem opens_levels (p : Pattern) :
    ∀ level ∈ (p.rest.map Level.mk).head?, level.isWildcard = true := by
  intro level hlevel
  rw [List.head?_map, Option.mem_def, Option.map_eq_some_iff] at hlevel
  obtain ⟨piece, hpiece, rfl⟩ := hlevel
  exact p.opens piece hpiece

theorem fixedLevels_unpadded (hne : p.pieces ≠ []) : fixedLevels (unpadded p.text) = p.fixed :=
  fixedLevels_eq (levels_unpadded hne) p.opens_levels

theorem fixedLevels_reference (hne : p.pieces ≠ []) :
    fixedLevels (reference p.text) = p.fixed := by
  refine fixedLevels_eq (levels_reference hne) fun level hlevel => ?_
  cases hrest : p.rest with
  | nil =>
    rw [hrest, List.map_nil, List.nil_append] at hlevel
    rw [List.eq_of_mem_replicate (List.mem_of_mem_head? hlevel)]
    decide
  | cons piece rest =>
    refine p.opens_levels level ?_
    rw [hrest] at hlevel ⊢
    exact hlevel

/-- A text of levels, the first of which is a number, starts with a digit. -/
theorem exists_digit (hne : p.fixed ≠ []) :
    ∃ c rest, p.text = c :: rest ∧ c.isDigit = true := by
  obtain ⟨piece, more, hfixed⟩ := List.exists_cons_of_ne_nil hne
  obtain ⟨c, digits, hpiece, hdigit⟩ :=
    Level.exists_digit_of_isNumeric (p.isNumeric piece (by simp [hfixed]))
  have hcons : piece = c :: digits := hpiece
  have htext : p.text = c :: (digits ++ (more ++ p.rest).flatMap ('.' :: ·)) := by
    rw [text, pieces, hfixed, List.cons_append, joinLevels_cons, hcons, List.cons_append]
  exact ⟨c, _, htext, hdigit⟩

/-! ## The lowest row -/

/-- If no wildcard is in the text, the lowest row is the text itself. -/
theorem levels_concrete_of_fixed (hne : p.pieces ≠ []) (hrest : p.rest = []) :
    (concrete p.text).levels = p.floor := by
  rw [levels_concrete hne, hrest, List.map_nil, List.nil_append, floor, width, pieces, hrest,
    List.append_nil]
  congr 2
  omega

/-- Wildcards become zeros. -/
theorem exists_floor (hne : p.fixed ≠ []) : ∃ floor,
    compatibleFloor? p.text = some (floor, p.fixed.length) ∧ floor.levels = p.floor := by
  have hpieces : p.pieces ≠ [] := by simp [pieces, hne]
  have hgiven := levels_unpadded hpieces
  simp only [compatibleFloor?, fixedLevels_unpadded hpieces, if_neg hne, hgiven,
    List.length_append, List.length_map]
  by_cases hrest : p.rest = []
  · exact ⟨.concrete p.text, by rw [if_pos (by simp [hrest])],
      levels_concrete_of_fixed hpieces hrest⟩
  · have hpos := List.length_pos_iff.2 hrest
    refine ⟨_, by rw [if_neg (by omega)], ?_⟩
    have hwidth : max (p.fixed.length + p.rest.length) 3 = p.width := by simp [width, pieces]
    have hlevels : (unpadded (joinLevels
        (p.fixed ++ List.replicate (p.width - p.fixed.length) ['0']))).levels = p.floor := by
      refine (levels_unpadded_intercalate (by simp [hne]) ?_).trans ?_
      · exact List.forall_mem_append.2 ⟨p.dot_not_mem_fixed, dot_not_mem_zeros _⟩
      · rw [List.map_append, List.map_replicate]
        rfl
    -- With zeros there are three levels or more, so that the text is not completed any further.
    have hwide := p.length_fixed_le
    have hlength : 3 ≤ p.floor.length := by
      simp only [floor, List.length_append, List.length_map, List.length_replicate]
      omega
    rw [hwidth, Version.levels_concrete, hlevels, Nat.sub_eq_zero_of_le hlength]
    exact List.append_nil _

end Pattern

end UpgradeGraph.Range
