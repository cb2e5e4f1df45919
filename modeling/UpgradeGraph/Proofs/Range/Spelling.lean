import UpgradeGraph.Proofs.Range.Npm

/-!
# Spellings of one range

Missing levels of a range are wildcards, so `1`, `1.x` and `1.*.*` are one range. Behind a caret or
a tilde wildcards become zeros, and as long as all numbers are kept the bounds that a mark leads to
are those that wildcards lead to (`spellings_agree`). The two are computed apart, the first from the
next version of a release, the second level by level. But both begin with the numbers as they are
written, leading zeros, tails and all, and both end in the number that comes after the last one,
which has neither (`parse_spelled`). There are no exceptions: the largest number that can be read
stays as it is in the one and in the other.
-/

namespace UpgradeGraph

/-- The text of a level that has a value: a number that is not too large, perhaps with a tail. -/
structure NumberText where
  text : Text
  value : Nat
  number : (Level.mk text).number? = some value
  dotless : '.' ∉ text
  barless : '|' ∉ text
  unblank : ∀ c ∈ text, Text.isBlank c = false

namespace Range

open Version

variable {numbers : List NumberText} {pieces : List Text} {form : Form}

/-! ## Numbers and wildcards -/

/-- Numbers and wildcards behind them. -/
def spelled (numbers : List NumberText) (hwild : Wild pieces) : Pattern where
  fixed := numbers.map NumberText.text
  rest := pieces
  isNumeric := List.forall_mem_map.2 fun number _ =>
    (Level.number?_eq_some_iff.1 number.number).1
  dotless := List.forall_mem_append.2
    ⟨List.forall_mem_map.2 fun number _ => number.dotless, hwild.dotless⟩
  opens := hwild.opens

/-- There is nothing to trim in such a text, and no bar to cut at. -/
theorem trim_spelled (numbers : List NumberText) (hwild : Wild pieces) (form : Form) :
    Text.trim (form.mark ++ (spelled numbers hwild).text) =
        form.mark ++ (spelled numbers hwild).text ∧
      Requirement.hasBars (form.mark ++ (spelled numbers hwild).text) = false := by
  have hmark : ∀ c ∈ form.mark, Text.isBlank c = false ∧ c ≠ '|' := by
    cases form <;> simp [Form.mark, Text.isBlank]
  have hlevels : ∀ level ∈ (spelled numbers hwild).pieces, ∀ c ∈ level,
      Text.isBlank c = false ∧ c ≠ '|' := by
    refine List.forall_mem_append.2 ⟨List.forall_mem_map.2 fun number _ c hc => ?_, ?_⟩
    · exact ⟨number.unblank c hc, fun heq => number.barless (heq ▸ hc)⟩
    · intro piece hpiece
      rcases hwild piece hpiece with rfl | rfl <;> simp [Text.isBlank]
  have htext : ∀ c ∈ form.mark ++ (spelled numbers hwild).text,
      Text.isBlank c = false ∧ c ≠ '|' :=
    List.forall_mem_append.2 ⟨hmark, forall_mem_joinLevels (by decide) hlevels⟩
  exact ⟨Text.trim_of_unblank fun c hc => (htext c hc).1,
    Requirement.hasBars_of_not_mem fun hmem => (htext '|' hmem).2 rfl⟩

section Short

variable (hwild : Wild pieces) (hlength : numbers.length + pieces.length ≤ 3)

include hlength

/-- Up to the third level, wildcards say what missing levels say. -/
theorem width_spelled : (spelled numbers hwild).width = 3 := by
  simp only [Pattern.width, Pattern.pieces, spelled, List.length_append, List.length_map]
  omega

theorem floor_spelled : (spelled numbers hwild).floor =
    (numbers.map NumberText.text).map Level.mk ++ List.replicate (3 - numbers.length) zero := by
  rw [Pattern.floor, width_spelled hwild hlength]
  simp only [spelled, List.length_map]

/-- If all numbers are kept, it does not matter which mark keeps them. -/
theorem zeros_spelled (hkept : form.kept numbers.length = numbers.length) :
    (spelled numbers hwild).zeros form = 3 - numbers.length := by
  have hcount : form.kept (spelled numbers hwild).fixed.length = numbers.length := by
    rwa [spelled, List.length_map]
  have hwidth := width_spelled hwild hlength
  cases form <;> simp only [Pattern.zeros, hcount, hwidth]

end Short

end Range

namespace Requirement

open Version Range

variable {numbers : List NumberText} {pieces : List Text} {form : Form}

/-! ## One range -/

/-- Whichever way numbers are marked and completed, the range begins and ends in the same rows, if
it keeps all numbers and leaves something open behind them. -/
theorem parse_spelled {init : List NumberText} {last : NumberText}
    (hnumbers : numbers = init ++ [last]) (hkept : form.kept numbers.length = numbers.length)
    (hopen : numbers.length < 3) (hwild : Wild pieces)
    (hlength : numbers.length + pieces.length ≤ 3) (library : Text) :
    ∃ (requirement : Requirement) (b : Bounds),
      parse .npm library (form.mark ++ joinLevels (numbers.map NumberText.text ++ pieces)) =
        .ok requirement ∧
      requirement.contains = b.contains ∧
      b.Spans ((numbers.map NumberText.text).map Level.mk ++
          List.replicate (3 - numbers.length) zero)
        (bumpedRow (init.map NumberText.text) last.value (3 - numbers.length)) := by
  obtain ⟨htrim, hbars⟩ := trim_spelled numbers hwild form
  have hcount : (spelled numbers hwild).fixed.length = numbers.length := List.length_map _
  have hfixed : numbers.map NumberText.text = init.map NumberText.text ++ last.text :: [] := by
    rw [hnumbers, List.map_append]
    rfl
  have hkept' : form.kept (spelled numbers hwild).fixed.length =
      (init.map NumberText.text).length + 1 := by
    rw [hcount, hkept, hnumbers, List.length_append, List.length_map]
    rfl
  -- Without a mark it is the missing levels, or the wildcards in their places, that make a range.
  have hopen' : form = .plain → (spelled numbers hwild).fixed.length <
      (spelled numbers hwild).width := by
    intro _
    rwa [hcount, width_spelled hwild hlength]
  have hparse := parse_pattern htrim hbars hfixed hkept' last.number hopen' library
  rwa [floor_spelled hwild hlength, zeros_spelled hwild hlength hkept] at hparse

/-- So all these texts contain the same versions. -/
theorem exists_common_bounds {init : List NumberText} {last : NumberText}
    (hnumbers : numbers = init ++ [last]) (hopen : numbers.length < 3) (library : Text) :
    ∃ b : Bounds,
      b.Spans ((numbers.map NumberText.text).map Level.mk ++
          List.replicate (3 - numbers.length) zero)
        (bumpedRow (init.map NumberText.text) last.value (3 - numbers.length)) ∧
      ∀ (form : Form) (pieces : List Text), form.kept numbers.length = numbers.length →
        Wild pieces → numbers.length + pieces.length ≤ 3 → ∃ requirement,
          parse .npm library (form.mark ++ joinLevels (numbers.map NumberText.text ++ pieces)) =
            .ok requirement ∧
          requirement.contains = b.contains := by
  obtain ⟨b, hspans⟩ := Bounds.exists_spans _ _
  refine ⟨b, hspans, fun form pieces hkept hwild hlength => ?_⟩
  obtain ⟨requirement, b', hread, hcontains, hspans'⟩ :=
    parse_spelled hnumbers hkept hopen hwild hlength library
  exact ⟨requirement, hread, hcontains.trans (hspans'.contains_eq hspans)⟩

/-- A number means the same by itself, with wildcards behind it, and behind a caret or a tilde, and
two numbers do so except for the caret: `1`, `1.x`, `1.*`, `1.x.x`, `~1`, `~1.x`, `^1` and `^1.x`
contain the same versions, and so do `1.2`, `1.2.x`, `1.2.*`, `~1.2` and `~1.2.x`. -/
theorem spellings_agree (major minor : NumberText) (library : Text) :
    (∃ b : Bounds,
      b.Spans [⟨major.text⟩, zero, zero] [Level.natural (Level.bump major.value), zero, zero] ∧
      ∀ (form : Form) (pieces : List Text), Wild pieces → pieces.length ≤ 2 →
        ∃ requirement, parse .npm library (form.mark ++ joinLevels (major.text :: pieces)) =
            .ok requirement ∧
          requirement.contains = b.contains) ∧
    ∃ b : Bounds,
      b.Spans [⟨major.text⟩, ⟨minor.text⟩, zero]
        [⟨major.text⟩, Level.natural (Level.bump minor.value), zero] ∧
      ∀ (form : Form) (pieces : List Text), form ≠ .caret → Wild pieces → pieces.length ≤ 1 →
        ∃ requirement, parse .npm library
            (form.mark ++ joinLevels (major.text :: minor.text :: pieces)) = .ok requirement ∧
          requirement.contains = b.contains := by
  constructor
  · have hnumbers : [major] = [] ++ [major] := rfl
    obtain ⟨b, hspans, hread⟩ := exists_common_bounds hnumbers (by simp) library
    refine ⟨b, hspans, fun form pieces hwild hlength => ?_⟩
    have hkept : form.kept 1 = 1 := by cases form <;> rfl
    exact hread form pieces hkept hwild (Nat.add_le_add_left hlength 1)
  · have hnumbers : [major, minor] = [major] ++ [minor] := rfl
    obtain ⟨b, hspans, hread⟩ := exists_common_bounds hnumbers (by simp) library
    refine ⟨b, hspans, fun form pieces hform hwild hlength => ?_⟩
    have hkept : form.kept 2 = 2 := by
      -- Of two numbers, a caret keeps only one.
      cases form with
      | caret => exact absurd rfl hform
      | tilde | plain => rfl
    exact hread form pieces hkept hwild (Nat.add_le_add_left hlength 2)

/-- A number with a leading zero and a tail. -/
def tailed : NumberText :=
  ⟨"01-rc", 1, by decide, by decide, by decide, by simp [Text.isBlank]⟩

/-- The largest number that can be read. -/
def largest : NumberText :=
  ⟨"340282366920938463463374607431768211455", Level.numberBound - 1, by decide, by decide,
    by decide, by simp [Text.isBlank]⟩

/-- Spellings of a number with a tail, and of the largest number behind it. -/
theorem sample_spellings_agree :
    (∃ b : Bounds, ∀ spec ∈ [("01-rc" : Text), "01-rc.x", "01-rc.*", "01-rc.x.x", "~01-rc",
        "~01-rc.x", "^01-rc", "^01-rc.x"],
      ∃ requirement, parse .npm "ms" spec = .ok requirement ∧
        requirement.contains = b.contains) ∧
    ∃ b : Bounds, ∀ spec ∈ [("01-rc." : Text) ++ largest.text,
        ("01-rc." : Text) ++ largest.text ++ (".x" : Text),
        ("01-rc." : Text) ++ largest.text ++ (".*" : Text),
        ("~01-rc." : Text) ++ largest.text,
        ("~01-rc." : Text) ++ largest.text ++ (".x" : Text)],
      ∃ requirement, parse .npm "ms" spec = .ok requirement ∧
        requirement.contains = b.contains := by
  obtain ⟨⟨b, -, hmajor⟩, b', -, hminor⟩ := spellings_agree tailed largest "ms"
  refine ⟨⟨b, ?_⟩, b', ?_⟩
  · simp only [List.forall_mem_cons]
    exact ⟨hmajor .plain [] (by decide) (by decide),
      hmajor .plain [['x']] (by decide) (by decide),
      hmajor .plain [['*']] (by decide) (by decide),
      hmajor .plain [['x'], ['x']] (by decide) (by decide),
      hmajor .tilde [] (by decide) (by decide),
      hmajor .tilde [['x']] (by decide) (by decide),
      hmajor .caret [] (by decide) (by decide),
      hmajor .caret [['x']] (by decide) (by decide), nofun⟩
  · simp only [List.forall_mem_cons]
    exact ⟨hminor .plain [] (by decide) (by decide) (by decide),
      hminor .plain [['x']] (by decide) (by decide) (by decide),
      hminor .plain [['*']] (by decide) (by decide) (by decide),
      hminor .tilde [] (by decide) (by decide) (by decide),
      hminor .tilde [['x']] (by decide) (by decide) (by decide), nofun⟩

end Requirement

end UpgradeGraph
