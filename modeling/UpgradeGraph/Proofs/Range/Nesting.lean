import UpgradeGraph.Proofs.Range.Comparators
import UpgradeGraph.Proofs.Range.Leading

/-!
# Tilde, caret and at-least

Of one text, a tilde asks for no more than a caret: both ranges have one beginning, and the end
of the first is not behind that of the second (`tilde_within_caret`). A comparator has
the text as it stands, wildcards and all, and no number is above a wildcard. So `>=1.x` leaves out
what starts with `1`, which `^1.x` contains, and has the rest of it; without wildcards it contains
all that the caret does (`npm_ranges_nest`).
-/

namespace UpgradeGraph

namespace Range

open Version

variable {w : Operand} {v : Version}

/-! ## The text as it stands -/

theorem hasWildcard_iff (hne : w.pieces ≠ []) :
    (unpadded w.text).hasWildcard = true ↔ w.rest ≠ [] := by
  have hnumbers : (w.numbers.map Level.mk).any Level.isWildcard = false := by
    simpa [Closed] using w.closed_numbers
  rw [hasWildcard, Operand.levels_unpadded hne, List.any_append, hnumbers, Bool.false_or]
  constructor
  · rintro hany hrest
    simp [hrest] at hany
  · intro hrest
    obtain ⟨piece, more, hcons⟩ := List.exists_cons_of_ne_nil hrest
    have hopens : (Level.mk piece).isWildcard = true := w.opens piece (by simp [hcons])
    simp [hcons, hopens]

/-- What goes on from the numbers is below the wildcard behind them. -/
theorem below_wildcard (hrest : w.rest ≠ []) (hv : Closed v.levels)
    (h : w.numbers.map Level.mk <+: v.levels) :
    compareLevels v.levels (concrete w.text).levels = .lt := by
  have hne : w.pieces ≠ [] := by simp [Operand.pieces, hrest]
  obtain ⟨piece, more, hcons⟩ := List.exists_cons_of_ne_nil hrest
  have hopens : (Level.mk piece).isWildcard = true := w.opens piece (by simp [hcons])
  obtain ⟨rest, hlevels⟩ := h
  rw [← hlevels, Operand.levels_concrete hne, compareLevels_append_left, hcons, List.map_cons,
    List.cons_append]
  cases rest with
  | nil => rfl
  | cons level rest =>
    have hlevel : level.isWildcard = false := hv level (by simp [← hlevels])
    have hlt : Level.totalCompare level ⟨piece⟩ = .lt := by
      simp [Level.totalCompare, hlevel, hopens]
    rw [compareLevels_cons, hlt]
    rfl

/-- Where the version and the numbers part, it does not matter what stands behind the numbers. -/
theorem compare_concrete (hne : w.pieces ≠ []) (hv : Closed v.levels)
    (hlow : compareLevels v.levels w.floor ≠ .lt) (h : ¬ w.numbers.map Level.mk <+: v.levels) :
    compareLevels v.levels (concrete w.text).levels = compareLevels v.levels w.floor := by
  have hstop : ¬ v.levels <+: w.numbers.map Level.mk := by
    -- A version that stops before the numbers do is below them.
    intro hstarts
    refine hlow (compareLevels_of_extends (hstarts.trans (List.prefix_append _ _)) fun heq => h ?_)
    rw [heq, Operand.floor]
    exact List.prefix_append _ _
  have hparted (xs : List Level) : compareLevels v.levels (w.numbers.map Level.mk ++ xs) =
      compareLevels v.levels (w.numbers.map Level.mk) := by
    have happend : compareLevels (v.levels ++ []) (w.numbers.map Level.mk ++ xs) =
        compareLevels v.levels (w.numbers.map Level.mk) := compareLevels_append hv hstop h
    rwa [List.append_nil] at happend
  rw [Operand.levels_concrete hne, hparted, Operand.floor, hparted]

/-- From its beginning on, if it has one, a range has no version below the text as it stands but
those that go on from the numbers before a wildcard. -/
theorem not_below_concrete_iff (hne : w.pieces ≠ []) (hv : Closed v.levels)
    (hlow : w.numbers ≠ [] → compareLevels v.levels w.floor ≠ .lt) :
    compareLevels v.levels (concrete w.text).levels ≠ .lt ↔
      ¬ (w.rest ≠ [] ∧ w.numbers.map Level.mk <+: v.levels) := by
  by_cases hstarts : w.numbers.map Level.mk <+: v.levels
  · by_cases hrest : w.rest = []
    · have hnumbers : w.numbers ≠ [] := by simpa [Operand.pieces, hrest] using hne
      simp [Operand.levels_concrete_of_numbers hne hrest, hlow hnumbers, hrest]
    · simp [below_wildcard hrest hv hstarts, hrest, hstarts]
  · have hlow : compareLevels v.levels w.floor ≠ .lt := hlow fun hnil =>
      hstarts (by rw [hnil]; exact List.nil_prefix)
    simp [compare_concrete hne hv hlow hstarts, hlow, hstarts]

end Range

namespace Requirement

open Version Range

variable {w : Operand} {levels : List Text}

/-! ## Nesting -/

section Nesting

variable (hterse : Terse w.text)

include hterse

/-- A mark without a number behind it admits all there is. -/
theorem parse_unbounded (hnumbers : w.numbers = []) (hne : w.pieces ≠ []) (form : Form)
    (hform : form ≠ .plain) (library : Text) :
    ∃ requirement, parse .npm library (form.mark ++ w.text) = .ok requirement ∧
      ∀ v, requirement.contains v = true := by
  obtain ⟨htrim, hbars⟩ := trim_of_terse hterse form
  refine ⟨.single (unbounded .npm library (form.mark ++ w.text)), ?_, fun _ => rfl⟩
  have hread := parse_eq_npm (p := w.pattern) htrim hbars (absurd · hform) library
  rw [npm_unbounded (p := w.pattern) hnumbers hne form hform] at hread
  exact hread

/-- What a tilde contains, a caret contains, and that is nothing below where both begin. -/
theorem tilde_within_caret (hne : w.numbers ≠ [])
    (hbound : ∀ piece ∈ w.numbers, Text.numeralValue piece < Level.numberBound - 1)
    (library : Text) : ∃ tilde caret, parse .npm library ('~' :: w.text) = .ok tilde ∧
      parse .npm library ('^' :: w.text) = .ok caret ∧
      ∀ v, v.hasWildcard = false → (tilde.contains v = true → caret.contains v = true) ∧
        (caret.contains v = true → compareLevels v.levels w.floor ≠ .lt) := by
  obtain ⟨htrim, hbars⟩ := trim_of_terse hterse .caret
  obtain ⟨htrim', hbars'⟩ := trim_of_terse hterse .tilde
  obtain ⟨major, more, hnumbers⟩ := List.exists_cons_of_ne_nil hne
  have hfirst : w.numbers = [] ++ major :: more := hnumbers
  have hmajor := hbound major (by simp [hnumbers])
  obtain ⟨caret, hcaret, hcontains⟩ :=
    parse_between htrim hbars hfirst rfl hmajor (by simp) library
  have hlow : ∀ v, v.hasWildcard = false → caret.contains v = true →
      compareLevels v.levels w.floor ≠ .lt := fun v hv h => ((hcontains v hv).1 h).1
  cases more with
  | nil =>
    -- A single number is kept by both.
    have hkept : Form.tilde.kept w.numbers.length = 1 := by simp [Form.kept, hnumbers]
    obtain ⟨tilde, htilde, hcontains'⟩ :=
      parse_between htrim' hbars' hfirst hkept hmajor (by simp) library
    have hzeros : Form.tilde.zeros w = Form.caret.zeros w := congrArg (3 - ·) hkept
    refine ⟨tilde, caret, htilde, hcaret, fun v hv => ⟨fun h => ?_, hlow v hv⟩⟩
    rw [hcontains' v hv, hzeros] at h
    exact (hcontains v hv).2 h
  | cons minor more =>
    have hkept : Form.tilde.kept w.numbers.length = [major].length + 1 := by
      simp [Form.kept, hnumbers]
    obtain ⟨tilde, htilde, hcontains'⟩ := parse_between htrim' hbars'
      (hnumbers : w.numbers = [major] ++ minor :: more) hkept (hbound minor (by simp [hnumbers]))
      (by simp) library
    refine ⟨tilde, caret, htilde, hcaret, fun v hv => ⟨fun h => ?_, hlow v hv⟩⟩
    obtain ⟨hge, hlt⟩ := (hcontains' v hv).1 h
    -- The row in which the tilde ends starts with the number that the caret keeps.
    have hends : compareLevels (successorRow [major] minor (Form.tilde.zeros w))
        (successorRow [] major (Form.caret.zeros w)) = .lt :=
      compareLevels_successorRow [] (w.isNumeral major (by simp [hnumbers])) _ _
    exact (hcontains v hv).2 ⟨hge, Std.TransCmp.lt_trans hlt hends⟩

/-- So it is without a number behind the marks, only that nothing begins anywhere then. -/
theorem marks_nest (hne : w.pieces ≠ [])
    (hbound : ∀ piece ∈ w.numbers, Text.numeralValue piece < Level.numberBound - 1)
    (library : Text) : ∃ tilde caret, parse .npm library ('~' :: w.text) = .ok tilde ∧
      parse .npm library ('^' :: w.text) = .ok caret ∧
      ∀ v, v.hasWildcard = false → (tilde.contains v = true → caret.contains v = true) ∧
        (caret.contains v = true → w.numbers ≠ [] → compareLevels v.levels w.floor ≠ .lt) := by
  by_cases hnumbers : w.numbers = []
  · obtain ⟨tilde, htilde, -⟩ := parse_unbounded hterse hnumbers hne .tilde (by simp) library
    obtain ⟨caret, hcaret, hall⟩ := parse_unbounded hterse hnumbers hne .caret (by simp) library
    exact ⟨tilde, caret, htilde, hcaret, fun v _ => ⟨fun _ => hall v, fun _ h => absurd hnumbers h⟩⟩
  · obtain ⟨tilde, caret, htilde, hcaret, hnested⟩ :=
      tilde_within_caret hterse hnumbers hbound library
    exact ⟨tilde, caret, htilde, hcaret, fun v hv =>
      ⟨(hnested v hv).1, fun h _ => (hnested v hv).2 h⟩⟩

end Nesting

/-- Of a text of numbers and wildcards, a tilde contains no more than a caret, and that no more
than a comparator, except for the versions that go on from the numbers before a wildcard: the
comparator has none of those. -/
theorem npm_ranges_nest (hne : levels ≠ [])
    (hlevels : ∀ level ∈ levels, (Text.isNumeral level = true ∧
      Text.numeralValue level < Level.numberBound - 1) ∨ level = ['x'] ∨ level = ['*'])
    (library : Text) :
    ∃ tilde caret atLeast, parse .npm library ('~' :: joinLevels levels) = .ok tilde ∧
      parse .npm library ('^' :: joinLevels levels) = .ok caret ∧
      parse .npm library ('>' :: '=' :: joinLevels levels) = .ok atLeast ∧
      ∀ v, v.hasWildcard = false →
        (tilde.contains v = true → caret.contains v = true) ∧
        (caret.contains v = true → (atLeast.contains v = true ↔
          ¬ ((unpadded (joinLevels levels)).hasWildcard = true ∧
            (levels.takeWhile Text.isNumeral).map Level.mk <+: v.levels))) := by
  have hsorts : ∀ level ∈ levels, Text.isNumeral level = true ∨ level = ['x'] ∨ level = ['*'] :=
    fun level h => (hlevels level h).imp_left And.left
  have hterse : Terse (joinLevels levels) := Operand.terse_ofLevels hsorts hne
  let w := Operand.ofLevels levels hsorts
  have hpieces : w.pieces ≠ [] := by rwa [Operand.pieces_ofLevels]
  have hbound : ∀ piece ∈ w.numbers, Text.numeralValue piece < Level.numberBound - 1 := by
    intro piece hpiece
    have hnumeral : Text.isNumeral piece = true := w.isNumeral piece hpiece
    rcases hlevels piece ((List.takeWhile_prefix _).subset hpiece) with h | rfl | rfl
    · exact h.2
    · exact absurd hnumeral (by decide)
    · exact absurd hnumeral (by decide)
  rw [← Operand.text_ofLevels hsorts] at hterse ⊢
  obtain ⟨tilde, caret, htilde, hcaret, hnested⟩ := marks_nest hterse hpieces hbound library
  obtain ⟨atLeast, hatLeast, hcontains⟩ := parse_atLeast hterse.1 hterse.unblank
    (hterse.not_mem rfl (by decide)) library
  refine ⟨tilde, caret, atLeast, htilde, hcaret, hatLeast, fun v hv => ?_⟩
  refine ⟨(hnested v hv).1, fun h => ?_⟩
  have hclosed : Closed v.levels := closed_iff.2 hv
  rw [hcontains, Bounds.contains_atLeast_iff hclosed,
    not_below_concrete_iff hpieces hclosed ((hnested v hv).2 h), hasWildcard_iff hpieces]
  rfl

/-- A text that has a wildcard between two numbers. -/
theorem sample_npm_ranges_nest :
    ([("1" : Text), "x", "3"] : List Text) ≠ [] ∧
    (∀ level ∈ ([("1" : Text), "x", "3"] : List Text), (Text.isNumeral level = true ∧
      Text.numeralValue level < Level.numberBound - 1) ∨ level = ['x'] ∨ level = ['*']) ∧
    ∃ tilde caret atLeast, parse .npm "ms" "~1.x.3" = .ok tilde ∧
      parse .npm "ms" "^1.x.3" = .ok caret ∧ parse .npm "ms" ">=1.x.3" = .ok atLeast ∧
      ∀ v, v.hasWildcard = false →
        (tilde.contains v = true → caret.contains v = true) ∧
        (caret.contains v = true → (atLeast.contains v = true ↔
          ¬ ((unpadded "1.x.3").hasWildcard = true ∧ [⟨"1"⟩] <+: v.levels))) := by
  have hlevels : ∀ level ∈ ([("1" : Text), "x", "3"] : List Text), (Text.isNumeral level = true ∧
      Text.numeralValue level < Level.numberBound - 1) ∨ level = ['x'] ∨ level = ['*'] := by
    decide
  exact ⟨by simp, hlevels, npm_ranges_nest (by simp) hlevels "ms"⟩

/-- A caret has what the comparator leaves out. -/
theorem sample_not_nested : ∃ caret atLeast, parse .npm "ms" "^1.x" = .ok caret ∧
    parse .npm "ms" ">=1.x" = .ok atLeast ∧ (concrete "1.5.0").hasWildcard = false ∧
    caret.contains (concrete "1.5.0") = true ∧ atLeast.contains (concrete "1.5.0") = false := by
  refine ⟨_, _, rfl, rfl, ?_⟩
  decide

end Requirement

end UpgradeGraph
