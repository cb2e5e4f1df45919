import UpgradeGraph.Proofs.Range.Form

/-!
# Single comparators

A comparator and its version, with no blank between them, are a list of one token, and what that
asks for is a bound or two (`comparators_token`). Behind `>=` the version is the lower bound and
belongs to the range, so that the range has what is not below it (`contains_atLeast_iff`).
Missing levels of that version are zeros, and wildcards stay what they are.
-/

namespace UpgradeGraph

open Version

namespace Text

variable {s : Text}

theorem words_of_unblank (hne : s ≠ []) (h : ∀ c ∈ s, isBlank c = false) : words s = [s] := by
  rw [words, List.splitOnP_eq_singleton (by simpa using h)]
  simp [hne]

end Text

namespace Range

variable {library spec version : Text} {comparator : Comparator}

theorem closeUp_of_unblank (h : ∀ c ∈ spec, Text.isBlank c = false) (after : Bool) :
    closeUp after spec = spec := by
  induction spec generalizing after with
  | nil => rfl
  | cons c spec ih =>
    rw [List.forall_mem_cons] at h
    simp [closeUp, h.1, ih h.2]

/-- A token is a list of comparators. -/
theorem comparators_token (hne : spec ≠ []) (hunblank : ∀ c ∈ spec, Text.isBlank c = false)
    (hstar : spec ≠ ['*']) (hread : readComparator spec = (comparator, version))
    (hversion : version ≠ []) (library : Text) : comparators library spec = .ok
      { ecosystem := .npm
        library
        descriptor := spec
        bounds := applyComparator {} (.concrete version) comparator
        floating := true } := by
  have htokens : Text.words (closeUp false spec) = [spec] := by
    rw [closeUp_of_unblank hunblank, Text.words_of_unblank hne hunblank]
  have hbounds : applyTokens? {} [spec] =
      some (applyComparator {} (.concrete version) comparator) := by
    simp [applyTokens?, hread, hversion]
  rw [comparators, Text.trim_of_unblank hunblank, if_neg hstar, htokens, hbounds]

end Range

namespace Bounds

variable {v w : Version}

/-- What is not below a version is what that version or a later one is asked for. -/
theorem contains_atLeast_iff (hv : Closed v.levels) :
    (Range.applyComparator {} w .atLeast).contains v = true ↔
      compareLevels v.levels w.levels ≠ .lt := by
  -- There is no upper bound to be below.
  have hordered : (Range.applyComparator {} w .atLeast).Ordered := by
    rintro lower upper - ⟨⟩
  have hupper : (Range.applyComparator {} w .atLeast).MeetsUpper v := by
    rintro upper ⟨⟩
  rw [contains_iff_meets hordered, meetsLower_iff rfl rfl hv, and_iff_left hupper]

end Bounds

namespace Requirement

open Range

variable {text : Text}

/-- A text without blanks and bars behind `>=` is the version to begin with. -/
theorem parse_atLeast (hne : text ≠ []) (hunblank : ∀ c ∈ text, Text.isBlank c = false)
    (hbar : '|' ∉ text) (library : Text) :
    ∃ requirement : Requirement, parse .npm library ('>' :: '=' :: text) = .ok requirement ∧
      requirement.contains = (applyComparator {} (.concrete text) .atLeast).contains := by
  have hunblank : ∀ c ∈ '>' :: '=' :: text, Text.isBlank c = false := by
    simp only [List.forall_mem_cons]
    exact ⟨by decide, by decide, hunblank⟩
  have hbars : hasBars ('>' :: '=' :: text) = false := hasBars_of_not_mem (by simp [hbar])
  have hread := comparators_token (List.cons_ne_nil '>' ('=' :: text)) hunblank (by simp) rfl hne
    library
  have hpart : RangeUnion.npmPart library ('>' :: '=' :: text) =
      comparators library ('>' :: '=' :: text) := rfl
  refine ⟨.single ⟨.npm, library, '>' :: '=' :: text,
    applyComparator {} (.concrete text) .atLeast, true⟩, ?_, rfl⟩
  rw [parse, Text.trim_of_unblank hunblank, hbars, hpart, hread]
  rfl

end Requirement

end UpgradeGraph
