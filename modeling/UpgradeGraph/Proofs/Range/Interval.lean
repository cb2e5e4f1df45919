import UpgradeGraph.Proofs.Version.Padding
import UpgradeGraph.Range.Nuget

/-!
# Bounds as intervals

A version within bounds is at the lower one, at the upper one, or between them
(`Bounds.contains_iff`). If the lower bound is below the upper one, or one is missing, this is to
meet both of them. If not, nothing is between them, and what is left are the bounds themselves
(`Bounds.contains_interval`).

So between two versions within the bounds there is no gap, as far as versions without wildcards
are concerned (`Bounds.contains_between`), with two exceptions. If the bounds are crossed, each of
them may belong to the range, and nothing between them does. And an upper bound that goes on with
a wildcard is not above the version that stops there, although it is above those that follow:
`<1.2.3.x` leaves out `1.2.3` and contains `1.2.3.0`.
-/

namespace UpgradeGraph.Bounds

open Version

variable {b : Bounds} {u v w : Version}

/-! ## Ways to be within bounds -/

/-- The version is the lower bound, and that one is in. -/
def AtLower (b : Bounds) (v : Version) : Prop :=
  ∃ lower, b.lower = some lower ∧ v.levels = lower.levels ∧ b.lowerExclusive = false

/-- The version is the upper bound, and that one is in. -/
def AtUpper (b : Bounds) (v : Version) : Prop :=
  ∃ upper, b.upper = some upper ∧ v.levels = upper.levels ∧ b.upperExclusive = false

/-- The version is above the lower bound and below the upper one, as far as these are there. -/
def Between (b : Bounds) (v : Version) : Prop :=
  (∀ lower, b.lower = some lower → v.above lower = true) ∧
    ∀ upper, b.upper = some upper → v.below upper = true

theorem same_iff : v.same w = true ↔ v.levels = w.levels := by simp [same]

theorem not_below_of_levels_eq (h : v.levels = w.levels) : v.below w = false := by
  have hsame : v.partialCompare w = some .eq := (partialCompare_eq_iff_same v w).2 (same_iff.2 h)
  simp [below, hsame]

theorem not_above_of_levels_eq (h : v.levels = w.levels) : v.above w = false := by
  have hsame : v.partialCompare w = some .eq := (partialCompare_eq_iff_same v w).2 (same_iff.2 h)
  simp [above, hsame]

/-- A version at both bounds is judged by the lower one. -/
theorem contains_iff : b.contains v = true ↔
    b.AtLower v ∨ ((∀ lower, b.lower = some lower → v.levels ≠ lower.levels) ∧ b.AtUpper v) ∨
      b.Between v := by
  cases hlower : b.lower with
  | none =>
    cases hupper : b.upper with
    | none => simp [contains, AtLower, AtUpper, Between, hlower, hupper]
    | some upper =>
      by_cases hv : v.levels = upper.levels <;>
        simp [contains, AtLower, AtUpper, Between, hlower, hupper, same, hv,
          not_below_of_levels_eq]
  | some lower =>
    cases hupper : b.upper with
    | none =>
      by_cases hv : v.levels = lower.levels <;>
        simp [contains, AtLower, AtUpper, Between, hlower, hupper, same, hv,
          not_above_of_levels_eq]
    | some upper =>
      by_cases hv : v.levels = lower.levels
      · simp [contains, AtLower, Between, hlower, hupper, same, hv, not_above_of_levels_eq]
      · by_cases hv' : v.levels = upper.levels
        · have hne : upper.levels ≠ lower.levels := hv' ▸ hv
          simp [contains, AtLower, AtUpper, Between, hlower, hupper, same, hv', hne,
            not_below_of_levels_eq]
        · simp [contains, AtLower, AtUpper, Between, hlower, hupper, same, hv, hv']

/-- Only the levels of a version matter. -/
theorem contains_congr (b : Bounds) (h : v.levels = w.levels) : b.contains v = b.contains w := by
  cases v
  cases w
  subst h
  rfl

/-! ## Both bounds at once -/

/-- The version is above the lower bound, or it is the lower bound and that one is in. -/
def MeetsLower (b : Bounds) (v : Version) : Prop := ∀ lower, b.lower = some lower →
  v.above lower = true ∨ (v.same lower = true ∧ b.lowerExclusive = false)

/-- The version is below the upper bound, or it is the upper bound and that one is in. -/
def MeetsUpper (b : Bounds) (v : Version) : Prop := ∀ upper, b.upper = some upper →
  v.below upper = true ∨ (v.same upper = true ∧ b.upperExclusive = false)

/-- The lower bound is below the upper one, if both are there. -/
def Ordered (b : Bounds) : Prop := ∀ lower upper, b.lower = some lower → b.upper = some upper →
  lower.below upper = true

theorem below_congr (h : v.levels = w.levels) : v.below u = w.below u := by
  rw [below, partialCompare, h]
  rfl

theorem above_congr (h : v.levels = w.levels) : v.above u = w.above u := by
  rw [above, partialCompare, h]
  rfl

theorem AtLower.meets (h : b.AtLower v) (hordered : b.Ordered) :
    b.MeetsLower v ∧ b.MeetsUpper v := by
  obtain ⟨lower, hlower, hlevels, hin⟩ := h
  refine ⟨fun l hl => ?_, fun upper hupper => ?_⟩
  · obtain rfl : lower = l := Option.some.inj (hlower.symm.trans hl)
    exact .inr ⟨same_iff.2 hlevels, hin⟩
  · exact .inl ((below_congr hlevels).trans (hordered lower upper hlower hupper))

theorem AtUpper.meets (h : b.AtUpper v) (hordered : b.Ordered) :
    b.MeetsLower v ∧ b.MeetsUpper v := by
  obtain ⟨upper, hupper, hlevels, hin⟩ := h
  refine ⟨fun lower hlower => ?_, fun u hu => ?_⟩
  · refine .inl ((above_congr hlevels).trans ?_)
    exact below_iff_above.1 (hordered lower upper hlower hupper)
  · obtain rfl : upper = u := Option.some.inj (hupper.symm.trans hu)
    exact .inr ⟨same_iff.2 hlevels, hin⟩

/-- Within bounds that are in order, a version meets both of them, and the other way round. -/
theorem contains_iff_meets (h : b.Ordered) :
    b.contains v = true ↔ b.MeetsLower v ∧ b.MeetsUpper v := by
  constructor
  · intro hcontains
    rcases contains_iff.1 hcontains with hlower | ⟨-, hupper⟩ | hbetween
    · exact hlower.meets h
    · exact hupper.meets h
    · exact ⟨fun lower hl => .inl (hbetween.1 lower hl), fun upper hu => .inl (hbetween.2 upper hu)⟩
  · rintro ⟨hlower, hupper⟩
    refine contains_iff.2 ?_
    by_cases hatLower : b.AtLower v
    · exact .inl hatLower
    have habove : ∀ lower, b.lower = some lower → v.above lower = true := fun lower hl =>
      (hlower lower hl).resolve_right fun hsame =>
        hatLower ⟨lower, hl, same_iff.1 hsame.1, hsame.2⟩
    by_cases hatUpper : b.AtUpper v
    · refine .inr (.inl ⟨fun lower hl hlevels => ?_, hatUpper⟩)
      exact absurd (habove lower hl) (by simp [not_above_of_levels_eq hlevels])
    · refine .inr (.inr ⟨habove, fun upper hu => ?_⟩)
      exact (hupper upper hu).resolve_right fun hsame =>
        hatUpper ⟨upper, hu, same_iff.1 hsame.1, hsame.2⟩

/-- From a bound on, that bound included, is what is not below it. -/
theorem meetsLower_iff {lower : Version} (hlower : b.lower = some lower)
    (hin : b.lowerExclusive = false) (hv : Closed v.levels) :
    b.MeetsLower v ↔ compareLevels v.levels lower.levels ≠ .lt := by
  simp only [MeetsLower, hlower, hin, Option.some.injEq, forall_eq', above_iff_of_closed hv,
    same_iff, and_true, ← hv.compareLevels_eq_iff, ← Std.OrientedCmp.gt_iff_lt]
  cases compareLevels v.levels lower.levels <;> simp

/-- Up to a bound, and without it, is what is below it. -/
theorem meetsUpper_iff {upper : Version} (hupper : b.upper = some upper)
    (hout : b.upperExclusive = true) (hclosed : Closed upper.levels) :
    b.MeetsUpper v ↔ compareLevels v.levels upper.levels = .lt := by
  simp [MeetsUpper, hupper, hout, below_iff_of_closed hclosed]

/-- Nothing lies between bounds that are not in order. -/
theorem not_between_of_not_ordered (hupper : ∀ upper, b.upper = some upper → Closed upper.levels)
    (h : ¬ b.Ordered) : ¬ b.Between v := by
  intro hbetween
  refine h fun lower upper hl hu => ?_
  have hlow : lower.below v = true := below_iff_above.2 (hbetween.1 lower hl)
  have hhigh : v.below upper = true := hbetween.2 upper hu
  exact (below_iff_of_below hlow hhigh).2 (hupper upper hu).not_stopsAtWildcard

/-- Bounds in order are an interval: within them is what meets both conditions. If the lower bound
is not below the upper one, all that is within them are the bounds themselves, each as far as its
own bracket goes; one that is both bounds is judged by the lower one. -/
theorem contains_interval
    (hupper : ∀ upper, b.upper = some upper → upper.hasWildcard = false) :
    (b.Ordered → (b.contains v = true ↔ b.MeetsLower v ∧ b.MeetsUpper v)) ∧
    (¬ b.Ordered → (b.contains v = true ↔ b.AtLower v ∨
      ((∀ lower, b.lower = some lower → v.levels ≠ lower.levels) ∧ b.AtUpper v))) := by
  refine ⟨contains_iff_meets, fun hordered => ?_⟩
  have hnone : ¬ b.Between v :=
    not_between_of_not_ordered (fun upper hu => closed_iff.2 (hupper upper hu)) hordered
  rw [contains_iff, or_iff_left hnone]

/-- An interval, and one that is written the wrong way round. -/
theorem sample_contains_interval :
    (∃ range, Range.nuget "Foo" "(1.0,2.0]" = .ok range ∧
      (∀ upper, range.bounds.upper = some upper → upper.hasWildcard = false) ∧
      (range.contains (concrete "2.0.0") = true ↔
        range.bounds.MeetsLower (concrete "2.0.0") ∧ range.bounds.MeetsUpper (concrete "2.0.0"))) ∧
    ∃ range, Range.nuget "Foo" "(2.0,1.0]" = .ok range ∧
      (∀ upper, range.bounds.upper = some upper → upper.hasWildcard = false) ∧
      (range.contains (concrete "1.0.0") = true ↔ range.bounds.AtLower (concrete "1.0.0") ∨
        ((∀ lower, range.bounds.lower = some lower →
            (concrete "1.0.0").levels ≠ lower.levels) ∧
          range.bounds.AtUpper (concrete "1.0.0"))) := by
  refine ⟨⟨_, rfl, ?_, ?_⟩, ⟨_, rfl, ?_, ?_⟩⟩
  · rintro upper ⟨⟩
    decide
  · refine (contains_interval ?_).1 ?_
    · rintro upper ⟨⟩
      decide
    · rintro lower upper ⟨⟩ ⟨⟩
      decide
  · rintro upper ⟨⟩
    decide
  · refine (contains_interval ?_).2 ?_
    · rintro upper ⟨⟩
      decide
    · intro hordered
      exact absurd (hordered _ _ rfl rfl) (by decide)

/-- The upper bracket does not count if both bounds are one version, and each bound has only its
own bracket to belong to crossed bounds. -/
theorem sample_not_an_interval :
    (∃ range, Range.nuget "Foo" "[1.0,1.0)" = .ok range ∧
      range.contains (concrete "1.0.0") = true ∧
      ¬ range.bounds.MeetsUpper (concrete "1.0.0")) ∧
    ∃ range, Range.nuget "Foo" "[2.0,1.0]" = .ok range ∧
      range.contains (concrete "2.0.0") = true ∧
      ¬ range.bounds.MeetsUpper (concrete "2.0.0") := by
  refine ⟨⟨_, rfl, by decide, fun h => ?_⟩, ⟨_, rfl, by decide, fun h => ?_⟩⟩
  · exact absurd (h _ rfl) (by decide)
  · exact absurd (h _ rfl) (by decide)

/-! ## Gaps -/

/-- The lower bound is above the upper one. -/
def Crossed (b : Bounds) : Prop :=
  ∃ lower upper, b.lower = some lower ∧ b.upper = some upper ∧ lower.above upper = true

/-- The upper bound goes on with a wildcard where the version stops. -/
def StopsBelow (b : Bounds) (v : Version) : Prop :=
  ∃ upper, b.upper = some upper ∧ StopsAtWildcard v.levels upper.levels

section Gaps

variable (hu : Closed u.levels) (hv : Closed v.levels) (hw : Closed w.levels)
  (huv : compareLevels u.levels v.levels = .lt) (hvw : compareLevels v.levels w.levels = .lt)
  (hcu : b.contains u = true) (hcw : b.contains w = true) (hcrossed : ¬ b.Crossed)

include hu hv hw huv hvw hcu hcw hcrossed

/-- The lower of the two versions keeps what is above it above the lower bound. -/
theorem above_lower {lower : Version} (hlower : b.lower = some lower) : v.above lower = true := by
  rw [above_iff_of_closed hv]
  rcases contains_iff.1 hcu with ⟨l, hl, hlevels, -⟩ | ⟨-, upper, hupper, hlevels, -⟩ | hbetween
  · obtain rfl : l = lower := Option.some.inj (hl.symm.trans hlower)
    rwa [← hlevels]
  · -- The upper bound has been reached already, so that the other one must be the lower bound.
    have huw : compareLevels upper.levels w.levels = .lt := hlevels ▸ Std.TransCmp.lt_trans huv hvw
    rcases contains_iff.1 hcw with ⟨l, hl, hlevels', -⟩ | ⟨-, u', hu', hlevels', -⟩ | hbetween
    · refine absurd ⟨l, upper, hl, hupper, ?_⟩ hcrossed
      rw [above_iff_of_closed (hlevels' ▸ hw), ← hlevels']
      exact huw
    · obtain rfl : u' = upper := Option.some.inj (hu'.symm.trans hupper)
      exact absurd hlevels'.symm (ne_of_compareLevels huw)
    · have hbelow := (below_iff.1 (hbetween.2 upper hupper)).1
      rw [Std.OrientedCmp.gt_iff_lt.2 huw] at hbelow
      cases hbelow
  · exact Std.TransCmp.lt_trans ((above_iff_of_closed hu).1 (hbetween.1 lower hlower)) huv

omit hv in
/-- The upper one of the two versions keeps what is below it below the upper bound. -/
theorem below_upper {upper : Version} (hupper : b.upper = some upper)
    (hstops : ¬ StopsAtWildcard v.levels upper.levels) : v.below upper = true := by
  refine below_iff.2 ⟨?_, hstops⟩
  rcases contains_iff.1 hcw with ⟨l, hl, hlevels, -⟩ | ⟨-, u', hu', hlevels, -⟩ | hbetween
  · -- The lower bound is reached here only, so that the other one must be the upper bound.
    have hul : compareLevels u.levels l.levels = .lt := hlevels ▸ Std.TransCmp.lt_trans huv hvw
    rcases contains_iff.1 hcu with ⟨l', hl', hlevels', -⟩ | ⟨-, u', hu', hlevels', -⟩ | hbetween
    · obtain rfl : l' = l := Option.some.inj (hl'.symm.trans hl)
      exact absurd hlevels' (ne_of_compareLevels hul)
    · refine absurd ⟨l, u', hl, hu', ?_⟩ hcrossed
      rw [above_iff_of_closed (hlevels ▸ hw), ← hlevels']
      exact hul
    · have habove := (above_iff_of_closed hu).1 (hbetween.1 l hl)
      rw [Std.OrientedCmp.gt_iff_lt.2 habove] at hul
      cases hul
  · obtain rfl : u' = upper := Option.some.inj (hu'.symm.trans hupper)
    rwa [← hlevels]
  · exact Std.TransCmp.lt_trans hvw (below_iff.1 (hbetween.2 upper hupper)).1

end Gaps

/-- What is between two versions within the bounds is within the bounds. -/
theorem contains_between (hu : Closed u.levels) (hv : Closed v.levels) (hw : Closed w.levels)
    (huv : compareLevels u.levels v.levels ≠ .gt) (hvw : compareLevels v.levels w.levels ≠ .gt)
    (hcu : b.contains u = true) (hcw : b.contains w = true) (hcrossed : ¬ b.Crossed)
    (hstops : ¬ b.StopsBelow v) : b.contains v = true := by
  by_cases hlow : u.levels = v.levels
  · rwa [← contains_congr b hlow]
  by_cases hhigh : v.levels = w.levels
  · rwa [contains_congr b hhigh]
  have hstrict {x y : Version} (hx : Closed x.levels) (hne : x.levels ≠ y.levels)
      (hle : compareLevels x.levels y.levels ≠ .gt) : compareLevels x.levels y.levels = .lt := by
    have hneq := mt hx.compareLevels_eq_iff.1 hne
    cases ho : compareLevels x.levels y.levels with
    | lt => rfl
    | eq => exact absurd ho hneq
    | gt => exact absurd ho hle
  have huv := hstrict hu hlow huv
  have hvw := hstrict hv hhigh hvw
  refine contains_iff.2 (.inr (.inr ⟨fun lower hlower => ?_, fun upper hupper => ?_⟩))
  · exact above_lower hu hv hw huv hvw hcu hcw hcrossed hlower
  · exact below_upper hu hw huv hvw hcu hcw hcrossed hupper fun h => hstops ⟨upper, hupper, h⟩

end UpgradeGraph.Bounds
