import UpgradeGraph.Proofs.Range.Npm
import UpgradeGraph.Proofs.Range.Union
import UpgradeGraph.Proofs.Range.Written

/-!
# Ranges that mean one version

A range that is not floating is a pin: its two bounds are one version, and that version is all that
it contains, wildcards or not (`Bounds.contains_pinned`). No grammar makes an exception. Comparator
lists float whatever they ask for, caret and tilde ranges and intervals do, and the plain version
and the bracketed one, which do not, are pins (`Range.floats_or_pins`).

A union floats if one of its parts does, so one that does not is a pin for each part, and there is
at least one part. What it contains is then a finite list that is known when it has been read
(`Requirement.contains_pins`).
-/

namespace UpgradeGraph

namespace Range

variable {library spec : Text} {range : Range} {pin : Version}

/-! ## One range -/

/-- The range means this version and is not floating. -/
structure Pins (range : Range) (pin : Version) : Prop where
  fixed : range.floating = false
  bounds : range.bounds = .pinned pin

/-- What is said of a range does not depend on the text that names it. -/
theorem Pins.describe (h : range.Pins pin) (descriptor : Text) :
    Pins { range with descriptor } pin := ⟨h.fixed, h.bounds⟩

theorem Pins.contains_iff (h : range.Pins pin) (v : Version) :
    range.contains v = true ↔ v.same pin = true := by
  rw [contains, h.bounds, Bounds.contains_pinned, Bounds.same_iff]

/-- The range is floating, or it is a pin. -/
def FloatsOrPins (range : Range) : Prop := range.floating = true ∨ ∃ pin, range.Pins pin

theorem FloatsOrPins.describe (h : range.FloatsOrPins) (descriptor : Text) :
    FloatsOrPins { range with descriptor } :=
  h.imp id fun ⟨pin, hpin⟩ => ⟨pin, hpin.describe descriptor⟩

theorem floatsOrPins_nuget (h : nuget library spec = .ok range) : range.FloatsOrPins := by
  cases (exists_nuget_iff library spec).1 ⟨range, h⟩ with
  | bare hopens hcloses =>
    by_cases hne : spec = []
    · rw [nuget, if_pos hne] at h
      cases h
      exact .inl rfl
    · rw [nuget_bare hne hopens hcloses] at h
      cases h
      exact .inl rfl
  | exact hcomma htrim =>
    rw [nuget_exact hcomma htrim] at h
    cases h
    exact .inr ⟨_, rfl, rfl⟩
  | interval left right hlower hupper =>
    rw [nuget_interval left right hlower hupper] at h
    cases h
    exact .inl rfl

theorem floatsOrPins_npm (h : npm library spec = .ok range) : range.FloatsOrPins := by
  unfold npm at h
  split at h
  · cases h
  · split at h
    · cases h
      refine .inl ?_
      dsimp only
      split <;> rfl
    · cases h
      refine .inl ?_
      dsimp only
      split <;> rfl
    · -- Without a mark, levels that are all fixed make a pin.
      dsimp only at h
      split at h
      · cases h
        exact .inr ⟨_, rfl, rfl⟩
      · split at h <;> cases h <;> exact .inl rfl

theorem floating_of_comparators (h : comparators library spec = .ok range) :
    range.floating = true := by
  unfold comparators at h
  split at h
  · cases h
    rfl
  · split at h <;> cases h
    rfl

end Range

namespace RangeUnion

open Range

variable {library spec : Text} {range : Range} {union : RangeUnion}

/-! ## Parts of a union -/

theorem floatsOrPins_npmPart (h : npmPart library spec = .ok range) : range.FloatsOrPins := by
  unfold npmPart at h
  split at h
  · obtain ⟨star, hstar, rfl⟩ := exists_of_map_eq_ok h
    exact (floatsOrPins_npm hstar).describe []
  · split at h
    · exact .inl (floating_of_comparators h)
    · exact floatsOrPins_npm h

theorem floatsOrPins_npm (h : RangeUnion.npm library spec = .ok union) :
    union.parts ≠ [] ∧ ∀ range ∈ union.parts, range.FloatsOrPins := by
  obtain ⟨parts, hparts, rfl⟩ := exists_of_map_eq_ok h
  have hread := mapM_eq_ok_iff.1 hparts
  constructor
  · rintro rfl
    have hnone : (splitBars spec).map Text.trim = [] := List.forall₂_nil_right_iff.1 hread
    exact splitBars_ne_nil spec (List.map_eq_nil_iff.1 hnone)
  · intro range hrange
    obtain ⟨part, -, range', hpart, rfl⟩ :=
      (exists_mem_iff hread (fun range' => range = range')).1 ⟨range, hrange, rfl⟩
    exact floatsOrPins_npmPart hpart

theorem floatsOrPins_nugetParts {odd : Bool} {parts : List Text} {ranges : List Range}
    (h : nugetParts library spec odd parts = .ok ranges) :
    (parts ≠ [] → ranges ≠ []) ∧ ∀ range ∈ ranges, range.FloatsOrPins := by
  fun_induction nugetParts library spec odd parts generalizing ranges with
  | case1 =>
    cases h
    exact ⟨fun hne => absurd rfl hne, List.forall_mem_nil _⟩
  | case2 part rest hcomplete ih =>
    obtain ⟨range, hread, hrest⟩ := exists_of_bind_eq_ok h
    obtain ⟨others, hothers, hranges⟩ := exists_of_bind_eq_ok hrest
    cases hranges
    exact ⟨fun _ => List.cons_ne_nil _ _,
      List.forall_mem_cons.2 ⟨floatsOrPins_nuget hread, (ih hothers).2⟩⟩
  | case3 part hincomplete => cases h
  | case4 part hincomplete second rest ih =>
    obtain ⟨range, hread, hrest⟩ := exists_of_bind_eq_ok h
    obtain ⟨others, hothers, hranges⟩ := exists_of_bind_eq_ok hrest
    cases hranges
    exact ⟨fun _ => List.cons_ne_nil _ _,
      List.forall_mem_cons.2 ⟨floatsOrPins_nuget hread, (ih hothers).2⟩⟩

theorem floatsOrPins_nuget (h : RangeUnion.nuget library spec = .ok union) :
    union.parts ≠ [] ∧ ∀ range ∈ union.parts, range.FloatsOrPins := by
  obtain ⟨parts, hparts, rfl⟩ := exists_of_map_eq_ok h
  have hpieces : commaParts spec ≠ [] := by simp [commaParts, List.splitOn_ne_nil]
  exact (floatsOrPins_nugetParts hparts).imp (· hpieces) id

end RangeUnion

namespace Requirement

open Range

variable {ecosystem : Ecosystem} {library spec : Text} {requirement : Requirement}

/-! ## Requirements -/

/-- Whichever grammar has read them, the ranges of a requirement are pins where they do not float,
and there is at least one of them. -/
theorem floatsOrPins_of_parse (h : parse ecosystem library spec = .ok requirement) :
    requirement.ranges ≠ [] ∧ ∀ range ∈ requirement.ranges, range.FloatsOrPins := by
  have hone : ∀ range : Range, range.FloatsOrPins →
      (single range).ranges ≠ [] ∧ ∀ r ∈ (single range).ranges, r.FloatsOrPins :=
    fun range hrange => ⟨List.cons_ne_nil _ _, List.forall_mem_singleton.2 hrange⟩
  cases ecosystem with
  | unknown => cases h
  | npm =>
    simp only [parse] at h
    split at h <;> obtain ⟨read, hread, rfl⟩ := exists_of_map_eq_ok h
    · exact RangeUnion.floatsOrPins_npm hread
    · exact hone _ ((RangeUnion.floatsOrPins_npmPart hread).describe spec)
  | nuget =>
    simp only [parse] at h
    split at h <;> obtain ⟨read, hread, rfl⟩ := exists_of_map_eq_ok h
    · exact RangeUnion.floatsOrPins_nuget hread
    · exact hone read (Range.floatsOrPins_nuget hread)

/-- Ranges of which none floats have one pin each. -/
theorem exists_pins {ranges : List Range} (h : ∀ range ∈ ranges, range.FloatsOrPins)
    (hfixed : ∀ range ∈ ranges, range.floating = false) :
    ∃ pins : List Version, List.Forall₂ Pins ranges pins := by
  induction ranges with
  | nil => exact ⟨[], .nil⟩
  | cons range ranges ih =>
    rw [List.forall_mem_cons] at h hfixed
    obtain ⟨pins, hpins⟩ := ih h.2 hfixed.2
    obtain ⟨pin, hpin⟩ := h.1.resolve_left (by simp [hfixed.1])
    exact ⟨pin :: pins, .cons hpin hpins⟩

/-- A version lies in one of several pins just if it is one of them. -/
theorem exists_contains_iff {ranges : List Range} {pins : List Version}
    (h : List.Forall₂ Pins ranges pins) (v : Version) :
    (∃ range ∈ ranges, range.contains v = true) ↔ ∃ pin ∈ pins, v.same pin = true := by
  induction h with
  | nil => simp
  | cons hpin _ ih =>
    rw [List.exists_mem_cons_iff, List.exists_mem_cons_iff, hpin.contains_iff, ih]

/-- What is not floating is a finite list of versions, one for each range that has been read, and
at least one. It contains these versions and no others. -/
theorem contains_pins (h : parse ecosystem library spec = .ok requirement)
    (hfixed : requirement.floating = false) :
    ∃ pins : List Version, pins ≠ [] ∧ List.Forall₂ Pins requirement.ranges pins ∧
      ∀ v, requirement.contains v = true ↔ ∃ pin ∈ pins, v.same pin = true := by
  obtain ⟨hne, hranges⟩ := floatsOrPins_of_parse h
  have hnone : ∀ range ∈ requirement.ranges, range.floating = false := by
    intro range hrange
    refine Bool.eq_false_iff.2 fun hfloating => ?_
    rw [floating_iff.2 ⟨range, hrange, hfloating⟩] at hfixed
    cases hfixed
  obtain ⟨pins, hpins⟩ := exists_pins hranges hnone
  refine ⟨pins, ?_, hpins, fun v => contains_iff.trans (exists_contains_iff hpins v)⟩
  rintro rfl
  exact hne (List.forall₂_nil_right_iff.1 hpins)

/-- Two pins, the first of which has a wildcard. -/
def twoPins : Requirement := .union {
  library := "Foo"
  descriptor := "[1.x], [2.0]"
  parts := [.pinned .nuget "Foo" "[1.x]" (.concrete "1.x"),
    .pinned .nuget "Foo" "[2.0]" (.concrete "2.0")] }

/-- A pin with a wildcard contains the version that is written so, and none that the wildcard could
stand for. -/
theorem sample_contains_pins :
    parse .nuget "Foo" "[1.x], [2.0]" = .ok twoPins ∧ twoPins.floating = false ∧
    twoPins.contains (.concrete "1.x") = true ∧ twoPins.contains (.concrete "1.5") = false ∧
    ∃ pins : List Version, pins.length = 2 ∧
      ∀ v, twoPins.contains v = true ↔ ∃ pin ∈ pins, v.same pin = true := by
  have hread : parse .nuget "Foo" "[1.x], [2.0]" = .ok twoPins := by decide +kernel
  obtain ⟨pins, -, hpins, hcontains⟩ := contains_pins hread rfl
  exact ⟨hread, rfl, rfl, rfl, pins, hpins.length_eq.symm, hcontains⟩

end Requirement

end UpgradeGraph
