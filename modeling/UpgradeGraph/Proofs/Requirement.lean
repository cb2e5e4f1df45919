import UpgradeGraph.Requirement

/-!
# The library of a requirement

Whatever grammar a range is read in, and however it is cut up for that, what comes out of
the reading is about the library that it was read for (`Requirement.library_of_parse`).
-/

namespace UpgradeGraph

/-- A mapped result comes from a result. -/
theorem exists_of_map_eq_ok {ε α β : Type} {f : α → β} {x : Except ε α} {b : β}
    (h : x.map f = .ok b) : ∃ a, x = .ok a ∧ f a = b := by
  cases x with
  | error e => cases h
  | ok a => exact ⟨a, rfl, Except.ok.inj h⟩

theorem exists_map_eq_ok_iff {ε α β : Type} {f : α → β} {x : Except ε α} :
    (∃ b, x.map f = .ok b) ↔ ∃ a, x = .ok a := by
  constructor
  · rintro ⟨b, h⟩
    obtain ⟨a, ha, -⟩ := exists_of_map_eq_ok h
    exact ⟨a, ha⟩
  · rintro ⟨a, rfl⟩
    exact ⟨f a, rfl⟩

/-- What follows a result is a result only if there was one to follow. -/
theorem exists_of_bind_eq_ok {ε α β : Type} {x : Except ε α} {f : α → Except ε β} {b : β}
    (h : x >>= f = .ok b) : ∃ a, x = .ok a ∧ f a = .ok b := by
  cases x with
  | error e => cases h
  | ok a => exact ⟨a, rfl, h⟩

namespace Range

variable {library spec : Text} {range : Range}

theorem library_of_nuget (h : nuget library spec = .ok range) : range.library = library := by
  simp only [nuget] at h
  split at h
  · cases h; rfl
  · split at h
    · cases h; rfl
    · split at h
      · cases h
      · split at h
        · split at h
          · cases h
          · split at h
            · cases h
            · cases h; rfl
        · cases h; rfl
        · cases h

theorem library_of_npm (h : npm library spec = .ok range) : range.library = library := by
  unfold npm at h
  split at h
  · cases h
  · split at h
    · cases h
      dsimp only
      split <;> rfl
    · cases h
      dsimp only
      split <;> rfl
    · dsimp only at h
      split at h
      · cases h
        rfl
      · split at h <;> cases h <;> rfl

theorem library_of_comparators (h : comparators library spec = .ok range) :
    range.library = library := by
  unfold comparators at h
  split at h
  · cases h; rfl
  · split at h
    · cases h; rfl
    · cases h

end Range

theorem RangeUnion.library_of_npmPart {library spec : Text} {range : Range}
    (h : npmPart library spec = .ok range) : range.library = library := by
  unfold npmPart at h
  split at h
  · obtain ⟨range', hrange', rfl⟩ := exists_of_map_eq_ok h
    exact (Range.library_of_npm hrange' : range'.library = library)
  · split at h
    · exact Range.library_of_comparators h
    · exact Range.library_of_npm h

theorem RangeUnion.library_of_nuget {library spec : Text} {union : RangeUnion}
    (h : RangeUnion.nuget library spec = .ok union) : union.library = library := by
  obtain ⟨parts, -, rfl⟩ := exists_of_map_eq_ok h
  rfl

theorem RangeUnion.library_of_npm {library spec : Text} {union : RangeUnion}
    (h : RangeUnion.npm library spec = .ok union) : union.library = library := by
  obtain ⟨parts, -, rfl⟩ := exists_of_map_eq_ok h
  rfl

/-- A requirement is one of the library that it was read for. -/
theorem Requirement.library_of_parse {ecosystem : Ecosystem} {library spec : Text}
    {requirement : Requirement} (h : parse ecosystem library spec = .ok requirement) :
    requirement.library = library := by
  cases ecosystem with
  | unknown => cases h
  | npm =>
    simp only [parse] at h
    split at h <;> obtain ⟨read, hread, rfl⟩ := exists_of_map_eq_ok h
    · exact RangeUnion.library_of_npm hread
    · exact (RangeUnion.library_of_npmPart hread : read.library = library)
  | nuget =>
    simp only [parse] at h
    split at h <;> obtain ⟨read, hread, rfl⟩ := exists_of_map_eq_ok h
    · exact RangeUnion.library_of_nuget hread
    · exact Range.library_of_nuget hread

end UpgradeGraph
