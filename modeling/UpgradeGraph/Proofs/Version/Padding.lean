import UpgradeGraph.Proofs.Version.Partial

/-!
# Releases completed and as they stand

A release is completed with zeros to be checked against a bound, and taken as it stands to
be sorted. Both orders go by the first level that decides. So they can only differ where one
release ends before any level has decided and the other one continues it (`Continues`). As
they stand the longer one is above then, while as completed releases its further levels are
compared with zeros: `1.0-rc` goes behind `1`, although it is the lower release
(`totalCompare_of_below`).

All this is about releases without wildcards. On their rows the order of levels tells equal
from unequal (`compareLevels_eq_iff`), and the order of bounds leaves nothing open
(`below_iff_of_closed`).
-/

namespace UpgradeGraph.Version

variable {as bs xs ys : List Level} {a b : Text}

/-! ## Rows without wildcards -/

/-- No level is a wildcard. -/
def Closed (row : List Level) : Prop := ∀ level ∈ row, level.isWildcard = false

theorem closed_iff {v : Version} : Closed v.levels ↔ v.hasWildcard = false := by
  simp [Closed, hasWildcard]

theorem Closed.tail {level : Level} (h : Closed (level :: as)) : Closed as :=
  fun l hl => h l (List.mem_cons_of_mem level hl)

theorem Closed.append (h : Closed as) (h' : Closed bs) : Closed (as ++ bs) :=
  fun l hl => (List.mem_append.1 hl).elim (h l) (h' l)

theorem Closed.not_stopsAtWildcard (h : Closed bs) : ¬ StopsAtWildcard as bs := by
  fun_induction StopsAtWildcard as bs with
  | case1 b bs => simp [h b List.mem_cons_self]
  | case2 a as b bs ih => exact fun hstops => ih h.tail hstops.2
  | case3 => exact id

theorem ne_of_compareLevels (h : compareLevels as bs = .lt) : as ≠ bs := by
  rintro rfl
  have hself : compareLevels as as = .eq := Std.ReflCmp.compare_self
  simp [hself] at h

/-- Levels that tie are one level. -/
theorem Closed.compareLevels_eq_iff (h : Closed as) : compareLevels as bs = .eq ↔ as = bs := by
  induction as generalizing bs with
  | nil => cases bs <;> simp [compareLevels]
  | cons a as ih =>
    cases bs with
    | nil => simp [compareLevels]
    | cons b bs =>
      simp [Ordering.then_eq_eq, Level.totalCompare_eq_iff, h a List.mem_cons_self, ih h.tail]

/-- Below a version without wildcards nothing is left open. -/
theorem below_iff_of_closed {v w : Version} (h : Closed w.levels) :
    v.below w = true ↔ compareLevels v.levels w.levels = .lt := by
  rw [below_iff, and_iff_left h.not_stopsAtWildcard]

/-- Above a version it is the upper one that may not have wildcards. -/
theorem above_iff_of_closed {v w : Version} (h : Closed v.levels) :
    v.above w = true ↔ compareLevels w.levels v.levels = .lt := by
  rw [← below_iff_of_closed h, below, above, partialCompare_swap w v]
  cases w.partialCompare v with
  | none => simp
  | some o => cases o <;> simp

/-! ## Rows that go on -/

/-- What rows have in common in front changes nothing. -/
theorem compareLevels_append_left (init as bs : List Level) :
    compareLevels (init ++ as) (init ++ bs) = compareLevels as bs := by
  induction init with
  | nil => rfl
  | cons level init ih =>
    have hself : Level.totalCompare level level = .eq := Std.ReflCmp.compare_self
    rw [List.cons_append, List.cons_append, compareLevels_cons, hself, ih]
    rfl

theorem compareLevels_of_extends (h : as <+: bs) (hne : as ≠ bs) : compareLevels as bs = .lt := by
  obtain ⟨rest, rfl⟩ := h
  have hrest : compareLevels (as ++ []) (as ++ rest) = .lt := by
    rw [compareLevels_append_left]
    cases rest with
    | nil => simp at hne
    | cons level rest => rfl
  rwa [List.append_nil] at hrest

/-- Where neither row continues the other, some level decides, and what comes after the rows
does not matter. -/
theorem compareLevels_append (has : Closed as) (h : ¬ as <+: bs) (h' : ¬ bs <+: as) :
    compareLevels (as ++ xs) (bs ++ ys) = compareLevels as bs := by
  induction as generalizing bs with
  | nil => exact absurd List.nil_prefix h
  | cons a as ih =>
    cases bs with
    | nil => exact absurd List.nil_prefix h'
    | cons b bs =>
      simp only [List.cons_append, compareLevels_cons]
      by_cases hab : a = b
      · subst hab
        rw [List.prefix_cons_inj] at h h'
        rw [ih has.tail h h']
      · have hdecided : Level.totalCompare a b ≠ .eq := by
          simp [Level.totalCompare_eq_iff, hab, has a List.mem_cons_self]
        cases ho : Level.totalCompare a b with
        | eq => exact absurd ho hdecided
        | lt | gt => rfl

/-! ## Releases -/

/-- The level that completes a release. -/
def zero : Level := ⟨['0']⟩

theorem levels_concrete (text : Text) : (concrete text).levels =
    (unpadded text).levels ++ List.replicate (3 - (unpadded text).levels.length) zero := rfl

theorem levels_reference (text : Text) : (reference text).levels =
    (unpadded text).levels ++ List.replicate (3 - (unpadded text).levels.length) ⟨['x']⟩ := rfl

/-- Pieces without dots, put between dots, are the levels of the text. -/
theorem levels_unpadded_intercalate {pieces : List Text} (hne : pieces ≠ [])
    (hdots : ∀ piece ∈ pieces, '.' ∉ piece) :
    (unpadded (['.'].intercalate pieces)).levels = pieces.map Level.mk := by
  simp [unpadded, parse, Padding.fill?, List.splitOn_intercalate '.' hdots hne]

/-- Padding comes behind the levels that were given. -/
theorem exists_levels_parse (text : Text) (padding : Padding) :
    ∃ fill, (parse text padding).levels = (unpadded text).levels ++ fill := by
  cases padding with
  | unpadded => exact ⟨[], (List.append_nil _).symm⟩
  | reference | concrete => exact ⟨_, rfl⟩

/-- Three pieces and more leave nothing open. -/
theorem levels_reference_intercalate {pieces : List Text} (hlength : 3 ≤ pieces.length)
    (hdots : ∀ piece ∈ pieces, '.' ∉ piece) :
    (reference (['.'].intercalate pieces)).levels = pieces.map Level.mk := by
  have hne : pieces ≠ [] := List.ne_nil_of_length_pos (by omega)
  simp [levels_reference, levels_unpadded_intercalate hne hdots, Nat.sub_eq_zero_of_le hlength]

theorem closed_zeros (k : Nat) : Closed (List.replicate k zero) := fun level hlevel => by
  rw [List.eq_of_mem_replicate hlevel]
  decide

theorem closed_concrete (h : (unpadded a).hasWildcard = false) : Closed (concrete a).levels := by
  rw [levels_concrete]
  exact (closed_iff.2 h).append (closed_zeros _)

theorem pieces_unpadded (text : Text) :
    (unpadded text).levels.map Level.raw = text.splitOn '.' := by
  rw [unpadded, ← splitOn_display, ← unpadded, display_unpadded]

/-- The first release is the second with a dot and more behind it. -/
def Continues (a b : Text) : Prop := ∃ rest, a = b ++ '.' :: rest

/-- To continue a release is to have its levels and more. -/
theorem continues_iff : Continues a b ↔
    (unpadded b).levels <+: (unpadded a).levels ∧ (unpadded b).levels ≠ (unpadded a).levels := by
  constructor
  · intro hmore
    obtain ⟨rest, rfl⟩ := hmore
    have hlevels : (unpadded (b ++ '.' :: rest)).levels =
        (unpadded b).levels ++ (unpadded rest).levels := by
      simp [unpadded, parse, Padding.fill?, List.splitOn_append_cons_self]
    rw [hlevels]
    exact ⟨List.prefix_append _ _, by simp [levels_parse_ne_nil, unpadded]⟩
  · intro hprefix
    obtain ⟨⟨more, hmore⟩, hne⟩ := hprefix
    have hmore_ne : more ≠ [] := by
      rintro rfl
      exact hne (by simpa using hmore)
    have hdots : ∀ piece ∈ more.map Level.raw, '.' ∉ piece := by
      intro piece hpiece
      suffices h : piece ∈ a.splitOn '.' from Text.not_mem_of_mem_splitOn h
      rw [← pieces_unpadded, ← hmore, List.map_append]
      exact List.mem_append_right _ hpiece
    have hpieces : (['.'].intercalate (more.map Level.raw)).splitOn '.' = more.map Level.raw :=
      List.splitOn_intercalate '.' hdots (by simpa using hmore_ne)
    -- The two texts are cut into the same pieces.
    have hsame : a.splitOn '.' =
        (b ++ '.' :: ['.'].intercalate (more.map Level.raw)).splitOn '.' := by
      rw [List.splitOn_append_cons_self, hpieces, ← pieces_unpadded a, ← pieces_unpadded b,
        ← hmore, List.map_append]
    refine ⟨['.'].intercalate (more.map Level.raw), ?_⟩
    have hjoined := congrArg ['.'].intercalate hsame
    rwa [List.intercalate_splitOn, List.intercalate_splitOn] at hjoined

/-- The first release continues the second, and yet it is the lower one of the two. -/
def Undercuts (a b : Text) : Prop := Continues a b ∧ (concrete a).below (concrete b) = true

/-- Sorted as they stand, releases come in the order that they have as completed releases,
except for one that continues another. -/
theorem totalCompare_of_below (ha : (unpadded a).hasWildcard = false)
    (hb : (unpadded b).hasWildcard = false) (h : (concrete a).below (concrete b) = true) :
    ((unpadded a).totalCompare (unpadded b) = .lt ↔ ¬ Continues a b) ∧
      ((unpadded a).totalCompare (unpadded b) = .gt ↔ Continues a b) := by
  have hrows : compareLevels (concrete a).levels (concrete b).levels = .lt :=
    (below_iff_of_closed (closed_concrete hb)).1 h
  have hne : (unpadded a).levels ≠ (unpadded b).levels := by
    refine fun heq => ne_of_compareLevels hrows ?_
    rw [levels_concrete, heq, levels_concrete]
  by_cases hcont : (unpadded b).levels <+: (unpadded a).levels
  · have hgt : (unpadded a).totalCompare (unpadded b) = .gt := by
      have hlevels := Std.OrientedCmp.gt_iff_lt.2 (compareLevels_of_extends hcont hne.symm)
      simp [totalCompare, hlevels]
    simp [hgt, continues_iff, hcont, hne.symm]
  · have hlt : (unpadded a).totalCompare (unpadded b) = .lt := by
      have hlevels : compareLevels (unpadded a).levels (unpadded b).levels = .lt := by
        by_cases hprefix : (unpadded a).levels <+: (unpadded b).levels
        · exact compareLevels_of_extends hprefix hne
        · rwa [levels_concrete, levels_concrete,
            compareLevels_append (closed_iff.2 ha) hprefix hcont] at hrows
      simp [totalCompare, hlevels]
    simp [hlt, continues_iff, hcont]

end UpgradeGraph.Version
