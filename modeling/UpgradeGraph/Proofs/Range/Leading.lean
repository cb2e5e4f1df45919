import UpgradeGraph.Proofs.Range.Form

/-!
# The numbers that npm ranges keep

A range in npm's grammar keeps the first of its numbers, and a version in it has to start with
these, or nearly so. The upper bound is the successor of the last one with zeros behind it, and
what is below that bound includes some versions that have reached the successor: a prerelease or
a build of it is below the plain number, so that `^1.2.3` contains `2.0.0-beta`. Those are all:
a version in the range has the number that is kept, or the next one and is still below the bound
(`npm_ranges_keep_numbers`), since a level between the two numbers is one of them
(`Level.value_of_between`).
-/

namespace UpgradeGraph

namespace Level

variable {level low : Level} {n : Nat}

/-- A level that is not below a number, and is no wildcard, is a number. -/
theorem isNumeric_of_not_below (hlow : low.isNumeric = true) (hwild : level.isWildcard = false)
    (h : totalCompare level low ≠ .lt) : level.isNumeric = true := by
  cases hlevel : level.isNumeric with
  | true => rfl
  | false =>
    refine absurd ?_ h
    simp [totalCompare, hwild, isWildcard_of_isNumeric hlow, compareConcrete, hlevel, hlow]

/-- There is nothing between a number and the next one but what has one of the two numbers. -/
theorem value_of_between (hlow : low.isNumeric = true) (hvalue : low.value = n)
    (hwild : level.isWildcard = false) (hge : totalCompare level low ≠ .lt)
    (hle : totalCompare level (natural (n + 1)) ≠ .gt) :
    level.isNumeric = true ∧ (level.value = n ∨ level.value = n + 1) := by
  have hnumeric : level.isNumeric = true := isNumeric_of_not_below hlow hwild hge
  rw [totalCompare_of_isNumeric hnumeric hlow, hvalue, Ne, Ordering.then_eq_lt, not_or] at hge
  rw [totalCompare_of_isNumeric hnumeric (isNumeric_natural _), value_natural, Ne,
    Ordering.then_eq_gt, not_or] at hle
  have hmin : ¬ level.value < n := mt Nat.compare_eq_lt.2 hge.1
  have hmax : ¬ n + 1 < level.value := mt Nat.compare_eq_gt.2 hle.1
  exact ⟨hnumeric, by omega⟩

end Level

namespace Version

variable {a b : Level} {init as bs cs : List Level}

/-! ## Rows between rows -/

/-- Where two rows part, what lies between them has a level that lies between theirs. -/
theorem exists_of_between (hinit : Closed init) (hlow : compareLevels cs (init ++ a :: as) ≠ .lt)
    (hhigh : compareLevels cs (init ++ b :: bs) ≠ .gt) : ∃ level rest,
      cs = init ++ level :: rest ∧ Level.totalCompare level a ≠ .lt ∧
        Level.totalCompare level b ≠ .gt := by
  induction init generalizing cs with
  | nil =>
    cases cs with
    | nil => exact absurd rfl hlow
    | cons level rest =>
      rw [List.nil_append, compareLevels_cons, Ne, Ordering.then_eq_lt, not_or] at hlow
      rw [List.nil_append, compareLevels_cons, Ne, Ordering.then_eq_gt, not_or] at hhigh
      exact ⟨level, rest, rfl, hlow.1, hhigh.1⟩
  | cons first init ih =>
    cases cs with
    | nil => exact absurd rfl hlow
    | cons level cs =>
      rw [List.cons_append, compareLevels_cons] at hlow hhigh
      -- Not below and not above the level that both rows start with, it has to be that level.
      have hfirst : Level.totalCompare level first = .eq := by
        cases ho : Level.totalCompare level first with
        | eq => rfl
        | lt => simp [ho] at hlow
        | gt => simp [ho] at hhigh
      have hopen : first.isWildcard = false := hinit first List.mem_cons_self
      obtain rfl : level = first := by
        simpa [Level.totalCompare_eq_iff, hopen] using hfirst
      rw [hfirst] at hlow hhigh
      obtain ⟨last, rest, rfl, hge, hle⟩ := ih hinit.tail hlow hhigh
      exact ⟨last, rest, rfl, hge, hle⟩

/-- The version starts with these levels and then has a level with this number. -/
def Leads (v : Version) (init : List Text) (n : Nat) : Prop :=
  ∃ level rest, v.levels = init.map Level.mk ++ level :: rest ∧ level.isNumeric = true ∧
    level.value = n

end Version

namespace Range

open Version

variable {init : List Text} {piece : Text} {rest : List Level} {k : Nat} {v : Version}

/-! ## Versions at the two ends of a range -/

theorem below_successorRow (h : v.Leads init (Text.numeralValue piece)) :
    compareLevels v.levels (successorRow init piece k) = .lt := by
  obtain ⟨level, more, hlevels, hnumeric, hvalue⟩ := h
  have hlt : Level.totalCompare level (Level.natural (Text.numeralValue piece + 1)) = .lt :=
    Level.totalCompare_of_value_lt hnumeric (Level.isNumeric_natural _)
      (by rw [hvalue, Level.value_natural]; exact Nat.lt_succ_self _)
  rw [hlevels, successorRow, compareLevels_append_left, compareLevels_cons, hlt]
  rfl

theorem above_of_leads_successor (hpiece : Text.isNumeral piece = true)
    (h : v.Leads init (Text.numeralValue piece + 1)) :
    compareLevels v.levels (init.map Level.mk ++ ⟨piece⟩ :: rest) = .gt := by
  obtain ⟨level, more, hlevels, hnumeric, hvalue⟩ := h
  have hgt : Level.totalCompare level ⟨piece⟩ = .gt :=
    Std.OrientedCmp.gt_iff_lt.2 (Level.totalCompare_of_value_lt
      (Level.isNumeric_of_isNumeral hpiece) hnumeric
      (by rw [hvalue, Level.value_of_isNumeral hpiece]; exact Nat.lt_succ_self _))
  rw [hlevels, compareLevels_append_left, compareLevels_cons, hgt]
  rfl

/-- From some numbers up to the successor of the first few of them are the versions that start
with those few, and of those that start with the successor the ones below it. -/
theorem between_iff (hpiece : Text.isNumeral piece = true)
    (hinit : Closed (init.map Level.mk)) (hv : Closed v.levels) :
    compareLevels v.levels (init.map Level.mk ++ ⟨piece⟩ :: rest) ≠ .lt ∧
        compareLevels v.levels (successorRow init piece k) = .lt ↔
      (v.Leads init (Text.numeralValue piece) ∧
        compareLevels v.levels (init.map Level.mk ++ ⟨piece⟩ :: rest) ≠ .lt) ∨
      (v.Leads init (Text.numeralValue piece + 1) ∧
        compareLevels v.levels (successorRow init piece k) = .lt) := by
  constructor
  · rintro ⟨hlow, hhigh⟩
    have hle : compareLevels v.levels (successorRow init piece k) ≠ .gt := by
      rw [hhigh]
      decide
    obtain ⟨level, more, hlevels, hge, hle⟩ := exists_of_between hinit hlow hle
    have hwild : level.isWildcard = false := hv level (by simp [hlevels])
    obtain ⟨hnumeric, hvalue⟩ := Level.value_of_between (Level.isNumeric_of_isNumeral hpiece)
      (Level.value_of_isNumeral hpiece) hwild hge hle
    rcases hvalue with hvalue | hvalue
    · exact .inl ⟨⟨level, more, hlevels, hnumeric, hvalue⟩, hlow⟩
    · exact .inr ⟨⟨level, more, hlevels, hnumeric, hvalue⟩, hhigh⟩
  · rintro (⟨hleads, hlow⟩ | ⟨hleads, hhigh⟩)
    · exact ⟨hlow, below_successorRow hleads⟩
    · exact ⟨by rw [above_of_leads_successor hpiece hleads]; decide, hhigh⟩

theorem compareLevels_successorRow (init : List Text) (hpiece : Text.isNumeral piece = true)
    (rest : List Level) (k : Nat) :
    compareLevels (init.map Level.mk ++ ⟨piece⟩ :: rest) (successorRow init piece k) = .lt :=
  below_successorRow (v := ⟨[], _⟩) ⟨⟨piece⟩, rest, rfl, Level.isNumeric_of_isNumeral hpiece,
    Level.value_of_isNumeral hpiece⟩

theorem closed_successorRow (hinit : Closed (init.map Level.mk)) (piece : Text) (k : Nat) :
    Closed (successorRow init piece k) :=
  hinit.append (List.forall_mem_cons.2 ⟨Level.isWildcard_natural _, closed_zeros k⟩)

theorem closed_init {w : Operand} {more : List Text} (h : w.numbers = init ++ piece :: more) :
    Closed (init.map Level.mk) := fun level hlevel =>
  w.closed_numbers level (by rw [h, List.map_append]; exact List.mem_append_left _ hlevel)

theorem floor_eq {w : Operand} {more : List Text} (h : w.numbers = init ++ piece :: more) :
    w.floor = init.map Level.mk ++ ⟨piece⟩ :: (more.map Level.mk ++
      List.replicate (w.width - w.numbers.length) zero) := by
  simp [Operand.floor, h]

end Range

namespace Requirement

open Version Range

variable {spec piece : Text} {form : Form} {w : Operand} {init more : List Text}

section Forms

variable (htrim : Text.trim spec = form.mark ++ w.text)
  (hbars : hasBars (form.mark ++ w.text) = false) (hnumbers : w.numbers = init ++ piece :: more)
  (hkept : form.kept w.numbers.length = init.length + 1)
  (hbound : Text.numeralValue piece < Level.numberBound - 1)
  (hopen : form = .plain → w.numbers.length < w.width)

include htrim hbars hnumbers hkept hbound hopen

/-- A range contains what is not below its beginning, and below its end. -/
theorem parse_between (library : Text) : ∃ requirement, parse .npm library spec = .ok requirement ∧
    ∀ v, v.hasWildcard = false → (requirement.contains v = true ↔
      compareLevels v.levels w.floor ≠ .lt ∧
        compareLevels v.levels (successorRow init piece (form.zeros w)) = .lt) := by
  obtain ⟨requirement, b, hread, hcontains, hspans⟩ :=
    parse_form htrim hbars hnumbers hkept hbound hopen library
  refine ⟨requirement, hread, fun v hwild => ?_⟩
  have hinit : Closed (init.map Level.mk) := closed_init hnumbers
  have hpiece : Text.isNumeral piece = true := w.isNumeral piece (by simp [hnumbers])
  have hlt : compareLevels w.floor (successorRow init piece (form.zeros w)) = .lt := by
    rw [floor_eq hnumbers]
    exact compareLevels_successorRow init hpiece _ _
  rw [hcontains, hspans.contains_iff hlt (closed_successorRow hinit piece _) (closed_iff.2 hwild)]

/-- A version in an npm range starts with the numbers that the range keeps and is not below its
beginning, or it starts with the successor of these numbers and is still below the end of the
range. All such versions are in it. -/
theorem npm_ranges_keep_numbers (library : Text) :
    ∃ requirement, parse .npm library spec = .ok requirement ∧
      ∀ v, v.hasWildcard = false → (requirement.contains v = true ↔
        (v.Leads init (Text.numeralValue piece) ∧ compareLevels v.levels w.floor ≠ .lt) ∨
        (v.Leads init (Text.numeralValue piece + 1) ∧
          compareLevels v.levels (successorRow init piece (form.zeros w)) = .lt)) := by
  obtain ⟨requirement, hread, hcontains⟩ :=
    parse_between htrim hbars hnumbers hkept hbound hopen library
  refine ⟨requirement, hread, fun v hwild => (hcontains v hwild).trans ?_⟩
  have hpiece : Text.isNumeral piece = true := w.isNumeral piece (by simp [hnumbers])
  rw [floor_eq hnumbers]
  exact between_iff hpiece (closed_init hnumbers) (closed_iff.2 hwild)

end Forms

/-- A tilde with a wildcard behind two numbers. -/
theorem sample_npm_ranges_keep_numbers :
    let w := Operand.ofLevels ["1", "02", "x"] (by decide)
    Text.trim " ~1.02.x" = Form.tilde.mark ++ w.text ∧
    hasBars (Form.tilde.mark ++ w.text) = false ∧
    w.numbers = [("1" : Text)] ++ ("02" : Text) :: [] ∧
    Form.tilde.kept w.numbers.length = [("1" : Text)].length + 1 ∧
    Text.numeralValue "02" < Level.numberBound - 1 ∧
    (Form.tilde = .plain → w.numbers.length < w.width) ∧
    ∃ requirement, parse .npm "ms" " ~1.02.x" = .ok requirement ∧
      ∀ v, v.hasWildcard = false → (requirement.contains v = true ↔
        (v.Leads ["1"] 2 ∧ compareLevels v.levels [⟨"1"⟩, ⟨"02"⟩, ⟨"0"⟩] ≠ .lt) ∨
        (v.Leads ["1"] 3 ∧ compareLevels v.levels [⟨"1"⟩, ⟨"3"⟩, ⟨"0"⟩] = .lt)) := by
  intro w
  have htrim : Text.trim " ~1.02.x" = Form.tilde.mark ++ w.text := by decide
  have hbars : hasBars (Form.tilde.mark ++ w.text) = false := by decide
  have hnumbers : w.numbers = [("1" : Text)] ++ ("02" : Text) :: [] := by decide
  have hkept : Form.tilde.kept w.numbers.length = [("1" : Text)].length + 1 := by decide
  have hbound : Text.numeralValue "02" < Level.numberBound - 1 := by decide
  have hopen : Form.tilde = .plain → w.numbers.length < w.width := nofun
  exact ⟨htrim, hbars, hnumbers, hkept, hbound, hopen,
    npm_ranges_keep_numbers htrim hbars hnumbers hkept hbound hopen "ms"⟩

/-- A prerelease of the next major version. -/
theorem sample_next_major : ∃ requirement, parse .npm "ms" "^1.2.3" = .ok requirement ∧
    (concrete "2.0.0-beta").hasWildcard = false ∧
    requirement.contains (concrete "2.0.0-beta") = true ∧
    (concrete "2.0.0-beta").numberAt? 0 = some 2 := by
  refine ⟨_, rfl, ?_⟩
  decide

end Requirement

end UpgradeGraph
