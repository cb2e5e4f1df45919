import UpgradeGraph.Proofs.Requirement
import UpgradeGraph.Proofs.Text

/-!
# Texts of NuGet ranges

A NuGet range takes one bracket off each end of its text, and what is left decides what it is. So
a text is read just if it has a bracket at both ends or at none: at both there may be one version
between square brackets, or two bounds on the two sides of a comma, and at none the whole text is
a version (`exists_nuget_iff`). The texts of versions themselves are not looked into, so they may
well have brackets inside.
-/

namespace UpgradeGraph.Range

variable {library s spec version lower upper : Text}

/-! ## Brackets -/

/-- An end of an interval: its bound belongs to the interval or not. -/
inductive Limit where
  | included
  | excluded
deriving DecidableEq, Repr

namespace Limit

def bracket : Limit → Bracket
  | included => .square
  | excluded => .round

/-- What an interval with this lower end opens with. -/
def opening : Limit → Char
  | included => '['
  | excluded => '('

/-- What an interval with this upper end closes with. -/
def closing : Limit → Char
  | included => ']'
  | excluded => ')'

end Limit

/-- A bracket opens the text. -/
def Opens (s : Text) : Prop := ∃ (left : Limit) (rest : Text), s = left.opening :: rest

/-- A bracket closes the text. -/
def Closes (s : Text) : Prop := ∃ (right : Limit) (front : Text), s = front ++ [right.closing]

theorem opens_cons {c : Char} : Opens (c :: s) ↔ ∃ left : Limit, c = left.opening := by
  constructor
  · rintro ⟨left, rest, h⟩
    exact ⟨left, (List.cons_eq_cons.1 h).1⟩
  · rintro ⟨left, rfl⟩
    exact ⟨left, s, rfl⟩

theorem closes_concat {c : Char} : Closes (s ++ [c]) ↔ ∃ right : Limit, c = right.closing := by
  constructor
  · rintro ⟨right, front, h⟩
    exact ⟨right, by simpa using congrArg List.getLast? h⟩
  · rintro ⟨right, rfl⟩
    exact ⟨right, s, rfl⟩

@[simp] theorem bracket_ne_missing (limit : Limit) : limit.bracket ≠ .missing := by
  cases limit <;> nofun

theorem bracket_eq_square {limit : Limit} : limit.bracket = .square ↔ limit = .included := by
  cases limit <;> decide

@[simp] theorem openingBracket_opening (left : Limit) (s : Text) :
    openingBracket (left.opening :: s) = (left.bracket, s) := by
  cases left <;> rfl

theorem openingBracket_of_not_opens (h : ¬ Opens s) : openingBracket s = (.missing, s) := by
  unfold openingBracket
  split
  · exact absurd ⟨.excluded, _, rfl⟩ h
  · exact absurd ⟨.included, _, rfl⟩ h
  · rfl

@[simp] theorem closingBracket_closing (right : Limit) (s : Text) :
    closingBracket (s ++ [right.closing]) = (right.bracket, s) := by
  have hround : Text.before? [')'] (s ++ [')']) = some s := Text.before?_eq_some_iff.2 rfl
  have hsquare : Text.before? [']'] (s ++ [']']) = some s := Text.before?_eq_some_iff.2 rfl
  have hother : Text.before? [')'] (s ++ [']']) = none := by
    refine Option.eq_none_iff_forall_ne_some.2 fun front hfront => ?_
    simpa using congrArg List.getLast? (Text.before?_eq_some_iff.1 hfront)
  cases right
  · simp only [Limit.closing, closingBracket, hother, hsquare, Limit.bracket]
  · simp only [Limit.closing, closingBracket, hround, Limit.bracket]

theorem closingBracket_of_not_closes (h : ¬ Closes s) : closingBracket s = (.missing, s) := by
  unfold closingBracket
  split
  next front hfront => exact absurd ⟨.excluded, front, Text.before?_eq_some_iff.1 hfront⟩ h
  next =>
    split
    next front hfront => exact absurd ⟨.included, front, Text.before?_eq_some_iff.1 hfront⟩ h
    next => rfl

/-- One character does not do for both ends. -/
theorem exists_between (hopens : Opens s) (hcloses : Closes s) :
    ∃ (left right : Limit) (inner : Text), s = left.opening :: (inner ++ [right.closing]) := by
  obtain ⟨left, rest, rfl⟩ := hopens
  obtain ⟨right, front, hfront⟩ := hcloses
  cases front with
  | nil =>
    obtain ⟨hchar, -⟩ := List.cons_eq_cons.1 hfront
    cases left <;> cases right <;> cases hchar
  | cons c front =>
    obtain ⟨-, rfl⟩ := List.cons_eq_cons.1 hfront
    exact ⟨left, right, front, rfl⟩

/-! ## What a text is read as -/

/-- A text without brackets at its ends is a version, from which on all others are allowed. -/
theorem nuget_bare (hne : spec ≠ []) (hopens : ¬ Opens spec) (hcloses : ¬ Closes spec)
    (library : Text) : nuget library spec = .ok
      { ecosystem := .nuget
        library
        descriptor := spec
        bounds := { lower := some (.concrete (Text.trim spec)), upperExclusive := true }
        floating := true } := by
  simp [nuget, hne, openingBracket_of_not_opens hopens, closingBracket_of_not_closes hcloses]

/-- Two bounds, each of which may be left out, are an interval. -/
theorem nuget_interval (left right : Limit) (hlower : ',' ∉ lower) (hupper : ',' ∉ upper)
    (library : Text) :
    nuget library (left.opening :: (lower ++ ',' :: upper ++ [right.closing])) = .ok
      { ecosystem := .nuget
        library
        descriptor := left.opening :: (lower ++ ',' :: upper ++ [right.closing])
        bounds := intervalBounds left.bracket (Text.trim lower) (Text.trim upper) right.bracket
        floating := true } := by
  have hpieces : (lower ++ ',' :: upper).splitOn ',' = [lower, upper] := by
    rw [List.splitOn_append_cons_self, List.splitOn_eq_singleton hlower,
      List.splitOn_eq_singleton hupper]
    rfl
  simp only [nuget, openingBracket_opening, closingBracket_closing, hpieces]
  simp

/-- A version between square brackets is meant exactly. -/
theorem nuget_exact (hcomma : ',' ∉ version) (htrim : Text.trim version ≠ []) (library : Text) :
    nuget library ('[' :: (version ++ [']'])) =
      .ok (pinned .nuget library ('[' :: (version ++ [']'])) (.concrete (Text.trim version))) := by
  have hopening := openingBracket_opening .included (version ++ [']'])
  have hclosing := closingBracket_closing .included version
  simp only [Limit.opening, Limit.closing, Limit.bracket] at hopening hclosing
  simp [nuget, hopening, hclosing, List.splitOn_eq_singleton hcomma, htrim]

/-- A bracket at one end only is an error. -/
theorem nuget_semiDelimited (h : Opens spec ↔ ¬ Closes spec) (library : Text) :
    nuget library spec = .error (.semiDelimited spec) := by
  by_cases hopens : Opens spec
  · have hcloses := h.1 hopens
    obtain ⟨left, rest, rfl⟩ := hopens
    have hrest : ¬ Closes rest := fun ⟨right, front, hfront⟩ =>
      hcloses ⟨right, left.opening :: front, by rw [hfront]; rfl⟩
    simp [nuget, closingBracket_of_not_closes hrest]
  · obtain ⟨right, front, rfl⟩ := Classical.not_not.1 (mt h.2 hopens)
    simp [nuget, openingBracket_of_not_opens hopens]

/-! ## Which texts are read -/

/-- The texts of single ranges. -/
inductive OneRange : Text → Prop
  /-- A version, or nothing at all. -/
  | bare {spec : Text} : ¬ Opens spec → ¬ Closes spec → OneRange spec
  | exact {version : Text} : ',' ∉ version → Text.trim version ≠ [] →
      OneRange ('[' :: (version ++ [']']))
  | interval {lower upper : Text} (left right : Limit) : ',' ∉ lower → ',' ∉ upper →
      OneRange (left.opening :: (lower ++ ',' :: upper ++ [right.closing]))

/-- What is between two brackets is at most two pieces, if it is read. -/
theorem oneRange_of_between {left right : Limit} {inner : Text} {range : Range}
    (h : nuget library (left.opening :: (inner ++ [right.closing])) = .ok range) :
    OneRange (left.opening :: (inner ++ [right.closing])) := by
  have hjoined : [','].intercalate (inner.splitOn ',') = inner := List.intercalate_splitOn ','
  have hcomma : ∀ piece ∈ inner.splitOn ',', ',' ∉ piece := fun _ => Text.not_mem_of_mem_splitOn
  simp only [nuget, openingBracket_opening, closingBracket_closing, reduceCtorEq, if_false,
    bracket_ne_missing, decide_false, Bool.and_false, Bool.or_false, Bool.false_eq_true] at h
  split at h
  next version hpieces =>
    rw [hpieces] at hjoined hcomma
    obtain rfl : version = inner := by rw [← hjoined, List.intercalate_singleton]
    split at h
    · cases h
    next hround =>
      obtain ⟨rfl, rfl⟩ : left = .included ∧ right = .included := by
        simpa [bracket_eq_square] using hround
      split at h
      · cases h
      next htrim => exact .exact (hcomma version List.mem_cons_self) htrim
  next lower upper hpieces =>
    rw [hpieces] at hjoined hcomma
    obtain rfl : lower ++ ',' :: upper = inner := by
      rw [← hjoined, Text.intercalate_cons]
      simp
    exact .interval left right (hcomma lower (by simp)) (hcomma upper (by simp))
  next => cases h

/-- A text is read just if it is that of a range. -/
theorem exists_nuget_iff (library spec : Text) :
    (∃ range, nuget library spec = .ok range) ↔ OneRange spec := by
  constructor
  · rintro ⟨range, h⟩
    by_cases hopens : Opens spec <;> by_cases hcloses : Closes spec
    · obtain ⟨left, right, inner, rfl⟩ := exists_between hopens hcloses
      exact oneRange_of_between h
    · rw [nuget_semiDelimited (iff_of_true hopens hcloses)] at h
      cases h
    · rw [nuget_semiDelimited (iff_of_false hopens (Classical.not_not.2 hcloses))] at h
      cases h
    · exact .bare hopens hcloses
  · intro h
    cases h with
    | bare hopens hcloses =>
      by_cases hne : spec = []
      · exact ⟨_, by rw [nuget, if_pos hne]⟩
      · exact ⟨_, nuget_bare hne hopens hcloses library⟩
    | exact hcomma htrim => exact ⟨_, nuget_exact hcomma htrim library⟩
    | interval left right hlower hupper =>
      exact ⟨_, nuget_interval left right hlower hupper library⟩

end UpgradeGraph.Range
