import UpgradeGraph.Proofs.Version.Natural

/-!
# Levels of digits

A level whose qualifier is a run of digits stands for a number, of any length, and this number
decides before anything else does. The digits end at the first mark of either kind
(`Level.takeWhile_of_isNumeric`), so that it does not matter which mark a level is cut at.

What is left are levels of one number. One without a tail is nothing but its leading zeros and the
digits that its number is written with (`Level.raw_of_tail?_eq_none`), so that of two such levels
the longer one has more zeros, and they are one level if they have as many. All others differ in
their tails or else in their text. The whole order is `Level.compareConcrete_of_isNumeral`.
-/

namespace UpgradeGraph.Level

variable {a b : Level}

/-- How many zeros stand in front of the other digits of a level. -/
def leadingZeros (level : Level) : Nat := (level.qualifier.takeWhile (· = '0')).length

/-- The character is at which levels are cut. -/
def isMark (c : Char) : Bool := c = '-' || c = '+'

/-- The digits of a level are what stands before its first mark, whichever mark that is. -/
theorem takeWhile_of_isNumeric (h : a.isNumeric = true) :
    a.raw.takeWhile (!isMark ·) = a.qualifier := by
  obtain ⟨rest, hraw, hmark⟩ := a.exists_raw_eq
  have hdigits : ∀ c ∈ a.qualifier, (!isMark c) = true := by
    intro c hc
    have hdigit := isDigit_of_isNumeric h c hc
    simp [isMark, Text.ne_of_isDigit hdigit]
  rw [hraw, List.takeWhile_append_of_pos hdigits]
  cases rest with
  | nil => simp
  | cons c rest => rcases hmark c rfl with rfl | rfl <;> simp [isMark]

/-! ## Levels of one number -/

theorem qualifier_of_tail?_eq_none (h : a.tail? = none) : a.qualifier = a.raw := by
  have hcut : a.cut? = none := by simpa [tail?] using h
  rw [qualifier, hcut]

/-- A number without a tail is leading zeros and the digits that it is written with. -/
theorem raw_of_tail?_eq_none (ha : a.isNumeric = true) (h : a.tail? = none) :
    a.raw = List.replicate a.leadingZeros '0' ++ Text.significant a.value := by
  have hzeros : a.qualifier.takeWhile (· = '0') = List.replicate a.leadingZeros '0' :=
    List.eq_replicate_iff.2 ⟨rfl, fun c hc => by simpa using List.mem_takeWhile_imp hc⟩
  rw [← qualifier_of_tail?_eq_none h, ← hzeros, ← digits_of_isNumeric ha, digits,
    List.takeWhile_append_dropWhile]

theorem compareSameNumber_of_zeros (ha : a.isNumeric = true) (hb : b.isNumeric = true)
    (hvalue : a.value = b.value) (hta : a.tail? = none) (htb : b.tail? = none) :
    compareSameNumber a b = compare b.leadingZeros a.leadingZeros := by
  have hraw := raw_of_tail?_eq_none ha hta
  have hraw' := raw_of_tail?_eq_none hb htb
  have hlength : compare b.raw.length a.raw.length = compare b.leadingZeros a.leadingZeros := by
    simp [hraw, hraw', hvalue, Nat.compare_eq_ite_lt]
  rw [compareSameNumber, compareTails, hta, htb, hlength]
  cases hzeros : compare b.leadingZeros a.leadingZeros with
  | eq =>
    -- As many zeros and the same number make the same text.
    have heq : a.raw = b.raw := by rw [hraw, hraw', hvalue, Nat.compare_eq_eq.1 hzeros]
    simp [heq]
  | lt | gt => rfl

/-! ## The order -/

theorem compareConcrete_of_value_ne (ha : a.isNumeric = true) (hb : b.isNumeric = true)
    (hvalue : a.value ≠ b.value) : compareConcrete a b = compare a.value b.value := by
  rw [compareConcrete_of_isNumeric ha hb]
  cases ho : compare a.value b.value with
  | eq => exact absurd (Nat.compare_eq_eq.1 ho) hvalue
  | lt | gt => rfl

theorem compareConcrete_of_value_eq (ha : a.isNumeric = true) (hb : b.isNumeric = true)
    (hvalue : a.value = b.value) : compareConcrete a b = compareSameNumber a b := by
  rw [compareConcrete_of_isNumeric ha hb, Nat.compare_eq_eq.2 hvalue]
  rfl

/-- A tail puts a level below the level that is the number alone. -/
theorem compareSameNumber_of_tail (ha : a.tail?.isSome = true) (hb : b.tail? = none) :
    compareSameNumber a b = .lt := by
  obtain ⟨s, hs⟩ := Option.isSome_iff_exists.1 ha
  simp [compareSameNumber, compareTails, hs, hb]

theorem compareSameNumber_of_tails {s t : Text} (hs : a.tail? = some s) (ht : b.tail? = some t) :
    compareSameNumber a b = (compare s t).then (compare a.raw b.raw) := by
  simp [compareSameNumber, compareTails, hs, ht]

theorem number?_of_isNumeric (h : a.isNumeric = true) :
    a.number? = if a.value < numberBound then some a.value else none := by
  by_cases hbound : a.value < numberBound
  · rw [if_pos hbound, number?_eq_some_iff.2 ⟨h, rfl, hbound⟩]
  · rw [if_neg hbound, Option.eq_none_iff_forall_ne_some]
    intro n hn
    obtain ⟨-, rfl, hlt⟩ := number?_eq_some_iff.1 hn
    exact hbound hlt

/-- Levels whose qualifiers are digits are in the order of their numbers, of whatever length these
are. Of two levels with one number the one with a tail is below the one without; of two without a
tail the one with more leading zeros is; and two with tails are in the order of these, and then of
their texts. Only levels of one text tie. The digits are those in front of the first mark, and their
number is told if it is below the bound, which makes no difference to the order. -/
theorem compareConcrete_of_isNumeral (ha : Text.isNumeral a.qualifier = true)
    (hb : Text.isNumeral b.qualifier = true) :
    (a.value ≠ b.value → compareConcrete a b = compare a.value b.value) ∧
    (a.value = b.value →
      (a.tail?.isSome = true → b.tail? = none →
        compareConcrete a b = .lt ∧ compareConcrete b a = .gt) ∧
      (a.tail? = none → b.tail? = none →
        compareConcrete a b = compare b.leadingZeros a.leadingZeros) ∧
      (∀ s ∈ a.tail?, ∀ t ∈ b.tail?,
        compareConcrete a b = (compare s t).then (compare a.raw b.raw))) ∧
    (compareConcrete a b = .eq ↔ a.raw = b.raw) ∧
    ∀ level ∈ [a, b], level.raw.takeWhile (!isMark ·) = level.qualifier ∧
      level.number? = if level.value < numberBound then some level.value else none := by
  refine ⟨compareConcrete_of_value_ne ha hb, fun hvalue => ?_, ?_, ?_⟩
  · have hsame : compareConcrete a b = compareSameNumber a b :=
      compareConcrete_of_value_eq ha hb hvalue
    refine ⟨fun hta htb => ?_, fun hta htb => ?_, fun s hs t ht => ?_⟩
    · have hbelow : compareConcrete a b = .lt :=
        hsame.trans (compareSameNumber_of_tail hta htb)
      exact ⟨hbelow, Std.OrientedCmp.gt_of_lt hbelow⟩
    · exact hsame.trans (compareSameNumber_of_zeros ha hb hvalue hta htb)
    · exact hsame.trans (compareSameNumber_of_tails hs ht)
  · rw [compareConcrete_eq_iff]
    exact ⟨congrArg raw, congrArg mk⟩
  · intro level hlevel
    have h : level.isNumeric = true := by
      obtain rfl | rfl : level = a ∨ level = b := by simpa using hlevel
      · exact ha
      · exact hb
    exact ⟨takeWhile_of_isNumeric h, number?_of_isNumeric h⟩

/-- Two zeros more make a level the lower one of two with one number, which is too large to be
told. -/
theorem sample_compareConcrete_of_isNumeral :
    let a : Level := ⟨"00340282366920938463463374607431768211456"⟩
    let b : Level := ⟨"340282366920938463463374607431768211456"⟩
    Text.isNumeral a.qualifier = true ∧ Text.isNumeral b.qualifier = true ∧
      a.value = b.value ∧ a.tail? = none ∧ b.tail? = none ∧
      compareConcrete a b = .lt ∧ a.number? = none ∧ b.number? = none := by
  intro a b
  have ha : Text.isNumeral a.qualifier = true := by decide
  have hb : Text.isNumeral b.qualifier = true := by decide
  have hvalue : a.value = b.value := by decide
  have hta : a.tail? = none := by decide
  have htb : b.tail? = none := by decide
  obtain ⟨-, hsame, -, htold⟩ := compareConcrete_of_isNumeral ha hb
  have hlarge : ¬ b.value < numberBound := by decide
  refine ⟨ha, hb, hvalue, hta, htb, ?_, ?_, ?_⟩
  · rw [(hsame hvalue).2.1 hta htb]
    decide
  · rw [(htold a (by simp)).2, hvalue, if_neg hlarge]
  · rw [(htold b (by simp)).2, if_neg hlarge]

end UpgradeGraph.Level
