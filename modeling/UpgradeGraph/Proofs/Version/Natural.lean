import Mathlib.Data.List.Induction
import UpgradeGraph.Proofs.Version.Padding

/-!
# Versions in natural numbers

Numbers are compared as texts, by the lengths of their digits and then by the digits, so they
have no size that is too large. For numbers written without leading zeros this is their order
(`Text.compare_ofNat`): digits agree with numbers in one more place whenever they do in all
places before it, since all but the last digit of a number write a tenth of it. Leading zeros
are taken off before, and what is left depends on the number only (`Text.dropZeros_eq`), so that
levels are in the order of their numbers, whichever zeros and tails they are written with
(`Level.totalCompare_of_isNumeric`).

So a release whose levels are numbers and nothing else is no more than a list of naturals
(`row`), and releases compare as these lists do (`compareLevels_row`).
-/

namespace UpgradeGraph

namespace Text

variable {m n : Nat} {c : Char} {s : Text}

/-! ## Numbers in decimal -/

theorem ofNat_of_lt (h : n < 10) : ofNat n = [n.digitChar] := Nat.toDigits_of_lt_base h

/-- All but the last digit write a tenth of the number. -/
theorem ofNat_of_le (h : 10 ≤ n) : ofNat n = ofNat (n / 10) ++ [(n % 10).digitChar] :=
  Nat.toDigits_of_base_le (by decide) h

theorem ofNat_inj : ofNat m = ofNat n ↔ m = n :=
  ⟨fun h => by rw [← numeralValue_ofNat m, h, numeralValue_ofNat], congrArg ofNat⟩

theorem ofNat_ne_nil : ofNat n ≠ [] := Nat.toDigits_ne_nil

theorem isDigit_of_mem_ofNat {c : Char} (h : c ∈ ofNat n) : c.isDigit = true :=
  Nat.isDigit_of_mem_toDigits (by decide) (by decide) h

theorem not_mem_ofNat {c : Char} (h : c.isDigit = false) : c ∉ ofNat n := fun hc => by
  rw [isDigit_of_mem_ofNat hc] at h
  cases h

/-- The order of two digits. -/
theorem compare_digitChar : ∀ m < 10, ∀ n < 10,
    compare m.digitChar n.digitChar = compare m n := by decide

/-- Texts of one length compare by what comes first, and then by their last characters. -/
theorem compare_concat {s t : Text} {c d : Char} (h : s.length = t.length) :
    compare (s ++ [c]) (t ++ [d]) = (compare s t).then (compare c d) := by
  induction s generalizing t with
  | nil =>
    obtain rfl : t = [] := List.length_eq_zero_iff.1 h.symm
    simp
  | cons a s ih =>
    cases t with
    | nil => simp at h
    | cons b t => simp [ih (Nat.succ.inj h), Ordering.then_assoc]

/-- Numbers compare by their tenths, and then by what is left over. -/
theorem compare_tenths (m n : Nat) :
    compare m n = (compare (m / 10) (n / 10)).then (compare (m % 10) (n % 10)) := by
  rcases Nat.lt_trichotomy (m / 10) (n / 10) with h | h | h
  · rw [Nat.compare_eq_lt.2 h, Nat.compare_eq_lt.2 (by omega)]
    rfl
  · rw [Nat.compare_eq_eq.2 h]
    rcases Nat.lt_trichotomy (m % 10) (n % 10) with h' | h' | h'
    · rw [Nat.compare_eq_lt.2 h', Nat.compare_eq_lt.2 (by omega)]
      rfl
    · rw [Nat.compare_eq_eq.2 h', Nat.compare_eq_eq.2 (by omega)]
      rfl
    · rw [Nat.compare_eq_gt.2 h', Nat.compare_eq_gt.2 (by omega)]
      rfl
  · rw [Nat.compare_eq_gt.2 h, Nat.compare_eq_gt.2 (by omega)]
    rfl

/-- The order of numerals, by length and then by text, is the order of numbers. -/
theorem compare_ofNat (m n : Nat) :
    (compare (ofNat m).length (ofNat n).length).then (compare (ofNat m) (ofNat n)) =
      compare m n := by
  induction m using Nat.strongRecOn generalizing n with
  | _ m ih =>
    by_cases hm : m < 10 <;> by_cases hn : n < 10
    · simp [ofNat_of_lt hm, ofNat_of_lt hn, compare_digitChar m hm n hn]
    · have hlength : 0 < (ofNat (n / 10)).length := List.length_pos_iff.2 ofNat_ne_nil
      rw [ofNat_of_lt hm, ofNat_of_le (Nat.le_of_not_lt hn), Nat.compare_eq_lt.2 (by simpa),
        Nat.compare_eq_lt.2 (by omega)]
      rfl
    · have hlength : 0 < (ofNat (m / 10)).length := List.length_pos_iff.2 ofNat_ne_nil
      rw [ofNat_of_lt hn, ofNat_of_le (Nat.le_of_not_lt hm), Nat.compare_eq_gt.2 (by simpa),
        Nat.compare_eq_gt.2 (by omega)]
      rfl
    · have ih := ih (m / 10) (by omega) (n / 10)
      rw [ofNat_of_le (Nat.le_of_not_lt hm), ofNat_of_le (Nat.le_of_not_lt hn),
        List.length_append, List.length_append, compare_tenths m n, ← ih]
      by_cases hlength : (ofNat (m / 10)).length = (ofNat (n / 10)).length
      · rw [compare_concat hlength, hlength]
        simp [compare_digitChar, Nat.mod_lt]
      · rcases Nat.lt_or_gt_of_ne hlength with h | h
        · simp [Nat.compare_eq_lt.2 h, Nat.compare_eq_lt.2 (Nat.succ_lt_succ h)]
        · simp [Nat.compare_eq_gt.2 h, Nat.compare_eq_gt.2 (Nat.succ_lt_succ h)]

/-! ## Runs of digits -/

theorem isDigit_of_isNumeral (h : isNumeral s = true) : ∀ c ∈ s, c.isDigit = true := by
  simp only [isNumeral, Bool.and_eq_true, List.all_eq_true] at h
  exact h.2

theorem not_mem_of_isNumeral (h : isNumeral s = true) (hc : c.isDigit = false) : c ∉ s :=
  fun hmem => by simp [isDigit_of_isNumeral h c hmem] at hc

/-- The digits of a number without leading zeros, of which zero has none. -/
def significant (n : Nat) : Text := if n = 0 then [] else ofNat n

/-- Runs of digits without leading zeros, by length and then by text, are in the order of their
numbers. -/
theorem compare_significant (m n : Nat) :
    (compare (significant m).length (significant n).length).then
      (compare (significant m) (significant n)) = compare m n := by
  have hlength {n : Nat} : 0 < (ofNat n).length := List.length_pos_iff.2 ofNat_ne_nil
  by_cases hm : m = 0 <;> by_cases hn : n = 0
  · simp [significant, hm, hn]
  · have hlt : 0 < n := Nat.pos_of_ne_zero hn
    simp [significant, hm, hn, Nat.compare_eq_lt.2 hlt, Nat.compare_eq_lt.2 hlength]
  · have hlt : 0 < m := Nat.pos_of_ne_zero hm
    simp [significant, hm, hn, Nat.compare_eq_gt.2 hlt, Nat.compare_eq_gt.2 hlength]
  · simp only [significant, if_neg hm, if_neg hn, compare_ofNat]

theorem exists_digitChar (h : c.isDigit = true) : ∃ k < 10, c = k.digitChar := by
  obtain ⟨hlow, hhigh⟩ : 48 ≤ c.toNat ∧ c.toNat ≤ 57 := Char.isDigit_iff_toNat.1 h
  refine ⟨c.toNat - 48, by omega, ?_⟩
  have hdigits : ∀ k < 10, (k.digitChar).toNat = k + 48 := by decide
  rw [← Char.toNat_inj, hdigits _ (by omega)]
  omega

theorem numeralValue_concat (s : Text) {k : Nat} (h : k < 10) :
    numeralValue (s ++ [k.digitChar]) = 10 * numeralValue s + k := by
  rw [numeralValue, Nat.ofDigitChars_append, Nat.ofDigitChars_cons_digitChar_of_lt_ten h,
    Nat.ofDigitChars_nil]
  rfl

/-- What is left of a run of digits without its leading zeros depends on its number only. -/
theorem dropZeros_eq (h : ∀ c ∈ s, c.isDigit = true) :
    s.dropWhile (· = '0') = significant (numeralValue s) := by
  induction s using List.reverseRecOn with
  | nil => rfl
  | append_singleton s c ih =>
    rw [List.forall_mem_append] at h
    obtain ⟨k, hk, rfl⟩ := exists_digitChar (h.2 c (List.mem_singleton_self c))
    rw [List.dropWhile_append, ih h.1, numeralValue_concat s hk]
    by_cases hzero : numeralValue s = 0
    · -- Only zeros so far: the last digit is the first that counts, unless it is a zero too.
      by_cases hk0 : k = 0
      · simp [significant, hzero, hk0]
      · simp [significant, hzero, hk0, ofNat_of_lt hk]
    · have hten : 10 ≤ 10 * numeralValue s + k := by omega
      have htenth : (10 * numeralValue s + k) / 10 = numeralValue s := by omega
      have hlast : (10 * numeralValue s + k) % 10 = k := by omega
      have hpos : 10 * numeralValue s + k ≠ 0 := by omega
      rw [significant, significant, if_neg hzero, if_neg hpos, ofNat_of_le hten, htenth, hlast]
      simp [ofNat_ne_nil]

end Text

namespace Level

variable {m n : Nat} {a b : Level}

/-! ## Numeric levels -/

/-- The number of a numeric level, of any size. -/
def value (level : Level) : Nat := Text.numeralValue level.qualifier

theorem isDigit_of_isNumeric (h : a.isNumeric = true) : ∀ c ∈ a.qualifier, c.isDigit = true :=
  Text.isDigit_of_isNumeral h

theorem isWildcard_of_isNumeric (h : a.isNumeric = true) : a.isWildcard = false := by
  have hne : ∀ c : Char, c.isDigit = false → a.qualifier ≠ [c] := fun c hc heq => by
    have hdigit := isDigit_of_isNumeric h c (heq ▸ List.mem_singleton_self c)
    simp [hc] at hdigit
  simp [isWildcard, hne '*' rfl, hne 'x' rfl]

theorem eq_append_of_cutAt? {mark : Char} {s before behind : Text}
    (h : cutAt? mark s = some (before, behind)) : s = before ++ mark :: behind := by
  induction s generalizing before with
  | nil => cases h
  | cons c s ih =>
    by_cases hc : c = mark
    · rw [cutAt?, if_pos hc] at h
      obtain ⟨rfl, rfl⟩ := Prod.mk.inj (Option.some.inj h)
      rw [hc, List.nil_append]
    · rw [cutAt?, if_neg hc, Option.map_eq_some_iff] at h
      obtain ⟨⟨rest, _⟩, hrest, heq⟩ := h
      obtain ⟨rfl, rfl⟩ := Prod.mk.inj heq
      rw [ih hrest, List.cons_append]

/-- A level is its qualifier, and behind it there is a mark or nothing at all. -/
theorem exists_raw_eq (level : Level) :
    ∃ rest, level.raw = level.qualifier ++ rest ∧ ∀ c ∈ rest.head?, c = '-' ∨ c = '+' := by
  unfold qualifier cut?
  cases hhyphen : cutAt? '-' level.raw with
  | some cut =>
    obtain ⟨before, behind⟩ := cut
    exact ⟨_, eq_append_of_cutAt? hhyphen, by simp⟩
  | none =>
    cases hplus : cutAt? '+' level.raw with
    | some cut =>
      obtain ⟨before, behind⟩ := cut
      exact ⟨_, eq_append_of_cutAt? hplus, by simp⟩
    | none => exact ⟨[], (List.append_nil _).symm, nofun⟩

/-- A level starts with its qualifier. -/
theorem qualifier_isPrefix (level : Level) : level.qualifier <+: level.raw := by
  obtain ⟨rest, hraw, -⟩ := level.exists_raw_eq
  exact ⟨rest, hraw.symm⟩

/-- A numeric level starts with a digit, whatever its tail is. -/
theorem exists_digit_of_isNumeric (h : a.isNumeric = true) :
    ∃ c rest, a.raw = c :: rest ∧ c.isDigit = true := by
  have hne : a.qualifier ≠ [] := fun heq => by simp [isNumeric, heq, Text.isNumeral] at h
  obtain ⟨c, digits, hcons⟩ := List.exists_cons_of_ne_nil hne
  obtain ⟨tail, htail⟩ := a.qualifier_isPrefix
  refine ⟨c, digits ++ tail, ?_, isDigit_of_isNumeric h c (by simp [hcons])⟩
  rw [← htail, hcons, List.cons_append]

theorem digits_of_isNumeric (h : a.isNumeric = true) : a.digits = Text.significant a.value :=
  Text.dropZeros_eq (isDigit_of_isNumeric h)

/-- Numeric levels are in the order of their numbers, however these are written. Only where the
numbers are one do tails and leading zeros count. -/
theorem compareConcrete_of_isNumeric (ha : a.isNumeric = true) (hb : b.isNumeric = true) :
    compareConcrete a b = (compare a.value b.value).then (compareSameNumber a b) := by
  simp only [compareConcrete, ha, hb, digits_of_isNumeric, Text.compare_significant]

theorem totalCompare_of_isNumeric (ha : a.isNumeric = true) (hb : b.isNumeric = true) :
    totalCompare a b = (compare a.value b.value).then (compareSameNumber a b) := by
  simp only [totalCompare, isWildcard_of_isNumeric ha, isWildcard_of_isNumeric hb,
    compareConcrete_of_isNumeric ha hb]

theorem totalCompare_of_value_lt (ha : a.isNumeric = true) (hb : b.isNumeric = true)
    (h : a.value < b.value) : totalCompare a b = .lt := by
  rw [totalCompare_of_isNumeric ha hb, Nat.compare_eq_lt.2 h]
  rfl

/-- The level that is a number and nothing else. -/
def natural (n : Nat) : Level := ⟨Text.ofNat n⟩

theorem cutAt?_eq_none {mark : Char} {s : Text} (h : mark ∉ s) : cutAt? mark s = none := by
  induction s with
  | nil => rfl
  | cons c s ih =>
    rw [List.mem_cons, not_or] at h
    simp [cutAt?, Ne.symm h.1, ih h.2]

/-- Digits have no mark among them. -/
theorem qualifier_of_digits {s : Text} (h : ∀ c ∈ s, c.isDigit = true) : (mk s).qualifier = s := by
  have hcut (mark : Char) (hmark : mark.isDigit = false) : cutAt? mark s = none :=
    cutAt?_eq_none fun hmem => by simp [h mark hmem] at hmark
  simp [qualifier, cut?, hcut '-' rfl, hcut '+' rfl]

/-- A level that is digits only is their number. -/
theorem isNumeric_of_isNumeral {s : Text} (h : Text.isNumeral s = true) :
    (mk s).isNumeric = true := by
  rw [isNumeric, qualifier_of_digits (Text.isDigit_of_isNumeral h), h]

theorem value_of_isNumeral {s : Text} (h : Text.isNumeral s = true) :
    (mk s).value = Text.numeralValue s := by
  rw [value, qualifier_of_digits (Text.isDigit_of_isNumeral h)]

@[simp] theorem isNumeric_natural (n : Nat) : (natural n).isNumeric = true :=
  isNumeric_of_isNumeral (Text.isNumeral_ofNat n)

@[simp] theorem isWildcard_natural (n : Nat) : (natural n).isWildcard = false :=
  isWildcard_of_isNumeric (isNumeric_natural n)

@[simp] theorem value_natural (n : Nat) : (natural n).value = n :=
  (value_of_isNumeral (Text.isNumeral_ofNat n)).trans (Text.numeralValue_ofNat n)

theorem number?_eq_some_iff :
    a.number? = some n ↔ a.isNumeric = true ∧ a.value = n ∧ n < numberBound := by
  simp only [number?, value, Option.ite_none_right_eq_some, Bool.and_eq_true, decide_eq_true_eq,
    Option.some.injEq]
  constructor
  · rintro ⟨⟨hnumeric, hbound⟩, rfl⟩
    exact ⟨hnumeric, rfl, hbound⟩
  · rintro ⟨hnumeric, rfl, hbound⟩
    exact ⟨⟨hnumeric, hbound⟩, rfl⟩

theorem natural_inj : natural m = natural n ↔ m = n := by
  rw [natural, natural, Level.mk.injEq, Text.ofNat_inj]

/-- Numeric levels are in the order of their numbers. -/
theorem totalCompare_natural (m n : Nat) :
    totalCompare (natural m) (natural n) = compare m n := by
  rw [totalCompare_of_isNumeric (isNumeric_natural m) (isNumeric_natural n), value_natural,
    value_natural]
  cases ho : compare m n with
  | eq =>
    obtain rfl : m = n := Nat.compare_eq_eq.1 ho
    have hself : compareSameNumber (natural m) (natural m) = .eq := Std.ReflCmp.compare_self
    rw [hself]
    rfl
  | lt | gt => rfl

end Level

namespace Version

variable {ms ns : List Nat}

/-! ## Rows of numbers -/

/-- The levels that are these numbers. -/
def row (ns : List Nat) : List Level := ns.map Level.natural

/-- The text with these numbers between dots. -/
def dotted (ns : List Nat) : Text := ['.'].intercalate (ns.map Text.ofNat)

/-- The numbers of a release that has three of them or more. -/
def completed (ns : List Nat) : List Nat := ns ++ List.replicate (3 - ns.length) 0

theorem length_completed (ns : List Nat) : 3 ≤ (completed ns).length := by
  simp [completed]
  omega

theorem closed_row (ns : List Nat) : Closed (row ns) := by
  intro level hlevel
  obtain ⟨n, -, rfl⟩ := List.mem_map.1 hlevel
  exact Level.isWildcard_natural n

theorem row_inj : row ms = row ns ↔ ms = ns :=
  List.map_inj_right fun _ _ => Level.natural_inj.1

/-- Rows of numbers are in the order of their lists. -/
theorem compareLevels_row : compareLevels (row ms) (row ns) = .lt ↔ ms < ns := by
  induction ms generalizing ns with
  | nil => cases ns <;> simp [row, compareLevels]
  | cons m ms ih =>
    cases ns with
    | nil => simp [row, compareLevels]
    | cons n ns =>
      have ih : compareLevels (ms.map Level.natural) (ns.map Level.natural) = .lt ↔ ms < ns := ih
      simp [row, Level.totalCompare_natural, Ordering.then_eq_lt, Nat.compare_eq_lt,
        List.cons_lt_cons_iff, ih]

theorem dot_not_mem_ofNat (ns : List Nat) : ∀ piece ∈ ns.map Text.ofNat, '.' ∉ piece :=
  List.forall_mem_map.2 fun _ _ => Text.not_mem_ofNat rfl

theorem levels_unpadded_dotted (h : ns ≠ []) : (unpadded (dotted ns)).levels = row ns := by
  rw [dotted, levels_unpadded_intercalate (by simpa using h) (dot_not_mem_ofNat ns), List.map_map]
  rfl

theorem levels_concrete_dotted (h : ns ≠ []) :
    (concrete (dotted ns)).levels = row (completed ns) := by
  rw [levels_concrete, levels_unpadded_dotted h]
  simp only [row, completed, List.map_append, List.map_replicate, List.length_map]
  rfl

/-- Three numbers and more leave nothing open. -/
theorem levels_reference_dotted (h : 3 ≤ ns.length) : (reference (dotted ns)).levels = row ns := by
  rw [dotted, levels_reference_intercalate (by simpa using h) (dot_not_mem_ofNat ns), List.map_map]
  rfl

end Version

end UpgradeGraph
