import UpgradeGraph.Proofs.Range.Interval
import UpgradeGraph.Proofs.Range.Operand
import UpgradeGraph.Requirement

/-!
# Npm ranges as intervals

Of its numbers an npm range keeps some, one behind a caret, up to two behind a tilde and all of them
where there is no mark (`Form.kept`). What it becomes is in each case an interval (`npm_form`),
which begins with all the numbers, zeros in the place of the wildcards, and ends before the
successor of the numbers that are kept, the last of them one larger and zeros behind it. Only the
largest number that can be read is not made larger (`bumpedRow`). Numbers below it have a successor
(`bumpedRow_numeralValue`).
-/

namespace UpgradeGraph

open Version

/-! ## From a row of levels up to another -/

namespace Bounds

variable {a b : Bounds} {low high : List Level} {v : Version}

/-- The bounds lead from a row of levels up to, and without, another. -/
def Spans (b : Bounds) (low high : List Level) : Prop :=
  ∃ lower upper, b = .fromUpTo lower upper ∧ lower.levels = low ∧ upper.levels = high

theorem exists_spans (low high : List Level) : ∃ b : Bounds, b.Spans low high :=
  ⟨.fromUpTo ⟨[], low⟩ ⟨[], high⟩, _, _, rfl, rfl, rfl⟩

/-- What is contained is told by the two rows, whatever texts they were read from. -/
theorem Spans.contains_eq (ha : a.Spans low high) (hb : b.Spans low high) :
    a.contains = b.contains := by
  obtain ⟨⟨_, _⟩, ⟨_, _⟩, rfl, rfl, rfl⟩ := ha
  obtain ⟨⟨_, _⟩, ⟨_, _⟩, rfl, rfl, rfl⟩ := hb
  rfl

/-- Without wildcards, what is contained is told by the order of levels. -/
theorem Spans.contains_iff (h : b.Spans low high) (hlt : compareLevels low high = .lt)
    (hhigh : Closed high) (hv : Closed v.levels) : b.contains v = true ↔
      compareLevels v.levels low ≠ .lt ∧ compareLevels v.levels high = .lt := by
  obtain ⟨lower, upper, rfl, rfl, rfl⟩ := h
  have hordered : (fromUpTo lower upper).Ordered := by
    intro l u hl hu
    obtain rfl : lower = l := Option.some.inj hl
    obtain rfl : upper = u := Option.some.inj hu
    exact (below_iff_of_closed hhigh).2 hlt
  rw [contains_iff_meets hordered, meetsLower_iff rfl rfl hv, meetsUpper_iff rfl rfl hhigh]

end Bounds

namespace Range

variable {library spec : Text}

/-! ## Marks -/

/-- The ways to write an npm range: behind a caret, behind a tilde, or just its levels. -/
inductive Form where
  | caret
  | tilde
  | plain
deriving DecidableEq, Repr

/-- What stands before the levels. -/
def Form.mark : Form → Text
  | caret => ['^']
  | tilde => ['~']
  | plain => []

theorem Terse.mark_append (h : Terse spec) (form : Form) : Terse (form.mark ++ spec) := by
  have hmark : ∀ c ∈ form.mark, c ∈ marks := by
    cases form <;> simp [Form.mark, marks]
  refine ⟨by simp [h.1], fun c hc => ?_⟩
  exact (List.mem_append.1 hc).elim (fun hc => .inr (hmark c hc)) (h.2 c)

/-- How many numbers a range keeps of those that it has. -/
def Form.kept : Form → Nat → Nat
  | caret, _ => 1
  | tilde, count => min count 2
  | plain, count => count

/-- The range that has these bounds, or none. -/
def withBounds (library spec : Text) : Option Bounds → Range
  | some bounds => { ecosystem := .npm, library, descriptor := spec, bounds, floating := true }
  | none => unbounded .npm library spec

theorem npm_caret (library text : Text) : npm library ('^' :: text) =
    .ok (withBounds library ('^' :: text) (caretBounds? text)) := by
  cases h : caretBounds? text <;>
    simp [npm, isWebResource, Text.startsWith, Text.after?, h, withBounds]

theorem npm_tilde (library text : Text) : npm library ('~' :: text) =
    .ok (withBounds library ('~' :: text) (tildeBounds? text)) := by
  cases h : tildeBounds? text <;>
    simp [npm, isWebResource, Text.startsWith, Text.after?, h, withBounds]

/-- What starts with a digit is read level by level. -/
theorem npm_of_isDigit {c : Char} (h : c.isDigit = true) (library rest : Text) :
    npm library (c :: rest) =
      let v := Version.reference (c :: rest)
      let fixed := fixedLevels v
      if fixed.length = v.levels.length then .ok (pinned .npm library (c :: rest) v)
      else if fixed = [] then .ok (withBounds library (c :: rest) none)
      else .ok (withBounds library (c :: rest)
        (some (wildcardBounds fixed (v.levels.length - fixed.length)))) := by
  have hresource : isWebResource (c :: rest) = false := by
    have hg : 'g' ≠ c := (Text.ne_of_isDigit h rfl).symm
    have hh : 'h' ≠ c := (Text.ne_of_isDigit h rfl).symm
    simp [isWebResource, Text.startsWith, Text.after?, hg, hh]
  rw [npm.eq_def, if_neg (by simp [hresource])]
  split
  next heq =>
    cases heq
    cases h
  next heq =>
    cases heq
    cases h
  next => rfl

/-! ## Bounds -/

variable {p : Pattern} {init more : List Text} {piece : Text} {n : Nat}

/-- The row that comes after all those that start with these levels and then with this number. No
number comes after the largest one, so that this stays as it is. -/
def bumpedRow (init : List Text) (n k : Nat) : List Level :=
  init.map Level.mk ++ Level.natural (Level.bump n) :: List.replicate k zero

section Bumped

variable (hnumber : (Level.mk piece).number? = some n)

include hnumber

theorem levels_nextMajor {v : Version} {rest : List Level} (h : v.levels = ⟨piece⟩ :: rest) :
    (reference v.nextMajor).levels = bumpedRow [] n 2 := by
  have hmajor : v.numberAt? 0 = some n := by simp [numberAt?, h, hnumber]
  have htext : v.nextMajor = dotted [Level.bump n, 0, 0] := by
    rw [nextMajor, hmajor]
    simp [dotted, List.intercalate]
    rfl
  rw [htext, levels_reference_dotted (by simp)]
  rfl

theorem levels_nextMinor {v : Version} {major : Text} {rest : List Level}
    (h : v.levels = ⟨major⟩ :: ⟨piece⟩ :: rest) (hmajor : '.' ∉ major) :
    (reference v.nextMinor).levels = bumpedRow [major] n 1 := by
  have hminor : v.numberAt? 1 = some n := by simp [numberAt?, h, hnumber]
  have htext : v.nextMinor = joinLevels [major, Text.ofNat (Level.bump n), ['0']] := by
    rw [nextMinor, hminor, h]
    simp [joinLevels, List.intercalate]
  have hdots : ∀ level ∈ [major, Text.ofNat (Level.bump n), ['0']], '.' ∉ level := by
    simp [hmajor, Text.not_mem_ofNat]
  rw [htext, joinLevels, levels_reference_intercalate (by simp) hdots]
  rfl

theorem exists_caretBounds (hfixed : p.fixed = piece :: more) :
    ∃ b, caretBounds? p.text = some b ∧ b.Spans p.floor (bumpedRow [] n 2) := by
  obtain ⟨floor, hread, hfloor⟩ := p.exists_floor (by simp [hfixed])
  obtain ⟨rest, hlevels⟩ : ∃ rest, floor.levels = ⟨piece⟩ :: rest :=
    ⟨_, by rw [hfloor, Pattern.floor, hfixed]; rfl⟩
  have hupper := levels_nextMajor hnumber hlevels
  exact ⟨_, by rw [caretBounds?, hread]; rfl, floor, _, rfl, hfloor, hupper⟩

omit hnumber in
/-- A tilde before a single number does what a caret does. -/
theorem tildeBounds?_eq (hfixed : p.fixed.length = 1) :
    tildeBounds? p.text = caretBounds? p.text := by
  obtain ⟨floor, hread, -⟩ := p.exists_floor (List.ne_nil_of_length_eq_add_one hfixed)
  simp [tildeBounds?, caretBounds?, hread, hfixed]

theorem exists_tildeBounds {major : Text} (hfixed : p.fixed = major :: piece :: more) :
    ∃ b, tildeBounds? p.text = some b ∧ b.Spans p.floor (bumpedRow [major] n 1) := by
  obtain ⟨floor, hread, hfloor⟩ := p.exists_floor (by simp [hfixed])
  obtain ⟨rest, hlevels⟩ : ∃ rest, floor.levels = ⟨major⟩ :: ⟨piece⟩ :: rest :=
    ⟨_, by rw [hfloor, Pattern.floor, hfixed]; rfl⟩
  have hupper := levels_nextMinor hnumber hlevels (p.dot_not_mem_fixed major (by simp [hfixed]))
  refine ⟨_, by rw [tildeBounds?, hread]; rfl, floor, _, rfl, hfloor, ?_⟩
  rwa [if_neg (by simp [hfixed])]

/-- Without a mark, all numbers are kept. -/
theorem wildcardBounds_spans (hfixed : p.fixed = init ++ [piece]) :
    (wildcardBounds p.fixed (p.width - p.fixed.length)).Spans p.floor
      (bumpedRow init n (p.width - p.fixed.length)) := by
  have hdots := p.dot_not_mem_fixed
  have hzeros := Pattern.dot_not_mem_zeros (p.width - p.fixed.length)
  have hwidth : 3 ≤ p.width ∧ p.fixed.length ≤ p.width := p.length_fixed_le
  have hcount : p.fixed.length = init.length + 1 := by simp [hfixed]
  have hlast : p.fixed.getLast?.bind (fun last => (Level.mk last).number?) = some n := by
    simp [hfixed, hnumber]
  rw [wildcardBounds, hlast]
  refine ⟨_, _, rfl, ?_, ?_⟩
  · refine (levels_reference_intercalate ?_ ?_).trans ?_
    · simp only [List.length_append, List.length_replicate]
      omega
    · exact List.forall_mem_append.2 ⟨hdots, hzeros⟩
    · rw [List.map_append, List.map_replicate]
      rfl
  · refine (levels_reference_intercalate ?_ ?_).trans ?_
    · simp only [List.length_append, List.length_dropLast, List.length_cons,
        List.length_replicate]
      omega
    · rw [List.forall_mem_append, List.forall_mem_cons]
      exact ⟨fun level h => hdots level (List.dropLast_subset _ h), Text.not_mem_ofNat rfl,
        hzeros⟩
    · rw [List.map_append, List.map_cons, List.map_replicate, hfixed, List.dropLast_concat]
      rfl

end Bumped

/-- How many zeros stand behind the last of the numbers that are kept. -/
def Pattern.zeros (p : Pattern) (form : Form) : Nat :=
  match form with
  | .caret | .tilde => 3 - form.kept p.fixed.length
  | .plain => p.width - form.kept p.fixed.length

/-- A text that starts with a number is one version if it leaves nothing open. -/
theorem npm_plain (hne : p.fixed ≠ []) (library : Text) : npm library p.text =
    .ok (if p.fixed.length = p.width then pinned .npm library p.text (reference p.text)
      else withBounds library p.text
        (some (wildcardBounds p.fixed (p.width - p.fixed.length)))) := by
  have hpieces : p.pieces ≠ [] := by simp [Pattern.pieces, hne]
  have hfixed := Pattern.fixedLevels_reference hpieces
  have hwidth := Pattern.length_levels_reference hpieces
  obtain ⟨c, rest, hcons, hdigit⟩ := p.exists_digit hne
  have hread := npm_of_isDigit hdigit library rest
  rw [← hcons] at hread
  simp only [hfixed, hwidth, if_neg hne] at hread
  rw [hread]
  split <;> rfl

/-- Without a number to keep, a mark asks for nothing. -/
theorem npm_unbounded (hfixed : p.fixed = []) (hne : p.pieces ≠ []) (form : Form)
    (hform : form ≠ .plain) (library : Text) : npm library (form.mark ++ p.text) =
      .ok (unbounded .npm library (form.mark ++ p.text)) := by
  have hfloor : compatibleFloor? p.text = none := by
    rw [compatibleFloor?, Pattern.fixedLevels_unpadded hne, if_pos hfixed]
  cases form with
  | caret => exact (npm_caret library p.text).trans (by rw [caretBounds?, hfloor]; rfl)
  | tilde => exact (npm_tilde library p.text).trans (by rw [tildeBounds?, hfloor]; rfl)
  | plain => exact absurd rfl hform

/-- Of its numbers a range keeps some, and its interval ends before their successor. A range
without a mark has to leave something open to be one. -/
theorem npm_form (form : Form) (hfixed : p.fixed = init ++ piece :: more)
    (hkept : form.kept p.fixed.length = init.length + 1)
    (hnumber : (Level.mk piece).number? = some n)
    (hopen : form = .plain → p.fixed.length < p.width) (library : Text) : ∃ b,
      npm library (form.mark ++ p.text) =
        .ok (withBounds library (form.mark ++ p.text) (some b)) ∧
      b.Spans p.floor (bumpedRow init n (p.zeros form)) := by
  cases form with
  | caret =>
    -- One number is kept, so that none stands before it.
    obtain rfl : init = [] := List.length_eq_zero_iff.1 (Nat.succ.inj hkept).symm
    obtain ⟨b, hread, hspans⟩ := exists_caretBounds hnumber hfixed
    exact ⟨b, by rw [← hread]; exact npm_caret library p.text, hspans⟩
  | tilde =>
    have hread := npm_tilde library p.text
    have hcount : min p.fixed.length 2 = init.length + 1 := hkept
    have hlength : p.fixed.length = init.length + (more.length + 1) := by simp [hfixed]
    match init with
    | [] =>
      obtain rfl : more = [] := List.length_eq_zero_iff.1 (by simp at hcount hlength; omega)
      obtain ⟨b, hbounds, hspans⟩ := exists_caretBounds hnumber hfixed
      rw [tildeBounds?_eq hlength, hbounds] at hread
      exact ⟨b, hread, by rwa [Pattern.zeros, hkept]⟩
    | [major] =>
      obtain ⟨b, hbounds, hspans⟩ := exists_tildeBounds hnumber hfixed
      rw [hbounds] at hread
      exact ⟨b, hread, by rwa [Pattern.zeros, hkept]⟩
    | _ :: _ :: _ =>
      simp only [List.length_cons] at hcount
      omega
  | plain =>
    -- All numbers are kept, so that none stands behind the last one.
    have hcount : p.fixed.length = init.length + 1 := hkept
    obtain rfl : more = [] := List.length_eq_zero_iff.1 (by
      rw [hfixed, List.length_append, List.length_cons] at hcount
      omega)
    have hne : p.fixed ≠ [] := by simp [hfixed]
    have hread := npm_plain hne library
    rw [if_neg (Nat.ne_of_lt (hopen rfl))] at hread
    exact ⟨_, hread, wildcardBounds_spans hnumber hfixed⟩

/-! ## Bounds of operands -/

variable {w : Operand}

/-- The row that comes after all those that start with these levels and then this number. -/
def successorRow (init : List Text) (piece : Text) (k : Nat) : List Level :=
  init.map Level.mk ++ Level.natural (Text.numeralValue piece + 1) :: List.replicate k zero

section Successor

variable (hbound : Text.numeralValue piece < Level.numberBound - 1)

include hbound

/-- A number below the largest one is read and has a successor. -/
theorem number?_of_isNumeral (h : Text.isNumeral piece = true) :
    (Level.mk piece).number? = some (Text.numeralValue piece) :=
  Level.number?_eq_some_iff.2 ⟨Level.isNumeric_of_isNumeral h, Level.value_of_isNumeral h,
    Nat.lt_of_lt_of_le hbound (Nat.sub_le _ 1)⟩

theorem bumpedRow_numeralValue (init : List Text) (k : Nat) :
    bumpedRow init (Text.numeralValue piece) k = successorRow init piece k := by
  have hbump : Level.bump (Text.numeralValue piece) = Text.numeralValue piece + 1 := by
    rw [Level.bump]
    omega
  rw [bumpedRow, successorRow, hbump]

end Successor

/-- How many zeros stand behind the successor of the numbers that are kept. -/
def Form.zeros (form : Form) (w : Operand) : Nat :=
  match form with
  | caret | tilde => 3 - form.kept w.numbers.length
  | plain => w.width - form.kept w.numbers.length

theorem Form.kept_add_zeros {form : Form} (h : form = .plain → w.width ≤ 3) :
    form.kept w.numbers.length + form.zeros w ≤ 3 := by
  have hwidth := w.length_numbers_le
  cases form with
  | caret => exact Nat.le_refl 3
  | tilde =>
    simp only [zeros, kept]
    omega
  | plain =>
    have hplain := h rfl
    simp only [zeros, kept]
    omega

theorem zeros_pattern (form : Form) : w.pattern.zeros form = form.zeros w := by
  cases form <;> rfl

end Range

/-! ## Reading -/

/-- A text without bars is one piece. -/
theorem RangeUnion.splitBars_of_not_mem {text : Text} (h : '|' ∉ text) :
    splitBars text = [text] := by
  fun_induction splitBars text with
  | case1 rest ih => simp at h
  | case2 c rest _ ih =>
    rw [ih fun hmem => h (List.mem_cons_of_mem c hmem)]
    rfl
  | case3 => rfl

namespace Requirement

open Range

variable {library spec text : Text} {p : Pattern} {w : Operand} {form : Form}
  {init more : List Text} {piece : Text} {n : Nat}

theorem hasBars_of_not_mem (h : '|' ∉ text) : hasBars text = false := by
  simp [hasBars, RangeUnion.splitBars_of_not_mem h]

theorem isComparatorChar_of_isDigit {c : Char} (h : c.isDigit = true) :
    isComparatorChar c = false := by
  have hbelow : c ≠ '<' := Text.ne_of_isDigit h rfl
  have habove : c ≠ '>' := Text.ne_of_isDigit h rfl
  have hequal : c ≠ '=' := Text.ne_of_isDigit h rfl
  simp [isComparatorChar, hbelow, habove, hequal]

theorem npmPart_of_not_comparator {c : Char} (h : isComparatorChar c = false) :
    RangeUnion.npmPart library (c :: text) = npm library (c :: text) := by
  simp [RangeUnion.npmPart, h]

/-- Without a double bar, and once it is trimmed, a text is read as one range. -/
theorem parse_eq_npm (htrim : Text.trim spec = form.mark ++ p.text)
    (hbars : hasBars (form.mark ++ p.text) = false) (h : form = .plain → p.fixed ≠ [])
    (library : Text) :
    parse .npm library spec = (npm library (form.mark ++ p.text)).map fun range =>
      .single { range with descriptor := spec } := by
  have hpart : RangeUnion.npmPart library (form.mark ++ p.text) =
      npm library (form.mark ++ p.text) := by
    cases form with
    | caret | tilde => exact npmPart_of_not_comparator (by decide)
    | plain =>
      obtain ⟨c, rest, hcons, hdigit⟩ := p.exists_digit (h rfl)
      rw [Form.mark, List.nil_append, hcons]
      exact npmPart_of_not_comparator (isComparatorChar_of_isDigit hdigit)
  simp [parse, htrim, hbars, hpart]

/-- A terse text is no union, and there is nothing to trim. -/
theorem trim_of_terse (h : Terse text) (form : Form) :
    Text.trim (form.mark ++ text) = form.mark ++ text ∧ hasBars (form.mark ++ text) = false := by
  have hterse : Terse (form.mark ++ text) := h.mark_append form
  exact ⟨Text.trim_of_unblank hterse.unblank,
    hasBars_of_not_mem (hterse.not_mem rfl (by decide))⟩

/-- What a range contains is what the interval does that it keeps its numbers in. -/
theorem parse_pattern (htrim : Text.trim spec = form.mark ++ p.text)
    (hbars : hasBars (form.mark ++ p.text) = false)
    (hfixed : p.fixed = init ++ piece :: more)
    (hkept : form.kept p.fixed.length = init.length + 1)
    (hnumber : (Level.mk piece).number? = some n)
    (hopen : form = .plain → p.fixed.length < p.width) (library : Text) :
    ∃ (requirement : Requirement) (b : Bounds), parse .npm library spec = .ok requirement ∧
      requirement.contains = b.contains ∧
      b.Spans p.floor (bumpedRow init n (p.zeros form)) := by
  obtain ⟨b, hread, hspans⟩ := npm_form form hfixed hkept hnumber hopen library
  refine ⟨.single { withBounds library (form.mark ++ p.text) (some b) with descriptor := spec }, b,
    ?_, rfl, hspans⟩
  rw [parse_eq_npm htrim hbars (fun _ => by simp [hfixed]), hread]
  rfl

/-- So it is with numbers and nothing else, as long as the last one that is kept has a
successor. -/
theorem parse_form (htrim : Text.trim spec = form.mark ++ w.text)
    (hbars : hasBars (form.mark ++ w.text) = false)
    (hnumbers : w.numbers = init ++ piece :: more)
    (hkept : form.kept w.numbers.length = init.length + 1)
    (hbound : Text.numeralValue piece < Level.numberBound - 1)
    (hopen : form = .plain → w.numbers.length < w.width) (library : Text) :
    ∃ (requirement : Requirement) (b : Bounds), parse .npm library spec = .ok requirement ∧
      requirement.contains = b.contains ∧
      b.Spans w.floor (successorRow init piece (form.zeros w)) := by
  have hnumber := number?_of_isNumeral hbound (w.isNumeral piece (by simp [hnumbers]))
  have hparse := parse_pattern (p := w.pattern) htrim hbars hnumbers hkept hnumber hopen library
  rwa [zeros_pattern, bumpedRow_numeralValue hbound] at hparse

end Requirement

end UpgradeGraph
