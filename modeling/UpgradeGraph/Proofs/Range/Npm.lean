import Mathlib.Data.List.Lex
import UpgradeGraph.Proofs.Range.Form

/-!
# Releases that npm ranges admit

Carets, tildes and wildcards all come to the same: an interval that begins with some numbers
and ends before their successor, the last of them one larger and zeros behind it. What is in
such an interval is not below its beginning and starts with the same numbers
(`lt_successor_iff`), whatever numbers these are and however many more a release has.

The bounds are written as text and read again. That loses nothing as long as a number has a
successor among those that have a value, so the numbers of a range may be anything below
`Level.numberBound - 1`, and those of a release anything at all.
-/

namespace UpgradeGraph

namespace Version

variable {init rest cs : List Nat} {n k : Nat}

/-! ## Intervals of numbers -/

/-- Zeros are not above any row that is not shorter. -/
theorem replicate_zero_le (h : k ≤ cs.length) : List.replicate k 0 ≤ cs := by
  rw [← not_lt]
  induction k generalizing cs with
  | zero => exact List.not_lt_nil cs
  | succ k ih =>
    cases cs with
    | nil => simp at h
    | cons c cs =>
      have ih : ¬ cs < List.replicate k 0 := ih (Nat.le_of_succ_le_succ h)
      simp [List.replicate_succ, List.cons_lt_cons_iff, ih]

/-- The numbers with zeros behind them come first among the rows that start with the numbers. -/
theorem le_of_starts (hlength : init.length + k ≤ cs.length) (h : init <+: cs) :
    init ++ List.replicate k 0 ≤ cs := by
  induction init generalizing cs with
  | nil => exact replicate_zero_le (by simpa using hlength)
  | cons a init ih =>
    cases cs with
    | nil => simp at hlength
    | cons c cs =>
      obtain ⟨rfl, hprefix⟩ := List.cons_prefix_cons.1 h
      refine List.cons_le_cons a (ih ?_ hprefix)
      simp only [List.length_cons] at hlength
      omega

/-- Of the rows from some numbers on, those are below the successor of the numbers that start
with them. -/
theorem lt_successor_iff (hlength : init.length + 1 + k ≤ cs.length)
    (hlow : init ++ n :: rest ≤ cs) :
    cs < init ++ (n + 1) :: List.replicate k 0 ↔ init ++ [n] <+: cs := by
  rw [← not_lt] at hlow
  induction init generalizing cs with
  | nil =>
    cases cs with
    | nil => simp at hlength
    | cons c cs =>
      have hzeros : ¬ cs < List.replicate k 0 :=
        not_lt.2 (replicate_zero_le (by simpa [Nat.add_comm] using hlength))
      simp only [List.nil_append, List.cons_lt_cons_iff, List.cons_prefix_cons,
        List.nil_prefix, hzeros, not_or, and_true, and_false, or_false] at hlow ⊢
      omega
  | cons a init ih =>
    cases cs with
    | nil => simp at hlength
    | cons c cs =>
      have hlength' : init.length + 1 + k ≤ cs.length := by
        simp only [List.length_cons] at hlength
        omega
      simp only [List.cons_append, List.cons_lt_cons_iff, List.cons_prefix_cons, not_or,
        not_and] at hlow ⊢
      constructor
      · intro h
        rcases h with hlt | ⟨rfl, hlt⟩
        · exact absurd hlt hlow.1
        · exact ⟨rfl, (ih hlength' (hlow.2 rfl)).1 hlt⟩
      · intro h
        obtain ⟨rfl, hprefix⟩ := h
        exact .inr ⟨rfl, (ih hlength' (hlow.2 rfl)).2 hprefix⟩

end Version

namespace Bounds

open Version

variable {b : Bounds} {as bs cs init rest : List Nat} {n k : Nat} {v : Version}

/-! ## Bounds that are rows of numbers -/

theorem contains_pinned {w : Version} : (pinned w).contains v = true ↔ v.levels = w.levels := by
  by_cases h : v.levels = w.levels
  · simp [contains, pinned, same, h]
  · have hnot : ¬ (v.above w = true ∧ v.below w = true) := by
      simp only [above, below, decide_eq_true_eq]
      exact fun hboth => by simp [hboth.1] at hboth
    simp [contains, pinned, same, h, hnot]

/-- From some numbers on, up to the successor of the first few of them. -/
theorem Spans.contains_upToSuccessor
    (h : b.Spans (row (init ++ n :: rest)) (row (init ++ (n + 1) :: List.replicate k 0)))
    (hv : v.levels = row cs) (hlength : init.length + 1 + k ≤ cs.length) :
    b.contains v = true ↔ init ++ n :: rest ≤ cs ∧ init ++ [n] <+: cs := by
  have hlt : init ++ n :: rest < init ++ (n + 1) :: List.replicate k 0 :=
    List.append_left_lt (List.cons_lt_cons_iff.2 (.inl (Nat.lt_succ_self n)))
  rw [h.contains_iff (compareLevels_row.2 hlt) (closed_row _) (hv ▸ closed_row cs), hv,
    compareLevels_row, Ne, compareLevels_row, not_lt]
  exact and_congr_right fun hlow => lt_successor_iff hlength hlow

end Bounds

namespace Range

open Version

variable {ns : List Nat}

/-! ## Numbers and wildcards -/

/-- The text with these numbers between dots and then these wildcards. -/
def opened (ns : List Nat) (wild : List Text) : Text := joinLevels (ns.map Text.ofNat ++ wild)

theorem opened_nil (ns : List Nat) : opened ns [] = dotted ns := by
  rw [opened, List.append_nil]
  rfl

/-- The pieces are wildcards. -/
def Wild (pieces : List Text) : Prop := ∀ piece ∈ pieces, piece = ['x'] ∨ piece = ['*']

instance : DecidablePred Wild := fun pieces =>
  inferInstanceAs (Decidable (∀ piece ∈ pieces, piece = ['x'] ∨ piece = ['*']))

theorem Wild.dotless {pieces : List Text} (h : Wild pieces) : ∀ piece ∈ pieces, '.' ∉ piece := by
  intro piece hpiece
  rcases h piece hpiece with rfl | rfl <;> decide

theorem Wild.opens {pieces : List Text} (h : Wild pieces) :
    ∀ piece ∈ pieces.head?, (Level.mk piece).isWildcard = true := by
  intro piece hpiece
  rcases h piece (List.mem_of_mem_head? hpiece) with rfl | rfl <;> decide

/-- Numbers and wildcards behind them. -/
def openedOperand (ns : List Nat) {pieces : List Text} (hwild : Wild pieces) : Operand where
  numbers := ns.map Text.ofNat
  rest := pieces
  isNumeral := List.forall_mem_map.2 fun n _ => Text.isNumeral_ofNat n
  dotless := hwild.dotless
  opens := hwild.opens

theorem terse_opened (hne : ns ≠ []) {pieces : List Text} (hwild : Wild pieces) :
    Terse (opened ns pieces) := by
  have hpieces : (openedOperand ns hwild).pieces ≠ [] := by
    simp [Operand.pieces, openedOperand, hne]
  refine Operand.terse_text hpieces fun piece hpiece c hc => .inr ?_
  rcases hwild piece hpiece with rfl | rfl <;> rw [List.mem_singleton.1 hc] <;> decide

/-- Wildcards that do not go beyond the third level change nothing. -/
theorem width_openedOperand {pieces : List Text} (hwild : Wild pieces)
    (hlength : ns.length + pieces.length ≤ max ns.length 3) :
    (openedOperand ns hwild).width = max ns.length 3 := by
  simp only [Operand.width, Operand.pieces, openedOperand, List.length_append, List.length_map]
  omega

theorem floor_openedOperand {pieces : List Text} (hwild : Wild pieces)
    (hlength : ns.length + pieces.length ≤ max ns.length 3) :
    (openedOperand ns hwild).floor = row (completed ns) := by
  have hzeros : max ns.length 3 - ns.length = 3 - ns.length := by omega
  rw [Operand.floor, width_openedOperand hwild hlength]
  simp [openedOperand, row, completed, Level.natural, hzeros]
  rfl

theorem successorRow_ofNat (init : List Nat) (n k : Nat) :
    successorRow (init.map Text.ofNat) (Text.ofNat n) k =
      row (init ++ (n + 1) :: List.replicate k 0) := by
  simp [successorRow, row, Text.numeralValue_ofNat, Level.natural]
  rfl

end Range

namespace Requirement

open Version Range

variable {init : List Nat} {n major minor : Nat} {pieces : List Text}

/-! ## What is admitted -/

/-- The text is a requirement, and releases in numbers satisfy it if they are as described, and
only then. -/
def Admits (library spec : Text) (described : List Nat → Prop) : Prop :=
  ∃ requirement, parse .npm library spec = .ok requirement ∧ ∀ ns, ns ≠ [] →
    (requirement.contains (.concrete (dotted ns)) = true ↔ described (completed ns))

/-- A range admits what starts with the numbers that it keeps and is not below all its numbers. -/
theorem admits_form (form : Form) (init more : List Nat) (n : Nat) (hwild : Wild pieces)
    (hkept : form.kept (init ++ n :: more).length = init.length + 1)
    (hbound : n < Level.numberBound - 1)
    (hopen : form = .plain → (init ++ n :: more).length < 3)
    (hlength : (init ++ n :: more).length + pieces.length ≤ max (init ++ n :: more).length 3)
    (library : Text) : Admits library (form.mark ++ opened (init ++ n :: more) pieces) fun v =>
      completed (init ++ n :: more) ≤ v ∧ init ++ [n] <+: v := by
  have hterse : Terse (opened (init ++ n :: more) pieces) := terse_opened (by simp) hwild
  obtain ⟨htrim, hbars⟩ := trim_of_terse hterse form
  have hnumbers : (openedOperand (init ++ n :: more) hwild).numbers =
      init.map Text.ofNat ++ Text.ofNat n :: more.map Text.ofNat := List.map_append
  have hcount : (openedOperand (init ++ n :: more) hwild).numbers.length =
      (init ++ n :: more).length := List.length_map _
  have hwidth := width_openedOperand hwild hlength
  obtain ⟨requirement, b, hread, hcontains, hspans⟩ :=
    parse_form (w := openedOperand (init ++ n :: more) hwild) htrim hbars hnumbers
      (by rw [hcount, hkept, List.length_map]) (by rwa [Text.numeralValue_ofNat])
      (fun hplain => hcount ▸ hwidth ▸ Nat.lt_of_lt_of_le (hopen hplain) (Nat.le_max_right _ 3))
      library
  refine ⟨requirement, hread, fun ns hns => ?_⟩
  have hlow : completed (init ++ n :: more) = init ++ n :: (more ++
      List.replicate (3 - (init ++ n :: more).length) 0) := by simp [completed]
  rw [floor_openedOperand hwild hlength, successorRow_ofNat, hlow] at hspans
  have hwide : init.length + 1 + form.zeros (openedOperand (init ++ n :: more) hwild) ≤ 3 := by
    rw [← hkept, ← hcount]
    refine Form.kept_add_zeros fun hplain => ?_
    rw [hwidth, max_eq_right (Nat.le_of_lt (hopen hplain))]
  rw [hcontains, hspans.contains_upToSuccessor (levels_concrete_dotted hns)
    (Nat.le_trans hwide (length_completed ns)), ← hlow]

/-- If all numbers are kept, nothing that starts with them is below them. -/
theorem admits_all (form : Form) (init : List Nat) (n : Nat) (hwild : Wild pieces)
    (hkept : form.kept (init ++ [n]).length = init.length + 1)
    (hbound : n < Level.numberBound - 1) (hopen : (init ++ [n]).length < 3)
    (hlength : (init ++ [n]).length + pieces.length ≤ 3) (library : Text) :
    Admits library (form.mark ++ opened (init ++ [n]) pieces) (init ++ [n] <+: ·) := by
  obtain ⟨requirement, hread, hcontains⟩ := admits_form form init [] n hwild hkept hbound
    (fun _ => hopen) (Nat.le_trans hlength (Nat.le_max_right _ 3)) library
  refine ⟨requirement, hread, fun ns hns => (hcontains ns hns).trans ?_⟩
  refine and_iff_right_of_imp fun hstarts => le_of_starts ?_ hstarts
  have hcompleted := length_completed ns
  omega

theorem admits_caret (h : major < Level.numberBound - 1) (ns : List Nat) (library : Text) :
    Admits library ('^' :: dotted (major :: ns)) fun v =>
      completed (major :: ns) ≤ v ∧ [major] <+: v := by
  have hnone : Wild [] := nofun
  rw [← opened_nil]
  exact admits_form .caret [] ns major hnone rfl h nofun (le_max_left _ 3) library

theorem admits_tilde (h : minor < Level.numberBound - 1) (major : Nat) (ns : List Nat)
    (library : Text) : Admits library ('~' :: dotted (major :: minor :: ns)) fun v =>
      completed (major :: minor :: ns) ≤ v ∧ [major, minor] <+: v := by
  have hnone : Wild [] := nofun
  rw [← opened_nil]
  exact admits_form .tilde [major] ns minor hnone (by simp [Form.kept]) h nofun
    (le_max_left _ 3) library

theorem admits_tilde_singleton (h : major < Level.numberBound - 1) (library : Text) :
    Admits library ('~' :: dotted [major]) ([major] <+: ·) := by
  have hnone : Wild [] := nofun
  rw [← opened_nil]
  exact admits_all .tilde [] major hnone rfl h (by simp) (by simp) library

/-- Wildcards, written or missing, leave open what comes after the numbers before them. -/
theorem admits_opened (init : List Nat) {n : Nat} {pieces : List Text}
    (h : n < Level.numberBound - 1) (hwild : Wild pieces) (hopen : init.length < 2)
    (hlength : init.length + 1 + pieces.length ≤ 3) (library : Text) :
    Admits library (opened (init ++ [n]) pieces) (init ++ [n] <+: ·) :=
  admits_all .plain init n hwild (by simp [Form.kept]) h (by simp; omega) (by simpa using hlength)
    library

theorem admits_exactly (library : Text) (major minor patch : Nat) :
    Admits library (dotted [major, minor, patch]) (· = [major, minor, patch]) := by
  have hnone : Wild [] := nofun
  let w : Operand := openedOperand [major, minor, patch] hnone
  have htext : w.pattern.text = dotted [major, minor, patch] := opened_nil [major, minor, patch]
  have hne : w.numbers ≠ [] := by simp [w, openedOperand]
  have hterse : Terse w.text := terse_opened (List.cons_ne_nil major [minor, patch]) hnone
  obtain ⟨htrim, hbars⟩ := trim_of_terse hterse .plain
  have hparse := parse_eq_npm (p := w.pattern) htrim hbars (fun _ => hne) library
  have hread := npm_plain (p := w.pattern) hne library
  rw [if_pos (by rfl)] at hread
  refine ⟨_, hparse.trans (congrArg _ hread), fun ns hns => ?_⟩
  refine Bounds.contains_pinned.trans ?_
  rw [htext, levels_concrete_dotted hns, levels_reference_dotted (by simp), row_inj]

/-- What npm ranges in numbers admit. -/
theorem npm_ranges_admit (library : Text) {major minor : Nat} (patch : Nat)
    (hmajor : major < Level.numberBound - 1) (hminor : minor < Level.numberBound - 1) :
    (∀ ns ∈ [[major], [major, minor], [major, minor, patch]],
      Admits library ('^' :: dotted ns) fun v => completed ns ≤ v ∧ [major] <+: v) ∧
    (∀ ns ∈ [[major, minor], [major, minor, patch]],
      Admits library ('~' :: dotted ns) fun v => completed ns ≤ v ∧ [major, minor] <+: v) ∧
    Admits library ('~' :: dotted [major]) ([major] <+: ·) ∧
    (∀ pieces, Wild pieces → pieces.length ≤ 1 →
      Admits library (opened [major, minor] pieces) ([major, minor] <+: ·)) ∧
    (∀ pieces, Wild pieces → pieces.length ≤ 2 →
      Admits library (opened [major] pieces) ([major] <+: ·)) ∧
    Admits library (dotted [major, minor, patch]) (· = [major, minor, patch]) := by
  refine ⟨?_, ?_, admits_tilde_singleton hmajor library, ?_, ?_, admits_exactly library _ _ _⟩
  · intro ns hns
    simp only [List.mem_cons, List.not_mem_nil, or_false] at hns
    rcases hns with rfl | rfl | rfl
    all_goals exact admits_caret hmajor _ library
  · intro ns hns
    simp only [List.mem_cons, List.not_mem_nil, or_false] at hns
    rcases hns with rfl | rfl
    all_goals exact admits_tilde hminor major _ library
  · intro pieces hwild hlength
    exact admits_opened [major] hminor hwild (by simp) (Nat.add_le_add_left hlength 2) library
  · intro pieces hwild hlength
    exact admits_opened [] hmajor hwild (by simp) (Nat.add_le_add_left hlength 1) library

/-- One range of each sort. -/
theorem sample_npm_ranges_admit :
    10 < Level.numberBound - 1 ∧ 9 < Level.numberBound - 1 ∧
    Admits "ms" "^10.9" (fun v => [10, 9, 0] ≤ v ∧ [10] <+: v) ∧
    Admits "ms" "~10.9.3" (fun v => [10, 9, 3] ≤ v ∧ [10, 9] <+: v) ∧
    Admits "ms" "~10" ([10] <+: ·) ∧
    Admits "ms" "10.9.*" ([10, 9] <+: ·) ∧
    Admits "ms" "10.x.x" ([10] <+: ·) ∧
    Admits "ms" "10.9.3" (· = [10, 9, 3]) := by
  have hmajor : 10 < Level.numberBound - 1 := by decide
  have hminor : 9 < Level.numberBound - 1 := by decide
  obtain ⟨hcaret, htilde, htilde', hminors, hmajors, hexactly⟩ :=
    npm_ranges_admit "ms" 3 hmajor hminor
  exact ⟨hmajor, hminor, hcaret [10, 9] (by decide), htilde [10, 9, 3] (by decide), htilde',
    hminors [['*']] (by decide) (by decide), hmajors [['x'], ['x']] (by decide) (by decide),
    hexactly⟩

end Requirement

end UpgradeGraph
