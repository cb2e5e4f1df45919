import Mathlib.Data.List.TakeWhile
import UpgradeGraph.Text

/-!
# Characters and ends of texts

What is used of texts all over: digits are no other characters, a text whose first and last
characters are no blanks is its own trimmed text (`Text.trim_eq_self`), a text whose first
character is no blank is trimmed at its end only (`Text.trim_cons`), a number that was written is
read again (`Text.unsigned?_trim_ofNat`), and what is put between marks starts with its first
piece (`Text.intercalate_cons`).
-/

namespace UpgradeGraph

/-- Blanks, or nothing at all. -/
def Blanks : Type := { s : Text // ∀ c ∈ s, Text.isBlank c = true }

/-- A text of which it can be checked that it is blank. -/
def Blanks.of (text : Text) (h : text.all Text.isBlank = true) : Blanks :=
  ⟨text, List.all_eq_true.1 h⟩

def Blanks.none : Blanks := .of [] rfl

def Blanks.space : Blanks := .of [' '] rfl

theorem Blanks.not_mem (blanks : Blanks) {c : Char} (h : Text.isBlank c = false) :
    c ∉ blanks.val := fun hmem => by simpa [h] using blanks.property c hmem

namespace Text

variable {c d : Char} {s : Text}

theorem ne_of_isDigit (h : c.isDigit = true) (hd : d.isDigit = false) : c ≠ d := by
  rintro rfl
  simp [hd] at h

theorem isBlank_of_isDigit (h : c.isDigit = true) : isBlank c = false := by
  obtain ⟨hlow, hhigh⟩ : 48 ≤ c.toNat ∧ c.toNat ≤ 57 := by
    simpa [Char.isDigit, UInt32.le_iff_toNat_le] using h
  simp only [isBlank, Bool.or_eq_false_iff, Bool.and_eq_false_iff, decide_eq_false_iff_not]
  omega

theorem dropBlanks_eq_self (h : ∀ c ∈ s.head?, isBlank c = false) : s.dropWhile isBlank = s := by
  cases s with
  | nil => rfl
  | cons c s => simp [h c rfl]

/-- Blanks inside a text are kept. -/
theorem trim_eq_self (hhead : ∀ c ∈ s.head?, isBlank c = false)
    (hlast : ∀ c ∈ s.getLast?, isBlank c = false) : trim s = s := by
  rw [trim, dropBlanks_eq_self hhead, dropBlanks_eq_self (by simpa using hlast),
    List.reverse_reverse]

theorem trim_of_unblank (h : ∀ c ∈ s, isBlank c = false) : trim s = s :=
  trim_eq_self (fun c hc => h c (List.mem_of_mem_head? hc))
    fun c hc => h c (List.mem_of_getLast? hc)

/-! ## Blanks at one end -/

/-- The text without the blanks at its start. -/
def trimStart (s : Text) : Text := s.dropWhile isBlank

/-- The text without the blanks at its end. -/
def trimEnd (s : Text) : Text := (s.reverse.dropWhile isBlank).reverse

theorem trimStart_append_cons (h : isBlank c = false) (s t : Text) :
    trimStart (s ++ c :: t) = trimStart s ++ c :: t := by
  have hc : (c :: t).dropWhile isBlank = c :: t := dropBlanks_eq_self (by simpa using h)
  unfold trimStart
  rw [List.dropWhile_append, hc]
  split
  next hempty => rw [List.isEmpty_iff.1 hempty, List.nil_append]
  next => rfl

theorem trimEnd_append_cons (h : isBlank c = false) (s t : Text) :
    trimEnd (s ++ c :: t) = s ++ c :: trimEnd t := by
  have hreverse : (s ++ c :: t).reverse = t.reverse ++ c :: s.reverse := by simp
  have hstart := trimStart_append_cons h t.reverse s.reverse
  unfold trimStart at hstart
  rw [trimEnd, hreverse, hstart]
  simp [trimEnd]

/-- What is around a character that is no blank is trimmed at its outer ends only. -/
theorem trim_append_cons (h : isBlank c = false) (s t : Text) :
    trim (s ++ c :: t) = trimStart s ++ c :: trimEnd t := by
  show trimEnd (trimStart (s ++ c :: t)) = trimStart s ++ c :: trimEnd t
  rw [trimStart_append_cons h, trimEnd_append_cons h]

theorem trimEnd_cons (h : isBlank c = false) : trimEnd (c :: s) = c :: trimEnd s :=
  trimEnd_append_cons h [] s

theorem trimEnd_concat (h : isBlank c = false) : trimEnd (s ++ [c]) = s ++ [c] :=
  trimEnd_append_cons h s []

/-- Only what is behind the first character is trimmed, if that is no blank. -/
theorem trim_cons (h : isBlank c = false) : trim (c :: s) = c :: trimEnd s :=
  trim_append_cons h [] s

/-- Only what is before the last character is trimmed, if that is no blank. -/
theorem trim_concat (h : isBlank c = false) : trim (s ++ [c]) = trimStart s ++ [c] :=
  trim_append_cons h s []

theorem trim_blanks_append {blanks : Text} (h : ∀ c ∈ blanks, isBlank c = true) (s : Text) :
    trim (blanks ++ s) = trim s := by
  rw [trim, List.dropWhile_append_of_pos h, trim]

theorem trim_append_blanks {blanks : Text} (h : ∀ c ∈ blanks, isBlank c = true) (s : Text) :
    trim (s ++ blanks) = trim s := by
  have hreverse : ∀ c ∈ blanks.reverse, isBlank c = true := by simpa using h
  rw [trim, List.dropWhile_append]
  split
  next hempty => simp [trim, List.isEmpty_iff.1 hempty, List.dropWhile_eq_nil_iff.2 h]
  next => rw [List.reverse_append, List.dropWhile_append_of_pos hreverse, trim]

theorem exists_trimStart (s : Text) : ∃ before : Blanks, s = before.val ++ trimStart s :=
  ⟨⟨s.takeWhile isBlank, fun c hc => List.all_eq_true.1 List.all_takeWhile c hc⟩,
    List.takeWhile_append_dropWhile.symm⟩

theorem exists_trimEnd (s : Text) : ∃ after : Blanks, s = trimEnd s ++ after.val := by
  have hblanks : ∀ c ∈ (s.reverse.takeWhile isBlank).reverse, isBlank c = true := fun c hc =>
    List.all_eq_true.1 List.all_takeWhile c (List.mem_reverse.1 hc)
  refine ⟨⟨_, hblanks⟩, ?_⟩
  rw [trimEnd, ← List.reverse_append, List.takeWhile_append_dropWhile, List.reverse_reverse]

/-- What is taken off a text are blanks. -/
theorem exists_trim (s : Text) :
    ∃ before after : Blanks, s = before.val ++ trim s ++ after.val := by
  obtain ⟨before, hbefore⟩ := exists_trimStart s
  obtain ⟨after, hafter⟩ := exists_trimEnd (trimStart s)
  refine ⟨before, after, ?_⟩
  rw [List.append_assoc, show trim s = trimEnd (trimStart s) from rfl, ← hafter, ← hbefore]

theorem trim_trimStart (s : Text) : trim (trimStart s) = trim s := by
  obtain ⟨before, hbefore⟩ := exists_trimStart s
  rw [← trim_blanks_append before.property, ← hbefore]

theorem trim_trimEnd (s : Text) : trim (trimEnd s) = trim s := by
  obtain ⟨after, hafter⟩ := exists_trimEnd s
  rw [← trim_append_blanks after.property, ← hafter]

theorem mem_of_mem_trimStart (h : c ∈ trimStart s) : c ∈ s := (List.dropWhile_suffix _).subset h

theorem mem_of_mem_trimEnd (h : c ∈ trimEnd s) : c ∈ s :=
  List.mem_reverse.1 ((List.dropWhile_suffix _).subset (List.mem_reverse.1 h))

theorem mem_of_mem_trim (h : c ∈ trim s) : c ∈ s := mem_of_mem_trimStart (mem_of_mem_trimEnd h)

/-- A number that was written is read again. -/
theorem unsigned?_trim_ofNat {bound n : Nat} (h : n < bound) :
    unsigned? bound (trim (ofNat n)) = some n := by
  have hdigit : ∀ c ∈ ofNat n, c.isDigit = true := fun c hc =>
    Nat.isDigit_of_mem_toDigits (by decide) (by decide) hc
  have hplus : ∀ rest, ofNat n ≠ '+' :: rest := fun rest heq =>
    absurd (hdigit '+' (heq ▸ List.mem_cons_self)) (by decide)
  rw [trim_of_unblank fun c hc => isBlank_of_isDigit (hdigit c hc)]
  simp [unsigned?, isNumeral_ofNat, numeralValue_ofNat, h]

/-- Each piece but the first one follows a mark. -/
theorem intercalate_cons (mark first : Text) (pieces : List Text) :
    mark.intercalate (first :: pieces) = first ++ pieces.flatMap (mark ++ ·) := by
  induction pieces generalizing first with
  | nil => rw [List.intercalate_singleton, List.flatMap_nil, List.append_nil]
  | cons next pieces ih =>
    rw [List.intercalate_cons_cons, ih, List.flatMap_cons, List.append_assoc, List.append_assoc]

/-- No piece of a cut text has the character at which it was cut. -/
theorem not_mem_of_mem_splitOn {mark : Char} {text piece : Text} (h : piece ∈ text.splitOn mark) :
    mark ∉ piece := by
  induction text generalizing piece with
  | nil =>
    rw [List.splitOn_eq_splitOnP, List.splitOnP_nil, List.mem_singleton] at h
    simp [h]
  | cons c text ih =>
    obtain ⟨first, others, hpieces⟩ := List.exists_cons_of_ne_nil (List.splitOn_ne_nil mark text)
    rw [List.splitOn_eq_splitOnP, List.splitOnP_cons_eq_if_modifyHead, ← List.splitOn_eq_splitOnP,
      hpieces] at h
    rw [hpieces] at ih
    by_cases hc : c = mark
    · have hcut : piece = [] ∨ piece = first ∨ piece ∈ others := by simpa [hc] using h
      rcases hcut with rfl | hmem
      · exact List.not_mem_nil
      · exact ih (List.mem_cons.2 hmem)
    · have hcut : piece = c :: first ∨ piece ∈ others := by simpa [hc] using h
      rcases hcut with rfl | hmem
      · simpa [Ne.symm hc] using ih List.mem_cons_self
      · exact ih (List.mem_cons_of_mem first hmem)

end Text

end UpgradeGraph
