import Mathlib.Data.List.Forall2
import UpgradeGraph.Proofs.Range.Form
import UpgradeGraph.Proofs.Requirement

/-!
# Npm unions

A text with double bars is cut at them and read part by part, each part without the blanks around
it. By itself a part is trimmed and read in the same way, so a union is no more than its parts
(`union_of_parts`): it is read just if they all are, it contains what one of them does, and the
error is that of the first part that has one. That error names the part as it is read, without
blanks, while the union keeps its text as it was written.
-/

namespace UpgradeGraph

section Results

variable {ε α β : Type} {f : α → Except ε β} {items : List α} {results : List β}

/-! ## Results of a row -/

/-- A row has results if each of its items has one. -/
theorem mapM_eq_ok_iff :
    items.mapM f = .ok results ↔ List.Forall₂ (fun a b => f a = .ok b) items results := by
  induction items generalizing results with
  | nil =>
    rw [List.mapM_nil, List.forall₂_nil_left_iff]
    exact ⟨fun h => (Except.ok.inj h).symm, fun h => congrArg Except.ok h.symm⟩
  | cons a items ih =>
    rw [List.mapM_cons, List.forall₂_cons_left_iff]
    constructor
    · intro h
      obtain ⟨b, hb, hrest⟩ := exists_of_bind_eq_ok h
      obtain ⟨others, hothers, hresults⟩ := exists_of_bind_eq_ok hrest
      exact ⟨b, others, hb, ih.1 hothers, (Except.ok.inj hresults).symm⟩
    · rintro ⟨b, others, hb, hothers, rfl⟩
      rw [hb, ih.2 hothers]
      rfl

theorem exists_mapM_eq_ok_iff : (∃ results, items.mapM f = .ok results) ↔
    ∀ a ∈ items, ∃ b, f a = .ok b := by
  induction items with
  | nil => exact iff_of_true ⟨[], rfl⟩ nofun
  | cons a items ih =>
    rw [List.forall_mem_cons, ← ih]
    simp only [mapM_eq_ok_iff, List.forall₂_cons_left_iff]
    constructor
    · rintro ⟨_, b, results, hb, hresults, -⟩
      exact ⟨⟨b, hb⟩, results, hresults⟩
    · rintro ⟨⟨b, hb⟩, results, hresults⟩
      exact ⟨b :: results, b, results, hb, hresults, rfl⟩

/-- The error of a row is that of the first item that has one. -/
theorem mapM_eq_error {before after : List α} {a : α} {e : ε}
    (hbefore : ∀ b ∈ before, ∃ result, f b = .ok result) (h : f a = .error e) :
    (before ++ a :: after).mapM f = .error e := by
  induction before with
  | nil =>
    rw [List.nil_append, List.mapM_cons, h]
    rfl
  | cons b before ih =>
    rw [List.forall_mem_cons] at hbefore
    obtain ⟨⟨result, hresult⟩, hbefore⟩ := hbefore
    rw [List.cons_append, List.mapM_cons, hresult, ih hbefore]
    rfl

theorem exists_mem_iff (h : List.Forall₂ (fun a b => f a = .ok b) items results) (P : β → Prop) :
    (∃ b ∈ results, P b) ↔ ∃ a ∈ items, ∃ b, f a = .ok b ∧ P b := by
  induction h with
  | nil => simp
  | @cons a b items results hb _ ih =>
    have hfirst : (∃ b, f a = .ok b ∧ P b) ↔ P b := by
      simp [hb]
    rw [List.exists_mem_cons_iff, List.exists_mem_cons_iff, hfirst, ih]

end Results

namespace RangeUnion

variable {s t piece : Text} {pieces : List Text} {library spec : Text} {e : RangeError}

/-! ## Cutting at bars -/

/-- The pieces with double bars between them. -/
def barred (pieces : List Text) : Text := ['|', '|'].intercalate pieces

theorem splitBars_cons {c : Char} (h : c ≠ '|') (s : Text) :
    splitBars (c :: s) = (splitBars s).modifyHead (c :: ·) := by
  rw [splitBars]
  rintro rest rfl
  exact absurd rfl h

/-- The first double bar ends the first piece. -/
theorem splitBars_append (h : '|' ∉ s) (t : Text) :
    splitBars (s ++ '|' :: '|' :: t) = s :: splitBars t := by
  induction s with
  | nil => rfl
  | cons c s ih =>
    rw [List.mem_cons, not_or] at h
    rw [List.cons_append, splitBars_cons (Ne.symm h.1), ih h.2]
    rfl

theorem splitBars_ne_nil (s : Text) : splitBars s ≠ [] := by
  fun_induction splitBars s with
  | case1 rest ih => exact List.cons_ne_nil _ _
  | case2 c rest _ ih => simpa using ih
  | case3 => exact List.cons_ne_nil _ _

theorem splitBars_barred (hne : pieces ≠ []) (h : ∀ piece ∈ pieces, '|' ∉ piece) :
    splitBars (barred pieces) = pieces := by
  induction pieces with
  | nil => exact absurd rfl hne
  | cons piece pieces ih =>
    rw [List.forall_mem_cons] at h
    unfold barred
    cases pieces with
    | nil => rw [List.intercalate_singleton, splitBars_of_not_mem h.1]
    | cons next pieces =>
      rw [List.intercalate_cons_cons, List.append_assoc]
      show splitBars (piece ++ '|' :: '|' :: barred (next :: pieces)) = _
      rw [splitBars_append h.1, ih (List.cons_ne_nil next pieces) h.2]

/-- Trimming keeps the double bars. -/
theorem hasBars_trim (h : '|' ∉ s) (t : Text) :
    Requirement.hasBars (Text.trim (s ++ '|' :: '|' :: t)) = true := by
  have hbar : Text.isBlank '|' = false := by decide
  have hstart : '|' ∉ Text.trimStart s := fun hmem => h (Text.mem_of_mem_trimStart hmem)
  have hlength := List.length_pos_iff.2 (splitBars_ne_nil (Text.trimEnd t))
  rw [Text.trim_append_cons hbar, Text.trimEnd_cons hbar, Requirement.hasBars,
    splitBars_append hstart]
  simpa using hlength

/-! ## Errors -/

theorem spec_of_npm_error (h : Range.npm library spec = .error e) : e = .webResource spec := by
  unfold Range.npm at h
  split at h
  · exact (Except.error.inj h).symm
  · split at h
    · cases h
    · cases h
    · dsimp only at h
      split at h
      · cases h
      · split at h <;> cases h

theorem spec_of_comparators_error (h : Range.comparators library spec = .error e) :
    e = .malformedBounds spec := by
  unfold Range.comparators at h
  split at h
  · cases h
  · split at h
    · cases h
    · exact (Except.error.inj h).symm

/-- An error is about the text that was read. -/
theorem npmPart_error (h : npmPart library spec = .error e) :
    e = .webResource spec ∨ e = .malformedBounds spec := by
  unfold npmPart at h
  split at h
  · cases h
  · split at h
    · exact .inr (spec_of_comparators_error h)
    · exact .inl (spec_of_npm_error h)

end RangeUnion

namespace Requirement

open RangeUnion

variable {library spec : Text} {e : RangeError} {requirement : Requirement}

/-! ## Parts -/

/-- A text without bars is trimmed and read as a part of a union is. -/
theorem parse_part (h : '|' ∉ spec) (library : Text) : parse .npm library spec =
    (npmPart library (Text.trim spec)).map fun range =>
      .single { range with descriptor := spec } := by
  have hbars : hasBars (Text.trim spec) = false :=
    hasBars_of_not_mem fun hmem => h (Text.mem_of_mem_trim hmem)
  simp [parse, hbars]

theorem parse_part_error_iff (h : '|' ∉ spec) : parse .npm library spec = .error e ↔
    npmPart library (Text.trim spec) = .error e := by
  rw [parse_part h]
  cases npmPart library (Text.trim spec) with
  | error e' =>
    show (Except.error e' : Except RangeError Requirement) = .error e ↔ _
    rw [Except.error.injEq, Except.error.injEq]
  | ok range => exact iff_of_false nofun nofun

/-- What does not depend on the text of a range is the same of a part alone and in a union. -/
theorem exists_parse_part_iff (h : '|' ∉ spec) {P : Requirement → Prop} {Q : Range → Prop}
    (hPQ : ∀ range : Range, P (.single { range with descriptor := spec }) ↔ Q range) :
    (∃ requirement, parse .npm library spec = .ok requirement ∧ P requirement) ↔
      ∃ range, npmPart library (Text.trim spec) = .ok range ∧ Q range := by
  rw [parse_part h]
  constructor
  · rintro ⟨requirement, hread, hP⟩
    obtain ⟨range, hrange, rfl⟩ := exists_of_map_eq_ok hread
    exact ⟨range, hrange, (hPQ range).1 hP⟩
  · rintro ⟨range, hrange, hQ⟩
    exact ⟨_, by rw [hrange]; rfl, (hPQ range).2 hQ⟩

/-- A part of a union as it is written, with blanks around it. -/
structure Part where
  before : Blanks
  spec : Text
  after : Blanks
  barless : '|' ∉ spec

namespace Part

def text (p : Part) : Text := p.before.val ++ p.spec ++ p.after.val

theorem bar_not_mem (p : Part) : '|' ∉ p.text := by
  have hbar : Text.isBlank '|' = false := by decide
  simp only [text, List.mem_append, not_or]
  exact ⟨⟨p.before.not_mem hbar, p.barless⟩, p.after.not_mem hbar⟩

theorem trim_text (p : Part) : Text.trim p.text = Text.trim p.spec := by
  rw [text, Text.trim_append_blanks p.after.property, Text.trim_blanks_append p.before.property]

end Part

/-- The text of a union. -/
def unionText (parts : List Part) : Text := barred (parts.map Part.text)

variable {parts : List Part}

/-- A text of several parts is read as a union, part by part. -/
theorem parse_unionText (hmany : 2 ≤ parts.length) (library : Text) :
    parse .npm library (unionText parts) =
      (parts.mapM fun p => npmPart library (Text.trim p.spec)).map fun ranges =>
        .union ⟨library, unionText parts, ranges⟩ := by
  have hbars : hasBars (Text.trim (unionText parts)) = true := by
    -- Two parts have a double bar between them.
    obtain ⟨p, q, rest, rfl⟩ : ∃ p q rest, parts = p :: q :: rest := by
      match parts, hmany with
      | p :: q :: rest, _ => exact ⟨p, q, rest, rfl⟩
    have hcut : unionText (p :: q :: rest) = p.text ++ '|' :: '|' :: unionText (q :: rest) := by
      simp [unionText, barred]
    rw [hcut]
    exact hasBars_trim p.bar_not_mem _
  have hpieces : (splitBars (unionText parts)).map Text.trim =
      parts.map fun p => Text.trim p.spec := by
    have hne : parts.map Part.text ≠ [] := by
      rintro hnil
      rw [List.map_eq_nil_iff] at hnil
      simp [hnil] at hmany
    rw [unionText, splitBars_barred hne (List.forall_mem_map.2 fun p _ => p.bar_not_mem),
      List.map_map]
    exact List.map_congr_left fun p _ => p.trim_text
  have hread : RangeUnion.npm library (unionText parts) =
      (parts.mapM fun p => npmPart library (Text.trim p.spec)).map fun ranges =>
        ⟨library, unionText parts, ranges⟩ := by
    rw [RangeUnion.npm, hpieces, List.mapM_map]
    rfl
  simp only [parse, hbars, if_true, hread]
  cases parts.mapM fun p => npmPart library (Text.trim p.spec) <;> rfl

theorem exists_parse_unionText_iff (hmany : 2 ≤ parts.length) (library : Text) :
    (∃ requirement, parse .npm library (unionText parts) = .ok requirement) ↔
      ∀ p ∈ parts, ∃ requirement, parse .npm library p.spec = .ok requirement := by
  rw [parse_unionText hmany, exists_map_eq_ok_iff, exists_mapM_eq_ok_iff]
  refine forall₂_congr fun p _ => ?_
  rw [parse_part p.barless, exists_map_eq_ok_iff]

/-- A union asks what its parts do. -/
theorem contains_unionText (hmany : 2 ≤ parts.length)
    (h : parse .npm library (unionText parts) = .ok requirement) :
    (∀ v, requirement.contains v = true ↔
      ∃ p ∈ parts, ∃ part, parse .npm library p.spec = .ok part ∧ part.contains v = true) ∧
    (requirement.floating = true ↔
      ∃ p ∈ parts, ∃ part, parse .npm library p.spec = .ok part ∧ part.floating = true) ∧
    requirement.descriptor = unionText parts := by
  rw [parse_unionText hmany] at h
  obtain ⟨ranges, hranges, rfl⟩ := exists_of_map_eq_ok h
  have hparts := mapM_eq_ok_iff.1 hranges
  refine ⟨fun v => ?_, ?_, rfl⟩
  · show (ranges.any fun range => range.contains v) = true ↔ _
    rw [List.any_eq_true, exists_mem_iff hparts (fun range => range.contains v = true)]
    refine exists_congr fun p => and_congr_right fun _ => ?_
    exact (exists_parse_part_iff (P := fun part => part.contains v = true) p.barless
      fun _ => Iff.rfl).symm
  · show ranges.any Range.floating = true ↔ _
    rw [List.any_eq_true, exists_mem_iff hparts (fun range => range.floating = true)]
    refine exists_congr fun p => and_congr_right fun _ => ?_
    exact (exists_parse_part_iff (P := fun part => part.floating = true) p.barless
      fun _ => Iff.rfl).symm

/-- The first part with an error decides what the error is. It is one of the two errors that a
range has, and it names the part without the blanks around it. -/
theorem parse_unionText_error (hmany : 2 ≤ parts.length) {before after : List Part} {p : Part}
    (hparts : parts = before ++ p :: after)
    (hbefore : ∀ q ∈ before, ∃ requirement, parse .npm library q.spec = .ok requirement)
    (h : parse .npm library p.spec = .error e) :
    parse .npm library (unionText parts) = .error e ∧
      (e = .webResource (Text.trim p.spec) ∨ e = .malformedBounds (Text.trim p.spec)) := by
  have hpart : npmPart library (Text.trim p.spec) = .error e := (parse_part_error_iff p.barless).1 h
  refine ⟨?_, npmPart_error hpart⟩
  have herror : (parts.mapM fun p => npmPart library (Text.trim p.spec)) = .error e := by
    rw [hparts]
    refine mapM_eq_error (fun q hq => ?_) hpart
    have hread := hbefore q hq
    rwa [parse_part q.barless, exists_map_eq_ok_iff] at hread
  rw [parse_unionText hmany, herror]
  rfl

/-- A union is its parts. It is read if each of them is read by itself; if not, the error is that
of the first one that is not, and names it as it stands without blanks. What is read contains the
versions that some part contains by itself, is floating if some part is, and is named by the text
as it was written. -/
theorem union_of_parts {parts : List Part} (hmany : 2 ≤ parts.length) (library : Text) :
    ((∃ requirement, parse .npm library (unionText parts) = .ok requirement) ↔
      ∀ p ∈ parts, ∃ requirement, parse .npm library p.spec = .ok requirement) ∧
    (∀ (before : List Part) (p : Part) (after : List Part) (e : RangeError),
      parts = before ++ p :: after →
      (∀ q ∈ before, ∃ requirement, parse .npm library q.spec = .ok requirement) →
      parse .npm library p.spec = .error e →
      parse .npm library (unionText parts) = .error e ∧
        (e = .webResource (Text.trim p.spec) ∨ e = .malformedBounds (Text.trim p.spec))) ∧
    ∀ requirement, parse .npm library (unionText parts) = .ok requirement →
      (∀ v, requirement.contains v = true ↔
        ∃ p ∈ parts, ∃ part, parse .npm library p.spec = .ok part ∧ part.contains v = true) ∧
      (requirement.floating = true ↔
        ∃ p ∈ parts, ∃ part, parse .npm library p.spec = .ok part ∧ part.floating = true) ∧
      requirement.coordinate = library ++ ':' :: unionText parts := by
  refine ⟨exists_parse_unionText_iff hmany library, ?_, ?_⟩
  · intro before p after e hparts hbefore h
    exact parse_unionText_error hmany hparts hbefore h
  · intro requirement h
    obtain ⟨hcontains, hfloating, hdescriptor⟩ := contains_unionText hmany h
    refine ⟨hcontains, hfloating, ?_⟩
    rw [Requirement.coordinate, library_of_parse h, hdescriptor]
    rfl

/-- A caret, nothing, and two comparators. -/
def threeParts : List Part := [
  ⟨.none, "^1.0.0", .space, by decide⟩,
  ⟨.none, [], .space, by decide⟩,
  ⟨.space, ">=3 <4", .none, by decide⟩]

/-- A wildcard, an address, and a sign without a version. -/
def brokenParts : List Part := [
  ⟨.none, "1.x", .space, by decide⟩,
  ⟨.space, " git://a", .of ['\t'] rfl, by decide⟩,
  ⟨.none, "<", .none, by decide⟩]

/-- A union that is read, and one that is not because of its second part. -/
theorem sample_union_of_parts :
    2 ≤ threeParts.length ∧
    (∃ requirement, parse .npm "ms" "^1.0.0 || || >=3 <4" = .ok requirement ∧
      requirement.coordinate = "ms:^1.0.0 || || >=3 <4") ∧
    2 ≤ brokenParts.length ∧
    parse .npm "ms" "1.x ||  git://a\t||<" = .error (.webResource "git://a") := by
  have hthree : 2 ≤ threeParts.length := by decide
  have hbroken : 2 ≤ brokenParts.length := by decide
  obtain ⟨hiff, -, hread⟩ := union_of_parts hthree "ms"
  obtain ⟨-, herror, -⟩ := union_of_parts hbroken "ms"
  have hparts : ∀ p ∈ threeParts, ∃ requirement, parse .npm "ms" p.spec = .ok requirement := by
    simp only [threeParts, List.forall_mem_cons]
    exact ⟨⟨_, rfl⟩, ⟨_, rfl⟩, ⟨_, rfl⟩, nofun⟩
  obtain ⟨requirement, hunion⟩ := hiff.2 hparts
  have hfirst : ∀ p ∈ brokenParts.take 1, ∃ requirement,
      parse .npm "ms" p.spec = .ok requirement := by
    simp only [brokenParts, List.take, List.forall_mem_cons]
    exact ⟨⟨_, rfl⟩, nofun⟩
  refine ⟨hthree, ⟨requirement, hunion, (hread requirement hunion).2.2⟩, hbroken, ?_⟩
  exact (herror (brokenParts.take 1) brokenParts[1] (brokenParts.drop 2) (.webResource "git://a")
    rfl hfirst rfl).1

end Requirement

end UpgradeGraph
