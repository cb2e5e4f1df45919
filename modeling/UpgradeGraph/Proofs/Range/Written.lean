import UpgradeGraph.Proofs.Range.Listing

/-!
# NuGet ranges as they are written

The ways to write NuGet ranges are exact versions and intervals, in lists with commas between them
(`WrittenList`). Whatever blanks stand around the versions and the commas, such a text is read, as
one range or as a union, and what is read has the bounds that were written, range for range
(`written_ranges_parse`).

These are not the only texts that are read: nobody looks into the texts of versions, so they may
hold commas and brackets. `exists_parse_nuget_iff` says which texts are read altogether.
-/

namespace UpgradeGraph

open Range (Limit)
open RangeUnion

/-! ## Versions and ranges -/

/-- The characters that tell ranges and their versions apart. -/
def separators : List Char := [',', '(', ')', '[', ']']

/-- A version with blanks around it, in a place where it may also be left out. -/
structure Entry where
  before : Blanks
  version : Text
  after : Blanks
  plain : ∀ c ∈ version, c ∉ separators
  trimmed : Text.trim version = version

namespace Entry

def text (e : Entry) : Text := e.before.val ++ e.version ++ e.after.val

/-- The version, if it is not left out. -/
def version? (e : Entry) : Option Text := if e.version = [] then none else some e.version

theorem trim_text (e : Entry) : Text.trim e.text = e.version := by
  rw [text, Text.trim_append_blanks e.after.property, Text.trim_blanks_append e.before.property,
    e.trimmed]

theorem not_mem_text (e : Entry) {c : Char} (h : c ∈ separators) : c ∉ e.text := by
  have hblank : ∀ c ∈ separators, Text.isBlank c = false := by simp [separators, Text.isBlank]
  simp only [text, List.mem_append, not_or]
  exact ⟨⟨e.before.not_mem (hblank c h), fun hmem => e.plain c hmem h⟩,
    e.after.not_mem (hblank c h)⟩

end Entry

/-- A range as it is written. -/
inductive Written where
  | exact (entry : Entry) (given : entry.version ≠ [])
  | interval (left : Limit) (lower upper : Entry) (right : Limit)

namespace Written

def text : Written → Text
  | exact entry _ => '[' :: (entry.text ++ [']'])
  | interval left lower upper right =>
    left.opening :: (lower.text ++ ',' :: upper.text ++ [right.closing])

/-- Where the range starts: at the version that is written there, or if there is none, at zero
behind a square bracket and nowhere behind a round one. -/
def lowerBound (left : Limit) (lower : Option Text) : Option Version :=
  match lower, left with
  | some version, _ => some (.concrete version)
  | none, .included => some (.concrete ['0'])
  | none, .excluded => none

/-- What the range asks for. -/
def bounds : Written → Bounds
  | exact entry _ => .pinned (.concrete entry.version)
  | interval left lower upper right =>
    { lower := lowerBound left lower.version?
      lowerExclusive := left = .excluded
      upper := upper.version?.map .concrete
      upperExclusive := right = .excluded || upper.version?.isNone }

def isInterval : Written → Bool
  | exact .. => false
  | interval .. => true

theorem intervalBounds_eq (left right : Limit) (lower upper : Entry) :
    Range.intervalBounds left.bracket lower.version upper.version right.bracket =
      (interval left lower upper right).bounds := by
  by_cases hlower : lower.version = [] <;> by_cases hupper : upper.version = [] <;>
    cases left <;> cases right <;>
    simp [Range.intervalBounds, bounds, lowerBound, Entry.version?, Limit.bracket, hlower, hupper]

/-- By itself a range is read with the bounds that are written. -/
theorem nuget_text (w : Written) (library : Text) : Range.nuget library w.text = .ok
    { ecosystem := .nuget
      library
      descriptor := w.text
      bounds := w.bounds
      floating := w.isInterval } := by
  cases w with
  | exact entry given =>
    rw [text, Range.nuget_exact (entry.not_mem_text (by decide)) (by rwa [entry.trim_text]),
      entry.trim_text]
    rfl
  | interval left lower upper right =>
    rw [text, Range.nuget_interval left right (lower.not_mem_text (by decide))
      (upper.not_mem_text (by decide)), lower.trim_text, upper.trim_text, intervalBounds_eq]
    rfl

/-- The range as a member of a list, where the blanks next to commas are lost. -/
def member : Written → Member
  | exact entry _ => .exact entry.text
  | interval left lower upper right =>
    .interval left (Text.trimEnd lower.text) (Text.trimStart upper.text) right

theorem bounds_member (w : Written) : w.member.bounds = w.bounds := by
  cases w with
  | exact entry given => rw [member, Member.bounds, entry.trim_text, bounds]
  | interval left lower upper right =>
    rw [member, Member.bounds, Text.trim_trimEnd, Text.trim_trimStart, lower.trim_text,
      upper.trim_text, intervalBounds_eq]

theorem floating_member (w : Written) : w.member.floating = w.isInterval := by
  cases w <;> rfl

/-- Each half of an interval lacks a square bracket. -/
theorem isExactPart_halves (left right : Limit) (lower upper : Entry) :
    isExactPart (left.opening :: Text.trimEnd lower.text) = false ∧
      isExactPart (Text.trimStart upper.text ++ [right.closing]) = false := by
  constructor
  · refine Bool.eq_false_iff.2 fun hexact => ?_
    have hmem := (brackets_mem_of_isExactPart hexact).2
    rcases List.mem_cons.1 hmem with heq | hmem
    · cases left <;> cases heq
    · exact lower.not_mem_text (by decide) (Text.mem_of_mem_trimEnd hmem)
  · refine Bool.eq_false_iff.2 fun hexact => ?_
    have hmem := (brackets_mem_of_isExactPart hexact).1
    rcases List.mem_append.1 hmem with hmem | heq
    · exact upper.not_mem_text (by decide) (Text.mem_of_mem_trimStart hmem)
    · cases right <;> cases List.mem_singleton.1 heq

theorem fits_member (w : Written) (odd : Bool) : w.member.Fits odd := by
  cases w with
  | exact entry given => exact ⟨entry.not_mem_text (by decide), by rwa [entry.trim_text]⟩
  | interval left lower upper right =>
    exact ⟨fun h => lower.not_mem_text (by decide) (Text.mem_of_mem_trimEnd h),
      fun h => upper.not_mem_text (by decide) (Text.mem_of_mem_trimStart h),
      (isExactPart_halves left right lower upper).1⟩

theorem commaParts_text (w : Written) : commaParts w.text = w.member.pieces := by
  cases w with
  | exact entry given =>
    have hentry := entry.not_mem_text (show ',' ∈ separators by decide)
    rw [text, commaParts_of_not_mem (by simp [hentry]), Text.trim_cons (by decide),
      Text.trimEnd_concat (by decide)]
    rfl
  | interval left lower upper right =>
    have hlower := lower.not_mem_text (show ',' ∈ separators by decide)
    have hupper := upper.not_mem_text (show ',' ∈ separators by decide)
    have hopening : Text.isBlank left.opening = false ∧ ',' ≠ left.opening := by
      cases left <;> decide
    have hclosing : Text.isBlank right.closing = false ∧ ',' ≠ right.closing := by
      cases right <;> decide
    have hcut : (interval left lower upper right).text =
        (left.opening :: lower.text) ++ ',' :: (upper.text ++ [right.closing]) := by simp [text]
    rw [hcut, commaParts_append, commaParts_of_not_mem (by simp [hlower, hopening.2]),
      commaParts_of_not_mem (by simp [hupper, hclosing.2]), Text.trim_cons hopening.1,
      Text.trim_concat hclosing.1]
    rfl

end Written

/-! ## Lists -/

/-- Ranges with commas between them, and blanks around the commas. -/
inductive WrittenList where
  | one (range : Written)
  | cons (range : Written) (before after : Blanks) (rest : WrittenList)

namespace WrittenList

def text : WrittenList → Text
  | one range => range.text
  | cons range before after rest => range.text ++ before.val ++ ',' :: (after.val ++ rest.text)

def ranges : WrittenList → List Written
  | one range => [range]
  | cons range _ _ rest => range :: rest.ranges

/-- The first range opens with a bracket. -/
theorem opens_text (list : WrittenList) : Range.Opens list.text := by
  have hopens (w : Written) : Range.Opens w.text := by
    cases w with
    | exact entry given => exact ⟨.included, _, rfl⟩
    | interval left lower upper right => exact ⟨left, _, rfl⟩
  cases list with
  | one range => exact hopens range
  | cons range before after rest =>
    obtain ⟨left, inner, hrange⟩ := hopens range
    exact ⟨left, inner ++ before.val ++ ',' :: (after.val ++ rest.text), by simp [text, hrange]⟩

theorem ranges_ne_nil (list : WrittenList) : list.ranges ≠ [] := by
  cases list <;> exact List.cons_ne_nil _ _

theorem one_lt_length_cons (range : Written) (before after : Blanks) (rest : WrittenList) :
    1 < (cons range before after rest).ranges.length := by
  simp [ranges, rest.ranges_ne_nil, List.length_pos_iff]

/-- The blanks around commas do not go into the pieces. -/
theorem commaParts_text (list : WrittenList) :
    commaParts list.text = (list.ranges.map Written.member).flatMap Member.pieces := by
  induction list with
  | one range => simp [text, ranges, range.commaParts_text]
  | cons range before after rest ih =>
    rw [text, commaParts_append, commaParts_append_blanks, commaParts_blanks_append,
      range.commaParts_text, ih]
    rfl

/-- A list has the members that were written. -/
theorem lists_members (list : WrittenList) : Lists list.text (list.ranges.map Written.member) := by
  refine ⟨list.commaParts_text, fun m hm => ?_⟩
  obtain ⟨w, -, rfl⟩ := List.mem_map.1 hm
  exact w.fits_member _

theorem pieces_ne_nil (list : WrittenList) :
    (list.ranges.map Written.member).flatMap Member.pieces ≠ [] := by
  have hfirst (w : Written) : w.member.pieces ≠ [] := by cases w <;> exact List.cons_ne_nil _ _
  cases list with
  | one range => simpa [ranges] using hfirst range
  | cons range before after rest =>
    rw [ranges, List.map_cons, List.flatMap_cons]
    exact List.append_ne_nil_of_left_ne_nil (hfirst range) _

/-- One range does not look like a list, and more than one do. -/
theorem isNugetList_text (list : WrittenList) :
    Requirement.isNugetList list.text = true ↔ 1 < list.ranges.length := by
  have hparts := list.commaParts_text
  cases list with
  | one range =>
    cases range with
    | exact entry given =>
      simp [Requirement.isNugetList, hparts, ranges, Written.member, Member.pieces]
    | interval left lower upper right =>
      obtain ⟨hlower, hupper⟩ := Written.isExactPart_halves left right lower upper
      simp [Requirement.isNugetList, hparts, ranges, Written.member, Member.pieces, hlower, hupper]
  | cons range before after rest =>
    refine iff_of_true ?_ (one_lt_length_cons range before after rest)
    rw [ranges, List.map_cons, List.flatMap_cons] at hparts
    obtain ⟨piece, pieces, hrest⟩ := List.exists_cons_of_ne_nil rest.pieces_ne_nil
    rw [hrest] at hparts
    cases range with
    | exact entry given =>
      -- Of two pieces the first one is an exact range.
      have hexact : isExactPart ('[' :: (entry.text ++ [']'])) = true := by simp [isExactPart]
      cases pieces <;> simp [Requirement.isNugetList, hparts, Written.member, Member.pieces, hexact]
    | interval left lower upper right =>
      simp [Requirement.isNugetList, hparts, Written.member, Member.pieces]

end WrittenList

namespace Requirement

/-- The ranges of which a version has to satisfy one. -/
def ranges : Requirement → List Range
  | single range => [range]
  | union u => u.parts

/-- A version satisfies a requirement just if it lies in one of its ranges. -/
theorem contains_iff {r : Requirement} {v : Version} :
    r.contains v = true ↔ ∃ range ∈ r.ranges, range.contains v = true := by
  cases r <;> simp [contains, ranges, RangeUnion.contains]

/-- A requirement floats just if one of its ranges does. -/
theorem floating_iff {r : Requirement} :
    r.floating = true ↔ ∃ range ∈ r.ranges, range.floating = true := by
  cases r <;> simp [floating, ranges, RangeUnion.floating]

theorem contains_iff_of_bounds {r : Requirement} {written : List Written}
    (h : r.ranges.map Range.bounds = written.map Written.bounds) (v : Version) :
    r.contains v = true ↔ ∃ w ∈ written, w.bounds.contains v = true := by
  have hmap : (∃ bounds ∈ r.ranges.map Range.bounds, bounds.contains v = true) ↔
      ∃ range ∈ r.ranges, range.contains v = true := by simp [Range.contains]
  rw [contains_iff, ← hmap, h]
  simp

theorem floating_iff_of_floating {r : Requirement} {written : List Written}
    (h : r.ranges.map Range.floating = written.map Written.isInterval) :
    r.floating = true ↔ ∃ w ∈ written, w.isInterval = true := by
  have hmap : true ∈ r.ranges.map Range.floating ↔ ∃ range ∈ r.ranges, range.floating = true := by
    simp
  rw [floating_iff, ← hmap, h]
  simp

theorem parse_one (library : Text) (w : Written) :
    parse .nuget library w.text = .ok (.single
      { ecosystem := .nuget
        library
        descriptor := w.text
        bounds := w.bounds
        floating := w.isInterval }) := by
  have hlist : isNugetList w.text = false :=
    Bool.eq_false_iff.2 fun h => Nat.lt_irrefl 1 ((WrittenList.one w).isNugetList_text.1 h)
  rw [parse, hlist, w.nuget_text]
  rfl

theorem parse_several (library : Text) {list : WrittenList} (h : 1 < list.ranges.length) :
    parse .nuget library list.text = .ok (.union
      { library
        descriptor := list.text
        parts := list.ranges.map fun w => w.member.range library }) := by
  have hlist := list.isNugetList_text.2 h
  have hread := nuget_of_lists list.lists_members library
  rw [List.map_map] at hread
  rw [parse, if_pos hlist, hread]
  rfl

/-- What is written as a list of NuGet ranges is read as these ranges, one alone as a single range
and several as a union, and it asks of a version what one of them does. -/
theorem written_ranges_parse (library : Text) (list : WrittenList) :
    ∃ requirement : Requirement, parse .nuget library list.text = .ok requirement ∧
      ((∃ range, requirement = .single range) ↔ list.ranges.length = 1) ∧
      requirement.ranges.map Range.bounds = list.ranges.map Written.bounds ∧
      (∀ v, requirement.contains v = true ↔ ∃ w ∈ list.ranges, w.bounds.contains v = true) ∧
      (requirement.floating = true ↔ ∃ w ∈ list.ranges, w.isInterval = true) := by
  cases list with
  | one w =>
    exact ⟨_, parse_one library w, iff_of_true ⟨_, rfl⟩ rfl, rfl, contains_iff_of_bounds rfl,
      floating_iff_of_floating rfl⟩
  | cons w before after rest =>
    let list := WrittenList.cons w before after rest
    have hmany : 1 < list.ranges.length := WrittenList.one_lt_length_cons w before after rest
    have hbounds : (list.ranges.map fun w => w.member.range library).map Range.bounds =
        list.ranges.map Written.bounds := by
      simp [Member.range, Function.comp_def, Written.bounds_member]
    have hfloating : (list.ranges.map fun w => w.member.range library).map Range.floating =
        list.ranges.map Written.isInterval := by
      simp [Member.range, Function.comp_def, Written.floating_member]
    exact ⟨_, parse_several library hmany, iff_of_false nofun (Nat.ne_of_gt hmany), hbounds,
      contains_iff_of_bounds hbounds, floating_iff_of_floating hfloating⟩

/-- The text `[1.5] ,( 2.0,]` is that of a list. -/
example : (WrittenList.cons
    (.exact ⟨⟨[], nofun⟩, "1.5", ⟨[], nofun⟩, by simp [separators], rfl⟩ (List.cons_ne_nil _ _))
    ⟨[' '], List.all_eq_true.1 rfl⟩ ⟨[], nofun⟩
    (.one (.interval .excluded
      ⟨⟨[' '], List.all_eq_true.1 rfl⟩, "2.0", ⟨[], nofun⟩, by simp [separators], rfl⟩
      ⟨⟨[], nofun⟩, [], ⟨[], nofun⟩, nofun, rfl⟩ .included))).text = "[1.5] ,( 2.0,]".toList := by
  rfl

/-! ## What else is read -/

/-- A NuGet requirement is read just if it has the members of a list or the text of one range,
depending on which of the two it looks like. -/
theorem exists_parse_nuget_iff (library spec : Text) :
    (∃ requirement, parse .nuget library spec = .ok requirement) ↔
      if isNugetList spec then ∃ members, Lists spec members else Range.OneRange spec := by
  split
  next hlist => rw [← exists_union_iff library, parse, if_pos hlist, exists_map_eq_ok_iff]
  next hlist => rw [← Range.exists_nuget_iff library, parse, if_neg hlist, exists_map_eq_ok_iff]

/-- Nothing, a version, or a list of ranges, with blanks around it. -/
def IsWritten (spec : Text) : Prop :=
  spec = [] ∨ (∃ entry : Entry, entry.version ≠ [] ∧ spec = entry.text) ∨
    ∃ (before after : Blanks) (list : WrittenList), spec = before.val ++ list.text ++ after.val

/-- A stray comma goes into the text of a version. -/
theorem sample_stray_comma :
    (∃ requirement, parse .nuget "Foo" "1.0,2.0" = .ok requirement) ∧ ¬ IsWritten "1.0,2.0" := by
  refine ⟨⟨_, rfl⟩, ?_⟩
  rintro (h | ⟨entry, -, h⟩ | ⟨before, after, list, h⟩)
  · cases h
  · exact entry.not_mem_text (show ',' ∈ separators by decide) (h ▸ by decide)
  · obtain ⟨left, rest, hlist⟩ := list.opens_text
    have hopening : left.opening ∈ ("1.0,2.0".toList : Text) := by
      rw [h, hlist]
      simp
    cases left <;> exact absurd hopening (by decide)

end Requirement

end UpgradeGraph
