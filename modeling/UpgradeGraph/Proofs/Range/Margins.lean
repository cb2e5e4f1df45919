import UpgradeGraph.Proofs.Range.Union
import UpgradeGraph.Proofs.Range.Written

/-!
# Blanks around a range

An npm range and a list of NuGet ranges may stand between blanks: the first is trimmed as a whole,
and of the second every piece is, so what is cut off at the outer ends is not seen
(`RangeUnion.map_trim_splitBars`, `RangeUnion.commaParts_surrounded`).

A single NuGet range is trimmed only behind its brackets. So blanks next to a version do no harm,
but a bracket that has blanks before it, or behind it at the other end, is no longer found
(`Range.opens_surrounded`, `Range.closes_surrounded`). If the bracket at the other end is, the range
is refused, and if that one is hidden as well, the whole of it is read as the text of a version,
from which on all others are allowed. Nothing between blanks is such a version, too, and not any
version.
-/

namespace UpgradeGraph

namespace RangeUnion

variable {s : Text}

/-! ## Cutting between blanks -/

theorem splitBars_blanks_append (before : Blanks) (s : Text) :
    splitBars (before.val ++ s) = (splitBars s).modifyHead (before.val ++ ·) := by
  obtain ⟨before, hbefore⟩ := before
  induction before with
  | nil =>
    show splitBars s = _
    cases splitBars s <;> rfl
  | cons c before ih =>
    rw [List.forall_mem_cons] at hbefore
    have hc : c ≠ '|' := by
      rintro rfl
      exact absurd hbefore.1 (by decide)
    show splitBars (c :: (before ++ s)) = _
    rw [splitBars_cons hc, ih hbefore.2]
    cases splitBars s <;> rfl

/-- Blanks at the end belong to the last piece. -/
theorem splitBars_append_blanks (s : Text) (after : Blanks) : ∃ front last,
    splitBars s = front ++ [last] ∧ splitBars (s ++ after.val) = front ++ [last ++ after.val] := by
  have hbar : '|' ∉ after.val := after.not_mem (by decide)
  fun_induction splitBars s with
  | case1 rest ih =>
    obtain ⟨front, last, hrest, hafter⟩ := ih
    refine ⟨[] :: front, last, by rw [hrest]; rfl, ?_⟩
    show [] :: splitBars (rest ++ after.val) = _
    rw [hafter]
    rfl
  | case2 c rest hpair ih =>
    obtain ⟨front, last, hrest, hafter⟩ := ih
    have hcut : splitBars (c :: rest ++ after.val) =
        (splitBars (rest ++ after.val)).modifyHead (c :: ·) := by
      show splitBars (c :: (rest ++ after.val)) = _
      rw [splitBars]
      rintro more rfl hmore
      cases rest with
      | nil =>
        rw [List.nil_append] at hmore
        exact hbar (hmore ▸ List.mem_cons_self)
      | cons d rest =>
        obtain ⟨rfl, -⟩ := List.cons_eq_cons.1 hmore
        exact hpair rest rfl rfl
    rw [hcut, hafter, hrest]
    cases front with
    | nil => exact ⟨[], c :: last, rfl, rfl⟩
    | cons first front => exact ⟨(c :: first) :: front, last, rfl, rfl⟩
  | case3 => exact ⟨[], [], rfl, splitBars_of_not_mem hbar⟩

/-- Blanks around a union are trimmed with its outer pieces. -/
theorem map_trim_splitBars (before after : Blanks) (s : Text) :
    (splitBars (before.val ++ s ++ after.val)).map Text.trim = (splitBars s).map Text.trim := by
  obtain ⟨front, last, hs, hafter⟩ := splitBars_append_blanks s after
  have hlast : Text.trim (last ++ after.val) = Text.trim last :=
    Text.trim_append_blanks after.property last
  rw [List.append_assoc, splitBars_blanks_append, hafter, hs]
  cases front with
  | nil => simp [Text.trim_blanks_append before.property, hlast]
  | cons first front => simp [Text.trim_blanks_append before.property, hlast]

end RangeUnion

namespace Range

variable {library spec : Text} {before after : Blanks}

/-! ## Hidden brackets -/

/-- A text, with blanks before and behind it. -/
def surrounded (before : Blanks) (spec : Text) (after : Blanks) : Text :=
  before.val ++ spec ++ after.val

theorem trim_surrounded (before after : Blanks) (spec : Text) :
    Text.trim (surrounded before spec after) = Text.trim spec := by
  rw [surrounded, Text.trim_append_blanks after.property, Text.trim_blanks_append before.property]

/-- No bracket is a blank. -/
theorem not_opens_blanks {blanks : Blanks} (h : blanks.val ≠ []) (rest : Text) :
    ¬ Opens (blanks.val ++ rest) := by
  obtain ⟨blanks, hblank⟩ := blanks
  obtain ⟨b, blanks, rfl⟩ := List.exists_cons_of_ne_nil h
  intro hopens
  obtain ⟨left, rfl⟩ := opens_cons.1 hopens
  have hleft := hblank left.opening List.mem_cons_self
  cases left <;> exact absurd hleft (by decide)

theorem not_closes_blanks {blanks : Blanks} (h : blanks.val ≠ []) (front : Text) :
    ¬ Closes (front ++ blanks.val) := by
  obtain ⟨blanks, hblank⟩ := blanks
  obtain ⟨blanks, b, rfl⟩ := (List.eq_nil_or_concat' blanks).resolve_left h
  intro hcloses
  rw [← List.append_assoc, closes_concat] at hcloses
  obtain ⟨right, rfl⟩ := hcloses
  have hright := hblank right.closing (by simp)
  cases right <;> exact absurd hright (by decide)

theorem not_opens_nil : ¬ Opens [] := by
  rintro ⟨left, rest, h⟩
  cases h

theorem not_closes_nil : ¬ Closes [] := by
  rintro ⟨right, front, h⟩
  simp at h

/-- An opening bracket is found only at the very beginning. -/
theorem opens_surrounded :
    Opens (surrounded before spec after) ↔ Opens spec ∧ before.val = [] := by
  by_cases hbefore : before.val = []
  · rw [surrounded, hbefore, List.nil_append, and_iff_left rfl]
    cases spec with
    | nil =>
      refine iff_of_false ?_ not_opens_nil
      by_cases hafter : after.val = []
      · rw [hafter]
        exact not_opens_nil
      · simpa using not_opens_blanks hafter []
    | cons c rest => rw [List.cons_append, opens_cons, opens_cons]
  · rw [surrounded, List.append_assoc]
    exact iff_of_false (not_opens_blanks hbefore _) fun h => hbefore h.2

/-- A closing bracket is found only at the very end. -/
theorem closes_surrounded :
    Closes (surrounded before spec after) ↔ Closes spec ∧ after.val = [] := by
  by_cases hafter : after.val = []
  · rw [surrounded, hafter, List.append_nil, and_iff_left rfl]
    rcases List.eq_nil_or_concat' spec with rfl | ⟨front, c, rfl⟩
    · refine iff_of_false ?_ not_closes_nil
      by_cases hbefore : before.val = []
      · rw [hbefore]
        exact not_closes_nil
      · simpa using not_closes_blanks hbefore []
    · rw [← List.append_assoc, closes_concat, closes_concat]
  · exact iff_of_false (not_closes_blanks hafter _) fun h => hafter h.2

/-- There is a range, and its brackets have no blanks on their outer sides. -/
structure Apart (before : Blanks) (spec : Text) (after : Blanks) : Prop where
  given : spec = [] → before.val = [] ∧ after.val = []
  opening : Opens spec → before.val = []
  closing : Closes spec → after.val = []

/-- What a range asks of a version, apart from its name. -/
def demand (range : Range) : Bounds × Bool := (range.bounds, range.floating)

/-- What is asked, if the text has been read. -/
def demand? (reading : Except RangeError Range) : Option (Bounds × Bool) :=
  reading.toOption.map demand

/-- Where no bracket is hidden, blanks change nothing. -/
theorem demand?_nuget (h : Apart before spec after) (library : Text) :
    demand? (nuget library (surrounded before spec after)) = demand? (nuget library spec) := by
  by_cases hne : spec = []
  · obtain ⟨hbefore, hafter⟩ := h.given hne
    rw [surrounded, hbefore, hafter, List.nil_append, List.append_nil]
  have hopens : Opens (surrounded before spec after) ↔ Opens spec :=
    opens_surrounded.trans (and_iff_left_of_imp h.opening)
  have hcloses : Closes (surrounded before spec after) ↔ Closes spec :=
    closes_surrounded.trans (and_iff_left_of_imp h.closing)
  by_cases hsemi : Opens spec ↔ ¬ Closes spec
  · have hsemi' := hopens.trans (hsemi.trans hcloses.not.symm)
    rw [nuget_semiDelimited hsemi, nuget_semiDelimited hsemi']
    rfl
  by_cases hdelimited : Opens spec
  · -- With both brackets there are no blanks at all.
    have hclosing : Closes spec := by tauto
    rw [surrounded, h.opening hdelimited, h.closing hclosing, List.nil_append, List.append_nil]
  · have hclosing : ¬ Closes spec := by tauto
    have hne' : surrounded before spec after ≠ [] := by simp [surrounded, hne]
    rw [nuget_bare hne hdelimited hclosing,
      nuget_bare hne' (mt hopens.1 hdelimited) (mt hcloses.1 hclosing), trim_surrounded]
    rfl

/-- A range that allows all versions from one on. -/
def minimum (library descriptor version : Text) : Range where
  ecosystem := .nuget
  library := library
  descriptor := descriptor
  bounds := { lower := some (.concrete version), upperExclusive := true }
  floating := true

/-- Where no bracket is left to be found, all of the range is the text of a version. -/
theorem nuget_of_hidden (hne : surrounded before spec after ≠ [])
    (hopening : Opens spec → before.val ≠ []) (hclosing : Closes spec → after.val ≠ [])
    (library : Text) : nuget library (surrounded before spec after) =
      .ok (minimum library (surrounded before spec after) (Text.trim spec)) := by
  have hopens : ¬ Opens (surrounded before spec after) := fun h =>
    hopening (opens_surrounded.1 h).1 (opens_surrounded.1 h).2
  have hcloses : ¬ Closes (surrounded before spec after) := fun h =>
    hclosing (closes_surrounded.1 h).1 (closes_surrounded.1 h).2
  rw [nuget_bare hne hopens hcloses, trim_surrounded]
  rfl

/-- Where one bracket is left, the range is refused. -/
theorem nuget_of_half_hidden
    (h : (Opens spec ∧ before.val = []) ↔ ¬ (Closes spec ∧ after.val = [])) (library : Text) :
    nuget library (surrounded before spec after) =
      .error (.semiDelimited (surrounded before spec after)) := by
  refine nuget_semiDelimited ?_ library
  rwa [opens_surrounded, closes_surrounded]

end Range

namespace Requirement

open Range RangeUnion

variable {before after : Blanks} {library spec : Text} {x y : Except RangeError Requirement}

/-! ## Readings -/

/-- Two texts are both read or both refused, and what is read asks the same of every version. -/
structure Agree (x y : Except RangeError Requirement) : Prop where
  read : (∃ r, x = .ok r) ↔ ∃ r, y = .ok r
  contains : ∀ r r', x = .ok r → y = .ok r' → ∀ v, r.contains v = r'.contains v
  floating : ∀ r r', x = .ok r → y = .ok r' → r.floating = r'.floating

/-- What a requirement asks of a version, range by range. -/
def demands (r : Requirement) : List (Bounds × Bool) := r.ranges.map demand

def demands? (reading : Except RangeError Requirement) : Option (List (Bounds × Bool)) :=
  reading.toOption.map demands

theorem contains_eq (r : Requirement) (v : Version) :
    r.contains v = r.demands.any fun asked => asked.1.contains v := by
  rw [Bool.eq_iff_iff, contains_iff]
  simp [demands, demand, Range.contains]

theorem floating_eq (r : Requirement) : r.floating = r.demands.any Prod.snd := by
  rw [Bool.eq_iff_iff, floating_iff]
  simp [demands, demand]

theorem agree_of_demands (h : demands? x = demands? y) : Agree x y := by
  cases x with
  | error e =>
    cases y with
    | error e' =>
      have hx (r : Requirement) : (.error e : Except RangeError Requirement) ≠ .ok r := nofun
      exact ⟨iff_of_false (fun ⟨r, h⟩ => hx r h) (fun ⟨r, h⟩ => nomatch h),
        fun r _ h => absurd h (hx r), fun r _ h => absurd h (hx r)⟩
    | ok r' => cases h
  | ok r =>
    cases y with
    | error e => cases h
    | ok r' =>
      have hdemands : r.demands = r'.demands := Option.some.inj h
      refine ⟨iff_of_true ⟨r, rfl⟩ ⟨r', rfl⟩, ?_, ?_⟩
      · rintro _ _ ⟨⟩ ⟨⟩ v
        rw [contains_eq, contains_eq, hdemands]
      · rintro _ _ ⟨⟩ ⟨⟩
        rw [floating_eq, floating_eq, hdemands]

theorem demands?_map {α : Type} {f g : α → Requirement} (h : ∀ a, (f a).demands = (g a).demands)
    (x : Except RangeError α) : demands? (x.map f) = demands? (x.map g) := by
  cases x with
  | error e => rfl
  | ok a => exact congrArg some (h a)

/-- A union names the text that it was read from, and reads its pieces. -/
theorem map_npm (library spec : Text) : (RangeUnion.npm library spec).map Requirement.union =
    (((splitBars spec).map Text.trim).mapM (npmPart library)).map fun parts =>
      .union ⟨library, spec, parts⟩ := by
  rw [RangeUnion.npm]
  cases ((splitBars spec).map Text.trim).mapM (npmPart library) <;> rfl

theorem demands?_npm (before after : Blanks) (library spec : Text) :
    demands? (parse .npm library (surrounded before spec after)) =
      demands? (parse .npm library spec) := by
  simp only [parse, trim_surrounded]
  split
  · rw [map_npm, map_npm, surrounded, map_trim_splitBars]
    refine demands?_map (fun parts => ?_) _
    rfl
  · refine demands?_map (fun range => ?_) _
    rfl

theorem isNugetList_surrounded (before after : Blanks) (spec : Text) :
    isNugetList (surrounded before spec after) = isNugetList spec := by
  rw [isNugetList, surrounded, commaParts_surrounded, isNugetList]

/-- A list has the same members between blanks. -/
theorem demands?_list (before after : Blanks) (library spec : Text) :
    demands? ((RangeUnion.nuget library (surrounded before spec after)).map .union) =
      demands? ((RangeUnion.nuget library spec).map .union) := by
  have hlists (members : List Member) :
      RangeUnion.Lists (surrounded before spec after) members ↔
        RangeUnion.Lists spec members := by
    rw [RangeUnion.Lists, surrounded, commaParts_surrounded, RangeUnion.Lists]
  by_cases h : ∃ members, RangeUnion.Lists spec members
  · obtain ⟨members, hmembers⟩ := h
    rw [nuget_of_lists hmembers, nuget_of_lists ((hlists members).2 hmembers)]
    rfl
  · have hrefused {text : Text} (h : ¬ ∃ members, RangeUnion.Lists text members) :
        demands? ((RangeUnion.nuget library text).map .union) = none := by
      rw [← exists_union_iff library] at h
      cases hread : RangeUnion.nuget library text with
      | error e => rfl
      | ok union => exact absurd ⟨union, hread⟩ h
    rw [hrefused h, hrefused (by simpa only [hlists] using h)]

theorem demands?_single (reading : Except RangeError Range) :
    demands? (reading.map .single) = (demand? reading).map ([·]) := by
  cases reading <;> rfl

theorem parse_single (hlist : isNugetList spec = false) (library : Text) :
    parse .nuget library spec = (Range.nuget library spec).map .single := by
  simp [parse, hlist]

/-- Blanks around a range change nothing, unless they hide a bracket of a single NuGet range or
stand in the place of one. Then what is left is refused if it has one bracket, and a version of the
whole text if it has none. -/
theorem parse_surrounded (ecosystem : Ecosystem) (library : Text) (before after : Blanks)
    (spec : Text) :
    ((ecosystem = .nuget → isNugetList spec = true ∨ Apart before spec after) →
      Agree (parse ecosystem library (surrounded before spec after))
        (parse ecosystem library spec)) ∧
    (isNugetList spec = false →
      (((Opens spec ∧ before.val = []) ↔ ¬ (Closes spec ∧ after.val = [])) →
        parse .nuget library (surrounded before spec after) =
          .error (.semiDelimited (surrounded before spec after))) ∧
      (surrounded before spec after ≠ [] → (Opens spec → before.val ≠ []) →
        (Closes spec → after.val ≠ []) →
        parse .nuget library (surrounded before spec after) = .ok (.single
          (minimum library (surrounded before spec after) (Text.trim spec))))) := by
  have hlist := isNugetList_surrounded before after spec
  refine ⟨fun h => agree_of_demands ?_, fun hsingle => ⟨fun hhalf => ?_, ?_⟩⟩
  · cases ecosystem with
    | unknown => rfl
    | npm => exact demands?_npm before after library spec
    | nuget =>
      cases hspec : isNugetList spec with
      | true =>
        rw [parse, parse, if_pos (hlist.trans hspec), if_pos hspec]
        exact demands?_list before after library spec
      | false =>
        have hapart : Apart before spec after := (h rfl).resolve_left (by simp [hspec])
        have hdemand := demand?_nuget hapart library
        rw [parse_single (hlist.trans hspec), parse_single hspec, demands?_single,
          demands?_single, hdemand]
  · rw [parse_single (hlist.trans hsingle), nuget_of_half_hidden hhalf]
    rfl
  · intro hne hopening hclosing
    rw [parse_single (hlist.trans hsingle), nuget_of_hidden hne hopening hclosing]
    rfl

/-- A union, a list and a version are read between blanks as they are without; a bracketed range
is not. -/
theorem sample_parse_surrounded :
    Agree (parse .npm "ms" " ^1.0.0 || 2 ") (parse .npm "ms" "^1.0.0 || 2") ∧
    Agree (parse .nuget "Foo" " [1.0],[2.0] ") (parse .nuget "Foo" "[1.0],[2.0]") ∧
    Agree (parse .nuget "Foo" " 1.0 ") (parse .nuget "Foo" "1.0") ∧
    parse .nuget "Foo" " [1.0]" = .error (.semiDelimited " [1.0]") ∧
    parse .nuget "Foo" " [1.0] " = .ok (.single (minimum "Foo" " [1.0] " "[1.0]")) := by
  have hcloses : Closes "[1.0]" := ⟨.included, "[1.0", rfl⟩
  have hopen : ¬ Opens "1.0" := fun h => by
    obtain ⟨left, hleft⟩ := opens_cons.1 h
    cases left <;> cases hleft
  have hclose : ¬ Closes "1.0" := fun h => by
    obtain ⟨right, hright⟩ := (closes_concat (s := "1.") (c := '0')).1 h
    cases right <;> cases hright
  have hplain : Apart .space "1.0" .space :=
    { given := nofun
      opening := fun h => absurd h hopen
      closing := fun h => absurd h hclose }
  have hbracketed (before after : Blanks) :=
    (parse_surrounded .nuget "Foo" before after "[1.0]").2 (by decide)
  exact ⟨(parse_surrounded .npm "ms" .space .space "^1.0.0 || 2").1 nofun,
    (parse_surrounded .nuget "Foo" .space .space "[1.0],[2.0]").1 fun _ => .inl (by decide),
    (parse_surrounded .nuget "Foo" .space .space "1.0").1 fun _ => .inr hplain,
    (hbracketed .space .none).1 (iff_of_false (fun h => nomatch h.2) (fun h => h ⟨hcloses, rfl⟩)),
    (hbracketed .space .space).2 nofun (fun _ => nofun) (fun _ => nofun)⟩

/-- An exact range is not read as one between blanks, and it floats. -/
theorem sample_bracket_hidden :
    ¬ Agree (parse .nuget "Foo" (surrounded .space "[1.0]" .space))
      (parse .nuget "Foo" "[1.0]") := by
  intro h
  have hminimum : parse .nuget "Foo" (surrounded .space "[1.0]" .space) =
      .ok (.single (minimum "Foo" " [1.0] " "[1.0]")) := by decide +kernel
  have hpinned : parse .nuget "Foo" "[1.0]" =
      .ok (.single (pinned .nuget "Foo" "[1.0]" (.concrete "1.0"))) := by decide +kernel
  exact absurd (h.floating _ _ hminimum hpinned) (by decide)

end Requirement

end UpgradeGraph
