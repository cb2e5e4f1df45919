import UpgradeGraph.Proofs.Range.Nuget
import UpgradeGraph.Requirement

/-!
# Lists of NuGet ranges

The comma stands between the ranges of a NuGet list and also inside them, so a list is read piece
by piece. A piece that is an exact range is a member of the list by itself, and so is an empty one
if the number of pieces is odd. Any other piece makes up a member together with the next one,
which is an interval, or a version with a comma in it (`Member`). A list is read just if its pieces
are those of members, one after another (`exists_union_iff`), and it is then the union of their
ranges (`nugetParts_flatMap`).
-/

namespace UpgradeGraph

open Range (Limit Opens Closes)

namespace RangeUnion

variable {library spec s part : Text} {odd : Bool}

theorem isExactPart_iff :
    isExactPart part = true ↔ ∃ version, part = '[' :: (version ++ [']']) := by
  constructor
  · intro h
    unfold isExactPart at h
    split at h
    next rest =>
      obtain ⟨version, hversion⟩ := List.getLast?_eq_some_iff.1 (by simpa using h)
      exact ⟨version, by rw [hversion]⟩
    next => cases h
  · rintro ⟨version, rfl⟩
    simp [isExactPart]

/-! ## Members -/

/-- A range of a list, by what is written between its commas. -/
inductive Member where
  /-- Nothing, which stands for all versions. -/
  | all
  | exact (version : Text)
  | interval (left : Limit) (lower upper : Text) (right : Limit)
  /-- A version that has a comma in its text. -/
  | bare (first second : Text)

namespace Member

/-- The pieces of the list that belong to the member. -/
def pieces : Member → List Text
  | all => [[]]
  | exact version => ['[' :: (version ++ [']'])]
  | interval left lower upper right => [left.opening :: lower, upper ++ [right.closing]]
  | bare first second => [first, second]

/-- The text of the member, read by itself. -/
def text : Member → Text
  | all => []
  | exact version => '[' :: (version ++ [']'])
  | interval left lower upper right => left.opening :: (lower ++ ',' :: upper ++ [right.closing])
  | bare first second => first ++ ',' :: second

def bounds : Member → Bounds
  | all => .unbounded
  | exact version => .pinned (.concrete (Text.trim version))
  | interval left lower upper right =>
    Range.intervalBounds left.bracket (Text.trim lower) (Text.trim upper) right.bracket
  | bare first second =>
    { lower := some (.concrete (Text.trim (first ++ ',' :: second))), upperExclusive := true }

def floating : Member → Bool
  | exact _ => false
  | _ => true

def range (library : Text) (m : Member) : Range :=
  { ecosystem := .nuget, library, descriptor := m.text, bounds := m.bounds, floating := m.floating }

/-- The member may stand in a list with an even or odd number of pieces. -/
def Fits (odd : Bool) : Member → Prop
  | all => odd = true
  | exact version => ',' ∉ version ∧ Text.trim version ≠ []
  | interval left lower upper _ =>
    ',' ∉ lower ∧ ',' ∉ upper ∧ isExactPart (left.opening :: lower) = false
  | bare first second => ¬ Opens first ∧ ¬ Closes second ∧ (odd = true → first ≠ [])

variable {m : Member}

theorem opens_pair {first second : Text} : Opens (first ++ ',' :: second) ↔ Opens first := by
  constructor
  · rintro ⟨left, rest, h⟩
    cases first with
    | nil =>
      obtain ⟨hchar, -⟩ := List.cons_eq_cons.1 h
      cases left <;> cases hchar
    | cons c first =>
      obtain ⟨rfl, -⟩ := List.cons_eq_cons.1 h
      exact ⟨left, first, rfl⟩
  · rintro ⟨left, rest, rfl⟩
    exact ⟨left, rest ++ ',' :: second, rfl⟩

theorem closes_pair {first second : Text} : Closes (first ++ ',' :: second) ↔ Closes second := by
  constructor
  · rintro ⟨right, front, h⟩
    have hlast := congrArg List.getLast? h
    rcases List.eq_nil_or_concat second with rfl | ⟨second, c, rfl⟩
    · obtain hchar : ',' = right.closing := by simpa using hlast
      cases right <;> cases hchar
    · obtain rfl : c = right.closing := by simpa [List.getLast?_cons] using hlast
      exact ⟨right, second, List.concat_eq_append⟩
  · rintro ⟨right, front, rfl⟩
    exact ⟨right, first ++ ',' :: front, by simp⟩

/-- By itself a member is read as its range. -/
theorem nuget_text (h : m.Fits odd) (library : Text) :
    Range.nuget library m.text = .ok (m.range library) := by
  cases m with
  | all => rfl
  | exact version => exact Range.nuget_exact h.1 h.2 library
  | interval left lower upper right => exact Range.nuget_interval left right h.1 h.2.1 library
  | bare first second =>
    exact Range.nuget_bare (by simp) (mt opens_pair.1 h.1) (mt closes_pair.1 h.2.1) library

end Member

/-! ## Reading a list -/

theorem brackets_mem_of_isExactPart (h : isExactPart part = true) : '[' ∈ part ∧ ']' ∈ part := by
  obtain ⟨version, rfl⟩ := isExactPart_iff.1 h
  simp

theorem isExactPart_of_not_opens (h : ¬ Opens part) : isExactPart part = false := by
  refine Bool.eq_false_iff.2 fun hexact => h ?_
  obtain ⟨version, rfl⟩ := isExactPart_iff.1 hexact
  exact ⟨.included, _, rfl⟩

/-- What is complete is read by itself. -/
theorem nugetParts_alone {range : Range} {rest : List Text}
    (h : isExactPart part = true ∨ odd = true ∧ part = [])
    (hread : Range.nuget library part = .ok range) :
    nugetParts library spec odd (part :: rest) =
      (nugetParts library spec odd rest).map (range :: ·) := by
  have hcomplete : (isExactPart part || (odd && part.isEmpty)) = true := by simpa using h
  rw [nugetParts.eq_def]
  simp only [hcomplete, if_true, hread]
  cases nugetParts library spec odd rest <;> rfl

/-- What is not complete is read with the piece behind it. -/
theorem nugetParts_pair {first second : Text} {rest : List Text} (h : isExactPart first = false)
    (hodd : odd = true → first ≠ []) :
    nugetParts library spec odd (first :: second :: rest) =
      (Range.nuget library (first ++ ',' :: second)).bind fun range =>
        (nugetParts library spec odd rest).map (range :: ·) := by
  have hopen : (isExactPart first || (odd && first.isEmpty)) = false := by
    cases odd <;> simp_all
  rw [nugetParts.eq_def]
  simp only [hopen]
  cases Range.nuget library (first ++ ',' :: second) with
  | error e => rfl
  | ok range => cases nugetParts library spec odd rest <;> rfl

/-- Members that are written one after another are read one after another. -/
theorem nugetParts_flatMap {members : List Member} (h : ∀ m ∈ members, m.Fits odd) :
    nugetParts library spec odd (members.flatMap Member.pieces) =
      .ok (members.map (Member.range library)) := by
  induction members with
  | nil => rfl
  | cons m members ih =>
    rw [List.forall_mem_cons] at h
    have hrest := ih h.2
    have hread := Member.nuget_text h.1 library
    have hcons (range : Range) : (nugetParts library spec odd
        (members.flatMap Member.pieces)).map (range :: ·) =
          .ok (range :: members.map (Member.range library)) := by rw [hrest]; rfl
    rw [List.flatMap_cons, List.map_cons, ← hcons]
    cases m with
    | all => exact nugetParts_alone (.inr ⟨h.1, rfl⟩) hread
    | exact version => exact nugetParts_alone (.inl (isExactPart_iff.2 ⟨version, rfl⟩)) hread
    | interval left lower upper right =>
      have htext : left.opening :: lower ++ ',' :: (upper ++ [right.closing]) =
          (Member.interval left lower upper right).text := by simp [Member.text]
      refine (nugetParts_pair h.1.2.2 fun _ => List.cons_ne_nil _ _).trans ?_
      rw [htext, hread]
      rfl
    | bare first second =>
      refine (nugetParts_pair (isExactPart_of_not_opens h.1.1) h.1.2.2).trans ?_
      rw [← Member.text, hread]
      rfl

/-- A complete piece that is read is a member. -/
theorem exists_member_alone {range : Range} (h : isExactPart part = true ∨ odd = true ∧ part = [])
    (hread : Range.nuget library part = .ok range) (hcomma : ',' ∉ part) :
    ∃ m : Member, m.Fits odd ∧ m.pieces = [part] := by
  rcases h with hexact | ⟨hodd, rfl⟩
  · obtain ⟨version, hpart⟩ := isExactPart_iff.1 hexact
    have hone := (Range.exists_nuget_iff library part).1 ⟨range, hread⟩
    refine ⟨.exact version, ?_, by rw [hpart]; rfl⟩
    cases hone with
    | bare hopens => exact absurd ⟨.included, _, hpart⟩ hopens
    | @exact version' hfree htrim =>
      obtain rfl : version' = version := by simpa using hpart
      exact ⟨hfree, htrim⟩
    | interval left right => simp at hcomma
  · exact ⟨.all, hodd, rfl⟩

/-- Two pieces that are read together are a member. -/
theorem exists_member_pair {first second : Text} {range : Range}
    (hopen : isExactPart first = false) (hodd : odd = true → first ≠ [])
    (hread : Range.nuget library (first ++ ',' :: second) = .ok range) (hfirst : ',' ∉ first)
    (hsecond : ',' ∉ second) : ∃ m : Member, m.Fits odd ∧ m.pieces = [first, second] := by
  by_cases hopens : Opens first <;> by_cases hcloses : Closes second
  · obtain ⟨left, lower, rfl⟩ := hopens
    obtain ⟨right, upper, rfl⟩ := hcloses
    rw [List.mem_cons, not_or] at hfirst
    rw [List.mem_append, not_or] at hsecond
    exact ⟨.interval left lower upper right, ⟨hfirst.2, hsecond.1, hopen⟩, rfl⟩
  · rw [Range.nuget_semiDelimited] at hread
    · cases hread
    · rw [Member.opens_pair, Member.closes_pair]
      exact iff_of_true hopens hcloses
  · rw [Range.nuget_semiDelimited] at hread
    · cases hread
    · rw [Member.opens_pair, Member.closes_pair]
      exact iff_of_false hopens (not_not_intro hcloses)
  · exact ⟨.bare first second, ⟨hopens, hcloses, hodd⟩, rfl⟩

/-- Pieces that are read are those of members. -/
theorem exists_members {parts : List Text} {ranges : List Range}
    (h : nugetParts library spec odd parts = .ok ranges) (hcomma : ∀ part ∈ parts, ',' ∉ part) :
    ∃ members : List Member, (∀ m ∈ members, m.Fits odd) ∧
      parts = members.flatMap Member.pieces := by
  fun_induction nugetParts library spec odd parts generalizing ranges with
  | case1 => exact ⟨[], nofun, rfl⟩
  | case2 part rest hcomplete ih =>
    obtain ⟨range, hread, hrest⟩ := exists_of_bind_eq_ok h
    obtain ⟨others, hothers, -⟩ := exists_of_bind_eq_ok hrest
    rw [List.forall_mem_cons] at hcomma
    obtain ⟨m, hm, hpieces⟩ := exists_member_alone (by simpa using hcomplete) hread hcomma.1
    obtain ⟨members, hfits, rfl⟩ := ih hothers hcomma.2
    exact ⟨m :: members, List.forall_mem_cons.2 ⟨hm, hfits⟩, by
      rw [List.flatMap_cons, hpieces]
      rfl⟩
  | case3 part hincomplete => cases h
  | case4 part hincomplete second rest ih =>
    obtain ⟨range, hread, hrest⟩ := exists_of_bind_eq_ok h
    obtain ⟨others, hothers, -⟩ := exists_of_bind_eq_ok hrest
    rw [List.forall_mem_cons, List.forall_mem_cons] at hcomma
    obtain ⟨hopen, hodd⟩ : isExactPart part = false ∧ (odd = true → part ≠ []) := by
      simpa using hincomplete
    obtain ⟨m, hm, hpieces⟩ := exists_member_pair hopen hodd hread hcomma.1 hcomma.2.1
    obtain ⟨members, hfits, rfl⟩ := ih hothers hcomma.2.2
    exact ⟨m :: members, List.forall_mem_cons.2 ⟨hm, hfits⟩, by
      rw [List.flatMap_cons, hpieces]
      rfl⟩

/-! ## Cutting at commas -/

theorem commaParts_append (s t : Text) :
    commaParts (s ++ ',' :: t) = commaParts s ++ commaParts t := by
  rw [commaParts, List.splitOn_append_cons_self, List.map_append, commaParts, commaParts]

theorem commaParts_of_not_mem (h : ',' ∉ s) : commaParts s = [Text.trim s] := by
  rw [commaParts, List.splitOn_eq_singleton h, List.map_singleton]

/-- Blanks around one piece are trimmed with it. -/
theorem commaParts_piece (before after : Blanks) (h : ',' ∉ s) :
    commaParts (before.val ++ s ++ after.val) = commaParts s := by
  have hbefore : ',' ∉ before.val := before.not_mem (by decide)
  have hafter : ',' ∉ after.val := after.not_mem (by decide)
  rw [commaParts_of_not_mem h, commaParts_of_not_mem (by simp [hbefore, h, hafter]),
    Text.trim_append_blanks after.property, Text.trim_blanks_append before.property]

theorem commaParts_blanks_append (before : Blanks) (s : Text) :
    commaParts (before.val ++ s) = commaParts s := by
  have hpiece {piece : Text} (h : ',' ∉ piece) :
      commaParts (before.val ++ piece) = commaParts piece := by
    simpa [Blanks.none, Blanks.of] using commaParts_piece before .none h
  by_cases hcomma : ',' ∈ s
  · obtain ⟨first, rest, rfl, hfirst⟩ := List.eq_append_cons_of_mem hcomma
    rw [← List.append_assoc, commaParts_append, commaParts_append, hpiece hfirst]
  · exact hpiece hcomma

theorem commaParts_append_blanks (s : Text) (after : Blanks) :
    commaParts (s ++ after.val) = commaParts s := by
  have hpiece {piece : Text} (h : ',' ∉ piece) :
      commaParts (piece ++ after.val) = commaParts piece := commaParts_piece .none after h
  by_cases hcomma : ',' ∈ s
  · -- The last comma is the first one from behind.
    obtain ⟨back, front, hs, hback⟩ := List.eq_append_cons_of_mem (List.mem_reverse.2 hcomma)
    obtain rfl : s = front.reverse ++ ',' :: back.reverse := by
      rw [← List.reverse_reverse s, hs]
      simp
    rw [List.append_assoc, List.cons_append, commaParts_append, commaParts_append,
      hpiece (by simpa using hback)]
  · exact hpiece hcomma

/-- Blanks around a list are trimmed with its outer pieces. -/
theorem commaParts_surrounded (before after : Blanks) (s : Text) :
    commaParts (before.val ++ s ++ after.val) = commaParts s := by
  rw [commaParts_append_blanks, commaParts_blanks_append]

theorem comma_not_mem_of_mem_commaParts (h : part ∈ commaParts s) : ',' ∉ part := by
  obtain ⟨piece, hpiece, rfl⟩ := List.mem_map.1 h
  exact fun hmem => Text.not_mem_of_mem_splitOn hpiece (Text.mem_of_mem_trim hmem)

/-- Between its commas the text has the pieces of members that may stand in it. -/
def Lists (spec : Text) (members : List Member) : Prop :=
  commaParts spec = members.flatMap Member.pieces ∧
    ∀ m ∈ members, m.Fits ((commaParts spec).length % 2 = 1)

/-- A list is the union of its members. -/
theorem nuget_of_lists {members : List Member} (h : Lists spec members) (library : Text) :
    nuget library spec = .ok ⟨library, spec, members.map (Member.range library)⟩ := by
  have hparts : nugetParts library spec ((commaParts spec).length % 2 = 1) (commaParts spec) =
      .ok (members.map (Member.range library)) := by
    rw [h.1]
    exact nugetParts_flatMap (h.1 ▸ h.2)
  simp only [nuget, hparts]
  rfl

/-- A text is read as a list just if it has members. -/
theorem exists_union_iff (library spec : Text) :
    (∃ union, nuget library spec = .ok union) ↔ ∃ members, Lists spec members := by
  constructor
  · rintro ⟨union, h⟩
    obtain ⟨ranges, hranges, -⟩ := exists_of_bind_eq_ok h
    obtain ⟨members, hfits, hpieces⟩ :=
      exists_members hranges fun part => comma_not_mem_of_mem_commaParts
    exact ⟨members, hpieces, hfits⟩
  · rintro ⟨members, h⟩
    exact ⟨_, nuget_of_lists h library⟩

end RangeUnion

end UpgradeGraph
