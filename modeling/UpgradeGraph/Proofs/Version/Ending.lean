import UpgradeGraph.Proofs.Text
import UpgradeGraph.Proofs.Version.Natural
import UpgradeGraph.Range.Npm

/-!
# Numbers and what is written behind them

Behind its digits a level may have a mark and a name (`IsEnding`), and names are there to order
the levels of one number. Between two numbers they should not count. Nor do they, as long as
the digits are what stands before the mark at which the level is cut (`isNumeric_iff`). A level
is cut at a hyphen first, though. Where a plus sign comes before that, as in the build name of
`1.0.1+build-5`, digits, plus sign and all are no number but a word (`HidesNumber`), and words
are below all numbers. So what decides between two versions that part at two numbers is whether
the number of the larger one can be seen (`number_outweighs_ending`).
-/

namespace UpgradeGraph

namespace Level

variable {mark : Char} {d e s t : Text}

/-! ## Cutting -/

/-- What stands before the first mark stays in one piece. -/
theorem cutAt?_append (h : mark ∉ s) (t : Text) :
    cutAt? mark (s ++ t) =
      (cutAt? mark t).map fun (before, behind) => (s ++ before, behind) := by
  induction s with
  | nil => simp
  | cons c s ih =>
    rw [List.mem_cons, not_or] at h
    simp [cutAt?, Ne.symm h.1, ih h.2, Function.comp_def]

theorem exists_cutAt?_of_mem (h : mark ∈ s) :
    ∃ before behind, cutAt? mark s = some (before, behind) := by
  induction s with
  | nil => simp at h
  | cons c s ih =>
    by_cases hc : c = mark
    · exact ⟨[], s, by simp [cutAt?, hc]⟩
    · obtain ⟨before, behind, hcut⟩ := ih ((List.mem_cons.1 h).resolve_left (Ne.symm hc))
      exact ⟨c :: before, behind, by simp [cutAt?, hc, hcut]⟩

/-! ## Endings -/

/-- What may stand behind the digits of a level: nothing, or a mark and a name. -/
def IsEnding (s : Text) : Prop := (∀ c ∈ s.head?, c = '-' ∨ c = '+') ∧ '.' ∉ s

/-- The ending has a hyphen behind a plus sign. -/
def HidesNumber (s : Text) : Prop := s.head? = some '+' ∧ '-' ∈ s

instance : DecidablePred IsEnding := fun s =>
  decidable_of_iff (s.head?.all (fun c => c = '-' || c = '+') = true ∧ '.' ∉ s) <| by
    cases s <;> simp [IsEnding]

instance : DecidablePred HidesNumber := fun s =>
  inferInstanceAs (Decidable (s.head? = some '+' ∧ '-' ∈ s))

/-- Digits are in the qualifier, whatever comes behind them. -/
theorem qualifier_append (hd : Text.isNumeral d = true) (s : Text) :
    (mk (d ++ s)).qualifier = d ++ (mk s).qualifier := by
  have hhyphen : '-' ∉ d := Text.not_mem_of_isNumeral hd rfl
  have hplus : '+' ∉ d := Text.not_mem_of_isNumeral hd rfl
  simp only [qualifier, cut?, cutAt?_append hhyphen, cutAt?_append hplus]
  cases cutAt? '-' s with
  | some _ => rfl
  | none =>
    cases cutAt? '+' s with
    | some _ => rfl
    | none => rfl

theorem qualifier_of_shown (hs : IsEnding s) (hshown : ¬ HidesNumber s) :
    (mk s).qualifier = [] := by
  cases s with
  | nil => rfl
  | cons c s =>
    rcases hs.1 c rfl with rfl | rfl
    · simp [qualifier, cut?, cutAt?]
    · have hnone : cutAt? '-' ('+' :: s) = none :=
        cutAt?_eq_none fun hmem => hshown ⟨rfl, hmem⟩
      rw [qualifier, cut?, hnone]
      simp [cutAt?]

theorem qualifier_of_hidesNumber (hs : HidesNumber s) :
    ∃ before, (mk s).qualifier = '+' :: before := by
  cases s with
  | nil => cases hs.1
  | cons c s =>
    obtain rfl : c = '+' := Option.some.inj hs.1
    have hmem : '-' ∈ s := (List.mem_cons.1 hs.2).resolve_left (by decide)
    obtain ⟨before, behind, hcut⟩ := exists_cutAt?_of_mem hmem
    exact ⟨before, by simp [qualifier, cut?, cutAt?, hcut]⟩

theorem isNumeric_iff (hd : Text.isNumeral d = true) (hs : IsEnding s) :
    (mk (d ++ s)).isNumeric = true ↔ ¬ HidesNumber s := by
  constructor
  · intro hnumeric hhides
    obtain ⟨before, hword⟩ := qualifier_of_hidesNumber hhides
    have hplus : ('+' : Char).isDigit = true :=
      isDigit_of_isNumeric hnumeric '+' (by simp [qualifier_append hd, hword])
    cases hplus
  · intro hshown
    rw [isNumeric, qualifier_append hd, qualifier_of_shown hs hshown, List.append_nil, hd]

theorem isNumeric_of_hidesNumber (hd : Text.isNumeral d = true) (hs : IsEnding s)
    (hhides : HidesNumber s) : (mk (d ++ s)).isNumeric = false :=
  Bool.eq_false_iff.2 fun hnumeric => (isNumeric_iff hd hs).1 hnumeric hhides

theorem takeWhile_isDigit (hd : Text.isNumeral d = true) (hs : IsEnding s) :
    (d ++ s).takeWhile Char.isDigit = d := by
  rw [List.takeWhile_append_of_pos (Text.isDigit_of_isNumeral hd)]
  cases s with
  | nil => simp
  | cons c s => rcases hs.1 c rfl with rfl | rfl <;> simp [Char.isDigit]

theorem value_append (hd : Text.isNumeral d = true) (hs : IsEnding s)
    (hshown : ¬ HidesNumber s) : (mk (d ++ s)).value = Text.numeralValue d := by
  rw [value, qualifier_append hd, qualifier_of_shown hs hshown, List.append_nil]

/-- What starts with a digit is no wildcard. -/
theorem isWildcard_append (hd : Text.isNumeral d = true) (s : Text) :
    (mk (d ++ s)).isWildcard = false := by
  obtain ⟨hne, hdigits⟩ : d ≠ [] ∧ ∀ c ∈ d, c.isDigit = true := by
    simpa [Text.isNumeral] using hd
  obtain ⟨c, d, rfl⟩ := List.exists_cons_of_ne_nil hne
  have hc : c.isDigit = true := hdigits c List.mem_cons_self
  have hstar : c ≠ '*' := Text.ne_of_isDigit hc rfl
  have hx : c ≠ 'x' := Text.ne_of_isDigit hc rfl
  rw [isWildcard, qualifier_append hd]
  simp [hstar, hx]

/-! ## Levels of two numbers -/

section Smaller

variable (hd : Text.isNumeral d = true) (he : Text.isNumeral e = true) (hs : IsEnding s)
  (ht : IsEnding t)

include hd he hs ht

/-- A larger number that can be seen is above, and it is above all words too. -/
theorem compare_of_shown (hlt : Text.numeralValue d < Text.numeralValue e)
    (hshown : ¬ HidesNumber t) : totalCompare ⟨d ++ s⟩ ⟨e ++ t⟩ = .lt := by
  have hnumeric := (isNumeric_iff he ht).2 hshown
  by_cases hhides : HidesNumber s
  · simp [totalCompare, isWildcard_append, hd, he, compareConcrete, hnumeric,
      isNumeric_of_hidesNumber hd hs hhides]
  · refine totalCompare_of_value_lt ((isNumeric_iff hd hs).2 hhides) hnumeric ?_
    rwa [value_append hd hs hhides, value_append he ht hshown]

/-- A number that cannot be seen is below one that can. -/
theorem compare_of_hidden (hshown : ¬ HidesNumber s) (hhides : HidesNumber t) :
    totalCompare ⟨d ++ s⟩ ⟨e ++ t⟩ = .gt := by
  have hnumeric := (isNumeric_iff hd hs).2 hshown
  simp [totalCompare, isWildcard_append, hd, he, compareConcrete, hnumeric,
    isNumeric_of_hidesNumber he ht hhides]

theorem compare_of_both_hidden (hhides : HidesNumber s) (hhides' : HidesNumber t) :
    totalCompare ⟨d ++ s⟩ ⟨e ++ t⟩ = compare (d ++ s) (e ++ t) := by
  simp [totalCompare, isWildcard_append, hd, he, compareConcrete,
    isNumeric_of_hidesNumber hd hs hhides, isNumeric_of_hidesNumber he ht hhides']

end Smaller

end Level

namespace Version

open Range (joinLevels)

variable {a b : Level} {o : Ordering} {d e s t : Text} {first : List Text}

/-! ## Versions that part at two numbers -/

/-- Levels that the two rows have in common change nothing, nor does what comes after the level
that decides. -/
theorem partialCompareLevels_append (hab : Level.partialCompare a b = some o) (hne : o ≠ .eq)
    (common as bs : List Level) (passed : Bool) :
    partialCompareLevels passed (common ++ a :: as) (common ++ b :: bs) = some o := by
  induction common with
  | nil =>
    cases o with
    | eq => exact absurd rfl hne
    | lt | gt => simp [partialCompareLevels, hab]
  | cons level common ih =>
    have hself : Level.partialCompare level level = some .eq := Level.partialCompare_eq_iff.2 rfl
    simpa [partialCompareLevels, hself] using ih

theorem levels_parse_join (hfirst : ∀ level ∈ first, '.' ∉ level) {last : Text}
    (hlast : '.' ∉ last) (p : Padding) : ∃ rest,
      (parse (joinLevels (first ++ [last])) p).levels = first.map Level.mk ++ ⟨last⟩ :: rest := by
  have hdots : ∀ level ∈ first ++ [last], '.' ∉ level :=
    List.forall_mem_append.2 ⟨hfirst, List.forall_mem_singleton.2 hlast⟩
  have hgiven : (unpadded (joinLevels (first ++ [last]))).levels = (first ++ [last]).map Level.mk :=
    levels_unpadded_intercalate (by simp) hdots
  obtain ⟨fill, hfill⟩ := exists_levels_parse (joinLevels (first ++ [last])) p
  rw [hgiven] at hfill
  exact ⟨fill, by simpa using hfill⟩

/-- What two levels decide, the versions that they end decide alike. -/
theorem compare_join (hfirst : ∀ level ∈ first, '.' ∉ level) {x y : Text} (hx : '.' ∉ x)
    (hy : '.' ∉ y) (hwild : (Level.mk x).isWildcard = false)
    (ho : Level.totalCompare ⟨x⟩ ⟨y⟩ = o) (hne : o ≠ .eq) (p q : Padding) :
    let a := parse (joinLevels (first ++ [x])) p
    let b := parse (joinLevels (first ++ [y])) q
    a.partialCompare b = some o ∧ a.totalCompare b = o := by
  intro a b
  have hlevels : Level.partialCompare ⟨x⟩ ⟨y⟩ = some o := by
    have hxy : Level.mk x ≠ ⟨y⟩ := fun heq => hne (ho ▸ Level.totalCompare_eq_iff.2 (.inl heq))
    rw [Level.partialCompare, if_neg hxy, hwild]
    simp [ho]
  obtain ⟨as, has⟩ := levels_parse_join hfirst hx p
  obtain ⟨bs, hbs⟩ := levels_parse_join hfirst hy q
  have hpartial : a.partialCompare b = some o := by
    rw [partialCompare, has, hbs]
    exact partialCompareLevels_append hlevels hne _ as bs false
  exact ⟨hpartial, totalCompare_of_partialCompare hpartial⟩

theorem dot_not_mem (hd : Text.isNumeral d = true) (hs : Level.IsEnding s) : '.' ∉ d ++ s := by
  rw [List.mem_append, not_or]
  exact ⟨Text.not_mem_of_isNumeral hd rfl, hs.2⟩

/-- Of two versions that part at two numbers the one with the larger number is above, whatever is
written behind the numbers, if that number can be seen. If it is hidden, the version is below,
or in the order of the two texts where the smaller number is hidden as well. -/
theorem number_outweighs_ending (hfirst : ∀ level ∈ first, '.' ∉ level)
    (hd : Text.isNumeral d = true) (he : Text.isNumeral e = true)
    (hlt : Text.numeralValue d < Text.numeralValue e) (hs : Level.IsEnding s)
    (ht : Level.IsEnding t) (p q : Padding) :
    let a := parse (joinLevels (first ++ [d ++ s])) p
    let b := parse (joinLevels (first ++ [e ++ t])) q
    (¬ Level.HidesNumber t → a.partialCompare b = some .lt ∧ a.totalCompare b = .lt) ∧
    (Level.HidesNumber t → ¬ Level.HidesNumber s →
      a.partialCompare b = some .gt ∧ a.totalCompare b = .gt) ∧
    (Level.HidesNumber t → Level.HidesNumber s → ∃ o, compare (d ++ s) (e ++ t) = o ∧
      a.partialCompare b = some o ∧ a.totalCompare b = o) := by
  have hcompare {o : Ordering} (ho : Level.totalCompare ⟨d ++ s⟩ ⟨e ++ t⟩ = o) (hne : o ≠ .eq) :=
    compare_join hfirst (dot_not_mem hd hs) (dot_not_mem he ht) (Level.isWildcard_append hd s)
      ho hne p q
  refine ⟨fun hshown => ?_, fun hhides hshown => ?_, fun hhides hhides' => ?_⟩
  · exact hcompare (Level.compare_of_shown hd he hs ht hlt hshown) (by decide)
  · exact hcompare (Level.compare_of_hidden hd he hs ht hshown hhides) (by decide)
  · refine ⟨_, rfl, hcompare (Level.compare_of_both_hidden hd he hs ht hhides' hhides) ?_⟩
    -- The digits can be read off the text, so two numbers never make one text.
    intro heq
    have htext : d ++ s = e ++ t := Std.LawfulEqOrd.eq_of_compare heq
    have hdigits := congrArg (List.takeWhile Char.isDigit) htext
    rw [Level.takeWhile_isDigit hd hs, Level.takeWhile_isDigit he ht] at hdigits
    exact absurd (congrArg Text.numeralValue hdigits) (Nat.ne_of_lt hlt)

/-- Leading zeros, a number of more than 128 bits, and a hyphen before a plus sign. -/
theorem sample_number_outweighs_ending :
    Text.isNumeral "0099" = true ∧
    Text.isNumeral "400000000000000000000000000000000000000000" = true ∧
    Text.numeralValue "0099" < Text.numeralValue "400000000000000000000000000000000000000000" ∧
    Level.IsEnding "+b5" ∧ Level.IsEnding "-rc+b-5" ∧ ¬ Level.HidesNumber "-rc+b-5" ∧
    (unpadded "1.x.0099+b5").partialCompare
      (concrete "1.x.400000000000000000000000000000000000000000-rc+b-5") = some .lt ∧
    (unpadded "1.x.0099+b5").totalCompare
      (concrete "1.x.400000000000000000000000000000000000000000-rc+b-5") = .lt := by
  have hd : Text.isNumeral "0099" = true := by decide
  have he : Text.isNumeral "400000000000000000000000000000000000000000" = true := by decide
  have hlt : Text.numeralValue "0099" <
      Text.numeralValue "400000000000000000000000000000000000000000" := by decide
  have hs : Level.IsEnding "+b5" := by decide
  have ht : Level.IsEnding "-rc+b-5" := by decide
  have hshown : ¬ Level.HidesNumber "-rc+b-5" := by decide
  have hfirst : ∀ level ∈ ([['1'], ['x']] : List Text), '.' ∉ level := by decide
  have hsmall : joinLevels ([['1'], ['x']] ++ [("0099" : Text) ++ ("+b5" : Text)]) =
      "1.x.0099+b5" := by decide
  have hlarge : joinLevels ([['1'], ['x']] ++
      [("400000000000000000000000000000000000000000" : Text) ++ ("-rc+b-5" : Text)]) =
      "1.x.400000000000000000000000000000000000000000-rc+b-5" := by decide
  have hlower :=
    (number_outweighs_ending hfirst hd he hlt hs ht .unpadded .concrete).1 hshown
  rw [hsmall, hlarge] at hlower
  exact ⟨hd, he, hlt, hs, ht, hshown, hlower⟩

/-- A build name with a hyphen puts a release below the one before it. -/
theorem sample_number_hidden :
    Text.isNumeral "0" = true ∧ Text.isNumeral "1" = true ∧
    Text.numeralValue "0" < Text.numeralValue "1" ∧
    Level.IsEnding [] ∧ Level.IsEnding "+build-5" ∧
    ¬ ((unpadded "1.0.0").below (unpadded "1.0.1+build-5") = true) ∧
    (unpadded "1.0.0").totalCompare (unpadded "1.0.1+build-5") = .gt := by
  decide

end Version

end UpgradeGraph
