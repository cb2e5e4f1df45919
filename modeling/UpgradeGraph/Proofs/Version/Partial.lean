import UpgradeGraph.Proofs.Text
import UpgradeGraph.Proofs.Version.Order

/-!
# The partial order of versions beside the total one

Bounds are checked by an order that leaves wildcards open, releases are sorted by one
that always decides. Where the first decides, the second says the same; it differs only
where wildcards are involved, since those are all that tie without being equal.

What two rows of levels need to be surely in order is said by one equation
(`partialCompareLevels_lt_iff`): the first is below the second by its levels, and does
not just stop where the second goes on with a wildcard. That exception is the only one to
transitivity: `1` is below `1.5` and `1.5` is below `1.x`, but `1` may be one of the
versions that `1.x` stands for.
-/

namespace UpgradeGraph

namespace Level

variable {a b : Level} {o : Ordering}

/-! ## Levels -/

theorem compareConcrete_eq_iff : compareConcrete a b = .eq ↔ a = b := by
  refine ⟨fun h => ?_, fun h => h ▸ Std.ReflCmp.compare_self⟩
  have hraw : compare a.raw b.raw = .eq := by
    simp only [compareConcrete] at h
    split at h
    · exact h
    · contradiction
    · contradiction
    · exact (Ordering.then_eq_eq.1 (Ordering.then_eq_eq.1 h).2).2
  exact congrArg mk (Std.LawfulEqOrd.eq_of_compare hraw)

/-- Nothing but wildcards ties with another level. -/
theorem totalCompare_eq_iff :
    totalCompare a b = .eq ↔ a = b ∨ (a.isWildcard ∧ b.isWildcard) := by
  refine ⟨fun h => ?_, ?_⟩
  · cases ha : a.isWildcard <;> cases hb : b.isWildcard <;>
      simp only [totalCompare, ha, hb] at h
    · exact .inl (compareConcrete_eq_iff.1 h)
    · contradiction
    · contradiction
    · exact .inr ⟨rfl, rfl⟩
  · rintro (rfl | ⟨ha, hb⟩)
    · exact Std.ReflCmp.compare_self
    · simp [totalCompare, ha, hb]

@[simp] theorem partialCompare_eq_iff : partialCompare a b = some .eq ↔ a = b := by
  by_cases heq : a = b
  · simp [partialCompare, heq]
  · -- Only two wildcards could tie here, and to those no order is given.
    have hdecided : ¬ (a.isWildcard ∧ b.isWildcard) → totalCompare a b ≠ .eq := by
      simp [totalCompare_eq_iff, heq]
    by_cases hwild : a.isWildcard ∧ b.isWildcard
    · simp [partialCompare, heq, hwild]
    · simp [partialCompare, heq, hwild, hdecided hwild]

theorem partialCompare_none_iff :
    partialCompare a b = none ↔ a ≠ b ∧ a.isWildcard ∧ b.isWildcard := by
  by_cases heq : a = b <;> simp [partialCompare, heq]

/-- What the order of bounds decides, the order of releases decides alike. -/
theorem totalCompare_of_partialCompare (h : partialCompare a b = some o) :
    totalCompare a b = o := by
  simp only [partialCompare] at h
  split at h
  · rename_i heq
    rw [← Option.some.inj h]
    exact totalCompare_eq_iff.2 (.inl heq)
  · split at h
    · contradiction
    · exact Option.some.inj h

theorem totalCompare_of_partialCompare_none (h : partialCompare a b = none) :
    totalCompare a b = .eq :=
  totalCompare_eq_iff.2 (.inr (partialCompare_none_iff.1 h).2)

theorem partialCompare_swap (a b : Level) :
    partialCompare b a = (partialCompare a b).map Ordering.swap := by
  by_cases heq : a = b
  · simp [partialCompare, heq]
  · by_cases hwild : a.isWildcard ∧ b.isWildcard
    · rw [partialCompare_none_iff.2 ⟨heq, hwild⟩,
        partialCompare_none_iff.2 ⟨Ne.symm heq, hwild.symm⟩]
      rfl
    · have hswap : totalCompare b a = (totalCompare a b).swap := Std.OrientedCmp.eq_swap
      simp [partialCompare, heq, Ne.symm heq, hwild, mt And.symm hwild, hswap]

end Level

namespace Version

/-! ## Rows of levels -/

variable {passed : Bool} {as bs : List Level} {o : Ordering}

/-- The row stops before a wildcard of the other: as far as it goes the two tie, and the
other goes on with a wildcard. -/
def StopsAtWildcard : List Level → List Level → Prop
  | [], c :: _ => c.isWildcard
  | a :: as, c :: cs => Level.totalCompare a c = .eq ∧ StopsAtWildcard as cs
  | _, [] => False

@[simp] theorem compareLevels_cons (a b : Level) (as bs : List Level) :
    compareLevels (a :: as) (b :: bs) = (Level.totalCompare a b).then (compareLevels as bs) :=
  rfl

theorem compareLevels_of_stopsAtWildcard (h : StopsAtWildcard as bs) :
    compareLevels as bs = .lt := by
  fun_induction StopsAtWildcard as bs with
  | case1 => rfl
  | case2 a as b bs ih => rw [compareLevels_cons, h.1, ih h.2]; rfl
  | case3 => exact h.elim

/-- The one equation behind the laws: what it takes for a row to be surely below another.
Wildcards that were passed make no difference to it. -/
theorem partialCompareLevels_lt_iff :
    partialCompareLevels passed as bs = some .lt ↔
      compareLevels as bs = .lt ∧ ¬ StopsAtWildcard as bs := by
  fun_induction partialCompareLevels passed as bs with
  | case1 | case2 => simp [compareLevels]
  | case3 passed b bs hwild | case4 passed b bs hwild =>
    simp [compareLevels, StopsAtWildcard, hwild]
  | case5 | case6 => simp [compareLevels]
  | case7 passed a as b bs heq ih =>
    have htie := Level.totalCompare_of_partialCompare heq
    simpa [StopsAtWildcard, htie] using ih
  | case8 passed a as b bs o hne ho =>
    -- These levels decide, so neither row just stops.
    have hdecided := Level.totalCompare_of_partialCompare ho
    cases o <;> simp_all [StopsAtWildcard]
  | case9 passed a as b bs hnone ih =>
    have htie := Level.totalCompare_of_partialCompare_none hnone
    simpa [StopsAtWildcard, htie] using ih

theorem partialCompareLevels_eq_iff :
    partialCompareLevels passed as bs = some .eq ↔ passed = false ∧ as = bs := by
  fun_induction partialCompareLevels passed as bs with
  | case1 | case2 => simp_all
  | case3 | case4 | case5 | case6 => simp
  | case7 passed a as b bs heq ih => simpa [Level.partialCompare_eq_iff.1 heq] using ih
  | case8 passed a as b bs o hne ho =>
    have hab : a ≠ b := by
      rintro rfl
      exact hne (Option.some.inj (ho.symm.trans (Level.partialCompare_eq_iff.2 rfl)))
    simpa [hab] using hne
  | case9 passed a as b bs hnone ih =>
    simpa [(Level.partialCompare_none_iff.1 hnone).1] using ih

theorem partialCompareLevels_swap (passed : Bool) (as bs : List Level) :
    partialCompareLevels passed bs as = (partialCompareLevels passed as bs).map Ordering.swap := by
  fun_induction partialCompareLevels passed as bs with
  | case1 | case2 => simp_all [partialCompareLevels]
  | case3 | case4 | case5 | case6 => simp_all [partialCompareLevels]
  | case7 passed a as b bs heq ih =>
    simp [partialCompareLevels, Level.partialCompare_swap a b, heq, ih]
  | case8 passed a as b bs o hne ho =>
    cases o <;> simp_all [partialCompareLevels, Level.partialCompare_swap a b]
  | case9 passed a as b bs hnone ih =>
    simp [partialCompareLevels, Level.partialCompare_swap a b, hnone, ih]

/-- An order is missing only where a wildcard is: in one of the rows, or passed before. -/
theorem wildcard_of_partialCompareLevels_none (h : partialCompareLevels passed as bs = none) :
    passed ∨ as.any Level.isWildcard ∨ bs.any Level.isWildcard := by
  fun_induction partialCompareLevels passed as bs with
  | case1 => simp_all
  | case2 | case4 | case6 | case8 => contradiction
  | case3 | case5 => simp_all
  | case7 passed a as b bs heq ih =>
    rcases ih h with hpassed | has | hbs
    · exact .inl hpassed
    · exact .inr (.inl (by simp [has]))
    · exact .inr (.inr (by simp [hbs]))
  | case9 passed a as b bs hnone =>
    exact .inr (.inl (by simp [(Level.partialCompare_none_iff.1 hnone).2.1]))

/-- Where the partial order decides, the levels decide alike. -/
theorem compareLevels_of_partialCompareLevels (h : partialCompareLevels passed as bs = some o) :
    compareLevels as bs = o := by
  cases o with
  | lt => exact (partialCompareLevels_lt_iff.1 h).1
  | eq => exact (partialCompareLevels_eq_iff.1 h).2 ▸ Std.ReflCmp.compare_self
  | gt =>
    have hswap : partialCompareLevels passed bs as = some .lt := by
      rw [partialCompareLevels_swap, h]
      rfl
    exact Std.OrientedCmp.gt_iff_lt.2 (partialCompareLevels_lt_iff.1 hswap).1

/-- Before a wildcard the order is open. -/
theorem partialCompareLevels_of_stopsAtWildcard (h : StopsAtWildcard as bs) :
    partialCompareLevels passed as bs = none := by
  have hlt := compareLevels_of_stopsAtWildcard h
  cases hdecided : partialCompareLevels passed as bs with
  | none => rfl
  | some o =>
    have ho : o = .lt := by rw [← compareLevels_of_partialCompareLevels hdecided, hlt]
    subst ho
    exact ((partialCompareLevels_lt_iff.1 hdecided).2 h).elim

/-! ## The text of a version that was read -/

theorem levels_parse_ne_nil (text : Text) (padding : Padding) :
    (parse text padding).levels ≠ [] := by
  have hgiven : text.splitOn '.' ≠ [] := List.splitOn_ne_nil '.' text
  cases padding <;> simp [parse, Padding.fill?, hgiven]

theorem dot_not_mem_of_mem_levels {text : Text} {padding : Padding} {level : Level}
    (h : level ∈ (parse text padding).levels) : '.' ∉ level.raw := by
  have hgiven : ∀ l ∈ (text.splitOn '.').map Level.mk, '.' ∉ l.raw := by
    simpa using fun piece => Text.not_mem_of_mem_splitOn
  cases padding with
  | unpadded => exact hgiven level h
  | reference | concrete =>
    rcases List.mem_append.1 h with hmem | hfill
    · exact hgiven level hmem
    · rw [List.eq_of_mem_replicate hfill]
      decide

/-- The text that a version shows says which levels it has. -/
theorem splitOn_display (text : Text) (padding : Padding) :
    (parse text padding).display.splitOn '.' = (parse text padding).levels.map Level.raw :=
  List.splitOn_intercalate '.' (by simpa using fun level => dot_not_mem_of_mem_levels)
    (by simpa using levels_parse_ne_nil text padding)

/-! ## Versions -/

/-- Versions that were read tie if and only if they are the same. -/
theorem totalCompare_parse_eq_iff (s t : Text) (p q : Padding) :
    (parse s p).totalCompare (parse t q) = .eq ↔ (parse s p).same (parse t q) := by
  simp only [totalCompare, Ordering.then_eq_eq, same, decide_eq_true_eq]
  refine ⟨fun h => ?_, fun h => ?_⟩
  · -- All wildcards tie, so the levels alone would not do; the text has to be taken apart.
    have hdisplay : (parse s p).display = (parse t q).display :=
      Std.LawfulEqOrd.eq_of_compare h.2
    have hraw : (parse s p).levels.map Level.raw = (parse t q).levels.map Level.raw := by
      rw [← splitOn_display, ← splitOn_display, hdisplay]
    exact List.map_inj_right (fun a b hab => congrArg Level.mk hab) |>.1 hraw
  · have hdisplay : (parse s p).display = (parse t q).display := by simp only [display, h]
    rw [h, hdisplay]
    exact ⟨Std.ReflCmp.compare_self, Std.ReflOrd.compare_self⟩

theorem partialCompare_eq_iff_same (a b : Version) :
    a.partialCompare b = some .eq ↔ a.same b := by
  simp [partialCompare, partialCompareLevels_eq_iff, same]

theorem partialCompare_swap (a b : Version) :
    b.partialCompare a = (a.partialCompare b).map Ordering.swap :=
  partialCompareLevels_swap false a.levels b.levels

theorem below_iff {a b : Version} :
    a.below b ↔ compareLevels a.levels b.levels = .lt ∧ ¬ StopsAtWildcard a.levels b.levels := by
  rw [below, decide_eq_true_eq, partialCompare, partialCompareLevels_lt_iff]

theorem below_iff_above {a b : Version} : a.below b ↔ b.above a := by
  rw [below, above, partialCompare_swap a b]
  cases a.partialCompare b with
  | none => simp
  | some o => cases o <;> simp

/-- From below to below leads below, unless the last version goes on with a wildcard where the
first one stops. -/
theorem below_iff_of_below {a b c : Version} (hab : a.below b) (hbc : b.below c) :
    a.below c ↔ ¬ StopsAtWildcard a.levels c.levels := by
  rw [below_iff] at hab hbc ⊢
  exact and_iff_right (Std.TransCmp.lt_trans hab.1 hbc.1)

/-- What the order of bounds decides, the order of releases decides alike. -/
theorem totalCompare_of_partialCompare {a b : Version} {o : Ordering}
    (h : a.partialCompare b = some o) : a.totalCompare b = o := by
  have hlevels := compareLevels_of_partialCompareLevels h
  cases o with
  | lt | gt => simp [totalCompare, hlevels]
  | eq =>
    have hsame : a.levels = b.levels := (partialCompareLevels_eq_iff.1 h).2
    rw [totalCompare, hlevels, display, display, hsame]
    exact Std.ReflOrd.compare_self

/-- The order by which releases are sorted is a total one, on the versions that can be
read, and it goes on from the order of bounds, which is open only at wildcards. -/
theorem totalCompare_laws (s t u : Text) (p q r : Padding) :
    (parse t q).totalCompare (parse s p) = ((parse s p).totalCompare (parse t q)).swap ∧
    (((parse s p).totalCompare (parse t q)).isLE → ((parse t q).totalCompare (parse u r)).isLE →
      ((parse s p).totalCompare (parse u r)).isLE) ∧
    (∀ o, (parse s p).totalCompare (parse t q) = o → (parse t q).totalCompare (parse u r) = o →
      (parse s p).totalCompare (parse u r) = o) ∧
    ((parse s p).totalCompare (parse t q) = .eq ↔ (parse s p).same (parse t q)) ∧
    (∀ o, (parse s p).partialCompare (parse t q) = some o →
      (parse s p).totalCompare (parse t q) = o) ∧
    ((parse s p).partialCompare (parse t q) = none →
      (parse s p).hasWildcard ∨ (parse t q).hasWildcard) := by
  refine ⟨Std.OrientedCmp.eq_swap, Std.TransCmp.isLE_trans, fun o hab hbc => ?_,
    totalCompare_parse_eq_iff s t p q, fun o => totalCompare_of_partialCompare, fun h => ?_⟩
  · cases o with
    | lt => exact Std.TransCmp.lt_trans hab hbc
    | eq => exact Std.TransCmp.eq_trans hab hbc
    | gt => exact Std.TransCmp.gt_trans hab hbc
  · simpa [hasWildcard] using wildcard_of_partialCompareLevels_none h

/-- The order of bounds is a strict one up to the wildcards: from below to below leads
below, except to a version that goes on with a wildcard where the first one stops, and
with that one there is no order. -/
theorem partialCompare_laws (a b c : Version) :
    (a.below b → b.below c → (a.below c ↔ ¬ StopsAtWildcard a.levels c.levels)) ∧
    (StopsAtWildcard a.levels c.levels → a.partialCompare c = none) ∧
    (a.below b ↔ b.above a) ∧
    (a.partialCompare b = some .eq ↔ a.same b) :=
  ⟨below_iff_of_below, partialCompareLevels_of_stopsAtWildcard, below_iff_above,
    partialCompare_eq_iff_same a b⟩

/-- A version that stands for others may be below what is below it. -/
theorem below_not_transitive :
    (unpadded ("1" : Text)).below (unpadded ("1.5" : Text)) ∧
    (unpadded ("1.5" : Text)).below (unpadded ("1.x" : Text)) ∧
    (unpadded ("1" : Text)).partialCompare (unpadded ("1.x" : Text)) = none := by
  decide

end Version

end UpgradeGraph
