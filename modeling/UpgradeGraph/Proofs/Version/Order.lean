import UpgradeGraph.Version.Order

/-!
# Laws of the order of versions

The order by which releases are sorted is a total one, whatever the texts: levels are
compared by a chain of keys, versions level by level, and what is left in the end is the
text. Since that text is what was read, no two releases of different texts tie
(`compareTexts` is lawful), although their levels may, as all wildcards do.

Each comparison is an instance of `Std.TransCmp`, in the order in which the definitions
build on each other.
-/

namespace UpgradeGraph

namespace Level

/-! ## Levels -/

instance : Std.TransCmp compareTails where
  eq_swap {a b} := by
    cases ha : a.tail? <;> cases hb : b.tail? <;> simp only [compareTails, ha, hb]
    · exact Std.OrientedOrd.eq_swap
    · rfl
    · rfl
    · exact Std.OrientedOrd.eq_swap
  isLE_trans {a b c} hab hbc := by
    -- A level without a tail is above all that have one, so a mixed row has one order only.
    cases ha : a.tail? <;> cases hb : b.tail? <;> cases hc : c.tail? <;>
      simp only [compareTails, ha, hb, hc] at hab hbc ⊢
    · exact Std.TransOrd.isLE_trans hbc hab
    · contradiction
    · contradiction
    · contradiction
    · rfl
    · contradiction
    · rfl
    · exact Std.TransOrd.isLE_trans hab hbc

instance : Std.TransCmp compareSameNumber :=
  inferInstanceAs (Std.TransCmp (compareLex compareTails (compareOn raw)))

/-- The order of two numeric levels: by their digits, and then by the rest. -/
def compareNumeric : Level → Level → Ordering :=
  compareLex (compareLex (compareOn (·.digits.length)) (compareOn digits)) compareSameNumber

instance : Std.TransCmp compareNumeric :=
  inferInstanceAs (Std.TransCmp
    (compareLex (compareLex (compareOn (·.digits.length)) (compareOn digits)) compareSameNumber))

/-- Levels that are no wildcards: the words, and above them the numbers. -/
theorem compareConcrete_eq (a b : Level) :
    compareConcrete a b =
      match a.isNumeric, b.isNumeric with
      | false, false => compare a.raw b.raw
      | false, true => .lt
      | true, false => .gt
      | true, true => compareNumeric a b := rfl

instance : Std.TransCmp compareConcrete where
  eq_swap {a b} := by
    cases ha : a.isNumeric <;> cases hb : b.isNumeric <;> simp only [compareConcrete_eq, ha, hb]
    · exact Std.OrientedOrd.eq_swap
    · rfl
    · rfl
    · exact Std.OrientedCmp.eq_swap
  isLE_trans {a b c} hab hbc := by
    cases ha : a.isNumeric <;> cases hb : b.isNumeric <;> cases hc : c.isNumeric <;>
      simp only [compareConcrete_eq, ha, hb, hc] at hab hbc ⊢
    · exact Std.TransOrd.isLE_trans hab hbc
    · rfl
    · contradiction
    · rfl
    · contradiction
    · contradiction
    · contradiction
    · exact Std.TransCmp.isLE_trans hab hbc

instance : Std.TransCmp totalCompare where
  eq_swap {a b} := by
    cases ha : a.isWildcard <;> cases hb : b.isWildcard <;> simp only [totalCompare, ha, hb]
    · exact Std.OrientedCmp.eq_swap
    · rfl
    · rfl
    · rfl
  isLE_trans {a b c} hab hbc := by
    cases ha : a.isWildcard <;> cases hb : b.isWildcard <;> cases hc : c.isWildcard <;>
      simp only [totalCompare, ha, hb, hc] at hab hbc ⊢
    · exact Std.TransCmp.isLE_trans hab hbc
    · rfl
    · contradiction
    · rfl
    · contradiction
    · contradiction
    · contradiction
    · rfl

end Level

namespace Version

/-! ## Versions -/

theorem compareLevels_eq : compareLevels = List.compareLex Level.totalCompare := by
  funext as bs
  fun_induction compareLevels as bs with
  | case1 => rfl
  | case2 => rfl
  | case3 => rfl
  | case4 a as b bs ih =>
    rw [List.compareLex_cons_cons, ih]

instance : Std.TransCmp compareLevels :=
  compareLevels_eq ▸ inferInstanceAs (Std.TransCmp (List.compareLex Level.totalCompare))

instance : Std.TransCmp totalCompare where
  eq_swap {a b} := by
    simp only [totalCompare, Ordering.swap_then]
    rw [← Std.OrientedCmp.eq_swap, ← Std.OrientedOrd.eq_swap]
  isLE_trans {a b c} hab hbc := by
    simp only [totalCompare, Ordering.isLE_then_iff_or] at hab hbc ⊢
    rcases hab with hab | ⟨hab, hab'⟩ <;> rcases hbc with hbc | ⟨hbc, hbc'⟩
    · exact .inl (Std.TransCmp.lt_trans hab hbc)
    · exact .inl (Std.TransCmp.lt_of_lt_of_eq hab hbc)
    · exact .inl (Std.TransCmp.lt_of_eq_of_lt hab hbc)
    · exact .inr ⟨Std.TransCmp.eq_trans hab hbc, Std.TransOrd.isLE_trans hab' hbc'⟩

/-- A release shows the text that it was read from. -/
theorem display_unpadded (text : Text) : (unpadded text).display = text := by
  have hraw : (text.splitOn '.').map (Level.raw ∘ Level.mk) = text.splitOn '.' :=
    List.map_id _
  simp only [display, unpadded, parse, Padding.fill?, List.map_map, hraw]
  exact List.intercalate_splitOn '.'

/-- The order of two texts as releases. -/
def compareTexts (a b : Text) : Ordering := (unpadded a).totalCompare (unpadded b)

instance : Std.TransCmp compareTexts where
  eq_swap {a b} := @Std.OrientedCmp.eq_swap _ totalCompare _ (unpadded a) (unpadded b)
  isLE_trans {a b c} :=
    @Std.TransCmp.isLE_trans _ totalCompare _ (unpadded a) (unpadded b) (unpadded c)

/-- Releases that tie have one text. -/
instance : Std.LawfulEqCmp compareTexts where
  compare_self {a} := @Std.ReflCmp.compare_self _ totalCompare _ (unpadded a)
  eq_of_compare {a b} h := by
    have hdisplay := (Ordering.then_eq_eq.1 h).2
    rw [display_unpadded, display_unpadded] at hdisplay
    exact Std.LawfulEqOrd.eq_of_compare hdisplay

end Version

end UpgradeGraph
