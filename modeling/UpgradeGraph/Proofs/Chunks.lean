import UpgradeGraph.Phase.Work

/-!
# Pieces of a list

Work is handed out, and listings are read, in pieces of one length. The pieces make up the list
(`flatten_chunks`), and each of them can be told by itself: it is as much as fits in after all that
the pieces before it have taken (`getElem?_chunks`).
-/

namespace UpgradeGraph

variable {α : Type}

theorem flatten_chunks (length : Nat) (items : List α) : (chunks length items).flatten = items := by
  fun_induction chunks length items with
  | case1 => rfl
  | case2 a rest ih => simp [ih]

/-- What is not empty begins with its first piece. -/
theorem chunks_of_ne_nil {length : Nat} {items : List α} (hlength : 0 < length)
    (h : items ≠ []) :
    chunks length items = items.take length :: chunks length (items.drop length) := by
  obtain ⟨n, rfl⟩ := Nat.exists_eq_add_one.2 hlength
  cases items with
  | nil => exact absurd rfl h
  | cons a rest => rw [chunks]; rfl

/-- No piece is empty, none is longer than the others, and only the last may be shorter. -/
theorem length_of_mem_chunks {length : Nat} (hlength : 0 < length) (items : List α) :
    (∀ piece ∈ chunks length items, piece ≠ [] ∧ piece.length ≤ length) ∧
      ∀ piece ∈ (chunks length items).dropLast, piece.length = length := by
  fun_induction chunks length items with
  | case1 => exact ⟨nofun, nofun⟩
  | case2 a rest ih =>
    obtain ⟨hall, hfull⟩ := ih
    refine ⟨List.forall_mem_cons.2 ⟨⟨List.cons_ne_nil _ _, ?_⟩, hall⟩, ?_⟩
    · simp only [List.length_cons, List.length_take]
      omega
    · cases hrest : chunks length (rest.drop (length - 1)) with
      | nil => exact nofun
      | cons next pieces =>
        rw [hrest] at hfull
        rw [List.dropLast_cons_cons]
        refine List.forall_mem_cons.2 ⟨?_, hfull⟩
        -- There is a next piece, so this one has left something.
        have hleft : rest.drop (length - 1) ≠ [] := by
          intro hnil
          rw [hnil, chunks] at hrest
          cases hrest
        have := List.length_pos_iff.2 hleft
        simp only [List.length_drop] at this
        simp only [List.length_cons, List.length_take]
        omega

/-- The piece at a place, if so much has not been taken by those before it. -/
theorem getElem?_chunks {length : Nat} (hlength : 0 < length) (items : List α) (i : Nat) :
    (chunks length items)[i]? =
      if i * length < items.length then some ((items.drop (i * length)).take length) else none := by
  induction i generalizing items with
  | zero =>
    cases items with
    | nil => simp [chunks]
    | cons a rest => simp [chunks_of_ne_nil hlength (List.cons_ne_nil a rest)]
  | succ i ih =>
    by_cases hnil : items = []
    · simp [hnil, chunks]
    · have hiff : i * length < items.length - length ↔ i * length + length < items.length := by
        omega
      rw [chunks_of_ne_nil hlength hnil, List.getElem?_cons_succ, ih, List.drop_drop,
        List.length_drop, Nat.succ_mul, Nat.add_comm length]
      simp only [hiff]

/-- All pieces but the last are full. -/
theorem length_chunks_mul_lt {length : Nat} (hlength : 0 < length) (items : List α) :
    (chunks length items).length * length < items.length + length := by
  cases hcount : (chunks length items).length with
  | zero => omega
  | succ n =>
    have hlast : (chunks length items)[n]? ≠ none := by
      rw [ne_eq, List.getElem?_eq_none_iff]
      omega
    rw [getElem?_chunks hlength] at hlast
    have hlt : n * length < items.length :=
      Decidable.byContradiction fun hge => hlast (if_neg hge)
    rw [Nat.succ_mul]
    omega

end UpgradeGraph
