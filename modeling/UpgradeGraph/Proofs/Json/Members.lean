import Mathlib.Data.List.Forall2
import UpgradeGraph.Json.Decode

/-!
# Members of objects

A tree keeps the members of an object as they stand in the text (`Tree.listed`). A record takes the
fields that it knows out of them (`field_of_ofTree`), and an object that is taken with whatever keys
it has keeps all of them (`entries_of_any`).
-/

namespace UpgradeGraph.Json

variable {α β : Type} {f : α → Option β} {items : List α} {taken : List β}

/-- The members of an object, as they stand in the text. -/
def Tree.listed : Tree → List (Text × Tree)
  | .object members => members.filterMap fun (key, value) => (characters? key).map (·, value)
  | _ => []

/-- No key of the object comes twice. -/
def Tree.HasDistinctKeys (tree : Tree) : Prop := (tree.listed.map Prod.fst).Nodup

def Tree.member? (tree : Tree) (name : Text) : Option Tree := tree.listed.lookup name

/-- All items are taken, one after another. -/
theorem forall₂_of_mapM (h : items.mapM f = some taken) :
    List.Forall₂ (fun a b => f a = some b) items taken := by
  induction items generalizing taken with
  | nil =>
    obtain rfl := Option.some.inj h
    exact .nil
  | cons a items ih =>
    simp only [List.mapM_cons, Option.bind_eq_bind, Option.bind_eq_some_iff] at h
    obtain ⟨b, hb, rest, hrest, ⟨⟩⟩ := h
    exact .cons hb (ih hrest)

theorem filterMap_of_mapM {g : α → Option β} (hfg : ∀ a b, f a = some b → g a = some b)
    (h : items.mapM f = some taken) : items.filterMap g = taken := by
  have hforall := forall₂_of_mapM h
  clear h
  induction hforall with
  | nil => rfl
  | cons hb _ ih => rw [List.filterMap_cons_some (hfg _ _ hb), ih]

theorem map_getElem?_of_mapM (h : items.mapM f = some taken) (i : Nat) :
    taken[i]?.map some = items[i]?.map f := by
  have hforall := forall₂_of_mapM h
  clear h
  induction hforall generalizing i with
  | nil => rfl
  | cons hb _ ih =>
    cases i with
    | zero => exact congrArg some hb.symm
    | succ i => exact ih i

/-- A field that comes once is the member with its name. -/
theorem lookup_of_pick {members : List (Text × Tree)} {name : Text} {value : Option Tree}
    (h : Fields.pick members name = some value) : members.lookup name = value := by
  have hlookup : members.lookup name = ((members.filter (·.1 = name)).head?).map Prod.snd := by
    clear h
    induction members with
    | nil => rfl
    | cons m members ih =>
      obtain ⟨key, value⟩ := m
      by_cases hkey : key = name
      · simp [hkey]
      · have hne : (name == key) = false := beq_eq_false_iff_ne.2 (Ne.symm hkey)
        rw [List.lookup_cons, hne, List.filter_cons_of_neg (by simpa using hkey)]
        exact ih
  rw [hlookup]
  rw [Fields.pick] at h
  split at h
  next hnone =>
    rw [hnone]
    exact Option.some.inj h
  next hone =>
    rw [hone]
    exact Option.some.inj h
  next => cases h

/-- The value of a field of a record, by the place of its name. -/
def Tree.field? (tree : Tree) (names : List Text) (i : Nat) : Option Tree :=
  match tree with
  | .object _ => names[i]?.bind tree.member?
  | .array items => items[i]?
  | _ => none

theorem field_of_ofTree {names : List Text} {depth : Nat} {tree : Tree} {fields : Fields}
    (h : Fields.ofTree names depth tree = some fields) (i : Nat) :
    fields.values[i]?.join = tree.field? names i := by
  unfold Fields.ofTree at h
  by_cases hdepth : depth = 0
  · rw [if_pos hdepth] at h
    cases h
  rw [if_neg hdepth] at h
  cases tree with
  | object members =>
    simp only [Option.bind_eq_bind, Option.bind_eq_some_iff] at h
    obtain ⟨pairs, hpairs, values, hvalues, ⟨⟩⟩ := h
    have hlisted : (Tree.object members).listed = pairs :=
      filterMap_of_mapM (fun member pair hpair => by
        obtain ⟨key, hkey, ⟨⟩⟩ := Option.bind_eq_some_iff.1 hpair
        show (characters? member.1).map (·, member.2) = _
        rw [hkey]
        rfl) hpairs
    show values[i]?.join = names[i]?.bind (Tree.object members).member?
    have hvalue := map_getElem?_of_mapM hvalues i
    cases hname : names[i]? with
    | none =>
      rw [hname] at hvalue
      rw [Option.map_eq_none_iff.1 hvalue]
      rfl
    | some name =>
      rw [hname] at hvalue
      obtain ⟨value, hvalue, hpick⟩ := Option.map_eq_some_iff.1 hvalue
      show values[i]?.join = (Tree.object members).listed.lookup name
      rw [hlisted, lookup_of_pick hpick.symm, hvalue]
      rfl
  | array items =>
    by_cases hlength : items.length ≤ names.length
    · simp only [if_pos hlength, Option.some.injEq] at h
      obtain rfl := h
      show (items.map some)[i]?.join = items[i]?
      cases hi : items[i]? <;> simp [hi]
    · simp [hlength] at h
  | _ => cases h

/-- Any values are taken as they stand, and of a repeated key the last one is. -/
theorem entries_of_any {depth : Nat} {tree : Tree} {entries : Entries Tree}
    (h : Decoder.entries .any depth tree = some entries) : entries = .ofList tree.listed := by
  unfold Decoder.entries at h
  cases tree with
  | object members =>
    by_cases hdepth : depth = 0
    · simp [hdepth] at h
    simp only [if_neg hdepth, Option.bind_eq_bind, Option.bind_eq_some_iff] at h
    obtain ⟨pairs, hpairs, ⟨⟩⟩ := h
    have hlisted : (Tree.object members).listed = pairs :=
      filterMap_of_mapM (fun member pair hpair => by
        obtain ⟨key, hkey, hpair⟩ := Option.bind_eq_some_iff.1 hpair
        obtain ⟨value, hvalue, ⟨⟩⟩ := Option.bind_eq_some_iff.1 hpair
        obtain ⟨-, rfl⟩ : _ ∧ member.2 = value := by simpa [Decoder.any] using hvalue
        show (characters? member.1).map (·, member.2) = _
        rw [hkey]
        rfl) hpairs
    rw [hlisted]
  | _ => cases h

end UpgradeGraph.Json
