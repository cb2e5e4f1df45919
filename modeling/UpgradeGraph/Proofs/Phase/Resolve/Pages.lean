import UpgradeGraph.Phase.Resolve
import UpgradeGraph.Proofs.Chunks
import UpgradeGraph.Proofs.Conduct.Work
import UpgradeGraph.Proofs.Graph.Sound

/-!
# The pages that the resolve phase reads

A page goes on after the last row of the page before it. Where rows are numbered upwards, as
they are in a sound store, what comes after the last row of a page is what the page has left
(`Store.recordsAfter_last`). So the pages, one after another, are the packages of the store in
their order, cut into pieces of one length: none is left out where two pages meet, and none is
read twice (`pages_of_spared`). When a call is disturbed the pages may end early, but what they
hold still comes from packages of the store (`mem_pages`).

Batches are these pages or pieces of them, and hold the same records (`flatten_batches`).
-/

namespace UpgradeGraph

/-- A package as the resolver reads it. -/
def Row.record (row : Row Package) : DependencyRecord :=
  ⟨row.id, row.node.coordinate, row.node.library, row.node.dependencies⟩

/-! ## Reading -/

/-- The calls by which the resolve phase learns what there is to do are never disturbed. Those of
its workers may be. -/
structure Disturber.SparesReads {φ : Type} (disturb : Disturber φ) : Prop where
  packageCount : ∀ memory, (disturb .packageCount memory).1 = none
  dependencyPage : ∀ after limit memory, (disturb (.dependencyPage after limit) memory).1 = none

theorem Disturber.IsQuiet.sparesReads {φ : Type} {disturb : Disturber φ} (h : disturb.IsQuiet) :
    disturb.SparesReads :=
  ⟨h _, fun _ _ => h _⟩

namespace World

variable {φ : Type} {disturb : Disturber φ} {c : StoreCall} {w : World φ}

/-- To ask for something that is only read leaves the store alone. -/
theorem store_of_ask (hread : ∀ s, (c.perform s).2 = s) {answer : Except PhaseError c.Answer}
    {w' : World φ} (h : w.ask disturb c = (answer, w')) : w'.store = w.store := by
  have hstore : (w.ask disturb c).2.store = w.store := by
    obtain ⟨memory, hcall | ⟨-, ⟨a, -, hcall⟩ | ⟨e, hcall⟩ | hcall⟩⟩ := call_cases disturb c w <;>
      simp [ask, hcall, hread]
  rwa [h] at hstore

/-- A call that is never disturbed is answered by the store. -/
theorem ask_of_spared (hd : ∀ memory, (disturb c memory).1 = none) :
    ∃ memory, w.ask disturb c =
      (.ok (c.perform w.store).1, { w with store := (c.perform w.store).2, memory }) := by
  obtain ⟨memory, hcall⟩ := call_of_spared hd w
  exact ⟨memory, by simp [ask, hcall]⟩

/-- Without a disturbance the store answers. -/
theorem ask_of_quiet (hd : disturb.IsQuiet) :
    ∃ memory, w.ask disturb c =
      (.ok (c.perform w.store).1, { w with store := (c.perform w.store).2, memory }) :=
  ask_of_spared (hd c)

end World

namespace Store

/-- Packages have rows of their own, numbered upwards and not from 0. -/
def Numbered (s : Store) : Prop := Row.Ascending s.packages

variable {s : Store}

theorem Sound.numbered (h : s.Sound) : s.Numbered := h.packageIds.toAscending

/-- The records of the packages that come after a row. -/
def recordsAfter (s : Store) (after : Nat) : List DependencyRecord :=
  (s.ownPackages.filter fun row => after < row.id).map Row.record

/-- How much there is room for on a page, which has room for everything from some limit on. -/
def pageLength (s : Store) (limit : Nat) : Nat :=
  if limit < unlimited then limit else max limit s.ownPackages.length

theorem le_pageLength (limit : Nat) : limit ≤ s.pageLength limit := by
  unfold pageLength
  split <;> omega

/-- A page is the first of what comes after its row. -/
theorem dependencyPage_eq (after limit : Nat) :
    s.dependencyPage after limit = (s.recordsAfter after).take (s.pageLength limit) := by
  simp only [dependencyPage, Int.ofNat_lt, pageLength, recordsAfter, ← List.map_take]
  split
  · rfl
  · have hlength := List.length_filter_le (fun row => after < row.id) s.ownPackages
    rw [List.take_of_length_le (by omega)]
    rfl

/-- After a row of an ascending list comes what is left of the list when it is split there. -/
theorem filter_after_last (rows rest : List (Row Package)) {last : Row Package}
    (hsorted : (rows ++ rest).Pairwise fun a b => a.id < b.id) (hlast : rows.getLast? = some last) :
    (rows ++ rest).filter (fun row => last.id < row.id) = rest := by
  obtain ⟨init, rfl⟩ := List.getLast?_eq_some_iff.1 hlast
  obtain ⟨hrows, -, hrest⟩ := List.pairwise_append.1 hsorted
  have hbefore : ∀ row ∈ init ++ [last], ¬ last.id < row.id := by
    intro row hrow
    rcases List.mem_append.1 hrow with hrow | hrow
    · have := (List.pairwise_append.1 hrows).2.2 row hrow last (by simp)
      omega
    · simp [List.mem_singleton.1 hrow]
  rw [List.filter_append, List.filter_eq_nil_iff.2 (by simpa using hbefore),
    List.filter_eq_self.2 (by simpa using fun row hrow => hrest last (by simp) row hrow)]
  rfl

namespace Numbered

variable (h : s.Numbered)

include h

theorem ownPackages_pairwise : s.ownPackages.Pairwise fun a b => a.id < b.id :=
  (List.pairwise_map.1 h.ascending).sublist List.filter_sublist

theorem recordsAfter_zero : s.recordsAfter 0 = s.ownPackages.map Row.record := by
  rw [recordsAfter, List.filter_eq_self.2 fun row hrow => ?_]
  exact decide_eq_true (h.positive row (mem_ownPackages.1 hrow).1)

/-- After the last row of a page comes what the page has left. -/
theorem recordsAfter_last {after n : Nat} {last : DependencyRecord}
    (hlast : ((s.recordsAfter after).take n).getLast? = some last) :
    s.recordsAfter last.rowId = (s.recordsAfter after).drop n := by
  have hsorted : (s.ownPackages.filter fun row => after < row.id).Pairwise
      fun a b => a.id < b.id := h.ownPackages_pairwise.sublist List.filter_sublist
  rw [recordsAfter, ← List.map_take, List.getLast?_map, Option.map_eq_some_iff] at hlast
  obtain ⟨row, hrow, rfl⟩ := hlast
  have hafter : after < row.id := by
    have hmem := List.mem_of_mem_take (List.mem_of_getLast? hrow)
    simpa using (List.mem_filter.1 hmem).2
  rw [← List.take_append_drop n (s.ownPackages.filter fun row => after < row.id)] at hsorted
  have hsplit := filter_after_last _ _ hsorted hrow
  rw [List.take_append_drop, List.filter_filter] at hsplit
  rw [recordsAfter, recordsAfter, ← List.map_drop, ← hsplit]
  refine congrArg (List.map Row.record) (List.filter_congr fun r _ => ?_)
  have hrecord : row.record.rowId = row.id := rfl
  rw [hrecord, ← Bool.decide_and, decide_eq_decide]
  omega

end Numbered

end Store

namespace Resolve

variable {φ : Type} {disturb : Disturber φ}

/-- Reading pages leaves the store alone. -/
theorem store_pages (disturb : Disturber φ) (size after : Nat) (w : World φ) :
    (pages disturb size after w).2.store = w.store := by
  fun_induction pages disturb size after w with
  | case1 after w e w' hask => exact World.store_of_ask (fun _ => rfl) hask
  | case2 after w page next hask hlast => exact World.store_of_ask (fun _ => rfl) hask
  | case3 after w page next hask last hlast rest failure w' hrest ih =>
    rw [hrest] at ih
    exact ih.trans (World.store_of_ask (fun _ => rfl) hask)

/-- What a page holds is a package of the store. -/
theorem mem_pages {size after : Nat} {w : World φ} {page : List DependencyRecord}
    {record : DependencyRecord} (hpage : page ∈ (pages disturb size after w).1.1)
    (hrecord : record ∈ page) : ∃ row ∈ w.store.ownPackages, row.record = record := by
  fun_induction pages disturb size after w with
  | case1 => exact absurd hpage List.not_mem_nil
  | case2 => exact absurd hpage List.not_mem_nil
  | case3 after w first next hask last hlast rest failure w' hrest ih =>
    obtain ⟨hfirst, hstore⟩ := World.eq_of_ask_ok rfl hask
    rw [hrest, hstore] at ih
    rcases List.mem_cons.1 hpage with rfl | hpage
    · rw [hfirst, StoreCall.perform, Store.dependencyPage_eq] at hrecord
      obtain ⟨row, hrow, rfl⟩ := List.mem_map.1 (List.mem_of_mem_take hrecord)
      exact ⟨row, (List.mem_filter.1 hrow).1, rfl⟩
    · exact ih hpage

/-- Pages that are not disturbed are what comes after a row, cut into pieces. -/
theorem pages_of_spared (hd : disturb.SparesReads) {size : Nat} (hsize : 0 < size) (after : Nat)
    {w : World φ} (hs : w.store.Numbered) :
    ∃ memory, pages disturb size after w =
      ((chunks (w.store.pageLength size) (w.store.recordsAfter after), none),
        { w with memory }) := by
  have hlength : 0 < w.store.pageLength size := Nat.lt_of_lt_of_le hsize (Store.le_pageLength size)
  fun_induction pages disturb size after w with
  | case1 after w e w' hask =>
    obtain ⟨memory, hanswer⟩ := World.ask_of_spared (w := w) (hd.dependencyPage after size)
    rw [hask] at hanswer
    cases (congrArg Prod.fst hanswer)
  | case2 after w page next hask hlast =>
    obtain ⟨memory, hanswer⟩ := World.ask_of_spared (w := w) (hd.dependencyPage after size)
    rw [hask] at hanswer
    obtain ⟨hpage, rfl⟩ := Prod.mk.inj hanswer
    obtain rfl : page = [] := List.getLast?_eq_none_iff.1 hlast
    simp only [StoreCall.perform, Store.dependencyPage_eq, Except.ok.injEq, eq_comm (a := []),
      List.take_eq_nil_iff, Nat.ne_of_gt hlength, false_or] at hpage
    exact ⟨memory, by rw [hpage, chunks]; rfl⟩
  | case3 after w page next hask last hlast rest failure w' hrest ih =>
    obtain ⟨memory, hanswer⟩ := World.ask_of_spared (w := w) (hd.dependencyPage after size)
    rw [hask] at hanswer
    obtain ⟨hpage, rfl⟩ := Prod.mk.inj hanswer
    obtain ⟨memory', hpages⟩ := ih hs hlength
    rw [hrest] at hpages
    simp only [StoreCall.perform, Store.dependencyPage_eq, Except.ok.injEq] at hpage
    obtain ⟨hrest', rfl⟩ := Prod.mk.inj hpages
    obtain ⟨rfl, rfl⟩ := Prod.mk.inj hrest'
    have hne : w.store.recordsAfter after ≠ [] := by
      intro hnil
      simp [hpage, hnil] at hlast
    refine ⟨memory', ?_⟩
    rw [chunks_of_ne_nil hlength hne, ← hs.recordsAfter_last (hpage ▸ hlast), ← hpage]
    rfl

/-- Batches hold what the pages hold. -/
theorem flatten_batches (config : ResolverConfig) (pages : List (List DependencyRecord)) :
    (batches config pages).flatten = pages.flatten := by
  unfold batches
  split
  · rfl
  · exact flatten_chunks _ _

/-- The records that a run hands out, in batches. -/
def handouts (disturb : Disturber φ) (config : ResolverConfig) (w : World φ) :
    List (List DependencyRecord) :=
  batches config (pages disturb (max 1 config.batchSize) 0 w).1.1

/-- What is handed out is a package of the store. -/
theorem mem_handouts {config : ResolverConfig} {w : World φ} {records : List DependencyRecord}
    {record : DependencyRecord} (hrecords : records ∈ handouts disturb config w)
    (hrecord : record ∈ records) : ∃ row ∈ w.store.ownPackages, row.record = record := by
  have hflat := List.mem_flatten_of_mem hrecords hrecord
  rw [handouts, flatten_batches] at hflat
  obtain ⟨page, hpage, hrecord⟩ := List.mem_flatten.1 hflat
  exact mem_pages hpage hrecord

/-- Without a disturbance every package of the store is handed out once. -/
theorem flatten_handouts (config : ResolverConfig) {w : World φ} (hd : disturb.SparesReads)
    (hs : w.store.Numbered) :
    (handouts disturb config w).flatten = w.store.ownPackages.map Row.record := by
  obtain ⟨memory, hpages⟩ := pages_of_spared hd (Nat.le_max_left 1 config.batchSize) 0 hs
  rw [handouts, flatten_batches, hpages, flatten_chunks, hs.recordsAfter_zero]

end Resolve

end UpgradeGraph
