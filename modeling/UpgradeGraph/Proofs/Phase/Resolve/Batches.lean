import Mathlib.Data.List.Perm.Subperm
import Mathlib.Logic.Relation
import UpgradeGraph.Proofs.Phase.Launch

/-!
# The batches of a resolve run

A run either reads all pages first and cuts what they hold into batches, or streams: it hands out
every page as it is, and reads the next one while workers are at those before. Both come to the
same batches (`both_modes_hand_out`), which are the packages of the store in the order of their
rows, cut into pieces of the batch size.

What workers enter while pages are read is never a package (`World.serve_grows`). So what a
streaming run has handed out and what it has still to read are always the batches of the store
that it started with (`Stream.Step.sound`), and the page that comes next is the next of them.
-/

namespace UpgradeGraph

/-! ## What workers leave as it is -/

/-- What resolve workers ask for adds constraints and edges. -/
theorem World.serve_grows {φ : Type} {disturb : Disturber φ} {s : Store} (a : Action)
    (w : World φ) (ha : a.IsCall StoreCall.IsResolving) (hw : s.Grows (fun _ => True) w.store) :
    s.Grows (fun _ => True) (serve disturb a w).2.store := by
  cases a with
  | call c =>
    have hgrows : s.Grows (fun _ => True) (c.perform w.store).2 := by
      cases c with
      | constraintExists _ | versionsOf _ => exact hw
      | upsertConstraint _ => exact hw.trans Store.grows_upsertConstraint
      | createEdge _ => exact hw.trans (Store.grows_createEdge trivial)
      | _ => exact ha.elim
    obtain ⟨memory, h | ⟨-, ⟨answer, -, h⟩ | ⟨e, h⟩ | h⟩⟩ := call_cases disturb c w <;>
      simp only [serve, h]
    · exact hgrows
    all_goals exact hw
  | log record => exact hw
  | count c n => exact hw

namespace Store

variable {s t : Store}

theorem Grows.dependencyPage {may : Edge → Prop} (h : s.Grows may t) (after : Int) (limit : Nat) :
    t.dependencyPage after limit = s.dependencyPage after limit := by
  rw [Store.dependencyPage, Store.dependencyPage, h.ownPackages]

/-- There are fewer rows than numbers below a bound on theirs. -/
theorem Numbered.length_ownPackages_lt {bound : Nat} (hs : s.Numbered) (hbound : 0 < bound)
    (hrows : ∀ row ∈ s.packages, row.id < bound) : s.ownPackages.length < bound := by
  have hsub : s.packages.map Row.id ⊆ List.range' 1 (bound - 1) := by
    intro id hid
    obtain ⟨row, hrow, rfl⟩ := List.mem_map.1 hid
    have := hs.positive row hrow
    have := hrows row hrow
    rw [List.mem_range'_1]
    omega
  have hnodup : (s.packages.map Row.id).Nodup := hs.ascending.imp Nat.ne_of_lt
  have hlength := (hnodup.subperm hsub).length_le
  have hown : s.ownPackages.length ≤ s.packages.length := List.length_filter_le _ _
  rw [List.length_map, List.length_range'] at hlength
  omega

/-- While no row has a number beyond what a page can be asked for, a page has room for as much as
it is asked for. -/
theorem Numbered.pageLength_eq (hs : s.Numbered) (hrows : ∀ row ∈ s.packages, row.id < unlimited)
    (limit : Nat) : s.pageLength limit = limit := by
  have := hs.length_ownPackages_lt (by decide) hrows
  unfold pageLength
  split <;> omega

end Store

namespace Resolve

variable {φ : Type}

/-! ## Streaming -/

/-- How far a streaming run has come. -/
structure Stream (φ : Type) where
  world : World φ
  /-- The last row that has been read. -/
  last : Nat
  /-- What has been handed out. -/
  handed : List (List DependencyRecord)
  /-- What workers are at, and behind it what waits for them. -/
  shares : List (Worker Unit)

namespace Stream

/-- A streaming run before its first page. -/
def start (w : World φ) : Stream φ := ⟨w, 0, [], []⟩

variable (disturb : Disturber φ) (ecosystem : Ecosystem) (config : ResolverConfig)

/-- The answer to the request for the next page. -/
def read (t : Stream φ) : Except PhaseError (List DependencyRecord) × World φ :=
  t.world.ask disturb (.dependencyPage t.last (max 1 config.batchSize))

/-- A step of a streaming run: a page that is not empty is handed out, or a worker has a turn. -/
inductive Step : Stream φ → Stream φ → Prop
  | page {t : Stream φ} {records : List DependencyRecord} {last : DependencyRecord} {w : World φ}
      (hread : t.read disturb config = (.ok records, w)) (hlast : records.getLast? = some last) :
      Step t ⟨w, last.rowId, t.handed ++ [records],
        t.shares ++ [batch ecosystem config.relinkExisting records]⟩
  | turn (t : Stream φ) (i : Nat) :
      Step t { t with
        shares := (Pool.turn (World.serve disturb) (poolSize config) i t.shares t.world).1
        world := (Pool.turn (World.serve disturb) (poolSize config) i t.shares t.world).2 }

variable {disturb ecosystem config} {s : Store} {t u : Stream φ}

/-- Since the store `s` nothing has happened but what workers do, and what is left to read makes up
all batches with what has been handed out. -/
structure Sound (s : Store) (config : ResolverConfig) (t : Stream φ) : Prop where
  working : Pool.Keeping (Action.IsCall StoreCall.IsResolving)
    (fun w : World φ => s.Grows (fun _ => True) w.store) t.shares t.world
  batches : t.handed ++ chunks (s.pageLength (max 1 config.batchSize)) (s.recordsAfter t.last) =
    chunks (s.pageLength (max 1 config.batchSize)) (s.recordsAfter 0)

theorem start_sound (w : World φ) : (start w).Sound w.store config :=
  ⟨⟨nofun, .refl w.store⟩, rfl⟩

theorem pageLength_pos (s : Store) (config : ResolverConfig) :
    0 < s.pageLength (max 1 config.batchSize) :=
  Nat.lt_of_lt_of_le (Nat.le_max_left 1 config.batchSize) (Store.le_pageLength _)

/-- What a page is answered with, if it is answered, is the first of what is left. -/
theorem Sound.read_eq (h : t.Sound s config) {records : List DependencyRecord} {w : World φ}
    (hread : t.read disturb config = (.ok records, w)) : w.store = t.world.store ∧
      records = (s.recordsAfter t.last).take (s.pageLength (max 1 config.batchSize)) := by
  obtain ⟨hpage, hstore⟩ := World.eq_of_ask_ok rfl hread
  rw [StoreCall.perform, h.working.state.dependencyPage, Store.dependencyPage_eq] at hpage
  exact ⟨hstore, hpage⟩

theorem Step.sound (hs : s.Numbered) (h : t.Sound s config)
    (hstep : Step disturb ecosystem config t u) : u.Sound s config := by
  cases hstep with
  | @page records last w hread hlast =>
    obtain ⟨hstore, hrecords⟩ := h.read_eq hread
    refine ⟨⟨fun p hp => ?_, ?_⟩, ?_⟩
    · rcases List.mem_append.1 hp with hp | hp
      · exact h.working.asks p hp
      · rw [List.mem_singleton.1 hp]
        exact asks_batch _ _ _
    · simpa only [hstore] using h.working.state
    · -- The page is the first piece of what was left to read, and the other pieces are still left.
      have hne : s.recordsAfter t.last ≠ [] := by
        intro hnil
        simp [hrecords, hnil] at hlast
      have hbatches := h.batches
      rw [chunks_of_ne_nil (pageLength_pos s config) hne, ← hrecords,
        ← hs.recordsAfter_last (hrecords ▸ hlast)] at hbatches
      rw [List.append_assoc]
      exact hbatches
  | turn i =>
    exact ⟨Pool.turn_induction (Pool.Keeping.step fun a w => World.serve_grows a w)
      (poolSize config) i h.working, h.batches⟩

/-- However far a streaming run has come, workers have left its batches alone. -/
theorem sound_of_steps (hs : s.Numbered) (h : t.Sound s config)
    (hsteps : Relation.ReflTransGen (Step disturb ecosystem config) t u) : u.Sound s config := by
  induction hsteps with
  | refl => exact h
  | tail _ hstep ih => exact hstep.sound hs ih

/-- Either all batches have been handed out and the next page is empty, or it is the next batch. -/
theorem Sound.next (h : t.Sound s config) (hd : disturb.SparesReads) :
    let batches := chunks (s.pageLength (max 1 config.batchSize)) (s.recordsAfter 0)
    t.handed = batches ∧ (t.read disturb config).1 = .ok [] ∨
      ∃ page, (t.read disturb config).1 = .ok page ∧ page ≠ [] ∧
        t.handed ++ [page] <+: batches := by
  intro batches
  obtain ⟨memory, hask⟩ := World.ask_of_spared (w := t.world)
    (hd.dependencyPage t.last (max 1 config.batchSize))
  have hread : t.read disturb config = _ := hask
  obtain ⟨-, hrecords⟩ := h.read_eq hread
  have hbatches := h.batches
  rw [hread, hrecords]
  by_cases hnil : s.recordsAfter t.last = []
  · rw [hnil, chunks, List.append_nil] at hbatches
    exact .inl ⟨hbatches, by rw [hnil, List.take_nil]⟩
  · rw [chunks_of_ne_nil (pageLength_pos s config) hnil] at hbatches
    refine .inr ⟨_, rfl, ?_, _, (List.append_assoc _ _ _).trans hbatches⟩
    rw [ne_eq, List.take_eq_nil_iff, not_or]
    exact ⟨Nat.ne_of_gt (pageLength_pos s config), hnil⟩

end Stream

/-! ## Both modes -/

section Modes

variable {disturb : Disturber φ} {w : World φ} (hd : disturb.SparesReads) (hs : w.store.Numbered)
  (hrows : ∀ row ∈ w.store.packages, row.id < Store.unlimited)

include hd hs hrows

/-- A run of either mode finds out the same batches and starts its workers on them. -/
theorem exists_launch_eq (size : Nat) : ∃ memory, ∀ (config : ResolverConfig)
    (ecosystem : Ecosystem), config.batchSize = size → poolSize config ≤ World.maxWorkers →
      launch disturb ecosystem config w = .started { w with memory } (poolSize config)
        ((chunks (max 1 size) (w.store.ownPackages.map Row.record)).map
          (batch ecosystem config.relinkExisting)) := by
  obtain ⟨memory, hask⟩ := World.ask_of_spared (w := w) hd.packageCount
  obtain ⟨memory', hpages⟩ := pages_of_spared hd (Nat.le_max_left 1 size) 0
    (w := { w with memory }) hs
  rw [hs.pageLength_eq hrows, hs.recordsAfter_zero] at hpages
  refine ⟨memory', fun config ecosystem hsize hpool => ?_⟩
  subst hsize
  have hbatches : handouts disturb config { w with memory } =
      chunks (max 1 config.batchSize) (w.store.ownPackages.map Row.record) := by
    rw [handouts, hpages, batches, flatten_chunks, ite_self]
  simp only [launch, Nat.not_lt.2 hpool, if_false, hask, StoreCall.perform, hbatches, hpages]

/-- Both modes hand out the same batches, in the same order: the packages of the store's ecosystem
in the order of their rows, each of them once, in pieces of the batch size, of which only the last
may be shorter. A run whose pool can be made ends with totals after its workers have been given
these batches; one whose pool cannot be made dies before it hands out any. A streaming run that
reads its pages between the turns of its workers has, at any time, either handed out all of these
batches and is about to read an empty page, or it is about to read the next of them. -/
theorem both_modes_hand_out (size : Nat) :
    let records := w.store.ownPackages.map Row.record
    let batches := chunks (max 1 size) records
    (batches.flatten = records ∧ records.Pairwise fun a b => a.rowId < b.rowId) ∧
      (∀ piece ∈ batches, piece ≠ [] ∧ piece.length ≤ max 1 size) ∧
      (∀ piece ∈ batches.dropLast, piece.length = max 1 size) ∧
      (∃ memory, ∀ (config : ResolverConfig) (ecosystem : Ecosystem) (schedule : List Nat),
        config.batchSize = size →
        if poolSize config ≤ World.maxWorkers then
          let u := Pool.run (World.serve disturb) (poolSize config) schedule
            (batches.map (batch ecosystem config.relinkExisting))
            { w with memory, totals := {} }
          run disturb ecosystem config schedule w = (.ok u.totals, u)
        else run disturb ecosystem config schedule w = (.error .died, w)) ∧
      ∀ (config : ResolverConfig) (ecosystem : Ecosystem) (memory : φ) (t : Stream φ),
        config.batchSize = size →
        Relation.ReflTransGen (Stream.Step disturb ecosystem config)
          (Stream.start { w with memory }) t →
        t.handed = batches ∧ (t.read disturb config).1 = .ok [] ∨
          ∃ page, (t.read disturb config).1 = .ok page ∧ page ≠ [] ∧
            t.handed ++ [page] <+: batches := by
  intro records batches
  have hlengths := length_of_mem_chunks (Nat.le_max_left 1 size) records
  refine ⟨⟨flatten_chunks _ _, List.pairwise_map.2 hs.ownPackages_pairwise⟩, hlengths.1,
    hlengths.2, ?_, ?_⟩
  · obtain ⟨memory, hlaunch⟩ := exists_launch_eq hd hs hrows size
    refine ⟨memory, fun config ecosystem schedule hsize => ?_⟩
    split
    case isTrue hpool =>
      rw [run_eq, hlaunch config ecosystem hsize hpool]
      rfl
    case isFalse hpool =>
      rw [run_eq, launch, if_pos (Nat.lt_of_not_le hpool), Launch.conclude_failed]
  · intro config ecosystem memory t hsize hsteps
    subst hsize
    have hnext := (Stream.sound_of_steps hs (Stream.start_sound { w with memory }) hsteps).next hd
    rwa [hs.pageLength_eq hrows, hs.recordsAfter_zero] at hnext

end Modes

end Resolve

namespace Sample

/-- Packages of two ecosystems, with gaps between their rows. -/
def interleaved : Store :=
  let package (ecosystem : Ecosystem) (version : Text) : Package :=
    ⟨ecosystem, "ms", version, none, "\x7b\x7d"⟩
  { ecosystem := .npm, constraints := [], edges := [], lastPackage := 9, lastConstraint := 0,
    packages := [⟨1, package .nuget "1.0.0"⟩, ⟨2, package .npm "2.0.0"⟩, ⟨5, package .npm "2.1.0"⟩,
      ⟨6, package .nuget "1.1.0"⟩, ⟨9, package .npm "2.1.3"⟩] }

theorem interleaved_numbered : interleaved.Numbered := ⟨by decide, by decide⟩

end Sample

namespace Resolve

/-- Of the packages of one ecosystem among those of another, two make a batch and the last one the
other, and a run ends alike in both modes. -/
theorem sample_both_modes :
    let w : World Unit := { store := Sample.interleaved, memory := () }
    let batches := chunks 2 (w.store.ownPackages.map Row.record)
    batches.map (·.map (·.rowId)) = [[2, 5], [9]] ∧
      (∀ piece ∈ batches.dropLast, piece.length = 2) ∧
      (∃ totals u, ∀ streaming, run undisturbed .npm { batchSize := 2, streaming } [] w =
        (.ok totals, u)) ∧
      ∃ page, ((Stream.start w).read undisturbed { batchSize := 2 }).1 = .ok page ∧
        [page] <+: batches := by
  intro w batches
  obtain ⟨-, -, hfull, ⟨memory, hrun⟩, hstream⟩ := both_modes_hand_out (w := w)
    undisturbed_isQuiet.sparesReads Sample.interleaved_numbered (by decide +kernel) 2
  let u := Pool.run (World.serve undisturbed) 8 [] (batches.map (batch .npm false))
    { w with memory, totals := {} }
  have hmode : ∀ streaming, run undisturbed .npm { batchSize := 2, streaming } [] w =
      (.ok u.totals, u) := by
    intro streaming
    have hrun := hrun { batchSize := 2, streaming } .npm [] rfl
    have hpool : poolSize { batchSize := 2, streaming } ≤ World.maxWorkers :=
      (by decide : 8 ≤ World.maxWorkers)
    rwa [if_pos hpool] at hrun
  have hids : batches.map (·.map (·.rowId)) = [[2, 5], [9]] := by decide +kernel
  refine ⟨hids, hfull, ⟨_, _, hmode⟩, ?_⟩
  obtain ⟨hall, -⟩ | ⟨page, hread, -, hnext⟩ :=
    hstream { batchSize := 2 } .npm () (Stream.start w) rfl .refl
  · -- There are batches, and none has been handed out.
    have hnone : batches = [] := hall.symm
    simp [hnone] at hids
  · exact ⟨page, hread, hnext⟩

end Resolve

end UpgradeGraph
