import UpgradeGraph.Graph.Reach
import UpgradeGraph.Version.Order

/-!
# The choice of a target

Among the releases that a constraint reaches, its target is the one that an upgrade
would lead to. That is a tip: a release without a successor, and not one that the
constraint contains already. Of several tips the latest published is taken. Where no
tip is free, the next release after one that the constraint contains has to do.

Prereleases and builds come last. A range without such a mark looks for a tip without
one first, and considers the others only if there is none; a range with a mark considers
all of them at once.
-/

namespace UpgradeGraph

/-- The last of the greatest items, by an order. -/
def lastGreatest? {α : Type} (order : α → α → Ordering) : List α → Option α
  | [] => none
  | a :: rest => some (rest.foldl (fun best b => if order best b = .gt then best else b) a)

/-- The first of the least items, by an order. -/
def firstLeast? {α : Type} (order : α → α → Ordering) : List α → Option α
  | [] => none
  | a :: rest => some (rest.foldl (fun best b => if order best b = .gt then b else best) a)

namespace Reachable

/-- The order of two releases by their versions, as they stand. -/
def compareVersions (a b : Reachable) : Ordering :=
  (Version.unpadded a.version).totalCompare (.unpadded b.version)

/-- The order of two moments; one that is not known comes first. -/
def compareMoments : Option Int → Option Int → Ordering
  | none, none => .eq
  | none, some _ => .lt
  | some _, none => .gt
  | some a, some b => compare a b

/-- The order of two releases by when they were published and then by their versions. -/
def compareRanks (a b : Reachable) : Ordering :=
  (compareMoments a.publishedAt b.publishedAt).then (compareVersions a b)

end Reachable

namespace Choice

/-- The tips that the constraint does not contain; those with a mark only if they are
wanted. -/
def freeTips (marked : Bool) (reachable : List Reachable) : List Reachable :=
  reachable.filter fun r => r.isTip && !r.isReferenced && (marked || !r.isPrerelease)

/-- The releases one hop past those that the constraint contains. -/
def successors (reachable : List Reachable) : List Reachable :=
  reachable.filter fun r => r.hops = 1 && !r.isReferenced

/-- The latest free tip. -/
def latestTip? (marked : Bool) (reachable : List Reachable) : Option Reachable :=
  lastGreatest? Reachable.compareRanks (freeTips marked reachable)

/-- The lowest successor. -/
def lowestSuccessor? (reachable : List Reachable) : Option Reachable :=
  firstLeast? Reachable.compareVersions (successors reachable)

/-- The target among all releases, marked ones included. -/
def amongAll? (reachable : List Reachable) : Option Reachable :=
  (latestTip? true reachable).or (lowestSuccessor? reachable)

/-- The target of a range among the releases that it reaches. -/
def target? (rangeSpec : Text) (reachable : List Reachable) : Option Reachable :=
  if hasReleaseMark rangeSpec then amongAll? reachable
  else (latestTip? false reachable).or (amongAll? reachable)

end Choice

theorem lastGreatest?_mem {α : Type} {order : α → α → Ordering} {items : List α} {a : α}
    (h : lastGreatest? order items = some a) : a ∈ items := by
  cases items with
  | nil => simp [lastGreatest?] at h
  | cons b rest =>
    simp only [lastGreatest?, Option.some.injEq] at h
    subst h
    suffices ∀ c, rest.foldl (fun best b => if order best b = .gt then best else b) c ∈ c :: rest from
      this b
    induction rest with
    | nil => simp
    | cons d rest ih =>
      intro c
      rw [List.foldl_cons]
      split
      · rcases List.mem_cons.1 (ih c) with h | h
        · simp [h]
        · simp [h]
      · exact List.mem_cons_of_mem _ (ih d)

theorem firstLeast?_mem {α : Type} {order : α → α → Ordering} {items : List α} {a : α}
    (h : firstLeast? order items = some a) : a ∈ items := by
  cases items with
  | nil => simp [firstLeast?] at h
  | cons b rest =>
    simp only [firstLeast?, Option.some.injEq] at h
    subst h
    suffices ∀ c, rest.foldl (fun best b => if order best b = .gt then b else best) c ∈ c :: rest from
      this b
    induction rest with
    | nil => simp
    | cons d rest ih =>
      intro c
      rw [List.foldl_cons]
      split
      · exact List.mem_cons_of_mem _ (ih d)
      · rcases List.mem_cons.1 (ih c) with h | h
        · simp [h]
        · simp [h]

end UpgradeGraph
