import UpgradeGraph.Phase.Chain
import UpgradeGraph.Phase.Target
import UpgradeGraph.Proofs.Conduct.Work
import UpgradeGraph.Proofs.Graph.Declared

/-!
# Conduct of the chain and target phases

Workers of these phases add edges of one sort between nodes that are there, and nothing
else. They rely on no more than that the store grows, and owe each other nothing
(`Store.upkeep`).

A successor needs no reason. A target needs a link that was there before it, and there is
one: only constraints that contain some release are handed out, and no link is removed.
-/

namespace UpgradeGraph

/-- The conduct of workers that add edges of a sort. -/
@[reducible] def Store.upkeep (may : Edge → Prop) : Conduct Store where
  Holds s := s.Sound ∧ s.Justified
  Leads s t := s.Grows may t
  Duty := Empty
  Due := nofun
  Met := nofun
  refl := .refl
  trans := .trans
  met {g} := nomatch g

namespace Work

variable {φ : Type} {disturb : Disturber φ} {may : Edge → Prop} {α β : Type} {s : Store}

/-- From a store on that is as it should be, the work keeps to the conduct. -/
def Upkeeps (disturb : Disturber φ) (may : Edge → Prop) (x : Work α) (s : Store) : Prop :=
  s.Sound ∧ s.Justified → ∀ tally,
    x.Yields disturb (Store.upkeep may) (fun _ _ _ => True) tally s

theorem upkeeps_pure (a : α) : (pure a : Work α).Upkeeps disturb may s :=
  fun _ _ => yields_pure trivial

theorem upkeeps_modify (f : Tally → Tally) : (modify f : Work Unit).Upkeeps disturb may s :=
  fun _ _ => yields_modify trivial

/-- What a call answers does not matter. -/
theorem upkeeps_read {c : StoreCall} {f : c.Answer → Work β} (hread : ∀ t, (c.perform t).2 = t)
    (h : ∀ a t, s.Grows may t → (f a).Upkeeps disturb may t) :
    (call c >>= f).Upkeeps disturb may s := by
  have hquiet : False → disturb.IsQuiet := False.elim
  intro _ tally
  exact yields_read hquiet (fun _ _ _ => trivial) hread
    fun t hst ht => ⟨h _ t hst ht tally, fun _ a _ => h a t hst ht tally⟩

/-- An edge of the sort may be added if it has its reason. -/
theorem upkeeps_createEdge {e : Edge} {f : Bool → Work β} (hmay : may e)
    (hbacks : ∀ t, s.Grows may t → t.Backs e)
    (h : ∀ isNew t, s.Grows may t → (f isNew).Upkeeps disturb may t) :
    (call (.createEdge e) >>= f).Upkeeps disturb may s := by
  have hquiet : False → disturb.IsQuiet := False.elim
  intro _ tally
  refine yields_call hquiet (fun _ _ _ => trivial) fun t hst ht => ?_
  have hg : t.Grows may (t.createEdge e).2 := Store.grows_createEdge hmay
  have hpermits : t.Permits (.createEdge e) := hbacks t hst
  have hold : (t.createEdge e).2.Sound ∧ (t.createEdge e).2.Justified :=
    ⟨ht.1.createEdge e, ht.2.perform hpermits⟩
  exact ⟨hold, hg, nofun, h _ _ (hst.trans hg) hold tally, fun _ _ => nofun⟩

theorem upkeeps_bind {x : Work α} {f : α → Work β} (hx : x.Upkeeps disturb may s)
    (hf : ∀ a t, s.Grows may t → (f a).Upkeeps disturb may t) :
    (x >>= f).Upkeeps disturb may s := by
  intro hs tally
  refine yields_bind hs ((hx hs tally).mono hs ?_)
  intro r tally t hst ht _
  cases r with
  | error e => trivial
  | ok a => exact hf a t hst ht tally

/-- A share of such work keeps to the conduct. -/
theorem ensures_upkeep {subject : α → Text} {work : α → Work Unit} {items : List α} {w : World φ}
    (hw : w.store.Sound ∧ w.store.Justified)
    (h : ∀ a ∈ items, ∀ t, w.store.Grows may t → (work a).Upkeeps disturb may t) :
    (share subject work items).Ensures (World.serve disturb) ((Store.upkeep may).onWorld φ)
      (fun _ _ => True) w := by
  have hlasting : ∀ _ : α, (Store.upkeep may).Lasting fun _ => True := fun _ _ _ _ => id
  refine (ensures_share hlasting subject items hw fun a ha tally t hst ht =>
    h a ha t hst ht tally).mono hw fun _ _ _ _ _ => trivial

end Work

/-! ## The chain phase -/

namespace Chain

variable {φ : Type} {disturb : Disturber φ} {s : Store}

theorem upkeeps_link (entries : List VersionEntry) :
    (link entries).Upkeeps disturb (·.kind = .next) s := by
  fun_induction link entries generalizing s with
  | case1 a b rest ih =>
    exact Work.upkeeps_createEdge rfl (fun _ _ => trivial) fun isNew t _ =>
      Work.upkeeps_bind ih fun others _ _ => Work.upkeeps_pure _
  | case2 => exact Work.upkeeps_pure 0

theorem upkeeps_library (name : Text) : (library name).Upkeeps disturb (·.kind = .next) s :=
  Work.upkeeps_read (fun _ => rfl) fun entries _ _ =>
    Work.upkeeps_bind (upkeeps_link (ascending entries)) fun _ _ _ => Work.upkeeps_modify _

end Chain

/-! ## The target phase -/

namespace Target

variable {φ : Type} {disturb : Disturber φ} {s : Store} {c : Constraint}

/-- A constraint is listed if it is one of the store's ecosystem, contains some release and has no
target yet. -/
theorem mem_untargetedConstraints : c ∈ s.untargetedConstraints ↔
    (∃ row ∈ s.constraints, row.node = c) ∧ c.ecosystem = s.ecosystem ∧
      s.hasEdgeFrom .references c.coordinate = true ∧
      s.hasEdgeFrom .currentTarget c.coordinate = false := by
  simp [Store.untargetedConstraints, and_assoc]

theorem upkeeps_constraint (maxDepth : Nat)
    (hlinked : s.hasEdgeFrom .references c.coordinate = true) :
    (constraint maxDepth c).Upkeeps disturb (·.kind = .currentTarget) s := by
  refine Work.upkeeps_read (fun _ => rfl) fun reachable t hst => ?_
  cases Choice.target? c.rangeSpec reachable with
  | none => exact Work.upkeeps_modify _
  | some target =>
    exact Work.upkeeps_createEdge rfl (fun _ htu => (hst.trans htu).hasEdgeFrom hlinked)
      fun _ _ _ => Work.upkeeps_modify _

end Target

end UpgradeGraph
