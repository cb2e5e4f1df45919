import UpgradeGraph.Proofs.Phase.Target

/-!
# Moments of a target run

At every moment of a target run, whatever has befallen its calls by then, the store is the one
that the run started with, and edges behind those that were there, each from a listed
constraint to what is found for it (`moment_receives`). The workers keep to a conduct that
says no more than that. What a constraint reaches does not change with such edges, so what is
found for it is what was to be found when the run started, however far the others have come.
-/

namespace UpgradeGraph

/-! ## Edges and nothing else -/

/-- From `s` to `t` edges of a sort have been added, and nothing else has been. -/
def Store.Receives (may : Edge → Prop) (s t : Store) : Prop :=
  ∃ new, t = { s with edges := s.edges ++ new } ∧ ∀ e ∈ new, may e

namespace Store.Receives

variable {may : Edge → Prop} {s t u : Store} {e : Edge}

theorem refl (s : Store) : s.Receives may s := ⟨[], by simp, nofun⟩

theorem createEdge (h : s.Receives may t) (he : may e) : s.Receives may (t.createEdge e).2 := by
  obtain ⟨new, rfl, hnew⟩ := h
  unfold Store.createEdge
  split
  · refine ⟨new ++ [e], by simp, fun e' he' => ?_⟩
    rcases List.mem_append.1 he' with he' | he'
    · exact hnew e' he'
    · rwa [List.mem_singleton.1 he']
  · exact ⟨new, rfl, hnew⟩

theorem grows (h : s.Receives may t) : s.Grows may t := by
  obtain ⟨new, rfl, hnew⟩ := h
  exact ⟨rfl, rfl, ⟨[], by simp⟩, new, rfl, hnew⟩

end Store.Receives

namespace Target

/-! ## What a run may enter -/

/-- The edges that a run may enter, given the store that it started with. -/
def MayEnter (start : Store) (maxDepth : Nat) (e : Edge) : Prop :=
  ∃ c ∈ start.untargetedConstraints, ∃ target, goal start maxDepth c = some target ∧
    e = ⟨.currentTarget, c.coordinate, target⟩

variable {start s : Store} {maxDepth : Nat} {e : Edge} {c : Constraint}

theorem MayEnter.kind_eq (h : MayEnter start maxDepth e) : e.kind = .currentTarget := by
  obtain ⟨c, -, target, -, rfl⟩ := h
  rfl

/-- What a constraint reaches is the same at every moment of a run. -/
theorem reachable_of_receives (h : start.Receives (MayEnter start maxDepth) s) (name : Text)
    (hops : Nat) : s.reachable name hops = start.reachable name hops :=
  h.grows.reachable (fun e he hmay => by simp [hmay.kind_eq] at he) name hops

/-- Edges of other kinds are those that were there when the run started. -/
theorem mem_edges_of_receives (h : start.Receives (MayEnter start maxDepth) s)
    (he : e.kind ≠ .currentTarget) : e ∈ s.edges ↔ e ∈ start.edges :=
  h.grows.mem_of_not_may fun hmay => he hmay.kind_eq

/-! ## Moments -/

section Moments

variable {φ : Type} {disturb : Disturber φ}

/-- The conduct of a run that started with the given store. Nothing is owed. -/
@[reducible] def conduct (start : Store) (maxDepth : Nat) : Conduct Store where
  Holds s := start.Receives (MayEnter start maxDepth) s
  Leads _ _ := True
  Duty := Empty
  Due := nofun
  Met := nofun
  refl _ := trivial
  trans _ _ := trivial
  met {g} := nomatch g

/-- Work on a listed constraint enters what is found for it, or nothing. -/
theorem yields_constraint (hc : c ∈ start.untargetedConstraints) (tally : Tally) (s : Store) :
    (constraint maxDepth c).Yields disturb (conduct start maxDepth) (fun _ _ _ => True) tally s := by
  have hloud : False → disturb.IsQuiet := False.elim
  have hseen : ∀ answer, World.unseen? (.reachable c.coordinate maxDepth) ≠ some answer := by
    simp [World.unseen?]
  refine Work.yields_read hloud (fun _ _ _ => trivial) (fun _ => rfl) fun t _ ht =>
    ⟨?_, fun _ answer ha => absurd ha (hseen answer)⟩
  have hreach : ((StoreCall.reachable c.coordinate maxDepth).perform t).1 =
      start.reachable c.coordinate maxDepth := reachable_of_receives ht c.coordinate maxDepth
  rw [hreach]
  cases htarget : Choice.target? c.rangeSpec (start.reachable c.coordinate maxDepth) with
  | none => exact Work.yields_modify trivial
  | some r =>
    have hmay : MayEnter start maxDepth ⟨.currentTarget, c.coordinate, r.coordinate⟩ :=
      ⟨c, hc, r.coordinate, by simp [goal, htarget], rfl⟩
    exact Work.yields_call hloud (fun _ _ _ => trivial) fun u _ hu =>
      ⟨hu.createEdge hmay, trivial, fun g _ => g.elim, Work.yields_modify trivial,
        fun _ _ _ => Work.yields_modify trivial⟩

/-- At every moment of a run the store has received what is found for listed constraints, and
nothing else. -/
theorem moment_receives (config : TargetConfig) (schedule : List Nat) (w : World φ) :
    w.store.Receives (MayEnter w.store config.maxDepth)
      ((launch disturb config w).moment disturb schedule).store := by
  obtain ⟨hstore, hshares⟩ := launch_shares disturb w config
  have hold : (conduct w.store config.maxDepth).Holds (launch disturb config w).world.store := by
    rw [hstore]
    exact .refl w.store
  refine (Launch.moment_allows (C := (conduct w.store config.maxDepth).onWorld φ)
    ⟨hold, fun p hp => ?_⟩ schedule).1
  obtain ⟨constraints, rfl, hlisted⟩ := hshares p hp
  refine (Work.ensures_share (R := fun _ _ => True) (fun _ _ _ _ => id) Constraint.coordinate
    constraints hold fun c hc tally t _ _ => yields_constraint (hlisted c hc) tally t).mono hold
    fun _ _ _ _ _ => trivial

end Moments

end Target

end UpgradeGraph
