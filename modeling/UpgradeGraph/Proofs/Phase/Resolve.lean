import UpgradeGraph.Proofs.Asking
import UpgradeGraph.Proofs.Conduct.Work
import UpgradeGraph.Proofs.Graph.Declared
import UpgradeGraph.Proofs.Phase.Resolve.Pages

/-!
# Conduct of the resolve phase

Resolve workers enter what packages declare, and nothing else; so the store stays sound and
justified. What they rely on besides is that packages stay as they are and that nothing is
removed.

A worker that finds a constraint there does not link it, so whoever enters one has to: that
is the duty of this conduct. `MayEnter` says which edges a run may enter. Of a constraint
that was there when the run started it enters links only if it has been asked to link again,
or if a disturbed call has not seen that constraint.

Main statement: a batch keeps to the conduct, and where no call is disturbed it covers the
declarations of its packages (`ensures_batch`). Which calls it makes at all is told without
the conduct (`asks_batch`).
-/

namespace UpgradeGraph

/-! ## Growth and declarations -/

namespace Store.Grows

variable {may : Edge → Prop} {s t : Store} {library range : Text}

theorem backs (h : s.Grows may t) {e : Edge} (he : s.Backs e) : t.Backs e :=
  he.mono h.ecosystem (fun _ hrow => h.ownPackages ▸ hrow) fun _ => h.mem_edges

theorem declares_iff (h : s.Grows may t) : t.Declares library range ↔ s.Declares library range := by
  rw [Declares, Declares, h.ownPackages]

theorem selects_iff (h : s.Grows may t) {release : Row Package} :
    t.Selects library range release ↔ s.Selects library range release := by
  rw [Selects, Selects, h.ownPackages, h.ecosystem]

theorem linked (h : s.Grows may t) (hs : s.Linked library range) : t.Linked library range :=
  fun release hrelease => h.mem_edges (hs release (h.selects_iff.1 hrelease))

end Store.Grows

/-- Of a range that cannot be read there is nothing to link. -/
theorem Store.linked_of_error {s : Store} {library range : Text} {e : RangeError}
    (h : Requirement.parse s.ecosystem library range = .error e) : s.Linked library range := by
  intro release hselects
  obtain ⟨requirement, hparse, -⟩ := hselects
  rw [h] at hparse
  cases hparse

namespace Resolve

open Work (Reaching)

/-- The edges that a run may enter, given the store that it started with. -/
def MayEnter (quiet : Prop) (relink : Bool) (start : Store) (e : Edge) : Prop :=
  e.kind = .dependsOn ∨ e.kind = .references ∧
    (¬ quiet ∨ relink = true ∨ start.constraintExists e.source = false)

/-- The conduct of a run that started with the given store. -/
@[reducible] def conduct (quiet : Prop) (relink : Bool) (start : Store) : Conduct Store where
  Holds s := s.Sound ∧ s.Justified ∧ start.Grows (MayEnter quiet relink start) s
  Leads s t := s.Grows (MayEnter quiet relink start) t
  Duty := Text × Text
  Due g s := quiet ∧ s.Declares g.1 g.2 ∧
    start.constraintExists (coordinate g.1 g.2) = false ∧
    s.constraintExists (coordinate g.1 g.2) = true
  Met g s := s.Linked g.1 g.2
  refl := .refl
  trans := .trans
  met := Store.Grows.linked

variable {φ : Type} {disturb : Disturber φ} {quiet : Prop} (hquiet : quiet → disturb.IsQuiet)
  {relink : Bool} {start : Store} {s : Store} {tally : Tally} {β : Type}

/-- An edge with its reason may be entered, and brings no duty about. -/
theorem conduct_createEdge {e : Edge} (hs : (conduct quiet relink start).Holds s)
    (hmay : MayEnter quiet relink start e) (hbacks : s.Backs e) :
    (conduct quiet relink start).Holds (s.createEdge e).2 ∧
      (conduct quiet relink start).Leads s (s.createEdge e).2 ∧
      ∀ g, (conduct quiet relink start).Due g (s.createEdge e).2 →
        (conduct quiet relink start).Due g s := by
  have hg : s.Grows (MayEnter quiet relink start) (s.createEdge e).2 := Store.grows_createEdge hmay
  refine ⟨⟨hs.1.createEdge e, hs.2.1.perform (c := .createEdge e) hbacks, hs.2.2.trans hg⟩, hg, ?_⟩
  intro g hg'
  obtain ⟨hq, hdeclares, hold, hnow⟩ := hg'
  obtain ⟨row, hrow, hcoord⟩ := Store.constraintExists_iff.1 hnow
  exact ⟨hq, hg.declares_iff.1 hdeclares, hold,
    Store.constraintExists_iff.2 ⟨row, Store.mem_constraints_createEdge.1 hrow, hcoord⟩⟩

section Calls

variable {Q : Except ItemError β → Tally → Store → Prop}
  (hfail : ¬ quiet → ∀ e t, Q (.error (.store e)) tally t)

include hquiet hfail

/-- An edge between nodes that are there is entered, and what follows finds it there. -/
theorem yields_createEdge {e : Edge} {f : Bool → Work β} (hmay : MayEnter quiet relink start e)
    (hbacks : s.Backs e) (hsource : s.nodeExists e.kind.endpoints.1 e.source = true)
    (htarget : s.nodeExists e.kind.endpoints.2 e.target = true)
    (h : ∀ isNew t, s.Grows (MayEnter quiet relink start) t →
      (conduct quiet relink start).Holds t → e ∈ t.edges →
      (f isNew).Yields disturb (conduct quiet relink start) Q tally t) :
    (Work.call (.createEdge e) >>= f).Yields disturb (conduct quiet relink start) Q tally s := by
  refine Work.yields_call hquiet hfail fun t hst ht => ?_
  obtain ⟨hold, hlead, hdue⟩ := conduct_createEdge ht hmay (hst.backs hbacks)
  have hfree : e.kind.isSingleValued = false := by
    rcases hmay with hkind | ⟨hkind, -⟩ <;> rw [hkind] <;> rfl
  refine ⟨hold, hlead, fun g hg => .inl (hdue g hg), ?_, fun _ _ => nofun⟩
  exact h _ _ (hst.trans hlead) hold
    (Store.mem_createEdge_self (hst.nodeExists hsource) (hst.nodeExists htarget) hfree)

end Calls

include hquiet

/-- A constraint that is there gets linked to every release that it contains. -/
theorem yields_link {library range : Text} {requirement : Requirement}
    (hdeclares : s.Declares library range)
    (hparse : Requirement.parse start.ecosystem library range = .ok requirement)
    (hnode : s.constraintExists (coordinate library range) = true)
    (hmay : ¬ quiet ∨ relink = true ∨ start.constraintExists (coordinate library range) = false) :
    (link requirement (coordinate library range)).Yields disturb (conduct quiet relink start)
      (Reaching quiet fun t => t.Linked library range) tally s := by
  refine Work.yields_read hquiet (fun hq _ _ => hq) (fun _ => rfl) fun t hst ht => ⟨?_, nofun⟩
  rw [Requirement.library_of_parse hparse]
  have hparse' : Requirement.parse t.ecosystem library range = .ok requirement := by
    rw [ht.2.2.ecosystem, hparse]
  -- The entries were read at `t` and are linked later, when the packages are still the same.
  let R (entry : VersionEntry) (u : Store) : Prop :=
    requirement.contains (.concrete entry.version) = true →
      ⟨.references, coordinate library range, entry.coordinate⟩ ∈ u.edges
  have hlasting : ∀ entry, (conduct quiet relink start).Lasting (R entry) :=
    fun _ _ _ hg hr hc => hg.mem_edges (hr hc)
  refine (Work.yields_forM quiet hlasting ht ?_).reaching_mono ht ?_
  · intro entry hentry tally u htu hu
    split
    next hcontains =>
      obtain ⟨release, hrelease, rfl⟩ := List.mem_map.1 hentry
      simp only [List.mem_filter, decide_eq_true_eq] at hrelease
      have hselects : t.Selects library range release :=
        ⟨requirement, hparse', hrelease.1, hrelease.2, hcontains⟩
      have hg := hst.trans htu
      refine yields_createEdge hquiet (fun hq _ _ => hq) (.inr ⟨rfl, hmay⟩)
        ⟨library, range, hg.declares_iff.2 hdeclares, rfl, release, htu.selects_iff.2 hselects, rfl⟩
        (hg.constraintExists hnode) ?_ fun isNew v _ _ hv => Work.yields_pure fun _ => hv
      exact Store.packageExists_iff.2
        ⟨release, htu.packages ▸ (Store.mem_ownPackages.1 hrelease.1).1, rfl⟩
    next hcontains => exact Work.yields_pure fun hc => absurd hc hcontains
  · intro u htu _ hall release hrelease
    obtain ⟨requirement', hread, hown, hlibrary, hcontains⟩ := htu.selects_iff.1 hrelease
    obtain rfl : requirement = requirement' := Except.ok.inj (hparse'.symm.trans hread)
    have hlisted : release ∈ t.ownPackages.filter (·.node.library = library) :=
      List.mem_filter.2 ⟨hown, by simpa using hlibrary⟩
    exact hall ⟨release.node.coordinate, release.node.version, release.node.publishedAt⟩
      (List.mem_map.2 ⟨release, hlisted, rfl⟩) hcontains

/-! ## One declared range -/

/-- What a worker does for a declared range whose node it has found. -/
def reuse (ecosystem : Ecosystem) (relink : Bool) (package library range : Text) :
    Work Unit := do
  let _ ← Work.call (.createEdge ⟨.dependsOn, package, coordinate library range⟩)
  Work.bump .reused
  match Requirement.parse ecosystem library range with
  | .error _ => return ()
  | .ok requirement => if relink then link requirement (coordinate library range)

/-- What a worker does for a declared range whose node it has not found. -/
def create (ecosystem : Ecosystem) (package library range : Text) : Work Unit := do
  match Requirement.parse ecosystem library range with
  | .error _ =>
    let _ ← enter package (.placeholder ecosystem library range)
    Work.bump .parseErrors
  | .ok requirement =>
    match ← enter package (.declared ecosystem library range requirement.floating) with
    | .created => Work.bump .created
    | .existing => Work.bump .reused
    link requirement (coordinate library range)

omit hquiet in
theorem dependency_eq (ecosystem : Ecosystem) (relink : Bool) (package library range : Text) :
    dependency ecosystem relink package library range =
      Work.call (.constraintExists (coordinate library range)) >>= fun seen =>
        if seen then reuse ecosystem relink package library range
        else create ecosystem package library range := rfl

omit hquiet in
theorem enter_bind (package : Text) (node : Constraint) (f : UpsertOutcome → Work Unit) :
    enter package node >>= f = Work.call (.upsertConstraint node) >>= fun outcome =>
      Work.call (.createEdge ⟨.dependsOn, package, node.coordinate⟩) >>= fun _ => f outcome := by
  simp only [enter, bind_assoc, pure_bind]

/-- The node of a declared range is there, and the edge that leads to it. -/
def Entered (package : Text) (pair : Text × Text) (s : Store) : Prop :=
  s.constraintExists (coordinate pair.1 pair.2) = true ∧
    ⟨.dependsOn, package, coordinate pair.1 pair.2⟩ ∈ s.edges

/-- A declared range is entered, and linked if that is asked for. -/
def Covered (relink : Bool) (package : Text) (pair : Text × Text) (s : Store) : Prop :=
  Entered package pair s ∧ (relink = true → s.Linked pair.1 pair.2)

omit hquiet in
theorem entered_lasting (package : Text) (pair : Text × Text) :
    (conduct quiet relink start).Lasting (Entered package pair) :=
  fun _ _ hg ⟨hnode, hedge⟩ => ⟨hg.constraintExists hnode, hg.mem_edges hedge⟩

omit hquiet in
theorem covered_lasting (package : Text) (pair : Text × Text) :
    (conduct quiet relink start).Lasting (Covered relink package pair) :=
  fun _ _ hg ⟨hentered, hlinked⟩ =>
    ⟨entered_lasting package pair _ _ hg hentered, fun h => hg.linked (hlinked h)⟩

section Declarer

variable {row : Row Package} {library range : Text} (hrow : row ∈ start.ownPackages)
  (hpair : (library, range) ∈ row.node.declared)

include hrow hpair

/-- The edge from a declarer to a node that is there, and what follows it. -/
theorem yields_dependsOn {f : Bool → Work Unit} {R : Store → Prop} (tally : Tally)
    (hs : (conduct quiet relink start).Holds s)
    (hnode : s.constraintExists (coordinate library range) = true)
    (hf : ∀ isNew t, s.Grows (MayEnter quiet relink start) t →
      (conduct quiet relink start).Holds t →
      (f isNew).Yields disturb (conduct quiet relink start) (Reaching quiet R) tally t) :
    (Work.call (.createEdge ⟨.dependsOn, row.node.coordinate, coordinate library range⟩) >>= f).Yields
      disturb (conduct quiet relink start)
      (Reaching quiet fun t => Entered row.node.coordinate (library, range) t ∧ R t) tally s := by
  have hown : row ∈ s.ownPackages := hs.2.2.ownPackages ▸ hrow
  refine yields_createEdge hquiet (fun hq _ _ => hq) (.inl rfl)
    ⟨row, hown, rfl, (library, range), hpair, rfl⟩
    (Store.packageExists_iff.2 ⟨row, (Store.mem_ownPackages.1 hown).1, rfl⟩) hnode ?_
  intro isNew t hst ht hedge
  have hentered : Entered row.node.coordinate (library, range) t :=
    ⟨hst.constraintExists hnode, hedge⟩
  refine ((hf isNew t hst ht).reaching_keep ht (entered_lasting _ _) hentered).reaching_mono ht ?_
  exact fun u _ _ hu => hu.symm

omit hquiet in
/-- The node of a declared range may be entered, and only its links are due then. -/
theorem conduct_upsertConstraint (hs : (conduct quiet relink start).Holds s) :
    let t := (s.upsertConstraint (.read start.ecosystem library range)).2
    (conduct quiet relink start).Holds t ∧ (conduct quiet relink start).Leads s t ∧
      t.constraintExists (coordinate library range) = true ∧
      ∀ g, (conduct quiet relink start).Due g t →
        (conduct quiet relink start).Due g s ∨ quiet ∧ g = (library, range) := by
  intro t
  have hg : s.Grows (MayEnter quiet relink start) t := Store.grows_upsertConstraint
  have hdeclares : s.Declares library range := ⟨row, hs.2.2.ownPackages ▸ hrow, hpair⟩
  have hpermits : s.Permits (.upsertConstraint (.read start.ecosystem library range)) :=
    ⟨library, range, hdeclares, by rw [hs.2.2.ecosystem]⟩
  refine ⟨⟨hs.1.upsertConstraint _, hs.2.1.perform hpermits, hs.2.2.trans hg⟩, hg,
    (Store.constraintExists_upsertConstraint _).2 (.inr rfl), ?_⟩
  intro g hg'
  obtain ⟨hq, hdeclares', hnew, hnow⟩ := hg'
  have hdeclares' := hg.declares_iff.1 hdeclares'
  rcases (Store.constraintExists_upsertConstraint _).1 hnow with hnow | hname
  · exact .inl ⟨hq, hdeclares', hnew, hnow⟩
  · -- The node is the one just entered, so the declared range is the one it stands for.
    obtain ⟨hlibrary, hrange⟩ := hs.2.1.declares_inj hdeclares hdeclares' hname
    exact .inr ⟨hq, by rw [hlibrary, hrange]⟩

/-- A declared range is entered by whoever then links it, which the entry makes due. -/
theorem yields_enter {f : UpsertOutcome → Work Unit}
    (hf : ∀ outcome t, s.Grows (MayEnter quiet relink start) t →
      (conduct quiet relink start).Holds t →
      t.constraintExists (coordinate library range) = true →
      (f outcome).Yields disturb (conduct quiet relink start)
        (Reaching quiet fun u => u.Linked library range) tally t) :
    (enter row.node.coordinate (.read start.ecosystem library range) >>= f).Yields disturb
      (conduct quiet relink start)
      (Reaching quiet fun t => Entered row.node.coordinate (library, range) t ∧
        t.Linked library range) tally s := by
  rw [enter_bind]
  refine Work.yields_call hquiet (fun hq _ _ => hq) fun t hst ht => ?_
  obtain ⟨hold, hlead, hnode, hdue⟩ := conduct_upsertConstraint hrow hpair ht
  have hrest := yields_dependsOn hquiet hrow hpair tally hold hnode
    fun _ u htu hu => hf (t.upsertConstraint (.read start.ecosystem library range)).1 u
      (hst.trans (hlead.trans htu)) hu (htu.constraintExists hnode)
  refine ⟨hold, hlead, fun g hg => (hdue g hg).imp_right ?_, hrest, fun _ _ => nofun⟩
  intro hg
  obtain ⟨hq, rfl⟩ := hg
  -- Where no call is disturbed the rest does not fail, so it meets the duty.
  refine hrest.mono hold ?_
  intro r _ u _ _ hu
  cases r with
  | error e => exact absurd hq hu
  | ok _ => exact hu.2

/-- A declared range whose node is there gets its edge, and links if they are asked for. -/
theorem yields_reuse (hs : (conduct quiet relink start).Holds s)
    (hnode : s.constraintExists (coordinate library range) = true) :
    (reuse start.ecosystem relink row.node.coordinate library range).Yields disturb
      (conduct quiet relink start)
      (Reaching quiet (Covered relink row.node.coordinate (library, range))) tally s := by
  refine yields_dependsOn hquiet hrow hpair tally hs hnode fun _ t hst ht => ?_
  refine Work.yields_bind ht (Work.yields_bump ?_)
  simp only
  cases hparse : Requirement.parse start.ecosystem library range with
  | error e => exact Work.yields_pure fun _ => Store.linked_of_error (ht.2.2.ecosystem ▸ hparse)
  | ok requirement =>
    cases relink with
    | false => exact Work.yields_pure nofun
    | true =>
      have hdeclares : t.Declares library range := ⟨row, ht.2.2.ownPackages ▸ hrow, hpair⟩
      refine (yields_link hquiet hdeclares hparse (hst.constraintExists hnode)
        (.inr (.inl rfl))).reaching_mono ht ?_
      exact fun u _ _ hu _ => hu

/-- A declared range whose node has not been seen is entered and linked. -/
theorem yields_create (hs : (conduct quiet relink start).Holds s)
    (hmay : ¬ quiet ∨ start.constraintExists (coordinate library range) = false) :
    (create start.ecosystem row.node.coordinate library range).Yields disturb
      (conduct quiet relink start)
      (Reaching quiet (Covered relink row.node.coordinate (library, range))) tally s := by
  have hcover : ∀ t, (conduct quiet relink start).Leads s t →
      (conduct quiet relink start).Holds t →
      Entered row.node.coordinate (library, range) t ∧ t.Linked library range →
      Covered relink row.node.coordinate (library, range) t :=
    fun t _ _ ht => ⟨ht.1, fun _ => ht.2⟩
  unfold create
  cases hparse : Requirement.parse start.ecosystem library range with
  | error e =>
    simp only [← Constraint.read_of_error hparse]
    refine (yields_enter hquiet hrow hpair fun _ t _ ht _ => ?_).reaching_mono hs hcover
    exact Work.yields_bump (Store.linked_of_error (ht.2.2.ecosystem ▸ hparse))
  | ok requirement =>
    simp only [← Constraint.read_of_ok hparse]
    refine (yields_enter hquiet hrow hpair fun outcome t _ ht hnode => ?_).reaching_mono hs hcover
    have hlink : ∀ tally, (link requirement (coordinate library range)).Yields disturb
        (conduct quiet relink start) (Reaching quiet fun u => u.Linked library range) tally t :=
      fun tally => yields_link hquiet ⟨row, ht.2.2.ownPackages ▸ hrow, hpair⟩ hparse hnode
        (hmay.imp_right .inr)
    cases outcome <;> exact Work.yields_bind ht (Work.yields_bump (hlink _))

/-- A worker covers a declared range, or fails because it was disturbed. -/
theorem yields_dependency :
    (dependency start.ecosystem relink row.node.coordinate library range).Yields disturb
      (conduct quiet relink start)
      (Reaching quiet (Covered relink row.node.coordinate (library, range))) tally s := by
  rw [dependency_eq]
  refine Work.yields_read hquiet (fun hq _ _ => hq) (fun _ => rfl) fun t _ ht => ⟨?_, ?_⟩
  · cases hnode : t.constraintExists (coordinate library range) with
    | true => simpa [StoreCall.perform, hnode] using yields_reuse hquiet hrow hpair ht hnode
    | false =>
      have hnew : start.constraintExists (coordinate library range) = false :=
        Bool.eq_false_iff.2 fun hold => by simp [ht.2.2.constraintExists hold] at hnode
      simpa [StoreCall.perform, hnode] using yields_create hquiet hrow hpair ht (.inr hnew)
  · -- A node that is there and has not been seen is entered and linked once more.
    intro hq answer hanswer
    cases hanswer
    exact yields_create hquiet hrow hpair ht (.inl hq)

end Declarer

/-! ## Batches -/

/-- All declared ranges of a package are covered. -/
def Done (relink : Bool) (p : Package) (s : Store) : Prop :=
  ∀ pair ∈ p.declared, Covered relink p.coordinate pair s

omit hquiet in
theorem done_lasting (p : Package) : (conduct quiet relink start).Lasting (Done relink p) :=
  fun s t hg hdone pair hpair =>
    covered_lasting p.coordinate pair s t hg (hdone pair hpair)

omit hquiet in
/-- To be done is a matter of the record that is handed out. -/
theorem done_of_record {row row' : Row Package} (heq : row.record = row'.record)
    (h : Done relink row.node s) : Done relink row'.node s := by
  obtain ⟨-, hcoordinate, -, hdependencies⟩ := DependencyRecord.mk.inj heq
  intro pair hpair
  rw [Package.declared, ← hdependencies] at hpair
  exact hcoordinate ▸ h pair hpair

omit hquiet in
theorem package_of_error {ecosystem : Ecosystem} {record : DependencyRecord} {e : PayloadError}
    (h : Declared.ofPayload record.dependencies = .error e) :
    package ecosystem relink record = throw (.payload e) := by
  simp [package, h]

omit hquiet in
theorem package_of_ok {ecosystem : Ecosystem} {record : DependencyRecord}
    {pairs : List (Text × Text)} (h : Declared.ofPayload record.dependencies = .ok pairs) :
    package ecosystem relink record = pairs.forM fun pair =>
      dependency ecosystem relink record.coordinate pair.1 pair.2 := by
  simp [package, h]

/-- A worker covers all that a package declares, which is nothing if its payload cannot be
read. -/
theorem yields_package {row : Row Package} (hrow : row ∈ start.ownPackages)
    (hs : (conduct quiet relink start).Holds s) :
    (package start.ecosystem relink row.record).Yields disturb (conduct quiet relink start)
      (fun _ _ t => quiet → Done relink row.node t) tally s := by
  cases hpayload : Declared.ofPayload row.node.dependencies with
  | error e =>
    have hdeclared : row.node.declared = [] := by simp [Package.declared, hpayload]
    have hrecord : Declared.ofPayload row.record.dependencies = .error e := hpayload
    rw [package_of_error hrecord]
    refine Work.yields_throw fun _ pair hpair => ?_
    rw [hdeclared] at hpair
    exact absurd hpair List.not_mem_nil
  | ok pairs =>
    have hdeclared : row.node.declared = pairs := by simp [Package.declared, hpayload]
    have hrecord : Declared.ofPayload row.record.dependencies = .ok pairs := hpayload
    rw [package_of_ok hrecord]
    refine (Work.yields_forM quiet (covered_lasting row.node.coordinate) hs
      fun pair hpair _ _ _ _ => yields_dependency hquiet hrow (hdeclared ▸ hpair)).mono hs ?_
    intro r _ t _ _ ht
    cases r with
    | error e => exact fun hq => absurd hq ht
    | ok _ => exact fun _ pair hpair => ht pair (hdeclared ▸ hpair)

/-- A worker keeps to the conduct, and where no call is disturbed its batch is done when it
ends. -/
theorem ensures_batch {records : List DependencyRecord} {w : World φ}
    (hrecords : ∀ record ∈ records, ∃ row ∈ start.ownPackages, row.record = record)
    (hw : (conduct quiet relink start).Holds w.store) :
    (batch start.ecosystem relink records).Ensures (World.serve disturb)
      ((conduct quiet relink start).onWorld φ)
      (fun _ w => ∀ record ∈ records, ∀ row ∈ start.ownPackages, row.record = record → quiet →
        Done relink row.node w.store) w := by
  let R (record : DependencyRecord) (t : Store) : Prop :=
    ∀ row ∈ start.ownPackages, row.record = record → quiet → Done relink row.node t
  have hlasting : ∀ record, (conduct quiet relink start).Lasting (R record) :=
    fun record s t hg h row hrow heq hq => done_lasting row.node s t hg (h row hrow heq hq)
  refine Work.ensures_share hlasting DependencyRecord.coordinate records hw ?_
  intro record hrecord tally t _ ht
  obtain ⟨row, hrow, rfl⟩ := hrecords record hrecord
  refine (yields_package hquiet hrow ht).mono ht fun _ _ u _ _ hdone row' _ heq hq => ?_
  exact done_of_record heq.symm (hdone hq)

end Resolve

/-! ## Calls -/

/-- A call that resolve workers make. -/
def StoreCall.IsResolving : StoreCall → Prop
  | .constraintExists _ | .upsertConstraint _ | .versionsOf _ => True
  | .createEdge e => e.kind = .dependsOn ∨ e.kind = .references
  | _ => False

namespace Resolve

open Work

theorem calls_link (requirement : Requirement) (name : Text) :
    (link requirement name).Calls StoreCall.IsResolving := by
  refine (calls_call trivial).bind fun entries => calls_forM fun entry => ?_
  split
  · exact (calls_call (.inr rfl)).bind fun _ => calls_pure ()
  · exact calls_pure ()

theorem calls_enter (package : Text) (node : Constraint) :
    (enter package node).Calls StoreCall.IsResolving :=
  (calls_call trivial).bind fun _ => (calls_call (.inl rfl)).bind fun _ => calls_pure _

theorem calls_dependency (ecosystem : Ecosystem) (relink : Bool) (package library range : Text) :
    (dependency ecosystem relink package library range).Calls StoreCall.IsResolving := by
  refine (calls_call trivial).bind fun known => ?_
  split
  · refine (calls_call (.inl rfl)).bind fun _ => (calls_modify _).bind fun _ => ?_
    split
    · exact calls_pure ()
    · split
      · exact calls_link _ _
      · exact calls_pure ()
  · split
    · exact (calls_enter _ _).bind fun _ => calls_modify _
    · refine (calls_enter _ _).bind fun outcome => ?_
      cases outcome <;> exact (calls_modify _).bind fun _ => calls_link _ _

theorem calls_package (ecosystem : Ecosystem) (relink : Bool) (record : DependencyRecord) :
    (package ecosystem relink record).Calls StoreCall.IsResolving := by
  unfold package
  split
  · exact calls_throw _
  · exact calls_forM fun pair => calls_dependency _ _ _ _ _

/-- Whatever it is answered, a batch makes no other calls. -/
theorem asks_batch (ecosystem : Ecosystem) (relink : Bool) (records : List DependencyRecord) :
    (batch ecosystem relink records).Asks (Action.IsCall StoreCall.IsResolving) :=
  asks_share _ _ fun record => calls_package _ _ record

end Resolve

end UpgradeGraph
