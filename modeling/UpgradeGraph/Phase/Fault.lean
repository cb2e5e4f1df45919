import UpgradeGraph.Phase.Work

/-!
# Faults

Disturbances that are set beforehand. A fault waits for calls of one kind, and perhaps
about one subject, and befalls them without end or a number of times. Of several faults
that wait for a call the first one strikes.
-/

namespace UpgradeGraph

/-- A disturbance that waits for its calls. -/
structure Fault where
  kind : CallKind
  /-- What the call is about, if only that counts. -/
  subject : Option Text
  disturbance : Disturbance
  /-- How often the fault may still strike, if that is limited. -/
  left : Option Nat
deriving DecidableEq, Repr

namespace Fault

/-- The fault waits for this call. -/
def awaits (f : Fault) (c : StoreCall) : Bool :=
  f.kind = c.kind && f.subject.all (· = c.subject) && f.left ≠ some 0

/-- The fault after it has struck. -/
def spent (f : Fault) : Fault := { f with left := f.left.map (· - 1) }

/-- What befalls a call, and the faults that remain. -/
def strike (c : StoreCall) : List Fault → Option Disturbance × List Fault
  | [] => (none, [])
  | f :: rest =>
    if f.awaits c then (some f.disturbance, f.spent :: rest)
    else
      let (disturbance, rest) := strike c rest
      (disturbance, f :: rest)

/-- The disturber that has a list of faults for a memory. -/
def disturb : Disturber (List Fault) := strike

theorem strike_eq_none {c : StoreCall} {faults : List Fault}
    (h : ∀ f ∈ faults, f.awaits c = false) : strike c faults = (none, faults) := by
  induction faults with
  | nil => rfl
  | cons f rest ih =>
    have hf := h f List.mem_cons_self
    simp [strike, hf, ih fun g hg => h g (List.mem_cons_of_mem _ hg)]

end Fault

end UpgradeGraph
