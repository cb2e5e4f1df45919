import UpgradeGraph.Phase.Crawl
import UpgradeGraph.Proofs.Interruption

/-!
# Failures in a row

What a crawl has done so far can be told from its requests: which pages it has listed, with or
without success (`listingCalls`), and which page numbers it has saved (`savedPages`).

A run is over when one page has failed too often in a row (`FailsInARow`). A crawl counts
failures only while it stays on one page, so its count has to be shown to be the length of the
longest row at the end of all calls of the run, those for other pages included: this is what
`Streak` says, with one rule for each outcome of a call.
-/

namespace UpgradeGraph.Crawl

/-- A call of the listing: for which page, and whether it has failed. -/
structure ListingCall where
  page : Nat
  failed : Bool
deriving DecidableEq, Repr

/-- The calls of the listing among the requests of a crawl. -/
def listingCalls (trace : List (Exchange requests)) : List ListingCall :=
  trace.filterMap fun
    | ⟨.list page, .ok _⟩ => some ⟨page, false⟩
    | ⟨.list page, .error _⟩ => some ⟨page, true⟩
    | _ => none

/-- The page numbers saved among the requests of a crawl. -/
def savedPages (trace : List (Exchange requests)) : List Nat :=
  trace.filterMap fun
    | ⟨.save page, _⟩ => some page
    | _ => none

theorem listingCalls_append (past trace : List (Exchange requests)) :
    listingCalls (past ++ trace) = listingCalls past ++ listingCalls trace :=
  List.filterMap_append

theorem savedPages_append (past trace : List (Exchange requests)) :
    savedPages (past ++ trace) = savedPages past ++ savedPages trace :=
  List.filterMap_append

/-- One page has failed so many times in a row. -/
def FailsInARow (limit : Nat) (calls : List ListingCall) : Prop :=
  ∃ page, List.replicate limit ⟨page, true⟩ <:+: calls

/-- The calls end with so many failures of the page, with no longer row of failures, and the
limit was never reached. -/
structure Streak (limit page failed : Nat) (calls : List ListingCall) : Prop where
  ends : List.replicate failed ⟨page, true⟩ <:+ calls
  longest : ∀ other n, List.replicate n ⟨other, true⟩ <:+ calls → n ≤ failed
  below : ¬ FailsInARow limit calls

namespace Streak

variable {limit page failed n : Nat} {calls : List ListingCall} {call : ListingCall}

/-- A row of calls at the end of which a new call stands consists of such calls. -/
theorem replicate_suffix_concat {other : ListingCall}
    (h : List.replicate n other <:+ calls ++ [call]) :
    n = 0 ∨ call = other ∧ List.replicate (n - 1) other <:+ calls := by
  cases n with
  | zero => exact .inl rfl
  | succ n =>
    rw [List.suffix_concat_iff] at h
    rcases h with h | ⟨row, hrow, hsuffix⟩
    · simp at h
    · rw [List.replicate_succ'] at hrow
      obtain ⟨rfl, hcall⟩ := List.append_inj' hrow rfl
      exact .inr ⟨(List.cons.inj hcall).1.symm, hsuffix⟩

/-- One more such call makes the row longer by one. -/
theorem replicate_succ_suffix (h : List.replicate n call <:+ calls) :
    List.replicate (n + 1) call <:+ calls ++ [call] := by
  obtain ⟨before, rfl⟩ := h
  exact ⟨before, by rw [List.replicate_succ', List.append_assoc]⟩

theorem start (hlimit : 0 < limit) : Streak limit page 0 [] where
  ends := by simp
  longest other n h := by simpa using h.length_le
  below h := by
    obtain ⟨other, h⟩ := h
    have hlength := h.length_le
    simp only [List.length_replicate, List.length_nil] at hlength
    omega

/-- A failure makes the row longer by one. -/
theorem fail (h : Streak limit page failed calls) (hlimit : failed + 1 < limit) :
    Streak limit page (failed + 1) (calls ++ [⟨page, true⟩]) := by
  have hlongest : ∀ other n, List.replicate n ⟨other, true⟩ <:+ calls ++ [⟨page, true⟩] →
      n ≤ failed + 1 := by
    intro other n hn
    rcases replicate_suffix_concat hn with rfl | ⟨-, hn⟩
    · exact Nat.zero_le _
    · have := h.longest other _ hn
      omega
  refine ⟨?_, hlongest, fun ⟨other, hrow⟩ => ?_⟩
  · exact replicate_succ_suffix h.ends
  · rw [List.infix_concat_iff] at hrow
    rcases hrow with hrow | hrow
    · have := hlongest other limit hrow
      omega
    · exact h.below ⟨other, hrow⟩

/-- One failure more than that reaches the limit. -/
theorem last (h : Streak limit page failed calls) (hlimit : limit = failed + 1) :
    FailsInARow limit (calls ++ [⟨page, true⟩]) := by
  rw [hlimit]
  exact ⟨page, (replicate_succ_suffix h.ends).isInfix⟩

/-- A page that is listed ends the row. -/
theorem succeed (h : Streak limit page failed calls) (hlimit : 0 < limit) (next : Nat) :
    Streak limit next 0 (calls ++ [⟨page, false⟩]) := by
  have hnone : ∀ other n, List.replicate n ⟨other, true⟩ <:+ calls ++ [⟨page, false⟩] →
      n ≤ 0 := by
    intro other n hn
    rcases replicate_suffix_concat hn with rfl | ⟨hcall, -⟩
    · exact Nat.le_refl 0
    · cases hcall
  refine ⟨by simp, hnone, fun ⟨other, hrow⟩ => ?_⟩
  rw [List.infix_concat_iff] at hrow
  rcases hrow with hrow | hrow
  · have := hnone other limit hrow
    omega
  · exact h.below ⟨other, hrow⟩

end Streak

end UpgradeGraph.Crawl
