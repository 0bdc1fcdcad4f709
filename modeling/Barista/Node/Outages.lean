import Mathlib.Data.List.DropRight
import Barista.Node.World

/-!
Contract: when a node says that it has been cut off from the bucket for longer than its leases last.

Owns: the fold of `outage_after_renewals` over a history of passes, and at which pass of an unanswered
stretch a report is due.
-/

namespace Barista.Node

open Foundation Fleet

/-- A pass that attempted renewals: whether one was answered, and the clock. -/
structure RenewalPass where
  reachedBucket : Bool
  nowMs : Int

def outageAfter (ttl : Duration) (passes : List RenewalPass) : Option Outage :=
  passes.foldl
    (fun outage pass => (outageAfterRenewals outage pass.reachedBucket pass.nowMs ttl).1) none

def reportDue (ttl : Duration) (passes : List RenewalPass) (pass : RenewalPass) : Bool :=
  (outageAfterRenewals (outageAfter ttl passes) pass.reachedBucket pass.nowMs ttl).2

/-- The unanswered stretch a history ends with, back to an answered pass or to the start. -/
def stretch (passes : List RenewalPass) : List RenewalPass := passes.rtakeWhile fun pass =>
    !pass.reachedBucket

/-- A report was due in the unanswered stretch a history ends with. -/
def Reported (ttl : Duration) (passes : List RenewalPass) : Prop :=
  ∃ early due late, passes = early ++ due :: late ∧
    (∀ pass ∈ due :: late, pass.reachedBucket = false) ∧ reportDue ttl early due = true

variable {ttl : Duration} {passes : List RenewalPass} {pass : RenewalPass}

theorem stretch_snoc (passes : List RenewalPass) (pass : RenewalPass) :
    stretch (passes ++ [pass]) = if pass.reachedBucket then [] else stretch passes ++ [pass] := by
  unfold stretch
  split
  case isTrue reached => exact List.rtakeWhile_concat_neg _ _ _ (by simpa using reached)
  case isFalse unanswered => exact List.rtakeWhile_concat_pos _ _ _ (by simpa using unanswered)

theorem reported_snoc : Reported ttl (passes ++ [pass]) ↔
    pass.reachedBucket = false ∧ (reportDue ttl passes pass = true ∨ Reported ttl passes) := by
  constructor
  · rintro ⟨early, due, late, split, silent, reported⟩
    rcases List.eq_nil_or_concat late with rfl | ⟨late, last, rfl⟩
    · obtain ⟨rfl, same⟩ := List.append_inj' split rfl
      cases same
      exact ⟨silent pass List.mem_cons_self, .inl reported⟩
    · rw [List.concat_eq_append, ← List.cons_append, ← List.append_assoc] at split
      obtain ⟨rfl, same⟩ := List.append_inj' split rfl
      cases same
      rw [List.concat_eq_append, ← List.cons_append, List.forall_mem_append] at silent
      exact ⟨silent.2 pass List.mem_cons_self, .inr ⟨early, due, late, rfl, silent.1, reported⟩⟩
  · rintro ⟨unanswered, now | ⟨early, due, late, rfl, silent, reported⟩⟩
    · exact ⟨passes, pass, [], rfl, by simpa using unanswered, now⟩
    · refine ⟨early, due, late ++ [pass], by simp, ?_, reported⟩
      rw [← List.cons_append, List.forall_mem_append]
      exact ⟨silent, by simpa using unanswered⟩

/-- **What is kept of a history**: when its last stretch began, and whether it was reported. -/
theorem outageAfter_spec (ttl : Duration) (passes : List RenewalPass) :
    (outageAfter ttl passes).map Outage.sinceMs = (stretch passes).head?.map RenewalPass.nowMs ∧
      (Reported ttl passes ↔ ∃ outage, outageAfter ttl passes = some outage ∧
        outage.reported = true) := by
  induction passes using List.reverseRecOn with
  | nil => exact ⟨rfl, ⟨by rintro ⟨_, _, _, split, -⟩; simp at split, nofun⟩⟩
  | append_singleton passes pass ih =>
    obtain ⟨began, reported⟩ := ih
    rw [reported_snoc, stretch_snoc, reported]
    simp only [reportDue]
    rw [show outageAfter ttl (passes ++ [pass]) =
      (outageAfterRenewals (outageAfter ttl passes) pass.reachedBucket pass.nowMs ttl).1
      from List.foldl_concat ..]
    cases reached : pass.reachedBucket with
    | true => simp [outageAfterRenewals]
    | false =>
      cases kept : outageAfter ttl passes with
      | none =>
        rw [kept] at began
        have none_ : stretch passes = [] := by simpa using began.symm
        simp [outageAfterRenewals, none_]
      | some outage =>
        rw [kept] at began
        obtain ⟨first, opens, since⟩ := Option.map_eq_some_iff.mp began.symm
        simp only [outageAfterRenewals, Bool.false_eq_true, if_false]
        by_cases late : !outage.reported ∧ wrapI64 ttl.asMillis ≤ wrapI64
          (pass.nowMs - outage.sinceMs)
        · rw [if_pos late]
          simp [opens, since]
        · rw [if_neg late]
          simp [opens, since]

/-- **A partition is reported once, when it has lasted for as long as the leases do.** A report is due at an
unanswered pass whose clock is the lease's time to live, in the milliseconds a lease is written with, past
that of an earlier first pass of its stretch, and at no other pass of the stretch; an answered pass ends it. -/
theorem partition_reported_once (ttl : Duration) (passes : List RenewalPass) (pass : RenewalPass)
    (fits : ∀ first ∈ passes, -2 ^ 63 ≤ pass.nowMs - first.nowMs ∧
      pass.nowMs - first.nowMs < 2 ^ 63) :
    (reportDue ttl passes pass = true ↔ pass.reachedBucket = false ∧
      (∃ first, (stretch passes).head? = some first ∧
        wrapI64 ttl.asMillis ≤ pass.nowMs - first.nowMs) ∧ ¬ Reported ttl passes) ∧
    (reportDue ttl passes pass = true → ∀ early due late, passes = early ++ due :: late →
      reportDue ttl early due = true → ∃ answered ∈ late, answered.reachedBucket = true) ∧
    (pass.reachedBucket = true → stretch (passes ++ [pass]) = [] ∧
      ¬ Reported ttl (passes ++ [pass]) ∧ outageAfter ttl (passes ++ [pass]) = none) := by
  have due_iff : reportDue ttl passes pass = true ↔ pass.reachedBucket = false ∧
      (∃ first, (stretch passes).head? = some first ∧
        wrapI64 ttl.asMillis ≤ pass.nowMs - first.nowMs) ∧ ¬ Reported ttl passes := by
    obtain ⟨began, reported⟩ := outageAfter_spec ttl passes
    rw [reported, reportDue]
    cases reached : pass.reachedBucket with
    | true => simp [outageAfterRenewals]
    | false =>
      cases kept : outageAfter ttl passes with
      | none =>
        rw [kept] at began
        have none_ : stretch passes = [] := by simpa using began.symm
        simp [outageAfterRenewals, none_]
      | some outage =>
        rw [kept] at began
        obtain ⟨first, opens, since⟩ := Option.map_eq_some_iff.mp began.symm
        have member : first ∈ passes :=
          (List.rtakeWhile_suffix _ _).subset (List.mem_of_mem_head? opens)
        have exact_ : wrapI64 (pass.nowMs - first.nowMs) = pass.nowMs - first.nowMs :=
          Int.bmod_eq_of_le (fits first member).1 (fits first member).2
        simp only [outageAfterRenewals, Bool.false_eq_true, if_false, ← since, exact_]
        by_cases late : !outage.reported ∧ wrapI64 ttl.asMillis ≤ pass.nowMs - first.nowMs
        · rw [if_pos late]
          simpa [opens, and_comm] using late
        · rw [if_neg late]
          rw [and_comm] at late
          simpa [opens] using late
  refine ⟨due_iff, fun due early other late split reported => ?_, fun reached => ⟨?_, ?_, ?_⟩⟩
  · by_contra none_
    simp only [not_exists, not_and, Bool.not_eq_true] at none_
    have silent : other.reachedBucket = false := by
      cases answered : other.reachedBucket with
      | false => rfl
      | true => simp [reportDue, outageAfterRenewals, answered] at reported
    exact (due_iff.mp due).2.2 ⟨early, other, late, split, List.forall_mem_cons.mpr
      ⟨silent, none_⟩, reported⟩
  · rw [stretch_snoc, if_pos reached]
  · rw [reported_snoc, reached]
    exact fun reported => Bool.noConfusion reported.1
  · rw [outageAfter, List.foldl_concat, reached]
    rfl

/-- The third unanswered pass of a stretch is the first at which its fifteen seconds are over. -/
theorem partition_reported_third :
    reportDue (.fromSecs 15) [⟨true, 0⟩, ⟨false, 1000⟩, ⟨false, 15999⟩] ⟨false, 16000⟩ = true ∧
      ¬ Reported (.fromSecs 15) [⟨true, 0⟩, ⟨false, 1000⟩, ⟨false, 15999⟩] := by
  have due : reportDue (.fromSecs 15) [⟨true, 0⟩, ⟨false, 1000⟩, ⟨false, 15999⟩]
    ⟨false, 16000⟩ = true := by
    decide
  have spec := partition_reported_once (.fromSecs 15) [⟨true, 0⟩, ⟨false, 1000⟩, ⟨false, 15999⟩]
    ⟨false, 16000⟩
    (by decide)
  exact ⟨due, (spec.1.mp due).2.2⟩

/-- **A report is due before the time to live is over**, which is a millisecond and a half. -/
theorem partition_reported_early : ∃ ttl passes pass, 0 < ttl.nanos ∧
    (∀ first ∈ passes, pass.nowMs - first.nowMs = 1) ∧ (ttl.nanos : Int) > 1 * 1000000 ∧
    reportDue ttl passes pass = true :=
  ⟨⟨1500000⟩, [⟨false, 0⟩], ⟨false, 1⟩, by decide, by decide, by decide, by decide⟩

end Barista.Node
