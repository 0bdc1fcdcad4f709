import Barista.Node.Steps

/-!
Contract: what a `fleet_leases` row remembers of the name it stands for.

Owns: the fences a run has decided since each name was last held, and when a row's
`fencing` flag speaks of the current hold.
-/

namespace Barista.Node

open Foundation Fleet

/-- Whether a fence of a name stands, given one more call on the journal: holding the name
begins anew, and marking it decides the fence. -/
def fenceAfter : Option Query → (String → Bool) → String → Bool
  | some (.holdLease name _ _), decided => Function.update decided name false
  | some (.markLeaseFencing name), decided => Function.update decided name true
  | _, decided => decided

/-- The names whose fence this node has decided since it last held them. -/
def fencesDecided (agent : Agent) (etags : LeaseVersioning)
    (labels : List Label) : String → Bool :=
  observe (System.next agent etags) (fun system label => fenceAfter (system.made label))
    System.initial labels fun _ => false

/-- Every flag raised in `fleet_leases` is of a fence decided since the name was last held. -/
def FlagsCurrent (journal : Journal) (decided : String → Bool) : Prop :=
  ∀ row ∈ journal.leases.rows, row.fencing = true → decided row.name = true

/-- A name is held anew only where no flag is left from an earlier hold of it. -/
def HeldUnflagged (system : System) (label : Label) (_ : System) : Prop :=
  match system.made label with
  | some (.holdLease name _ _) =>
    ∀ row ∈ system.world.journal.leases.rows, row.name = name → row.fencing = false
  | _ => True

instance (system : System) (label : Label) (after : System) :
    Decidable (HeldUnflagged system label after) := by
  unfold HeldUnflagged
  split <;> infer_instance

/-! ### One call -/

section Calls

variable {journal next : Journal} {decided : String → Bool}

theorem FlagsCurrent.of_leases (current : FlagsCurrent journal decided)
    (same : next.leases = journal.leases) : FlagsCurrent next decided := by
  rw [FlagsCurrent, same]
  exact current

theorem holdLease_rows {name : String} {epoch : Nat} {instanceId : String} {nowMs : Int}
    {row : HeldLeaseRow}
    (member : row ∈ (journal.holdLease name epoch instanceId nowMs).leases.rows) :
    (row ∈ journal.leases.rows ∧ row.name ≠ name) ∨ (row.name = name ∧ (row.fencing = false ∨
        ∃ old ∈ journal.leases.rows, old.name = name ∧ old.fencing = row.fencing)) := by
  unfold Journal.holdLease at member
  split at member
  · next leases inserted =>
      obtain ⟨rows, fresh⟩ := Table.insert?_rows inserted
      simp only [rows, List.mem_append, List.mem_singleton] at member
      rcases member with old | rfl
      · exact .inl ⟨old, fresh HeldLeaseRow.name (by simp) row old⟩
      · exact .inr ⟨rfl, .inl rfl⟩
  · obtain ⟨old, oldMember, rfl⟩ := Journal.mem_updateLease.mp member
    by_cases named : old.name = name
    · rw [if_pos named]
      exact .inr ⟨named, .inr ⟨old, oldMember, named, rfl⟩⟩
    · rw [if_neg named]
      exact .inl ⟨oldMember, named⟩

theorem FlagsCurrent.holdLease (current : FlagsCurrent journal decided) {name : String}
    {epoch : Nat} {instanceId : String} {nowMs : Int}
    (unflagged : ∀ row ∈ journal.leases.rows, row.name = name → row.fencing = false) :
    FlagsCurrent (journal.holdLease name epoch instanceId nowMs)
    (Function.update decided name false) := by
  intro row member flagged
  rcases holdLease_rows member with ⟨old, other⟩ | ⟨-, lowered | ⟨old, oldMember, named, same⟩⟩
  · rw [Function.update_of_ne other]
    exact current row old flagged
  · rw [lowered] at flagged
    cases flagged
  · rw [← same, unflagged old oldMember named] at flagged
    cases flagged

theorem FlagsCurrent.markLeaseFencing (current : FlagsCurrent journal decided) (name : String) :
    FlagsCurrent (journal.markLeaseFencing name) (Function.update decided name true) := by
  intro row member flagged
  obtain ⟨old, oldMember, rfl⟩ := Journal.mem_updateLease.mp member
  by_cases named : old.name = name
  · rw [if_pos named, named, Function.update_self]
  · rw [if_neg named] at flagged ⊢
    rw [Function.update_of_ne named]
    exact current old oldMember flagged

theorem FlagsCurrent.setLeaseInstance (current : FlagsCurrent journal decided)
    (name instanceId : String) :
    FlagsCurrent (journal.setLeaseInstance name instanceId) decided := by
  intro row member flagged
  obtain ⟨old, oldMember, rfl⟩ := Journal.mem_updateLease.mp member
  by_cases named : old.name = name
  · rw [if_pos named] at flagged ⊢
    exact current old oldMember flagged
  · rw [if_neg named] at flagged ⊢
    exact current old oldMember flagged

theorem FlagsCurrent.releaseLease (current : FlagsCurrent journal decided) (name : String) :
    FlagsCurrent (journal.releaseLease name) decided :=
  fun row member => current row (Table.mem_delete.mp member).1

theorem FlagsCurrent.run {query : Query} {nowMs : Int} {answer : query.Answer}
    (current : FlagsCurrent journal decided) (ran : query.run nowMs journal = .ok (answer, next))
    (unflagged : ∀ name epoch instanceId, query = .holdLease name epoch instanceId →
      ∀ row ∈ journal.leases.rows, row.name = name → row.fencing = false) :
    FlagsCurrent next (fenceAfter (some query) decided) := by
  cases query with
  | holdLease name epoch instanceId =>
    cases ran
    exact current.holdLease (unflagged name epoch instanceId rfl)
  | markLeaseFencing name =>
    cases ran
    exact current.markLeaseFencing name
  | setLeaseInstance name instanceId =>
    cases ran
    exact current.setLeaseInstance name instanceId
  | releaseLease name =>
    cases ran
    exact current.releaseLease name
  | _ => exact current.of_leases ((Query.run_frame ran).1 rfl)

end Calls

/-! ### Whole runs -/

theorem FlagsCurrent.step {agent : Agent} {etags : LeaseVersioning}
    {system after : System} {label : Label} {decided : String → Bool}
    (current : FlagsCurrent system.world.journal decided)
    (stepped : System.next agent etags system label = some after)
    (unflagged : HeldUnflagged system label after) :
    FlagsCurrent after.world.journal (fenceAfter (system.made label) decided) := by
  cases made : system.made label with
  | none =>
    rcases System.journal_unmade made stepped with same | ⟨nowMs, opIds, -, same⟩
    · exact current.of_leases (by rw [same])
    · refine current.of_leases ?_
      rw [same, (Journal.failOps_frame ..).2.1]
      rfl
  | some query =>
    obtain ⟨nowMs, ⟨answer, ran⟩ | ⟨⟨cause, refused⟩, same⟩⟩ := System.journal_made made stepped
    · refine current.run ran ?_
      rintro name epoch instanceId rfl
      simpa only [HeldUnflagged, made] using unflagged
    · rw [same]
      cases query with
      | holdLease | markLeaseFencing => cases refused
      | _ => exact current

/-- **A flag belongs to the current hold**, in every run that never holds a name whose row
still carries the flag of an earlier hold: a row of `fleet_leases` is flagged only if this node
decided a fence of the name since it last held it. -/
theorem fencing_flag_current (agent : Agent) (etags : LeaseVersioning)
    (labels : List Label) (last : System) (reached : System.reach agent etags labels = some last)
    (unflagged : Along (System.next agent etags) HeldUnflagged System.initial labels) :
    ∀ row ∈ last.world.journal.leases.rows, row.fencing = true →
      fencesDecided agent etags labels row.name = true := by
  have empty : FlagsCurrent System.initial.world.journal fun _ => false := by
    simp [FlagsCurrent, System.initial, World.initial, Journal.empty]
  exact unflagged.observed (I := fun system => FlagsCurrent system.world.journal)
    (fun current stepped here => current.step stepped here) empty reached

/-- The node owns session `s`; another node takes it over; the next pass fences it, but its
instance is still being created. -/
def fencedSession : List Label :=
  System.ownedSession ++ .peer ⟨"s", .acquire "n2" "n2:7070" .default 20000⟩ ::
    System.drive 2 20000 35 2 ++ .tick :: System.drive 3 20000 37 28

/-- The other node's lease lapses, and the node wins the session back. -/
def wonBackSession : List Label := fencedSession ++ .tick :: System.drive 4 40000 65 21

theorem fencing_flag_current_fenced :
    ∃ last, System.reach .plain freshVersions fencedSession = some last ∧
      ∃ row ∈ last.world.journal.leases.rows, row.fencing = true ∧
        fencesDecided .plain freshVersions fencedSession row.name = true := by
  have flagged : ((System.reach .plain freshVersions fencedSession).any fun last =>
      last.world.journal.leases.rows.any fun row => row.fencing = true) = true := by decide +kernel
  have unflagged : Along (System.next .plain freshVersions) HeldUnflagged System.initial
      fencedSession := by decide +kernel
  obtain ⟨last, row, reached, member, fencing⟩ := exists_mem_of_any flagged
  exact ⟨last, reached, row, member, fencing,
    fencing_flag_current _ _ _ last reached unflagged row member fencing⟩

/-- A session fenced, won back and held again keeps the flag of the hold it lost. -/
theorem fencing_flag_stale : ∃ last, System.reach .plain freshVersions wonBackSession = some last ∧
      last.world.held.contains "s" = true ∧
      ∃ row ∈ last.world.journal.leases.rows, row.name = "s" ∧ row.fencing = true ∧
        fencesDecided .plain freshVersions wonBackSession row.name = false :=
  exists_of_any (by decide +kernel)

end Barista.Node
