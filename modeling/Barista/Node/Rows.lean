import Barista.Node.Database

/-!
Contract: what a call on the journal can do to the row of an instance.

Owns: the inversion of a call by the row it writes, and what follows of it for the state
and the deadlines of an instance.
-/

namespace Barista.Node

open Foundation

/-! ### Deadlines -/

/-- Whether the claimed deadline is still the one armed, and is due. -/
def Claim.due (nowMs : Int) (row : InstanceRow) : Claim → Bool
  | ttlExpiry deadlineMs => row.ttlDeadlineMs == some deadlineMs && deadlineMs ≤ nowMs
  | wake atMs => row.wakeAtMs == some atMs && atMs ≤ nowMs

def Claim.clear (nowMs : Int) (row : InstanceRow) : Claim → InstanceRow
  | ttlExpiry _ => { row with ttlDeadlineMs := none, updatedAtMs := nowMs }
  | wake _ => { row with wakeAtMs := none, updatedAtMs := nowMs }

theorem Claim.clear_instanceId (claim : Claim) (nowMs : Int) (row : InstanceRow) :
    (claim.clear nowMs row).instanceId = row.instanceId := by
  cases claim <;> rfl

/-- The row a submission starts from: less the deadline it claims. -/
def SubmitArgs.claimed (args : SubmitArgs) (nowMs : Int) (row : InstanceRow) : InstanceRow :=
  match args.claim with
  | none => row
  | some claim => claim.clear nowMs row

def SubmitArgs.moved (args : SubmitArgs) (recorded : InstanceState) (nowMs : Int)
    (row : InstanceRow) : InstanceRow :=
  { args.claimed nowMs row with state := recorded, updatedAtMs := nowMs }

def FinishArgs.advanced (args : FinishArgs) (nowMs : Int) (row : InstanceRow) : InstanceRow :=
  { row with
    state := args.state
    updatedAtMs := nowMs
    stopReason := args.stopReason
    ttlDeadlineMs := args.ttlDeadlineMs
    ready := if args.clearReady then false else row.ready }

/-- What a call may make of the row of an instance that is there. -/
def Query.Touches (nowMs : Int) : (query : Query) → query.Answer → InstanceRow → InstanceRow → Prop
  | submitAtomically args, submission, old, new =>
    ∃ recorded, submission = .journaled recorded ∧ args.createSpec = none ∧
      old.instanceId = args.instanceId ∧ args.plan old.state = some recorded ∧
      (∀ claim, args.claim = some claim → claim.due nowMs old = true) ∧
      new = args.moved recorded nowMs old
  | finishOperation args, _, old, new =>
    old.instanceId = args.instanceId ∧ new = args.advanced nowMs old
  | setInstanceState id state, _, old, new =>
    old.instanceId = id ∧ new = { old with state := state, updatedAtMs := nowMs }
  | setRunEpoch id beganMs, _, old, new =>
    old.instanceId = id ∧ new = { old with runEpochMs := some beganMs }
  | forgetCredentials id, _, old, new =>
    old.instanceId = id ∧ new = { old with guestToken := "", identity := none }
  | setInstanceReady id ready, _, old, new =>
    old.instanceId = id ∧
      new = if old.ready = ready then old else { old with ready := ready, updatedAtMs := nowMs }
  | setTtlDeadline id deadlineMs, _, old, new =>
    old.instanceId = id ∧ new = { old with ttlDeadlineMs := deadlineMs, updatedAtMs := nowMs }
  | setWakeAt id wakeAtMs, _, old, new =>
    old.instanceId = id ∧ new = { old with wakeAtMs := wakeAtMs, updatedAtMs := nowMs }
  | claimWake id atMs, taken, old, new =>
    taken = true ∧ old.instanceId = id ∧ (Claim.wake atMs).due nowMs old = true ∧
      new = (Claim.wake atMs).clear nowMs old
  | setInstanceEpoch id epoch, _, old, new =>
    old.instanceId = id ∧ new = { old with executionEpoch := epoch, updatedAtMs := nowMs }
  | insertSnapshot row, _, old, new =>
    old.instanceId = row.instanceId ∧
      new = { old with latestSnapshotId := row.snapshotId, updatedAtMs := nowMs }
  | deleteSnapshot snapshotId, _, old, new =>
    old.latestSnapshotId = snapshotId ∧ new = { old with latestSnapshotId := "" }
  | _, _, _, _ => False

namespace Journal

variable {journal next : Journal} {args : SubmitArgs} {nowMs : Int}

/-! ### Lookups after a write -/

variable {id : String} {row : InstanceRow}

theorem getInstance_named (found : journal.getInstance id = some row) : row.instanceId = id := by
  simpa using (Table.mem_of_find? found).2

theorem getInstance_mem (member : row ∈ journal.instances.rows) :
    journal.getInstance row.instanceId = some row := by
  cases found : journal.getInstance row.instanceId with
  | none =>
    have unnamed := Table.find?_none found row member
    simp at unnamed
  | some other =>
    rw [Table.eq_of_column List.mem_cons_self (Table.mem_of_find? found).1 member
      (getInstance_named found)]

def Rewrites (journal next : Journal) (matching : InstanceRow → Bool)
    (set : InstanceRow → InstanceRow) : Prop :=
  next.instances.rows = journal.instances.rows.map fun row => if matching row then set row else row

theorem getInstance_update {matching : InstanceRow → Bool} {set : InstanceRow → InstanceRow}
    (written : Rewrites journal next matching set)
    (keeps : ∀ row, (set row).instanceId = row.instanceId) (id : String) :
    next.getInstance id = (journal.getInstance id).map fun row => if matching row then set row
      else row := by
  have untouched : ((fun row : InstanceRow => row.instanceId == id) ∘
      fun row => if matching row then set row else row) = fun row => row.instanceId == id := by
    funext row
    by_cases hit : matching row = true <;> simp [hit, keeps]
  rw [getInstance, Table.find?, written, List.find?_map, untouched]
  rfl

theorem getInstance_updateInstance (id other : String) (set : InstanceRow → InstanceRow)
    (keeps : ∀ row, (set row).instanceId = row.instanceId) :
    (journal.updateInstance id set keeps).getInstance other =
      if other = id then (journal.getInstance other).map set else journal.getInstance other := by
  have written : Rewrites journal (journal.updateInstance id set keeps)
      (fun row => row.instanceId == id) set := rfl
  rw [getInstance_update written keeps]
  cases found : journal.getInstance other with
  | none => simp
  | some row =>
    have named := getInstance_named found
    by_cases same : other = id
    · simp [same, named]
    · simp [same, named]

theorem getInstance_of_instances (same : next.instances = journal.instances) (id : String) :
    next.getInstance id = journal.getInstance id := by
  simp only [getInstance, same]

theorem stateOf_of_instances (same : next.instances = journal.instances) (id : String) :
    next.stateOf id = journal.stateOf id := by
  simp only [stateOf, getInstance, same]

theorem updated_row {matching : InstanceRow → Bool} {set : InstanceRow → InstanceRow}
    (written : Rewrites journal next matching set)
    (keeps : ∀ row, (set row).instanceId = row.instanceId) (id : String) :
    next.getInstance id = journal.getInstance id ∨
      ∃ old, journal.getInstance id = some old ∧ matching old = true ∧
        next.getInstance id = some (set old) := by
  rw [getInstance_update written keeps]
  cases found : journal.getInstance id with
  | none => exact .inl rfl
  | some old =>
    by_cases hit : matching old = true
    · exact .inr ⟨old, rfl, hit, by simp [hit]⟩
    · exact .inl (by simp [hit])

theorem takeDeadline_eq (journal : Journal) (nowMs : Int) (id : String) (claim : Claim) :
    journal.takeDeadline id claim nowMs =
      if journal.instances.count (fun row => row.instanceId == id && claim.due nowMs row) = 1 then
        some { journal with
          instances := journal.instances.update
            (fun row => row.instanceId == id && claim.due nowMs row)
            (fun row => claim.clear nowMs row) (by simpa using claim.clear_instanceId nowMs) }
      else none := by
  have alike :
      journal.instances.count (fun row => row.instanceId == id && claim.due nowMs row) = 1 →
      ∀ row ∈ journal.instances.rows,
        (row.instanceId == id) = (row.instanceId == id && claim.due nowMs row) := by
    intro once row member
    obtain ⟨hit, hitMember, matched⟩ := List.countP_pos_iff.mp (once ▸ Nat.one_pos)
    simp only [Bool.and_eq_true, beq_iff_eq] at matched
    by_cases named : row.instanceId = id
    · have isHit : row = hit :=
        Table.eq_of_column List.mem_cons_self member hitMember (named.trans matched.1.symm)
      simp [isHit, matched]
    · simp [named]
  by_cases once : journal.instances.count
      (fun row => row.instanceId == id && claim.due nowMs row) = 1
  · rw [if_pos once, ← Table.update_congr (alike once)]
    cases claim <;> exact if_pos once
  · rw [if_neg once]
    cases claim <;> exact if_neg once

theorem takeDeadline_due {claim : Claim} (taken : journal.takeDeadline id claim nowMs = some next) :
    ∃ row, journal.getInstance id = some row ∧ claim.due nowMs row = true := by
  rw [takeDeadline_eq] at taken
  split at taken
  · next once =>
      obtain ⟨hit, member, matched⟩ := List.countP_pos_iff.mp (once ▸ Nat.one_pos)
      simp only [Bool.and_eq_true, beq_iff_eq] at matched
      exact ⟨hit, matched.1 ▸ getInstance_mem member, matched.2⟩
  · cases taken

theorem takeDeadline_getInstance {claim : Claim}
    (taken : journal.takeDeadline id claim nowMs = some next) (other : String) :
    next.getInstance other = if other = id then
      (journal.getInstance other).map fun row => claim.clear nowMs row
      else journal.getInstance other := by
  obtain ⟨row, found, due⟩ := takeDeadline_due taken
  rw [takeDeadline_eq] at taken
  split at taken
  · have written : Rewrites journal next (fun row => row.instanceId == id && claim.due nowMs row)
        (fun row => claim.clear nowMs row) := by
      cases taken
      rfl
    rw [getInstance_update written (claim.clear_instanceId nowMs)]
    by_cases same : other = id
    · subst same
      rw [if_pos rfl, found]
      simp [getInstance_named found, due]
    · rw [if_neg same]
      cases read : journal.getInstance other with
      | none => rfl
      | some row => simp [getInstance_named read, same]
  · cases taken

theorem Claimed.getInstance {base : Journal} (claimed : Claimed journal args nowMs base)
    (id : String) : base.getInstance id = if id = args.instanceId then
      (journal.getInstance id).map (args.claimed nowMs) else journal.getInstance id := by
  rcases claimed with ⟨unclaimed, rfl⟩ | ⟨claim, claims, taken⟩
  · have same : args.claimed nowMs = fun row => row := by
      funext row
      simp [SubmitArgs.claimed, unclaimed]
    simp [same]
  · have cleared : args.claimed nowMs = fun row => claim.clear nowMs row := by
      funext row
      simp [SubmitArgs.claimed, claims]
    rw [cleared]
    exact takeDeadline_getInstance taken id

theorem Claimed.due {base : Journal} (claimed : Claimed journal args nowMs base)
    (found : journal.getInstance args.instanceId = some row) :
    ∀ claim, args.claim = some claim → claim.due nowMs row = true := by
  intro claim claims
  rcases claimed with ⟨unclaimed, -⟩ | ⟨other, otherClaims, taken⟩
  · rw [claims] at unclaimed
    cases unclaimed
  · rw [claims] at otherClaims
    cases otherClaims
    obtain ⟨hit, read, due⟩ := takeDeadline_due taken
    rw [found] at read
    cases read
    exact due

theorem recordInstance_creates {recorded : InstanceState} {spec : InstanceSpec}
    (creates : args.createSpec = some spec)
    (stored : journal.recordInstance args recorded nowMs = .ok next) :
    ∃ identity, args.mintIdentity spec.instanceId = .ok identity ∧
      journal.getInstance spec.instanceId = none ∧
      ∀ id, next.getInstance id = if id = spec.instanceId then
        some (newInstance args spec identity nowMs) else journal.getInstance id := by
  simp only [recordInstance, creates] at stored
  split at stored
  · cases stored
  · next identity minted =>
      split at stored
      · next instances inserted =>
          cases stored
          have absent : journal.getInstance spec.instanceId = none := by
            cases found : journal.getInstance spec.instanceId with
            | none => rfl
            | some row =>
              exact absurd (getInstance_named found)
                ((Table.insert?_rows inserted).2 InstanceRow.instanceId
                (by simp) row (Table.mem_of_find? found).1)
          refine ⟨identity, minted, absent, fun id => ?_⟩
          have looked : Journal.getInstance { journal with instances := instances } id =
              (journal.getInstance id).or
              (if (newInstance args spec identity nowMs).instanceId == id
                then some (newInstance args spec identity nowMs) else none) :=
            Table.find?_insert? inserted
          rw [looked]
          by_cases named : id = spec.instanceId
          · simp [named, absent, newInstance]
          · simp [named, Ne.symm named, newInstance]
      · cases stored

theorem recordInstance_moves {recorded : InstanceState} (moves : args.createSpec = none)
    (stored : journal.recordInstance args recorded nowMs = .ok next) (id : String) :
    next.getInstance id = if id = args.instanceId then
      (journal.getInstance id).map fun row => { row with state := recorded, updatedAtMs := nowMs }
      else journal.getInstance id := by
  simp only [recordInstance, moves] at stored
  cases stored
  exact getInstance_updateInstance ..

/-- What a submission does to the row of an instance: it moves that of its own instance along the
plan, or creates one that was not there. -/
theorem submitAtomically_row {submission : Submission}
    (submitted : journal.submitAtomically args nowMs = .ok (submission, next)) (id : String) :
    next.getInstance id = journal.getInstance id ∨
      (∃ old new, journal.getInstance id = some old ∧ next.getInstance id = some new ∧
        Query.Touches nowMs (.submitAtomically args) submission old new) ∨
      ∃ recorded spec identity, submission = .journaled recorded ∧ args.createSpec = some spec ∧
        args.mintIdentity spec.instanceId = .ok identity ∧ id = spec.instanceId ∧
        journal.getInstance id = none ∧
        next.getInstance id = some (newInstance args spec identity nowMs) := by
  rcases submitAtomically_cases submitted with
    ⟨rfl, -⟩ | ⟨recorded, base, shape, -, -, planned, claimed, written⟩
  · exact .inl rfl
  obtain ⟨-, ⟨operations, -, stored⟩, -⟩ := recordSubmission_cases written
  cases creates : args.createSpec with
  | some spec =>
    -- A new instance has no deadline to claim.
    have unclaimed : base = journal := by
      rcases claimed with ⟨-, same⟩ | ⟨claim, -, taken⟩
      · exact same
      · obtain ⟨row, found, -⟩ := takeDeadline_due taken
        simp [plannedState, creates, found] at planned
    subst unclaimed
    obtain ⟨identity, minted, absent, looked⟩ := recordInstance_creates creates stored
    by_cases named : id = spec.instanceId
    · subst named
      exact .inr (.inr ⟨recorded, spec, identity, shape, rfl, minted, rfl, absent, (looked _).trans
        (if_pos rfl)⟩)
    · exact .inl ((looked id).trans (if_neg named))
  | none =>
    have moved := recordInstance_moves creates stored id
    have based : Journal.getInstance { base with operations := operations } id =
      base.getInstance id := rfl
    rw [based, claimed.getInstance id] at moved
    by_cases named : id = args.instanceId
    · rw [if_pos named, if_pos named] at moved
      cases found : journal.getInstance id with
      | none =>
        rw [found] at moved
        exact .inl moved
      | some old =>
        rw [found] at moved
        refine .inr (.inl ⟨old, _, rfl, moved, recorded, shape, creates,
          (getInstance_named found).trans named, ?_, claimed.due (named ▸ found), rfl⟩)
        simp only [plannedState, creates, ← named, found] at planned
        split at planned
        · next chosen =>
            cases planned
            exact chosen
        · cases planned
    · rw [if_neg named, if_neg named] at moved
      exact .inl moved

end Journal

variable {query : Query} {nowMs : Int} {journal next : Journal} {answer : query.Answer}

open Journal in
/-- **Everything a call can do to the row of an instance**: nothing, the one write it makes, or,
for a submission, the row of a new instance. -/
theorem Query.run_row (ran : query.run nowMs journal = .ok (answer, next)) (id : String) :
    next.getInstance id = journal.getInstance id ∨
      (∃ old new, journal.getInstance id = some old ∧ next.getInstance id = some new ∧
        query.Touches nowMs answer old new) ∨
      ∃ args spec identity, query = .submitAtomically args ∧ args.createSpec = some spec ∧
        args.mintIdentity spec.instanceId = .ok identity ∧ id = spec.instanceId ∧
        journal.getInstance id = none ∧
        next.getInstance id = some (newInstance args spec identity nowMs) := by
  -- A write to the rows that match.
  have hits {matching : InstanceRow → Bool} {set : InstanceRow → InstanceRow}
      (rewrites : Rewrites journal next matching set)
      (keeps : ∀ row, (set row).instanceId = row.instanceId)
      (touches : ∀ old, matching old = true → query.Touches nowMs answer old (set old)) :
      next.getInstance id = journal.getInstance id ∨
        ∃ old new, journal.getInstance id = some old ∧ next.getInstance id = some new ∧
          query.Touches nowMs answer old new := by
    rcases updated_row rewrites keeps id with same | ⟨old, found, hit, moved⟩
    · exact .inl same
    · exact .inr ⟨old, set old, found, moved, touches old hit⟩
  cases query with
  | submitAtomically args =>
    rcases submitAtomically_row ran id with same | touched | ⟨-, spec, identity, -, created⟩
    · exact .inl same
    · exact .inr (.inl touched)
    · exact .inr (.inr ⟨args, spec, identity, rfl, created⟩)
  | finishOperation args =>
    have rewrites : Rewrites journal next (fun row => row.instanceId == args.instanceId)
        (args.advanced nowMs) := by
      rcases finishOperation_cases ran with ⟨-, rfl⟩ | ⟨-, -, -, rfl⟩ <;> rfl
    exact (hits rewrites (fun _ => rfl) fun old hit => ⟨beq_iff_eq.mp hit, rfl⟩).imp_right .inl
  | setInstanceEpoch target epoch =>
    rw [setInstanceEpoch_cases (mapped_ok ran)] at hits ⊢
    exact (hits rfl (fun _ => rfl) fun old hit => ⟨beq_iff_eq.mp hit, rfl⟩).imp_right .inl
  | setInstanceReady target ready =>
    cases ran
    refine (hits rfl (fun row => ?_) fun old hit => ⟨beq_iff_eq.mp hit, rfl⟩).imp_right .inl
    split <;> rfl
  | setInstanceState | setRunEpoch | forgetCredentials | setTtlDeadline | setWakeAt
  | insertSnapshot | deleteSnapshot =>
    cases ran
    exact (hits rfl (fun _ => rfl) fun old hit => ⟨beq_iff_eq.mp hit, rfl⟩).imp_right .inl
  | claimWake target atMs =>
    have whole : journal.claimWake target atMs nowMs = (answer, next) := Except.ok.inj ran
    have split := journal.claimWake_cases target atMs nowMs
    rw [whole] at split
    rcases split with ⟨took, taken⟩ | ⟨-, same⟩
    · obtain ⟨row, found, due⟩ := takeDeadline_due taken
      have looked := takeDeadline_getInstance taken id
      by_cases named : id = target
      · subst named
        rw [if_pos rfl, found] at looked
        exact .inr (.inl ⟨row, _, found, looked, took, getInstance_named found, due, rfl⟩)
      · rw [if_neg named] at looked
        exact .inl looked
    · exact .inl (congrArg (·.getInstance id) same)
  | finishOpCanceled opId reason =>
    rw [moveOp_ok (mapped_ok ran)]
    exact .inl rfl
  | holdLease name epoch instanceId =>
    cases ran
    exact .inl (getInstance_of_instances (journal.holdLease_frame ..).2.1 id)
  | _ =>
    cases ran
    exact .inl rfl

/-- What a write leaves of a row: its spec and its id; its identity, or none; its pointer, that of the
row it records, or none where it deletes that row; the state of any call that moves no instance; a
deadline that a finalize or a renewal has not armed, or none. -/
structure InstanceRow.Rewritten (query : Query) (old new : InstanceRow) : Prop where
  spec : new.spec = old.spec
  instanceId : new.instanceId = old.instanceId
  identity : new.identity = old.identity ∨ new.identity = none
  pointer : new.latestSnapshotId = old.latestSnapshotId ∨
    (∃ record, query = .insertSnapshot record ∧ old.instanceId = record.instanceId ∧
      new.latestSnapshotId = record.snapshotId) ∨
    (query = .deleteSnapshot old.latestSnapshotId ∧ new.latestSnapshotId = "")
  state : new.state = old.state ∨ query.movesInstance = true
  deadline : new.ttlDeadlineMs = old.ttlDeadlineMs ∨ new.ttlDeadlineMs = none ∨
    (∃ args, query = .finishOperation args ∧ args.ttlDeadlineMs = new.ttlDeadlineMs ∧
      new.state = args.state) ∨ query = .setTtlDeadline old.instanceId new.ttlDeadlineMs

theorem Query.rewritten {old new : InstanceRow} (touches : query.Touches nowMs answer old new) :
    old.Rewritten query new := by
  cases query with
  | submitAtomically args =>
    obtain ⟨recorded, -, -, -, -, -, rfl⟩ := touches
    unfold SubmitArgs.moved SubmitArgs.claimed
    split
    · exact ⟨rfl, rfl, .inl rfl, .inl rfl, .inr rfl, .inl rfl⟩
    · next claim _ =>
        cases claim with
        | ttlExpiry deadlineMs => exact ⟨rfl, rfl, .inl rfl, .inl rfl, .inr rfl, .inr (.inl rfl)⟩
        | wake atMs => exact ⟨rfl, rfl, .inl rfl, .inl rfl, .inr rfl, .inl rfl⟩
  | finishOperation args =>
    obtain ⟨-, rfl⟩ := touches
    exact ⟨rfl, rfl, .inl rfl, .inl rfl, .inr rfl, .inr (.inr (.inl ⟨args, rfl, rfl, rfl⟩))⟩
  | setInstanceState id state =>
    obtain ⟨-, rfl⟩ := touches
    exact ⟨rfl, rfl, .inl rfl, .inl rfl, .inr rfl, .inl rfl⟩
  | setTtlDeadline id deadlineMs =>
    obtain ⟨rfl, rfl⟩ := touches
    exact ⟨rfl, rfl, .inl rfl, .inl rfl, .inl rfl, .inr (.inr (.inr rfl))⟩
  | setInstanceReady id ready =>
    obtain ⟨-, rfl⟩ := touches
    split <;> exact ⟨rfl, rfl, .inl rfl, .inl rfl, .inl rfl, .inl rfl⟩
  | claimWake id atMs =>
    obtain ⟨-, -, -, rfl⟩ := touches
    exact ⟨rfl, rfl, .inl rfl, .inl rfl, .inl rfl, .inl rfl⟩
  | forgetCredentials id =>
    obtain ⟨-, rfl⟩ := touches
    exact ⟨rfl, rfl, .inr rfl, .inl rfl, .inl rfl, .inl rfl⟩
  | insertSnapshot record =>
    obtain ⟨own, rfl⟩ := touches
    exact ⟨rfl, rfl, .inl rfl, .inr (.inl ⟨record, rfl, own, rfl⟩), .inl rfl, .inl rfl⟩
  | deleteSnapshot snapshotId =>
    obtain ⟨rfl, rfl⟩ := touches
    exact ⟨rfl, rfl, .inl rfl, .inr (.inr ⟨rfl, rfl⟩), .inl rfl, .inl rfl⟩
  | setRunEpoch | setWakeAt | setInstanceEpoch =>
    obtain ⟨-, rfl⟩ := touches
    exact ⟨rfl, rfl, .inl rfl, .inl rfl, .inl rfl, .inl rfl⟩
  | _ => exact touches.elim

/-! ### States -/

namespace Journal

variable {journal next : Journal} {args : SubmitArgs} {nowMs : Int}

theorem submitAtomically_stateOf {submission : Submission}
    (submitted : journal.submitAtomically args nowMs = .ok (submission, next)) (id : String) :
    next.stateOf id = journal.stateOf id ∨
      (∃ recorded, submission = .journaled recorded ∧ next.stateOf id = some recorded ∧
        id = args.instanceId ∧ args.createSpec = none ∧
        ∃ source, journal.stateOf id = some source ∧ args.plan source = some recorded) ∨
      (journal.stateOf id = none ∧ next.stateOf id = some .creating) := by
  simp only [stateOf]
  rcases submitAtomically_row submitted id with same |
    ⟨old, new, found, moved, recorded, shape, moves, named, planned, -, rfl⟩ |
    ⟨-, spec, identity, -, -, -, -, absent, created⟩
  · exact .inl (by rw [same])
  · refine .inr (.inl ⟨recorded, shape, by rw [moved]; rfl, ?_, moves, old.state, ?_, planned⟩)
    · rw [← named, getInstance_named found]
    · rw [found]
      rfl
  · exact .inr (.inr ⟨by rw [absent]; rfl, by rw [created]; rfl⟩)

theorem submitAtomically_recorded {recorded : InstanceState}
    (submitted : journal.submitAtomically args nowMs = .ok (.journaled recorded, next)) :
    (args.createSpec = none ∧ next.stateOf args.instanceId = some recorded) ∨
      (args.createSpec ≠ none ∧ recorded = args.transitional ∧
        (next.stateOf args.instanceId = none ∨ next.stateOf args.instanceId = some .creating)) := by
  obtain ⟨planned, -, -, -, base, claimed, written⟩ := submitAtomically_journaled submitted
  have moved := submitAtomically_stateOf submitted args.instanceId
  unfold plannedState at planned
  split at planned
  · cases planned
  · next creates absent =>
      cases planned
      have unread : journal.stateOf args.instanceId = none := by simp [stateOf, absent]
      refine .inr ⟨by simp [creates], rfl, ?_⟩
      rcases moved with same | ⟨_, -, -, -, moves, -⟩ | ⟨-, created⟩
      · exact .inl (same.trans unread)
      · simp [moves] at creates
      · exact .inr created
  · cases planned
  · next row moves found =>
      obtain ⟨-, ⟨operations, -, stored⟩, -⟩ := recordSubmission_cases written
      have stood : Journal.getInstance { base with operations := operations } args.instanceId =
          some (args.claimed nowMs row) := by
        have based := claimed.getInstance args.instanceId
        rw [if_pos rfl, found] at based
        exact based
      refine .inl ⟨moves, ?_⟩
      rw [stateOf, recordInstance_moves moves stored, if_pos rfl, stood]
      rfl

theorem setInstanceState_stateOf (journal : Journal) (target : String) (state : InstanceState)
    (nowMs : Int) (id : String) :
    (journal.setInstanceState target state nowMs).stateOf id = journal.stateOf id ∨
      (id = target ∧ (journal.stateOf id).isSome = true ∧
        (journal.setInstanceState target state nowMs).stateOf id = some state) := by
  have ran : (Query.setInstanceState target state).run nowMs journal = .ok (_, _) := rfl
  simp only [stateOf]
  rcases Query.run_row ran id with same | ⟨old, new, found, moved, named, rfl⟩ | ⟨_, _, _, other, -⟩
  · exact .inl (by rw [same])
  · exact .inr ⟨by rw [← named, getInstance_named found], by rw [found]; rfl, by rw [moved]; rfl⟩
  · cases other

theorem finishOperation_stateOf {finish : FinishArgs} {finalized : Finalized}
    (finished : journal.finishOperation finish nowMs = .ok (finalized, next)) (id : String) :
    next.stateOf id = journal.stateOf id ∨
    (id = finish.instanceId ∧ next.stateOf id = some finish.state) := by
  have ran : (Query.finishOperation finish).run nowMs journal = .ok (finalized, next) := finished
  simp only [stateOf]
  rcases Query.run_row ran id with
    same | ⟨old, new, found, moved, named, rfl⟩ | ⟨_, _, _, other, -⟩
  · exact .inl (by rw [same])
  · exact .inr ⟨by rw [← named, getInstance_named found], by rw [moved]; rfl⟩
  · cases other

end Journal

open Journal in
/-- **Everything a query can do to an instance's state.** -/
theorem Query.run_stateOf (ran : query.run nowMs journal = .ok (answer, next)) (id : String) :
    next.stateOf id = journal.stateOf id ∨
      (∃ args recorded, query = .submitAtomically args ∧ next.stateOf id = some recorded ∧
        id = args.instanceId ∧ args.createSpec = none ∧
        ∃ source, journal.stateOf id = some source ∧ args.plan source = some recorded) ∨
      (∃ args, query = .submitAtomically args ∧ journal.stateOf id = none ∧
        next.stateOf id = some .creating) ∨
        (∃ args, query = .finishOperation args ∧ id = args.instanceId ∧
        next.stateOf id = some args.state) ∨
      ∃ state, query = .setInstanceState id state ∧ next.stateOf id = some state := by
  rcases Query.run_row ran id with
    same | ⟨old, new, found, moved, touches⟩ | ⟨args, spec, identity, rfl, -, -, -, absent, created⟩
  · exact .inl (by rw [stateOf, same, stateOf])
  · have named := getInstance_named found
    have landed : next.stateOf id = some new.state := by
      rw [stateOf, moved]
      rfl
    rcases (Query.rewritten touches).state with same | moves
    · exact .inl (by rw [landed, same, stateOf, found]; rfl)
    cases query with
    | submitAtomically args =>
      obtain ⟨recorded, -, moves, target, planned, -, rfl⟩ := touches
      exact .inr (.inl ⟨args, recorded, rfl, landed, named.symm.trans target, moves, old.state,
        by rw [stateOf, found]; rfl, planned⟩)
    | finishOperation args =>
      obtain ⟨target, rfl⟩ := touches
      exact .inr (.inr (.inr (.inl ⟨args, rfl, named.symm.trans target, landed⟩)))
    | setInstanceState target state =>
      obtain ⟨rfl, rfl⟩ := touches
      rw [← named] at landed ⊢
      exact .inr (.inr (.inr (.inr ⟨state, rfl, landed⟩)))
    | _ => cases moves
  · exact .inr (.inr (.inl
      ⟨args, rfl, by rw [stateOf, absent]; rfl, by rw [stateOf, created]; rfl⟩))

theorem Query.run_unmoved (ran : query.run nowMs journal = .ok (answer, next))
    (other : query.movesInstance = false) (id : String) :
    next.stateOf id = journal.stateOf id := by
  rcases Query.run_stateOf ran id with same | ⟨_, _, rfl, -⟩ | ⟨_, rfl, -⟩ |
    ⟨_, rfl, -⟩ | ⟨_, rfl, -⟩
  · exact same
  · cases other
  · cases other
  · cases other
  · cases other

/-! ### Armed deadlines -/

namespace Journal

def deadlineOf (journal : Journal) (id : String) : Option Int :=
  (journal.getInstance id).bind InstanceRow.ttlDeadlineMs

theorem deadlineOf_of_instances {journal next : Journal}
    (same : next.instances = journal.instances) (id : String) :
    next.deadlineOf id = journal.deadlineOf id := by
  simp only [deadlineOf, getInstance, same]

end Journal

open Journal in
/-- Only a finalize and an activity renewal arm a deadline, and they say which. -/
theorem Query.run_deadlineOf (ran : query.run nowMs journal = .ok (answer, next)) {id : String}
    {deadline : Int} (armed : next.deadlineOf id = some deadline) :
    journal.deadlineOf id = some deadline ∨
      (∃ args, query = .finishOperation args ∧ args.ttlDeadlineMs = some deadline ∧
        next.stateOf id = some args.state) ∨ query = .setTtlDeadline id (some deadline) := by
  rcases Query.run_row ran id with
    same | ⟨old, new, found, moved, touches⟩ | ⟨args, spec, identity, rfl, -, -, -, absent, created⟩
  · exact .inl (by rw [deadlineOf, ← same]; exact armed)
  · have wrote : new.ttlDeadlineMs = some deadline := by
      rw [deadlineOf, moved] at armed
      exact armed
    rcases (Query.rewritten touches).deadline with same | gone |
      ⟨args, isFinish, armedBy, landed⟩ | sets
    · exact .inl (by rw [deadlineOf, found, ← wrote, same]; rfl)
    · cases gone.symm.trans wrote
    · exact .inr (.inl ⟨args, isFinish, armedBy.trans wrote, by rw [stateOf, moved, ← landed]; rfl⟩)
    · rw [getInstance_named found, wrote] at sets
      exact .inr (.inr sets)
  · rw [deadlineOf, created] at armed
    cases armed

end Barista.Node
