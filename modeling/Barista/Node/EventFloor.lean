import Barista.Node.WatchEvents

/-!
Contract: what the floor of the event journal tells, and what a stream makes of it.

The floor is read off the cursors, and retention goes by the times. It never falls, whatever the clock
does. That nothing above it is missing needs times that agree with cursors. That something below it is
missing needs no such thing: a stream fails with `CURSOR_TOO_OLD` only where an event it has not seen was
deleted. The event may be another instance's, for the floor is the node's.

Owns: runs of inserts and retention, the floor over such runs, and the alarms of a stream. Does not own:
the stream itself, and what it delivers.
-/

namespace Barista.Node

open Foundation

namespace EventJournal

variable {journal : EventJournal} {inserted : List JournalEvent}

/-! ### The floor -/

theorem journalFloor_cases (journal : EventJournal) :
    journal.events = [] ∧ journal.journalFloor = journal.lastPrunedCursor ∨
      ∃ first ∈ journal.events, (∀ event ∈ journal.events, first.cursor ≤ event.cursor) ∧
        journal.journalFloor = first.cursor - 1 := by
  unfold journalFloor
  cases oldest : (journal.events.map JournalEvent.cursor).min? with
  | none =>
    left
    rw [List.min?_eq_none_iff, List.map_eq_nil_iff] at oldest
    exact ⟨oldest, rfl⟩
  | some least =>
    right
    obtain ⟨member, below⟩ := List.min?_eq_some_iff.mp oldest
    obtain ⟨first, there, rfl⟩ := List.mem_map.mp member
    exact ⟨first, there, fun event other => below event.cursor (List.mem_map_of_mem other), rfl⟩

/-- Cursors are given out one after another, and the journal holds none of its own. -/
structure Numbered (journal : EventJournal) (inserted : List JournalEvent) : Prop where
  positive : ∀ event ∈ inserted, 0 < event.cursor
  bounded : ∀ event ∈ inserted, event.cursor ≤ journal.sequence
  given : ∀ cursor, 0 < cursor → cursor ≤ journal.sequence → ∃ event ∈ inserted,
    event.cursor = cursor
  stored : ∀ event ∈ journal.events, event ∈ inserted
  pruned : journal.lastPrunedCursor ≤ journal.sequence

theorem Numbered.empty : Numbered ⟨[], 0, 0⟩ [] := by
  have none_ {event : JournalEvent} : event ∉ ([] : List JournalEvent) := List.not_mem_nil
  refine ⟨?_, ?_, ?_, ?_, le_rfl⟩
  · exact fun event member => absurd member none_
  · exact fun event member => absurd member none_
  · exact fun cursor positive bounded => absurd positive (Nat.not_lt.mpr bounded)
  · exact fun event member => absurd member none_

theorem Trimmed.empty : Trimmed ⟨[], 0, 0⟩ [] := by
  have none_ {event : JournalEvent} : event ∉ ([] : List JournalEvent) := List.not_mem_nil
  refine ⟨.nil, ?_, le_rfl, ?_, .nil, fun event => ?_⟩
  · exact fun event member => absurd member none_
  · exact fun early member => absurd member none_
  · exact ⟨fun member => absurd member none_, fun both => absurd both.1 none_⟩

theorem Numbered.insert (numbered : journal.Numbered inserted) (row : EventRow) :
    (journal.insertEvent row).2.Numbered (inserted ++ [(journal.insertEvent row).1]) where
  positive := by
    intro event member
    rcases List.mem_append.mp member with old | new
    · exact numbered.positive event old
    · rw [List.mem_singleton.mp new]
      exact Nat.succ_pos _
  bounded := by
    intro event member
    rcases List.mem_append.mp member with old | new
    · exact Nat.le_succ_of_le (numbered.bounded event old)
    · rw [List.mem_singleton.mp new]
      exact le_rfl
  given := by
    intro cursor positive bounded
    rcases Nat.le_succ_iff.mp bounded with old | new
    · obtain ⟨event, member, same⟩ := numbered.given cursor positive old
      exact ⟨event, List.mem_append_left _ member, same⟩
    · exact ⟨_, List.mem_append_right _ (List.mem_singleton_self _), new.symm⟩
  stored := by
    intro event member
    rcases List.mem_append.mp member with old | new
    · exact List.mem_append_left _ (numbered.stored event old)
    · exact List.mem_append_right _ new
  pruned := Nat.le_succ_of_le numbered.pruned

theorem sequence_pruneEvents (olderThanMs : Int) (chunk : Nat) :
    (journal.pruneEvents olderThanMs chunk).sequence = journal.sequence := by
  unfold pruneEvents
  split <;> rfl

theorem mem_of_mem_pruneEvents {olderThanMs : Int} {chunk : Nat} {event : JournalEvent}
    (member : event ∈ (journal.pruneEvents olderThanMs chunk).events) : event ∈ journal.events := by
  unfold pruneEvents at member
  split at member
  · exact member
  · exact (List.mem_filter.mp member).1

theorem mem_of_highestPruned {olderThanMs : Int} {chunk highest : Nat}
    (chosen : journal.highestPruned olderThanMs chunk = some highest) :
    ∃ event ∈ journal.events, event.cursor = highest := by
  obtain ⟨event, member, same⟩ := List.mem_map.mp (List.max?_mem chosen)
  exact ⟨event, (List.mem_filter.mp (List.mem_of_mem_take member)).1, same⟩

theorem Numbered.prune (numbered : journal.Numbered inserted) (olderThanMs : Int) (chunk : Nat) :
    (journal.pruneEvents olderThanMs chunk).Numbered inserted where
  positive := numbered.positive
  bounded := by
    rw [sequence_pruneEvents]
    exact numbered.bounded
  given := by
    rw [sequence_pruneEvents]
    exact numbered.given
  stored := fun event member => numbered.stored event (mem_of_mem_pruneEvents member)
  pruned := by
    unfold pruneEvents
    split
    · exact numbered.pruned
    · next highest chosen =>
        obtain ⟨event, member, rfl⟩ := mem_of_highestPruned chosen
        exact max_le numbered.pruned (numbered.bounded event (numbered.stored event member))

theorem Numbered.floor_le_sequence (numbered : journal.Numbered inserted) :
    journal.journalFloor ≤ journal.sequence := by
  rcases journalFloor_cases journal with ⟨-, floor⟩ | ⟨first, member, -, floor⟩
  · rw [floor]
    exact numbered.pruned
  · have bounded := numbered.bounded first (numbered.stored first member)
    omega

theorem Numbered.floor_lt (numbered : journal.Numbered inserted) {event : JournalEvent}
    (member : event ∈ journal.events) : journal.journalFloor < event.cursor := by
  rcases journalFloor_cases journal with ⟨none_, -⟩ | ⟨first, there, least, floor⟩
  · rw [none_] at member
    cases member
  · have positive := numbered.positive first (numbered.stored first there)
    have below := least event member
    omega

theorem Numbered.deleted_at_floor (numbered : journal.Numbered inserted)
    (above : 0 < journal.journalFloor) :
    ∃ event ∈ inserted, event ∉ journal.events ∧ event.cursor = journal.journalFloor := by
  obtain ⟨event, member, same⟩ := numbered.given _ above numbered.floor_le_sequence
  refine ⟨event, member, fun there => ?_, same⟩
  have beyond := numbered.floor_lt there
  omega

theorem Numbered.floor_le_insert (numbered : journal.Numbered inserted) (row : EventRow) :
    journal.journalFloor ≤ (journal.insertEvent row).2.journalFloor := by
  rcases journalFloor_cases (journal.insertEvent row).2 with ⟨none_, -⟩ |
    ⟨first, member, least, floor⟩
  · exact absurd none_ (List.append_ne_nil_of_right_ne_nil _ (List.cons_ne_nil _ _))
  · rw [floor]
    rcases List.mem_append.mp member with old | new
    · exact Nat.le_sub_one_of_lt (numbered.floor_lt old)
    · rw [List.mem_singleton.mp new]
      exact numbered.floor_le_sequence

theorem Numbered.floor_le_prune (numbered : journal.Numbered inserted) (olderThanMs : Int)
    (chunk : Nat) :
    journal.journalFloor ≤ (journal.pruneEvents olderThanMs chunk).journalFloor := by
  rcases journalFloor_cases (journal.pruneEvents olderThanMs chunk) with
    ⟨none_, floor⟩ | ⟨first, member, -, floor⟩
  · cases chosen : journal.highestPruned olderThanMs chunk with
    | none => simp only [pruneEvents, chosen, le_refl]
    | some highest =>
      -- The last event is gone, so the pass has gone at least as far as the first one.
      obtain ⟨event, member, rfl⟩ := mem_of_highestPruned chosen
      rw [floor]
      simp only [pruneEvents, chosen]
      exact (numbered.floor_lt member).le.trans (le_max_right _ _)
  · rw [floor]
    exact Nat.le_sub_one_of_lt (numbered.floor_lt (mem_of_mem_pruneEvents member))

end EventJournal

/-! ### Runs of inserts and retention -/

structure EventLog where
  journal : EventJournal
  inserted : List JournalEvent

inductive LogLabel where
  | insert (row : EventRow)
  /-- One pass of a sweep. -/
  | prune (olderThanMs : Int) (chunk : Nat)

namespace EventLog

def initial : EventLog := ⟨⟨[], 0, 0⟩, []⟩

def next (log : EventLog) : LogLabel → Option EventLog
  | .insert row =>
    -- There is no row id above the largest `i64`, and the insert fails.
    if log.journal.sequence + 1 < 2 ^ 63 then
      let (event, journal) := log.journal.insertEvent row
      some ⟨journal, log.inserted ++ [event]⟩
    else none
  | .prune olderThanMs chunk => some ⟨log.journal.pruneEvents olderThanMs chunk, log.inserted⟩

def reach (labels : List LogLabel) : Option EventLog := run next initial labels

/-- The clock does not run backwards between one insert and the next. -/
def clockwise (log : EventLog) : LogLabel → Bool
  | .insert row => log.inserted.getLast?.all fun event => event.row.atMs ≤ row.atMs
  | .prune .. => true

variable {log after : EventLog} {label : LogLabel}

theorem numbered_next (numbered : log.journal.Numbered log.inserted)
    (step : log.next label = some after) :
    after.journal.Numbered after.inserted ∧ log.journal.journalFloor ≤
      after.journal.journalFloor := by
  cases label with
  | insert row =>
    simp only [next, Option.ite_none_right_eq_some, Option.some.injEq] at step
    obtain ⟨-, rfl⟩ := step
    exact ⟨numbered.insert row, numbered.floor_le_insert row⟩
  | prune olderThanMs chunk =>
    cases step
    exact ⟨numbered.prune olderThanMs chunk, numbered.floor_le_prune olderThanMs chunk⟩

theorem trimmed_next (trimmed : log.journal.Trimmed log.inserted)
    (step : log.next label = some after)
    (clockwise : log.clockwise label = true) : after.journal.Trimmed after.inserted := by
  cases label with
  | insert row =>
    simp only [next, Option.ite_none_right_eq_some, Option.some.injEq] at step
    obtain ⟨-, rfl⟩ := step
    exact trimmed.insert clockwise
  | prune olderThanMs chunk =>
    cases step
    exact trimmed.prune olderThanMs chunk

/-- **Nothing above the floor is missing, where the clock does not run backwards; and the floor never
falls**, whatever the clock does. -/
theorem journal_floor_sound (labels : List LogLabel) (log : EventLog)
    (reached : reach labels = some log) :
    (Along next (fun before label _ => before.clockwise label = true) initial labels →
      ∀ event ∈ log.inserted, log.journal.journalFloor < event.cursor →
        event ∈ log.journal.events) ∧
    ∀ later after, run next log later = some after → log.journal.journalFloor ≤
      after.journal.journalFloor := by
  constructor
  · intro clockwise event member above
    have trimmed : log.journal.Trimmed log.inserted := by
      refine clockwise.invariant (I := fun log => log.journal.Trimmed log.inserted) ?_
        .empty reached
      intro before label after invariant step here
      exact trimmed_next invariant step here
    exact trimmed.above_floor le_rfl member above
  · intro later after run
    have numbered : log.journal.Numbered log.inserted :=
      run_invariant (P := fun log => log.journal.Numbered log.inserted)
        (fun invariant step => (numbered_next invariant step).1) EventJournal.Numbered.empty reached
    exact run_relates (P := fun log => log.journal.Numbered log.inserted)
      (R := fun log after => log.journal.journalFloor ≤ after.journal.journalFloor)
      (fun _ => le_rfl) le_trans numbered_next numbered run

def inOrder : List LogLabel :=
  [.insert (Watch.sampleEvent 10), .insert (Watch.sampleEvent 30), .prune 20 256]

theorem inOrder_floor_sound : ∃ log, reach inOrder = some log ∧ log.journal.journalFloor = 1 ∧
    (∀ event ∈ log.inserted, 1 < event.cursor → event ∈ log.journal.events) ∧
    ∀ later after, run next log later = some after → 1 ≤ after.journal.journalFloor := by
  obtain ⟨ran, clockwise⟩ : ((reach inOrder).any fun log => log.journal.journalFloor = 1) = true ∧
      Along next (fun before label _ => before.clockwise label = true) initial inOrder := by
    decide +kernel
  obtain ⟨log, reached, floorOne⟩ := exists_of_any ran
  obtain ⟨sound, rises⟩ := journal_floor_sound inOrder log reached
  rw [floorOne] at sound rises
  exact ⟨log, reached, floorOne, sound clockwise, rises⟩

/-- The clock was set back between the first event and the second, and a pass removes the second. -/
def setBack : List LogLabel :=
  [.insert (Watch.sampleEvent 30), .insert (Watch.sampleEvent 20), .prune 25 256]

/-- **An event above the floor is gone.** -/
theorem deleted_above_floor : ∃ log, reach setBack = some log ∧
    ∃ event ∈ log.inserted, log.journal.journalFloor < event.cursor ∧ event ∉ log.journal.events :=
  exists_of_any (by decide +kernel)

end EventLog

/-! ### The alarms of a stream -/

namespace Watch

variable {request : WatchEventsRequest} {watch after : Watch} {label : WatchLabel} {asked : Nat}

/-- A stream of new events begins while the newest one is still in the journal. -/
def anchored (request : WatchEventsRequest) (watch : Watch) : WatchLabel → Bool
  | .proceed _ =>
    match watch.phase with
    | .subscribed => request.fromCursor ≠ 0 ∨ watch.journal.headCursor = watch.journal.sequence
    | _ => true
  | _ => true

/-- Events above this cursor were asked for: the one the request names, or for a stream of new events the
newest one there is when the stream begins. -/
def noteAsked (request : WatchEventsRequest) (watch : Watch) (label : WatchLabel) (asked : Nat) :
    Nat :=
  match label, watch.phase with
  | .proceed _, .subscribed => if request.fromCursor = 0 then watch.journal.sequence else asked
  | _, _ => asked

def askedFor (request : WatchEventsRequest) (labels : List WatchLabel) : Nat :=
  observe (next request) (noteAsked request) initial labels request.fromCursor.toNat

def lastSeen (watch : Watch) (asked : Nat) :
    Nat := (watch.sent.getLast?.map JournalEvent.cursor).getD asked

/-- The stream answers or ends with `CURSOR_TOO_OLD`, which is the only error without a fault. -/
def TooOld (request : WatchEventsRequest) (watch : Watch) : Prop :=
  ∃ after, watch.proceed request false = some after ∧ after.phase = .ended true

/-- The stream's own cursor is the last one seen, but for an event it has in its hands. -/
def Following (request : WatchEventsRequest) (watch : Watch) (asked : Nat) : Prop :=
  match watch.phase with
  | .idle | .subscribed => watch.sent = [] ∧ asked = request.fromCursor.toNat
  | .offering event => watch.last = event.cursor
  | .ended _ => True
  | .replaying | .sending .. | .listening | .repairing => watch.last = watch.lastSeen asked

theorem Following.proceed (following : Following request watch asked) {fault : Bool}
    (anchored : watch.anchored request (.proceed fault) = true)
    (step : watch.proceed request fault = some after) :
    Following request after (noteAsked request watch (.proceed fault) asked) := by
  unfold Following at following
  unfold Watch.anchored at anchored
  unfold noteAsked
  cases phase : watch.phase with
  | idle => simp [Watch.proceed, phase] at step
  | ended failed => simp [Watch.proceed, phase] at step
  | subscribed =>
    simp only [phase] at following anchored
    simp only [Watch.proceed, phase, Option.some.injEq] at step
    subst step
    unfold Following anchorAt fail
    grind [lastSeen]
  | replaying =>
    simp only [phase] at following
    simp only [Watch.proceed, phase] at step
    unfold Following fail at *
    grind [lastSeen]
  | sending page exhausted =>
    simp only [phase] at following
    unfold Following
    cases page with
    | nil =>
      simp only [Watch.proceed, phase, Option.some.injEq] at step
      subst step
      cases exhausted <;> exact following
    | cons event rest =>
      simp only [Watch.proceed, phase, Option.ite_none_right_eq_some, Option.some.injEq] at step
      obtain ⟨-, rfl⟩ := step
      simp [lastSeen]
  | listening =>
    simp only [phase] at following
    simp only [Watch.proceed, phase, Watch.listen] at step
    unfold Following
    grind [lastSeen]
  | offering event =>
    simp only [phase] at following
    simp only [Watch.proceed, phase, Option.ite_none_right_eq_some, Option.some.injEq] at step
    obtain ⟨-, rfl⟩ := step
    unfold Following
    simp [lastSeen, following]
  | repairing =>
    simp only [phase] at following
    simp only [Watch.proceed, phase] at step
    unfold Following fail at *
    grind [lastSeen]

theorem Following.same (following : Following request watch asked)
    (phase : after.phase = watch.phase)
    (last : after.last = watch.last) (sent : after.sent = watch.sent) :
    Following request after asked := by
  unfold Following lastSeen at *
  rw [phase, last, sent]
  exact following

theorem Following.next (following : Following request watch asked)
    (anchored : watch.anchored request label = true)
    (step : watch.next request label = some after) :
    Following request after (noteAsked request watch label asked) := by
  cases label with
  | insert row =>
    simp only [Watch.next] at step
    split at step
    · cases step
    · simp only [Option.ite_none_right_eq_some, Option.some.injEq] at step
      obtain ⟨-, rfl⟩ := step
      exact following.same rfl rfl rfl
  | broadcast =>
    obtain ⟨event, -, rfl⟩ := Option.map_eq_some_iff.mp step
    exact following.same rfl rfl rfl
  | prune olderThanMs chunk =>
    cases step
    exact following.same rfl rfl rfl
  | subscribe =>
    simp only [Watch.next] at step
    split at step
    · next idle =>
        cases step
        unfold Following at following ⊢
        rw [idle] at following
        exact following
    · cases step
  | proceed fault => exact following.proceed anchored step
  | receive =>
    simp only [Watch.next, Option.ite_none_right_eq_some, Option.some.injEq] at step
    obtain ⟨-, rfl⟩ := step
    exact following.same rfl rfl rfl
  | hangUp =>
    simp only [Watch.next] at step
    split at step
    · cases step
    · cases step
    · cases step
      trivial

theorem proceed_journal {fault : Bool} (step : watch.proceed request fault = some after) :
    after.journal = watch.journal ∧ after.inserted = watch.inserted := by
  unfold Watch.proceed Watch.listen Watch.anchorAt Watch.fail at step
  grind

theorem numbered_next (numbered : watch.journal.Numbered watch.inserted)
    (step : watch.next request label = some after) : after.journal.Numbered after.inserted := by
  cases label with
  | insert row =>
    simp only [Watch.next] at step
    split at step
    · cases step
    · simp only [Option.ite_none_right_eq_some, Option.some.injEq] at step
      obtain ⟨-, rfl⟩ := step
      exact numbered.insert row
  | broadcast =>
    obtain ⟨event, -, rfl⟩ := Option.map_eq_some_iff.mp step
    exact numbered
  | prune olderThanMs chunk =>
    cases step
    exact numbered.prune olderThanMs chunk
  | subscribe =>
    simp only [Watch.next] at step
    split at step
    · cases step
      exact numbered
    · cases step
  | proceed fault =>
    obtain ⟨journal, inserted⟩ := proceed_journal step
    rw [journal, inserted]
    exact numbered
  | receive =>
    simp only [Watch.next, Option.ite_none_right_eq_some, Option.some.injEq] at step
    obtain ⟨-, rfl⟩ := step
    exact numbered
  | hangUp =>
    simp only [Watch.next] at step
    split at step
    · cases step
    · cases step
    · cases step
      exact numbered

theorem TooOld.lastSeen_lt (following : Following request watch asked)
    (tooOld : TooOld request watch) : watch.lastSeen asked < watch.journal.journalFloor := by
  obtain ⟨after, step, failed⟩ := tooOld
  unfold Following at following
  unfold Watch.proceed at step
  split at step
  · cases step
  · cases step
  · next subscribed =>
      rw [subscribed] at following
      obtain ⟨none_, rfl⟩ := following
      simp only [Bool.false_eq_true, if_false, Option.some.injEq] at step
      subst step
      simp only [anchorAt] at failed
      split at failed
      · cases failed
      · split at failed
        · next below =>
            rw [lastSeen, none_]
            exact below
        · cases failed
  · cases step
    cases failed
  · cases step
    dsimp only at failed
    split at failed <;> cases failed
  · simp only [Option.ite_none_right_eq_some, Option.some.injEq] at step
    obtain ⟨-, rfl⟩ := step
    cases failed
  · unfold Watch.listen at step
    grind
  · simp only [Option.ite_none_right_eq_some, Option.some.injEq] at step
    obtain ⟨-, rfl⟩ := step
    cases failed
  · next repairing =>
      rw [repairing] at following
      split at step
      · next below =>
          rw [← following]
          exact below.resolve_left nofun
      · cases step
        cases failed

/-- **No stream is told that its cursor is too old, unless an event above the last one it has seen was
deleted by retention.** -/
theorem cursor_too_old_after_deletion (request : WatchEventsRequest) (labels : List WatchLabel)
    (watch : Watch) (reached : reach request labels = some watch)
    (anchored : Along (next request) (fun before label _ => before.anchored request label = true)
      initial labels)
    (tooOld : TooOld request watch) : ∃ event ∈ watch.inserted, event ∉ watch.journal.events ∧
      watch.lastSeen (askedFor request labels) < event.cursor := by
  have following : Following request watch (askedFor request labels) := by
    refine anchored.observed (I := Following request) ?_ ⟨rfl, rfl⟩ reached
    intro before label after asked invariant step here
    exact invariant.next here step
  have numbered : watch.journal.Numbered watch.inserted :=
    run_invariant (P := fun watch => watch.journal.Numbered watch.inserted) numbered_next
      .empty reached
  have below := tooOld.lastSeen_lt following
  obtain ⟨event, member, gone, same⟩ := numbered.deleted_at_floor (Nat.zero_lt_of_lt below)
  exact ⟨event, member, gone, same ▸ below⟩

instance : Decidable (TooOld request watch) :=
  match step : watch.proceed request false with
  | some after =>
    match phase : after.phase with
    | .ended true => isTrue ⟨after, step, phase⟩
    | .ended false | .idle | .subscribed | .replaying | .sending .. | .listening |
        .offering _ | .repairing =>
      isFalse fun ⟨other, stepped, failed⟩ => by
        rw [step, Option.some.injEq] at stepped
        rw [← stepped, phase] at failed
        cases failed
  | none => isFalse fun ⟨other, stepped, _⟩ => by
      rw [step] at stepped
      cases stepped

/-- Retention removes the first two of three events, and a subscriber has seen the first. -/
def fellBehind : List WatchLabel := emits [10, 20, 30] ++ [.prune 25 256, .subscribe]

theorem fellBehind_too_old : ∃ watch, reach ⟨1, "i"⟩ fellBehind = some watch ∧
    TooOld ⟨1, "i"⟩ watch ∧ ∃ event ∈ watch.inserted, event ∉ watch.journal.events ∧
      watch.lastSeen (askedFor ⟨1, "i"⟩ fellBehind) < event.cursor := by
  obtain ⟨ran, anchored⟩ : ((reach ⟨1, "i"⟩ fellBehind).any fun watch => TooOld ⟨1, "i"⟩ watch) =
    true ∧
      Along (next ⟨1, "i"⟩) (fun before label _ => before.anchored ⟨1, "i"⟩ label = true) initial
        fellBehind := by decide +kernel
  obtain ⟨watch, reached, tooOld⟩ := exists_of_any ran
  have alarm := tooOld
  exact ⟨watch, reached, alarm, cursor_too_old_after_deletion ⟨1, "i"⟩ fellBehind watch reached
    anchored alarm⟩

/-- An alarm with nothing missed: no deleted event of the instance asked for is above the last one seen. -/
def FalseAlarm (request : WatchEventsRequest) (labels : List WatchLabel) (watch : Watch) : Prop :=
  TooOld request watch ∧ ∀ event ∈ watch.inserted, event ∉ watch.journal.events →
    event.concerns request.instanceId = true → event.cursor ≤ watch.lastSeen
    (askedFor request labels)

instance (labels : List WatchLabel) : Decidable (FalseAlarm request labels watch) := by
  unfold FalseAlarm
  infer_instance

/-- The subscriber has seen the only event of its instance; retention removes it, and one of another
instance. -/
def othersDeleted : List WatchLabel :=
  [.insert { sampleEvent 10 with instanceId := "a" }, .broadcast,
    .insert { sampleEvent 20 with instanceId := "b" }, .broadcast, .prune 25 256, .subscribe]

/-- **A subscriber that has missed nothing is told that its cursor is too old.** -/
theorem too_old_without_loss :
    ∃ watch, reach ⟨1, "a"⟩ othersDeleted = some watch ∧ FalseAlarm ⟨1, "a"⟩ othersDeleted watch :=
  exists_of_any (by decide +kernel)

end Watch

end Barista.Node
