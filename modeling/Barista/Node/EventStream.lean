import Mathlib.Algebra.Group.Int.Defs
import Mathlib.Algebra.Group.Nat.Defs
import Mathlib.Data.List.MinMax
import Barista.Foundation.Ascending
import Barista.Foundation.Run
import Barista.Node.Journal

/-!
Contract: one `WatchEvents` stream, and the journal and the live broadcast it is spliced from.

The stream subscribes, anchors itself at the head or at the cursor it was asked to start from, replays
the journal in pages, and then listens; a receiver that has fallen behind the broadcast's buffer goes
back to the journal. Emitters insert an event and broadcast it under one lock. Retention deletes old
events whenever it likes. Before each replay the journal's floor is checked, and never during one.

Owns: the journal's events and their queries, the transition system of one stream, and what the journal
still holds after retention when times agree with cursors. Does not own: which events there are, the
time a live event is stamped with on its way, and what a subscriber is promised.
-/

namespace Barista.Node

open Foundation

/-! ### The journal of events -/

structure JournalEvent where
  cursor : Nat
  row : EventRow
deriving DecidableEq

/-- The table of events, in the order of their cursors, and the two counters beside it. -/
structure EventJournal where
  events : List JournalEvent
  sequence : Nat
  lastPrunedCursor : Nat

namespace EventJournal

def insertEvent (journal : EventJournal) (row : EventRow) : JournalEvent × EventJournal :=
  let event : JournalEvent := ⟨journal.sequence + 1, row⟩
  (event, { journal with events := journal.events ++ [event], sequence := journal.sequence + 1 })

def journalFloor (journal : EventJournal) : Nat :=
  match (journal.events.map JournalEvent.cursor).min? with
  | some min => min - 1
  | none => journal.lastPrunedCursor

def headCursor (journal : EventJournal) : Nat :=
  (journal.events.map JournalEvent.cursor).max?.getD 0

end EventJournal

/-- Whether an event is among those of an instance; the empty id stands for all of them. -/
def JournalEvent.concerns (event : JournalEvent) (instanceId : String) : Bool :=
  instanceId = "" || event.row.instanceId = instanceId

def asI64 (value : Nat) : Int := if value < 2 ^ 63 then value else value - 2 ^ 64

namespace EventJournal

/-- Events after a cursor, the oldest first; no limit is written as 0. -/
def eventsAfter (journal : EventJournal) (cursor : Nat) (instanceId : String) (limit : Nat) :
    List JournalEvent :=
  let matching := journal.events.filter fun event =>
    asI64 cursor < event.cursor && event.concerns instanceId
  if limit = 0 then matching else matching.take limit

def highestPruned (journal : EventJournal) (olderThanMs : Int) (chunk : Nat) : Option Nat :=
  (((journal.events.filter fun event => event.row.atMs < olderThanMs).take chunk).map
    JournalEvent.cursor).max?

def pruneEvents (journal : EventJournal) (olderThanMs : Int) (chunk : Nat) : EventJournal :=
  match journal.highestPruned olderThanMs chunk with
  | none => journal
  | some highest =>
    { journal with
      events := journal.events.filter fun event =>
        !(event.row.atMs < olderThanMs && event.cursor ≤ highest)
      lastPrunedCursor := max journal.lastPrunedCursor highest }

end EventJournal

/-! ### One stream -/

structure WatchEventsRequest where
  fromCursor : UInt64
  instanceId : String

def EVENT_PAGE : Nat := 256

/-- How many broadcast events a receiver may be behind. -/
def LIVE_BUFFER : Nat := 1024

/-- How many events wait for the subscriber to take them. -/
def STREAM_BUFFER : Nat := 256

inductive WatchPhase where
  | idle
  /-- Subscribed to the broadcast, and about to find its anchor. -/
  | subscribed
  /-- About to read a page. -/
  | replaying
  | sending (page : List JournalEvent) (exhausted : Bool)
  | listening
  /-- A live event waits for room. -/
  | offering (event : JournalEvent)
  /-- Fell behind, and is about to check the floor. -/
  | repairing
  | ended (failed : Bool)

structure Watch where
  journal : EventJournal
  /-- An event that was inserted and not broadcast yet; its emitter holds the lock. -/
  emitting : Option JournalEvent
  /-- What was broadcast. -/
  live : List JournalEvent
  /-- How much of it the receiver has passed. -/
  position : Nat
  phase : WatchPhase
  anchor : Nat
  last : Nat
  /-- What the stream has sent, and how much of it the subscriber has taken. -/
  sent : List JournalEvent
  received : Nat
  /-- Every event there ever was. -/
  inserted : List JournalEvent

inductive WatchLabel where
  | insert (row : EventRow)
  | broadcast
  | prune (olderThanMs : Int) (chunk : Nat)
  | subscribe
  /-- The stream's next action; a query of the journal may fail. -/
  | proceed (fault : Bool)
  | receive
  /-- The subscriber is gone, or the bus is. -/
  | hangUp

namespace Watch

def initial : Watch := ⟨⟨[], 0, 0⟩, none, [], 0, .idle, 0, 0, [], 0, []⟩

def delivered (watch : Watch) : List JournalEvent := watch.sent.take watch.received

def hasRoom (watch : Watch) : Bool := watch.sent.length - watch.received < STREAM_BUFFER

def fail (watch : Watch) : Watch := { watch with phase := .ended true }

variable (request : WatchEventsRequest)

def anchorAt (watch : Watch) : Watch :=
  if request.fromCursor = 0 then
    let head := watch.journal.headCursor
    { watch with anchor := head, last := head, phase := .listening }
  else
    let anchor := request.fromCursor.toNat
    if anchor < watch.journal.journalFloor then watch.fail
    else { watch with anchor := anchor, last := anchor, phase := .replaying }

def listen (watch : Watch) : Option Watch :=
  if LIVE_BUFFER < watch.live.length - watch.position then
    some { watch with position := watch.live.length - LIVE_BUFFER, phase := .repairing }
  else
    watch.live[watch.position]?.map fun event =>
      let passed := { watch with position := watch.position + 1 }
      if event.cursor ≤ watch.last then passed
      else if !event.concerns request.instanceId then passed
      else { passed with last := event.cursor, phase := .offering event }

def proceed (watch : Watch) (fault : Bool) : Option Watch :=
  match watch.phase with
  | .idle | .ended _ => none
  | .subscribed => some (if fault then watch.fail else watch.anchorAt request)
  | .replaying =>
    if fault then some watch.fail
    else
      let page := watch.journal.eventsAfter watch.last request.instanceId EVENT_PAGE
      some { watch with phase := .sending page (page.length < EVENT_PAGE) }
  | .sending [] exhausted =>
    some { watch with phase := if exhausted then .listening else .replaying }
  | .sending (event :: rest) exhausted =>
    if watch.hasRoom then
      some { watch with
        sent := watch.sent ++ [event], last := event.cursor, phase := .sending rest exhausted }
    else none
  | .listening => watch.listen request
  | .offering event =>
    if watch.hasRoom then some { watch with sent := watch.sent ++ [event], phase := .listening }
    else none
  | .repairing =>
    if fault ∨ watch.last < watch.journal.journalFloor then some watch.fail
    else some { watch with phase := .replaying }

def next (watch : Watch) : WatchLabel → Option Watch
  | .insert row =>
    match watch.emitting with
    | some _ => none
    | none =>
      -- There is no row id above the largest `i64`, and the insert fails.
      if watch.journal.sequence + 1 < 2 ^ 63 then
        let (event, journal) := watch.journal.insertEvent row
        some { watch with
          journal := journal, emitting := some event, inserted := watch.inserted ++ [event] }
      else none
  | .broadcast => watch.emitting.map fun event =>
    { watch with emitting := none, live := watch.live ++ [event] }
  | .prune olderThanMs chunk =>
    some { watch with journal := watch.journal.pruneEvents olderThanMs chunk }
  | .subscribe =>
    match watch.phase with
    | .idle => some { watch with phase := .subscribed, position := watch.live.length }
    | _ => none
  | .proceed fault => watch.proceed request fault
  | .receive =>
    if watch.received < watch.sent.length then
      some { watch with received := watch.received + 1 }
    else none
  | .hangUp =>
    match watch.phase with
    | .idle | .ended _ => none
    | _ => some { watch with phase := .ended false }

def reach (labels : List WatchLabel) : Option Watch := run (next request) initial labels

/-! ### The conditions -/

/-- The cursor above which the stream relies on what the journal holds. -/
def horizon (watch : Watch) : Option Nat :=
  match watch.phase with
  | .replaying => some watch.last
  | .sending page false => some ((page.getLast?.map JournalEvent.cursor).getD watch.last)
  | _ => none

/-- The clock does not run backwards, retention leaves alone what a replay has yet to read, a cursor to
start from fits an `i64`, and a stream of new events begins while the newest one is still in the
journal. -/
def orderly (watch : Watch) : WatchLabel → Bool
  | .insert row => watch.inserted.getLast?.all fun event => event.row.atMs ≤ row.atMs
  | .prune olderThanMs chunk => (watch.journal.highestPruned olderThanMs chunk).all fun highest =>
    watch.horizon.all fun cursor => highest ≤ cursor
  | .proceed _ =>
    match watch.phase with
    | .subscribed =>
      if request.fromCursor = 0 then watch.journal.headCursor = watch.journal.sequence
      else request.fromCursor.toNat < 2 ^ 63
    | _ => true
  | _ => true

end Watch

/-! ### What the journal still holds -/

/-- The journal holds every event but those retention has deleted, the oldest first; times agree with
cursors. -/
structure EventJournal.Trimmed (journal : EventJournal) (inserted : List JournalEvent) : Prop where
  ordered : Ascending JournalEvent.cursor inserted
  bounded : ∀ event ∈ inserted, event.cursor ≤ journal.sequence
  pruned : journal.lastPrunedCursor ≤ journal.sequence
  timed : ∀ early ∈ inserted, ∀ late ∈ inserted, early.cursor ≤ late.cursor →
    early.row.atMs ≤ late.row.atMs
  sorted : Ascending JournalEvent.cursor journal.events
  kept : ∀ event, event ∈ journal.events ↔ event ∈ inserted ∧
    journal.lastPrunedCursor < event.cursor

namespace EventJournal

variable {journal : EventJournal} {inserted : List JournalEvent}

theorem Trimmed.insert (trimmed : journal.Trimmed inserted) {row : EventRow}
    (later : inserted.getLast?.all (fun event => event.row.atMs ≤ row.atMs) = true) :
    (journal.insertEvent row).2.Trimmed (inserted ++ [(journal.insertEvent row).1]) := by
  have after {event : JournalEvent} (member : event ∈ inserted) :
    event.cursor < journal.sequence + 1 :=
    Nat.lt_succ_of_le (trimmed.bounded event member)
  have time {event : JournalEvent} (member : event ∈ inserted) : event.row.atMs ≤ row.atMs := by
    obtain ⟨final, last⟩ : ∃ final, inserted.getLast? = some final := by
      cases found : inserted.getLast? with
      | none =>
        rw [List.getLast?_eq_none_iff.mp found] at member
        cases member
      | some final => exact ⟨final, rfl⟩
    rw [last] at later
    exact (trimmed.timed event member final (List.mem_of_getLast? last)
      (trimmed.ordered.le_last last member)).trans (of_decide_eq_true later)
  refine ⟨trimmed.ordered.snoc fun old member => after member, ?_,
    trimmed.pruned.trans (Nat.le_succ _), ?_, ?_, ?_⟩
  · intro event member
    rcases List.mem_append.mp member with old | new
    · exact (after old).le
    · exact (congrArg JournalEvent.cursor (List.mem_singleton.mp new)).le
  · intro early earlyMember late lateMember before
    rcases List.mem_append.mp earlyMember with oldEarly | newEarly <;>
      rcases List.mem_append.mp lateMember with oldLate | newLate
    · exact trimmed.timed early oldEarly late oldLate before
    · rw [List.mem_singleton.mp newLate]
      exact time oldEarly
    · rw [List.mem_singleton.mp newEarly] at before
      exact absurd (after oldLate) (Nat.not_lt.mpr before)
    · rw [List.mem_singleton.mp newEarly, List.mem_singleton.mp newLate]
  · exact trimmed.sorted.snoc fun old member => after ((trimmed.kept old).mp member).1
  · intro event
    simp only [insertEvent, List.mem_append, List.mem_singleton, trimmed.kept]
    constructor
    · rintro (⟨old, above⟩ | rfl)
      · exact ⟨.inl old, above⟩
      · exact ⟨.inr rfl, Nat.lt_succ_of_le trimmed.pruned⟩
    · rintro ⟨old | rfl, above⟩
      · exact .inl ⟨old, above⟩
      · exact .inr rfl

theorem Trimmed.mem_prune (trimmed : journal.Trimmed inserted) {olderThanMs : Int}
    {chunk highest : Nat}
    (chosen : journal.highestPruned olderThanMs chunk = some highest) {event : JournalEvent} :
    event ∈ (journal.pruneEvents olderThanMs chunk).events ↔
      event ∈ journal.events ∧ highest < event.cursor := by
  obtain ⟨top, topMember, rfl⟩ := List.mem_map.mp (List.max?_mem chosen)
  obtain ⟨topThere, topOld⟩ := List.mem_filter.mp (List.mem_of_mem_take topMember)
  simp only [pruneEvents, chosen, List.mem_filter]
  refine and_congr_right fun there => ?_
  constructor
  · intro survives
    by_contra low
    have older : event.row.atMs < olderThanMs :=
      (trimmed.timed event ((trimmed.kept event).mp there).1 top ((trimmed.kept top).mp topThere).1
        (Nat.not_lt.mp low)).trans_lt (of_decide_eq_true topOld)
    simp [older, Nat.not_lt.mp low] at survives
  · intro above
    simp [Nat.not_le.mpr above]

theorem Trimmed.prune (trimmed : journal.Trimmed inserted) (olderThanMs : Int) (chunk : Nat) :
    (journal.pruneEvents olderThanMs chunk).Trimmed inserted := by
  cases chosen : journal.highestPruned olderThanMs chunk with
  | none =>
    simp only [pruneEvents, chosen]
    exact trimmed
  | some highest =>
    have survivors {event : JournalEvent} :=
      @Trimmed.mem_prune journal inserted trimmed olderThanMs chunk highest chosen event
    have counters : (journal.pruneEvents olderThanMs chunk).sequence = journal.sequence ∧
        (journal.pruneEvents olderThanMs chunk).lastPrunedCursor =
          max journal.lastPrunedCursor highest := by
      simp only [pruneEvents, chosen, and_self]
    refine ⟨trimmed.ordered, ?_, ?_, trimmed.timed, ?_, ?_⟩
    · rw [counters.1]
      exact trimmed.bounded
    · obtain ⟨top, topMember, rfl⟩ := List.mem_map.mp (List.max?_mem chosen)
      have there := (List.mem_filter.mp (List.mem_of_mem_take topMember)).1
      rw [counters.1, counters.2]
      exact max_le trimmed.pruned (trimmed.bounded top ((trimmed.kept top).mp there).1)
    · refine trimmed.sorted.sublist ?_
      simp only [pruneEvents, chosen]
      exact List.filter_sublist
    · intro event
      rw [survivors, trimmed.kept, counters.2, and_assoc, max_lt_iff]

/-- **At or above the floor nothing is missing.** -/
theorem Trimmed.above_floor (trimmed : journal.Trimmed inserted) {cursor : Nat}
    (served : journal.journalFloor ≤ cursor) {event : JournalEvent} (member : event ∈ inserted)
    (above : cursor < event.cursor) : event ∈ journal.events := by
  refine (trimmed.kept event).mpr ⟨member, ?_⟩
  unfold journalFloor at served
  cases oldest : (journal.events.map JournalEvent.cursor).min? with
  | none =>
    rw [oldest] at served
    exact served.trans_lt above
  | some least =>
    rw [oldest] at served
    obtain ⟨first, firstMember, rfl⟩ := List.mem_map.mp (List.min?_mem oldest)
    have kept := ((trimmed.kept first).mp firstMember).2
    simp only at served
    omega

theorem eventsAfter_eq {cursor limit : Nat} {instanceId : String} (limited : limit ≠ 0)
    (fits : cursor < 2 ^ 63) : journal.eventsAfter cursor instanceId limit =
      (journal.events.filter fun event =>
        cursor < event.cursor && event.concerns instanceId).take limit := by
  simp only [eventsAfter, asI64, if_neg limited, if_pos fits, Int.ofNat_lt]

theorem Trimmed.mem_page (trimmed : journal.Trimmed inserted) {limit cursor : Nat}
    (limited : limit ≠ 0) (fits : cursor < 2 ^ 63) {instanceId : String} {event : JournalEvent}
    (there : event ∈ journal.events) (above : cursor < event.cursor)
    (concerned : event.concerns instanceId = true) :
    event ∈ journal.eventsAfter cursor instanceId limit ∨
      (∀ early ∈ journal.eventsAfter cursor instanceId limit, early.cursor < event.cursor) ∧
        limit ≤ (journal.eventsAfter cursor instanceId limit).length := by
  rw [eventsAfter_eq limited fits]
  have asked : event ∈ journal.events.filter fun event =>
      cursor < event.cursor && event.concerns instanceId :=
    List.mem_filter.mpr ⟨there, by simp [above, concerned]⟩
  by_cases read : event ∈ (journal.events.filter fun event =>
      cursor < event.cursor && event.concerns instanceId).take limit
  · exact .inl read
  · refine .inr ⟨fun early among => (trimmed.sorted.filter _).take_lt among asked read, ?_⟩
    by_contra short
    rw [List.length_take] at short
    rw [List.take_of_length_le (by omega)] at read
    exact read asked

end EventJournal

end Barista.Node
