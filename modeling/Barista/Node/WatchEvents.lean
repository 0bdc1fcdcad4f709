import Mathlib.Data.UInt
import Barista.Node.EventStream

/-!
Contract: what the subscriber of a `WatchEvents` stream has been told is without a gap.

An event that was asked for and is still to be sent is in the page at hand, in the journal behind it, in
the broadcast or about to be broadcast; and what was sent is all of what was asked for up to a cursor.
Each step keeps this as long as retention deletes nothing a replay has yet to read. Nothing in the code
sees to that: the floor is checked before a replay, and not again while its pages are read.

Owns: the invariant of a stream over every interleaving, the conditions it needs, and runs in which
one of them is not met and an event is missed.
-/

namespace Barista.Node

open Foundation

/-! ### What the stream has sent and what is still to come -/

namespace Watch

variable {request : WatchEventsRequest} {watch : Watch}

/-- These are the events that were asked for, from the anchor up to a cursor. -/
structure Exact (request : WatchEventsRequest) (watch : Watch) (events : List JournalEvent)
    (upTo : Nat) : Prop where
  ascending : Ascending JournalEvent.cursor events
  members : ∀ event, event ∈ events ↔ event ∈ watch.inserted ∧
    event.concerns request.instanceId = true ∧ watch.anchor < event.cursor ∧ event.cursor ≤ upTo

def promised (watch : Watch) : List JournalEvent :=
  match watch.phase with
  | .offering event => watch.sent ++ [event]
  | _ => watch.sent

def Upcoming (watch : Watch) (event : JournalEvent) : Prop :=
  event ∈ watch.live.drop watch.position ∨ watch.emitting = some event

/-- Where an event comes from that is still to be sent. -/
def Ahead (watch : Watch) (event : JournalEvent) : Prop :=
  match watch.phase with
  | .replaying => event ∈ watch.journal.events
  | .sending page exhausted => event ∈ page ∨ (∀ early ∈ page, early.cursor < event.cursor) ∧
      if exhausted then watch.Upcoming event else event ∈ watch.journal.events
  | .listening | .offering _ => watch.Upcoming event
  | _ => True

def Active (watch : Watch) : Prop := ∀ failed, watch.phase ≠ .ended failed

structure Gapless (request : WatchEventsRequest) (watch : Watch) : Prop where
  trimmed : watch.journal.Trimmed watch.inserted
  published : watch.inserted = watch.live ++ watch.emitting.toList
  passed : watch.position ≤ watch.live.length
  above : watch.anchor ≤ watch.last
  fits : watch.journal.sequence < 2 ^ 63 ∧ watch.anchor < 2 ^ 63
  fresh : watch.phase = .idle ∨ watch.phase = .subscribed → watch.sent = []
  sent : ∃ upTo, watch.Exact request watch.promised upTo ∧
    (upTo = watch.anchor ∨ upTo ≤ watch.journal.sequence) ∧ (watch.Active → upTo = watch.last)
  paged : ∀ page exhausted, watch.phase = .sending page exhausted →
    Ascending JournalEvent.cursor page ∧ ∀ event ∈ page, event ∈ watch.inserted ∧
      event.concerns request.instanceId = true ∧ watch.last < event.cursor
  ahead : ∀ event ∈ watch.inserted, event.concerns request.instanceId = true →
    watch.last < event.cursor → watch.Ahead event

variable {events : List JournalEvent} {upTo : Nat} {event : JournalEvent}

theorem Exact.extend (exact_ : watch.Exact request events upTo)
    (ordered : Ascending JournalEvent.cursor watch.inserted) (anchored : watch.anchor ≤ upTo)
    (member : event ∈ watch.inserted) (concerned : event.concerns request.instanceId = true)
    (above : upTo < event.cursor)
    (nearest : ∀ other ∈ watch.inserted, other.concerns request.instanceId = true →
      upTo < other.cursor → event.cursor ≤ other.cursor) :
    watch.Exact request (events ++ [event]) event.cursor := by
  refine ⟨exact_.ascending.snoc fun old early => ?_, fun other => ?_⟩
  · exact ((exact_.members old).mp early).2.2.2.trans_lt above
  · rw [List.mem_append, List.mem_singleton, exact_.members]
    constructor
    · rintro (⟨there, asked, beyond, within⟩ | rfl)
      · exact ⟨there, asked, beyond, within.trans above.le⟩
      · exact ⟨member, concerned, anchored.trans_lt above, le_rfl⟩
    · rintro ⟨there, asked, beyond, within⟩
      by_cases early : other.cursor ≤ upTo
      · exact .inl ⟨there, asked, beyond, early⟩
      · have least := nearest other there asked (Nat.not_le.mp early)
        exact .inr (ordered.eq_of_key there member (le_antisymm within least))

variable {later : Watch}

theorem Exact.insert (exact_ : watch.Exact request events upTo)
    (grown : later.inserted = watch.inserted ++ [event]) (anchored : later.anchor = watch.anchor)
    (outside : upTo = watch.anchor ∨ upTo < event.cursor) : later.Exact request events upTo := by
  refine ⟨exact_.ascending, fun other => ?_⟩
  rw [exact_.members, grown, anchored, List.mem_append, List.mem_singleton]
  constructor
  · rintro ⟨there, facts⟩
    exact ⟨.inl there, facts⟩
  · rintro ⟨there | rfl, asked, beyond, within⟩
    · exact ⟨there, asked, beyond, within⟩
    · rcases outside with rfl | below
      · exact absurd (beyond.trans_le within) (lt_irrefl _)
      · exact absurd (below.trans_le within) (lt_irrefl _)

theorem Exact.dropLast (exact_ : watch.Exact request (events ++ [event]) upTo) :
    watch.Exact request events (event.cursor - 1) := by
  obtain ⟨ascending, -, before⟩ := List.pairwise_append.mp exact_.ascending
  have top := (exact_.members event).mp (by simp)
  refine ⟨ascending, fun other => ?_⟩
  have all := exact_.members other
  rw [List.mem_append, List.mem_singleton] at all
  constructor
  · intro early
    obtain ⟨there, asked, beyond, -⟩ := all.mp (.inl early)
    have lower : other.cursor < event.cursor := before other early event (by simp)
    exact ⟨there, asked, beyond, by omega⟩
  · rintro ⟨there, asked, beyond, within⟩
    have positive := top.2.2.1
    rcases all.mpr ⟨there, asked, beyond, by omega⟩ with early | rfl
    · exact early
    · omega

theorem Exact.same (exact_ : watch.Exact request events upTo)
    (inserted : later.inserted = watch.inserted) (anchored : later.anchor = watch.anchor) :
    later.Exact request events upTo :=
  ⟨exact_.ascending, by rw [inserted, anchored]; exact exact_.members⟩

/-! ### Emitters, retention and the subscriber -/

/-- An event is still ahead after a step of the others, if the receiver will still come to it and the
journal keeps it where the stream relies on that. -/
theorem Ahead.mono (ahead : watch.Ahead event) (beyond : watch.last < event.cursor)
    (phase : later.phase = watch.phase) (upcoming : watch.Upcoming event → later.Upcoming event)
    (kept : ∀ cursor, watch.horizon = some cursor → cursor < event.cursor →
      event ∈ watch.journal.events → event ∈ later.journal.events) : later.Ahead event := by
  unfold Ahead at ahead ⊢
  rw [phase]
  cases current : watch.phase with
  | replaying =>
    rw [current] at ahead
    exact kept watch.last (by rw [horizon, current]) beyond ahead
  | sending page exhausted =>
    rw [current] at ahead
    rcases ahead with among | ⟨after, source⟩
    · exact .inl among
    refine .inr ⟨after, ?_⟩
    cases exhausted with
    | true => exact upcoming source
    | false =>
      refine kept _ (by rw [horizon, current]) ?_ source
      cases final : page.getLast? with
      | none => exact beyond
      | some top => exact after top (List.mem_of_getLast? final)
  | listening =>
    rw [current] at ahead
    exact upcoming ahead
  | offering offered =>
    rw [current] at ahead
    exact upcoming ahead
  | _ => trivial

theorem Ahead.newest (stored : event ∈ watch.journal.events) (emitted : watch.emitting = some event)
    (after : ∀ page exhausted, watch.phase = .sending page exhausted →
      ∀ early ∈ page, early.cursor < event.cursor) : watch.Ahead event := by
  unfold Ahead
  cases current : watch.phase with
  | replaying => exact stored
  | sending page exhausted =>
    refine .inr ⟨after page exhausted current, ?_⟩
    cases exhausted with
    | true => exact .inr emitted
    | false => exact stored
  | listening => exact .inr emitted
  | offering offered => exact .inr emitted
  | _ => trivial

def Streaming (watch : Watch) : Prop :=
  match watch.phase with
  | .replaying | .sending .. | .listening | .repairing => True
  | _ => False

theorem Streaming.promised_eq (streaming : watch.Streaming) : watch.promised = watch.sent := by
  unfold Streaming at streaming
  unfold promised
  split at streaming <;> simp_all

theorem Streaming.begun (streaming : watch.Streaming) :
    ¬(watch.phase = .idle ∨ watch.phase = .subscribed) := by
  unfold Streaming at streaming
  split at streaming <;> simp_all

section Actions

variable (gapless : Gapless request watch)

include gapless

theorem Gapless.insert (free : watch.emitting = none)
    (fits : watch.journal.sequence + 1 < 2 ^ 63) {row : EventRow}
    (later : watch.inserted.getLast?.all (fun event => event.row.atMs ≤ row.atMs) = true) :
    Gapless request { watch with
      journal := (watch.journal.insertEvent row).2
      emitting := some (watch.journal.insertEvent row).1
      inserted := watch.inserted ++ [(watch.journal.insertEvent row).1] } := by
  have published := gapless.published
  rw [free, Option.toList_none, List.append_nil] at published
  have above {event : JournalEvent} (member : event ∈ watch.inserted) :
      event.cursor < (watch.journal.insertEvent row).1.cursor :=
    Nat.lt_succ_of_le (gapless.trimmed.bounded event member)
  refine ⟨gapless.trimmed.insert later, by rw [published]; rfl, gapless.passed, gapless.above,
    ⟨fits, gapless.fits.2⟩, gapless.fresh, ?_, ?_, ?_⟩
  · obtain ⟨upTo, exact_, reached, same⟩ := gapless.sent
    exact ⟨upTo, exact_.insert rfl rfl (reached.imp id Nat.lt_succ_of_le),
      reached.imp id fun low => low.trans (Nat.le_succ _), same⟩
  · intro page exhausted sending
    obtain ⟨ascending, members⟩ := gapless.paged page exhausted sending
    refine ⟨ascending, fun event among => ?_⟩
    obtain ⟨there, facts⟩ := members event among
    exact ⟨List.mem_append_left _ there, facts⟩
  · intro event member concerned beyond
    rcases List.mem_append.mp member with old | new
    · refine (gapless.ahead event old concerned beyond).mono beyond rfl ?_
        fun _ _ _ stored => List.mem_append_left _ stored
      rintro (live | emitting)
      · exact .inl live
      · rw [free] at emitting
        cases emitting
    · rw [List.mem_singleton.mp new]
      exact Ahead.newest (List.mem_append_right _ List.mem_cons_self) rfl
        fun page exhausted sending early among =>
          above ((gapless.paged page exhausted sending).2 early among).1

theorem Gapless.broadcast (emitted : watch.emitting = some event) :
    Gapless request { watch with emitting := none, live := watch.live ++ [event] } := by
  refine ⟨gapless.trimmed, ?_, ?_, gapless.above, gapless.fits, gapless.fresh, ?_,
    gapless.paged, ?_⟩
  · have published := gapless.published
    rw [emitted] at published
    exact published.trans (List.append_nil _).symm
  · rw [List.length_append]
    exact gapless.passed.trans (Nat.le_add_right ..)
  · obtain ⟨upTo, exact_, reached, same⟩ := gapless.sent
    exact ⟨upTo, exact_.same rfl rfl, reached, same⟩
  · intro other member concerned beyond
    refine (gapless.ahead other member concerned beyond).mono beyond rfl ?_
      fun _ _ _ stored => stored
    intro coming
    refine .inl ?_
    rw [List.drop_append_of_le_length gapless.passed, List.mem_append, List.mem_singleton]
    rcases coming with live | emitting
    · exact .inl live
    · rw [emitted] at emitting
      exact .inr (Option.some.inj emitting).symm

theorem Gapless.prune {olderThanMs : Int} {chunk : Nat}
    (spared : (watch.journal.highestPruned olderThanMs chunk).all
      (fun highest => watch.horizon.all fun cursor => highest ≤ cursor) = true) :
    Gapless request { watch with journal := watch.journal.pruneEvents olderThanMs chunk } := by
  have counter : (watch.journal.pruneEvents olderThanMs chunk).sequence =
    watch.journal.sequence := by
    unfold EventJournal.pruneEvents
    split <;> rfl
  refine ⟨gapless.trimmed.prune olderThanMs chunk, gapless.published, gapless.passed, gapless.above,
    counter.symm ▸ gapless.fits, gapless.fresh, ?_, gapless.paged, ?_⟩
  · obtain ⟨upTo, exact_, reached, same⟩ := gapless.sent
    exact ⟨upTo, exact_.same rfl rfl, reached.imp id counter.ge.trans', same⟩
  · intro event member concerned beyond
    refine (gapless.ahead event member concerned beyond).mono beyond rfl id ?_
    intro cursor relied above stored
    cases chosen : watch.journal.highestPruned olderThanMs chunk with
    | none =>
      simp only [EventJournal.pruneEvents, chosen]
      exact stored
    | some highest =>
      rw [chosen, relied] at spared
      have low : highest ≤ cursor := of_decide_eq_true spared
      exact (gapless.trimmed.mem_prune chosen).mpr ⟨stored, low.trans_lt above⟩

theorem Gapless.subscribe (idle : watch.phase = .idle) :
    Gapless request { watch with phase := .subscribed, position := watch.live.length } := by
  obtain ⟨upTo, exact_, reached, same⟩ := gapless.sent
  refine ⟨gapless.trimmed, gapless.published, le_rfl, gapless.above, gapless.fits,
    fun _ => gapless.fresh (.inl idle), ?_, nofun, fun _ _ _ _ => trivial⟩
  have ends : watch.Active := by
    intro failed over_
    rw [idle] at over_
    cases over_
  refine ⟨upTo, ?_, reached, fun _ => same ends⟩
  rw [promised, idle] at exact_
  exact exact_.same rfl rfl

theorem Gapless.receive (received : Nat) :
    Gapless request { watch with received := received } := by
  obtain ⟨upTo, exact_, reached, same⟩ := gapless.sent
  exact ⟨gapless.trimmed, gapless.published, gapless.passed, gapless.above, gapless.fits,
    gapless.fresh, ⟨upTo, exact_.same rfl rfl, reached, same⟩, gapless.paged, gapless.ahead⟩

theorem Gapless.finish (failed : Bool) :
    Gapless request { watch with phase := .ended failed } := by
  refine ⟨gapless.trimmed, gapless.published, gapless.passed, gapless.above, gapless.fits,
    nofun, ?_, nofun, fun _ _ _ _ => trivial⟩
  have done {upTo : Nat} (active : { watch with phase := .ended failed }.Active) :
    upTo = watch.last :=
    absurd rfl (active failed)
  obtain ⟨upTo, exact_, reached, -⟩ := gapless.sent
  by_cases offering : ∃ event, watch.phase = .offering event
  · obtain ⟨event, current⟩ := offering
    rw [promised, current] at exact_
    have member := ((exact_.members event).mp (by simp)).1
    exact ⟨event.cursor - 1, exact_.dropLast.same rfl rfl,
      .inr ((Nat.sub_le ..).trans (gapless.trimmed.bounded event member)), done⟩
  · have unchanged : watch.promised = watch.sent := by
      unfold promised
      split
      · exact absurd ⟨_, ‹_›⟩ offering
      · rfl
    rw [unchanged] at exact_
    exact ⟨upTo, exact_.same rfl rfl, reached, done⟩

/-! ### The stream's own actions -/

theorem Gapless.sentWhileStreaming (streaming : watch.Streaming) :
    watch.Exact request watch.sent watch.last ∧
      (watch.last = watch.anchor ∨ watch.last ≤ watch.journal.sequence) := by
  obtain ⟨upTo, exact_, reached, same⟩ := gapless.sent
  have active : watch.Active := by
    intro failed ended
    rw [Streaming, ended] at streaming
    exact streaming
  rw [streaming.promised_eq, same active] at exact_
  rw [same active] at reached
  exact ⟨exact_, reached⟩

theorem Gapless.anchorAt (subscribed : watch.phase = .subscribed)
    (headKept : request.fromCursor = 0 → watch.journal.headCursor = watch.journal.sequence)
    (given : request.fromCursor ≠ 0 → request.fromCursor.toNat < 2 ^ 63) :
    Gapless request (watch.anchorAt request) := by
  have empty := gapless.fresh (.inr subscribed)
  have nothing (anchor : Nat) (phase : WatchPhase) :
      { watch with anchor := anchor, last := anchor, phase := phase }.Exact request
      watch.sent anchor := by
    rw [empty]
    refine ⟨.nil, fun event => ?_⟩
    constructor
    · nofun
    · rintro ⟨-, -, beyond, within⟩
      exact absurd (beyond.trans_le within) (lt_irrefl _)
  unfold Watch.anchorAt
  split
  · next tailOnly =>
      have atHead := headKept tailOnly
      refine ⟨gapless.trimmed, gapless.published, gapless.passed, le_rfl,
        ⟨gapless.fits.1, atHead.symm ▸ gapless.fits.1⟩, nofun, ?_, nofun, ?_⟩
      · exact ⟨_, nothing _ _, .inl rfl, fun _ => rfl⟩
      · intro event member concerned beyond
        have bounded := gapless.trimmed.bounded event member
        exact absurd (atHead ▸ beyond) (Nat.not_lt.mpr bounded)
  · next resumed =>
      simp only
      split
      · exact gapless.finish true
      next served =>
        refine ⟨gapless.trimmed, gapless.published, gapless.passed, le_rfl,
          ⟨gapless.fits.1, given resumed⟩, nofun, ?_, nofun, ?_⟩
        · exact ⟨_, nothing _ _, .inl rfl, fun _ => rfl⟩
        · intro event member concerned beyond
          exact gapless.trimmed.above_floor (Nat.not_lt.mp served) member beyond

theorem Gapless.moveOn (streaming : watch.Streaming) (phase : WatchPhase)
    (position : Nat) (passed : position ≤ watch.live.length)
    (after : { watch with phase := phase, position := position }.Streaming)
    (paged : ∀ page exhausted, phase = .sending page exhausted →
      Ascending JournalEvent.cursor page ∧ ∀ event ∈ page, event ∈ watch.inserted ∧
        event.concerns request.instanceId = true ∧ watch.last < event.cursor)
    (ahead : ∀ event ∈ watch.inserted, event.concerns request.instanceId = true →
      watch.last < event.cursor → { watch with phase := phase, position := position }.Ahead event) :
    Gapless request { watch with phase := phase, position := position } := by
  obtain ⟨exact_, reached⟩ := gapless.sentWhileStreaming streaming
  refine ⟨gapless.trimmed, gapless.published, passed, gapless.above, gapless.fits,
    fun early => absurd early after.begun, ?_, paged, ahead⟩
  rw [after.promised_eq]
  exact ⟨watch.last, exact_.same rfl rfl, reached, fun _ => rfl⟩

theorem Gapless.readPage (replaying : watch.phase = .replaying) :
    Gapless request { watch with
      phase := .sending (watch.journal.eventsAfter watch.last request.instanceId EVENT_PAGE)
        ((watch.journal.eventsAfter watch.last request.instanceId EVENT_PAGE).length <
        EVENT_PAGE) } := by
  have streaming : watch.Streaming := by rw [Streaming, replaying]; trivial
  have fits : watch.last < 2 ^ 63 := by
    rcases (gapless.sentWhileStreaming streaming).2 with anchored | bounded
    · exact anchored ▸ gapless.fits.2
    · exact bounded.trans_lt gapless.fits.1
  refine gapless.moveOn streaming _ watch.position gapless.passed trivial ?_ ?_
  · rintro page exhausted ⟨rfl, rfl⟩
    rw [EventJournal.eventsAfter_eq (by decide) fits]
    refine ⟨(gapless.trimmed.sorted.filter _).take _, fun event among => ?_⟩
    obtain ⟨there, asked⟩ := List.mem_filter.mp (List.mem_of_mem_take among)
    obtain ⟨above, concerned⟩ := Bool.and_eq_true_iff.mp asked
    exact ⟨((gapless.trimmed.kept event).mp there).1, concerned, of_decide_eq_true above⟩
  · intro event member concerned beyond
    have stored := gapless.ahead event member concerned beyond
    rw [Ahead, replaying] at stored
    have limited : EVENT_PAGE ≠ 0 := by decide
    rcases gapless.trimmed.mem_page limited fits stored beyond concerned with among | ⟨after, full⟩
    · exact .inl among
    · refine .inr ⟨after, ?_⟩
      simpa [Nat.not_lt.mpr full] using stored

theorem Gapless.sendNext {rest : List JournalEvent}
    {exhausted : Bool} (sending : watch.phase = .sending (event :: rest) exhausted) :
    Gapless request { watch with
      sent := watch.sent ++ [event], last := event.cursor, phase := .sending rest exhausted } := by
  obtain ⟨exact_, -⟩ := gapless.sentWhileStreaming (by rw [Streaming, sending]; trivial)
  obtain ⟨ascending, members⟩ := gapless.paged _ _ sending
  obtain ⟨member, concerned, above⟩ := members event List.mem_cons_self
  have remaining (other : JournalEvent) (there : other ∈ watch.inserted)
      (asked : other.concerns request.instanceId = true) (beyond : watch.last < other.cursor) := by
    have ahead := gapless.ahead other there asked beyond
    rw [Ahead, sending] at ahead
    exact ahead
  refine ⟨gapless.trimmed, gapless.published, gapless.passed,
    gapless.above.trans above.le, gapless.fits, nofun, ?_, ?_, ?_⟩
  · refine ⟨event.cursor,
      (exact_.extend gapless.trimmed.ordered gapless.above member concerned above
      fun other there asked beyond => ?_).same rfl rfl, .inr (gapless.trimmed.bounded event member),
      fun _ => rfl⟩
    rcases remaining other there asked beyond with among | ⟨after, -⟩
    · exact ascending.head_le among
    · exact (after event List.mem_cons_self).le
  · rintro page done ⟨rfl, rfl⟩
    obtain ⟨below, ordered⟩ := List.pairwise_cons.mp ascending
    refine ⟨ordered, fun other among => ?_⟩
    obtain ⟨there, asked, -⟩ := members other (List.mem_cons_of_mem _ among)
    exact ⟨there, asked, below other among⟩
  · intro other there asked beyond
    rcases remaining other there asked (above.trans beyond) with among | ⟨after, source⟩
    · rcases List.mem_cons.mp among with rfl | later
      · exact absurd beyond (lt_irrefl _)
      · exact .inl later
    · exact .inr ⟨fun early before => after early (List.mem_cons_of_mem _ before), source⟩

theorem Gapless.endPage {exhausted : Bool}
    (sending : watch.phase = .sending [] exhausted) :
    Gapless request { watch with phase := if exhausted then .listening else .replaying } := by
  have remaining (other : JournalEvent) (there : other ∈ watch.inserted)
      (asked : other.concerns request.instanceId = true) (beyond : watch.last < other.cursor) := by
    have ahead := gapless.ahead other there asked beyond
    rw [Ahead, sending] at ahead
    exact ahead.resolve_left List.not_mem_nil
  have streaming : watch.Streaming := by rw [Streaming, sending]; trivial
  cases exhausted <;>
    exact gapless.moveOn streaming _ watch.position gapless.passed trivial nofun
      fun other there asked beyond => (remaining other there asked beyond).2

theorem Gapless.repair (repairing : watch.phase = .repairing)
    (served : watch.journal.journalFloor ≤ watch.last) :
    Gapless request { watch with phase := .replaying } :=
  gapless.moveOn (by rw [Streaming, repairing]; trivial) _ watch.position
    gapless.passed trivial nofun
    fun _ member _ beyond => gapless.trimmed.above_floor served member beyond

theorem Gapless.arrive (listening : watch.phase = .listening)
    (arrived : watch.live[watch.position]? = some event) {other : JournalEvent}
    (there : other ∈ watch.inserted) (asked : other.concerns request.instanceId = true)
    (beyond : watch.last < other.cursor) : other = event ∨ event.cursor < other.cursor ∧
      { watch with position := watch.position + 1 }.Upcoming other := by
  obtain ⟨within, rfl⟩ := List.getElem?_eq_some_iff.mp arrived
  have ordered := gapless.trimmed.ordered
  rw [gapless.published] at ordered
  obtain ⟨sorted, -, emittedLast⟩ := List.pairwise_append.mp ordered
  have ahead := gapless.ahead other there asked beyond
  rw [Ahead, listening] at ahead
  rcases ahead with live | emitting
  · have tail : Ascending JournalEvent.cursor (watch.live.drop watch.position) :=
      Ascending.sublist sorted (List.drop_sublist ..)
    rw [List.drop_eq_getElem_cons within] at live tail
    rcases List.mem_cons.mp live with same | later
    · exact .inl same
    · exact .inr ⟨(List.pairwise_cons.mp tail).1 other later, .inl later⟩
  · exact .inr ⟨emittedLast _ (List.getElem_mem within) other (by rw [emitting]; simp),
      .inr emitting⟩

theorem Gapless.skip (listening : watch.phase = .listening)
    (arrived : watch.live[watch.position]? = some event)
    (unwanted : event.cursor ≤ watch.last ∨ event.concerns request.instanceId = false) :
    Gapless request { watch with position := watch.position + 1 } := by
  obtain ⟨within, -⟩ := List.getElem?_eq_some_iff.mp arrived
  have streaming : watch.Streaming := by rw [Streaming, listening]; trivial
  refine gapless.moveOn streaming watch.phase (watch.position + 1) within streaming gapless.paged ?_
  intro other there asked beyond
  rw [Ahead, listening]
  rcases gapless.arrive listening arrived there asked beyond with rfl | ⟨-, upcoming⟩
  · rcases unwanted with old | other
    · exact absurd beyond (Nat.not_lt.mpr old)
    · exact absurd asked (Bool.eq_false_iff.mp other)
  · exact upcoming

theorem Gapless.offer (listening : watch.phase = .listening)
    (arrived : watch.live[watch.position]? = some event) (new : watch.last < event.cursor)
    (concerned : event.concerns request.instanceId = true) : Gapless request { watch with
      position := watch.position + 1, last := event.cursor, phase := .offering event } := by
  obtain ⟨exact_, -⟩ := gapless.sentWhileStreaming (by rw [Streaming, listening]; trivial)
  obtain ⟨within, found⟩ := List.getElem?_eq_some_iff.mp arrived
  have member : event ∈ watch.inserted := by
    rw [gapless.published, ← found]
    exact List.mem_append_left _ (List.getElem_mem within)
  refine ⟨gapless.trimmed, gapless.published, within, gapless.above.trans new.le,
    gapless.fits, nofun, ?_,
    nofun, ?_⟩
  · refine ⟨event.cursor, (exact_.extend gapless.trimmed.ordered gapless.above member concerned new
      fun other there asked beyond => ?_).same rfl rfl, .inr (gapless.trimmed.bounded event member),
      fun _ => rfl⟩
    rcases gapless.arrive listening arrived there asked beyond with rfl | ⟨later, -⟩
    · exact le_rfl
    · exact later.le
  · intro other there asked beyond
    rcases gapless.arrive listening arrived there asked (new.trans beyond) with rfl | ⟨-, upcoming⟩
    · exact absurd beyond (lt_irrefl _)
    · exact upcoming

theorem Gapless.sendOffered (offering : watch.phase = .offering event) :
    Gapless request { watch with sent := watch.sent ++ [event], phase := .listening } := by
  obtain ⟨upTo, exact_, reached, same⟩ := gapless.sent
  rw [promised, offering] at exact_
  have active : watch.Active := by
    rw [Active, offering]
    nofun
  refine ⟨gapless.trimmed, gapless.published, gapless.passed, gapless.above, gapless.fits, nofun,
    ⟨upTo, exact_.same rfl rfl, reached, fun _ => same active⟩, nofun, ?_⟩
  intro other there asked beyond
  have ahead := gapless.ahead other there asked beyond
  rw [Ahead, offering] at ahead
  exact ahead

variable {after : Watch}

theorem Gapless.listen (listening : watch.phase = .listening)
    (step : watch.listen request = some after) : Gapless request after := by
  unfold Watch.listen at step
  split at step
  · cases step
    exact gapless.moveOn (by rw [Streaming, listening]; trivial) _ _ (Nat.sub_le ..) trivial nofun
      fun _ _ _ _ => trivial
  · obtain ⟨event, arrived, rfl⟩ := Option.map_eq_some_iff.mp step
    simp only
    split
    · exact gapless.skip listening arrived (.inl ‹_›)
    · next new =>
        split
        · next other => exact gapless.skip listening arrived (.inr (Bool.not_eq_true' _ ▸ other))
        · next concerned =>
            exact gapless.offer listening arrived (Nat.not_le.mp new) (by simpa using concerned)

theorem Gapless.proceed {fault : Bool}
    (orderly : watch.orderly request (.proceed fault) = true)
    (step : watch.proceed request fault = some after) : Gapless request after := by
  cases current : watch.phase with
  | idle => simp [Watch.proceed, current] at step
  | ended failed => simp [Watch.proceed, current] at step
  | subscribed =>
    simp only [Watch.proceed, current, Option.some.injEq] at step
    simp only [Watch.orderly, current] at orderly
    subst step
    cases fault with
    | true => exact gapless.finish true
    | false =>
      refine gapless.anchorAt current (fun tailOnly => ?_) fun resumed => ?_
      · simpa [tailOnly] using orderly
      · simpa [resumed] using orderly
  | replaying =>
    simp only [Watch.proceed, current] at step
    cases fault with
    | true => exact Option.some.inj step ▸ gapless.finish true
    | false => exact Option.some.inj step ▸ gapless.readPage current
  | sending page exhausted =>
    cases page with
    | nil =>
      simp only [Watch.proceed, current, Option.some.injEq] at step
      exact step ▸ gapless.endPage current
    | cons event rest =>
      simp only [Watch.proceed, current, Option.ite_none_right_eq_some, Option.some.injEq] at step
      exact step.2 ▸ gapless.sendNext current
  | listening =>
    simp only [Watch.proceed, current] at step
    exact gapless.listen current step
  | offering event =>
    simp only [Watch.proceed, current, Option.ite_none_right_eq_some, Option.some.injEq] at step
    exact step.2 ▸ gapless.sendOffered current
  | repairing =>
    simp only [Watch.proceed, current] at step
    split at step
    · exact Option.some.inj step ▸ gapless.finish true
    · next served =>
        exact Option.some.inj step ▸ gapless.repair current (Nat.not_lt.mp (not_or.mp served).2)

theorem Gapless.next {label : WatchLabel}
    (orderly : watch.orderly request label = true) (step : watch.next request label = some after) :
    Gapless request after := by
  cases label with
  | insert row =>
    simp only [Watch.next] at step
    cases free : watch.emitting with
    | some _ => simp [free] at step
    | none =>
      simp only [free, Option.ite_none_right_eq_some, Option.some.injEq] at step
      exact step.2 ▸ gapless.insert free step.1 orderly
  | broadcast =>
    obtain ⟨event, emitted, rfl⟩ := Option.map_eq_some_iff.mp step
    exact gapless.broadcast emitted
  | prune olderThanMs chunk => exact Option.some.inj step ▸ gapless.prune orderly
  | subscribe =>
    simp only [Watch.next] at step
    split at step
    · exact Option.some.inj step ▸ gapless.subscribe ‹_›
    · cases step
  | proceed fault => exact gapless.proceed orderly step
  | receive =>
    simp only [Watch.next, Option.ite_none_right_eq_some, Option.some.injEq] at step
    exact step.2 ▸ gapless.receive _
  | hangUp =>
    simp only [Watch.next] at step
    split at step
    · cases step
    · cases step
    · exact Option.some.inj step ▸ gapless.finish false

end Actions

theorem Gapless.initial : Gapless request Watch.initial := by
  have none_ {event : JournalEvent} : event ∉ Watch.initial.inserted := List.not_mem_nil
  refine ⟨⟨.nil, ?_, le_rfl, ?_, .nil, ?_⟩, rfl, le_rfl, le_rfl, ?_, fun _ => rfl, ?_, ?_, ?_⟩
  · exact fun event member => absurd member none_
  · exact fun event member => absurd member none_
  · exact fun event => ⟨fun member => absurd member List.not_mem_nil, fun member =>
      absurd member.1 none_⟩
  · exact ⟨Nat.two_pow_pos _, Nat.two_pow_pos _⟩
  · refine ⟨0, ⟨.nil, fun event => ?_⟩, .inl rfl, fun _ => rfl⟩
    exact ⟨fun member => absurd member List.not_mem_nil, fun member => absurd member.1 none_⟩
  · exact fun page exhausted sending => by cases sending
  · exact fun event member => absurd member none_

/-! ### Where a stream is anchored -/

/-- The newest cursor there ever was, or 0 before the first event. -/
def newest (watch : Watch) : Nat := (watch.inserted.map JournalEvent.cursor).max?.getD 0

/-- A stream that is at work or has sent something has found its anchor. -/
def Anchored (watch : Watch) : Prop :=
  watch.sent ≠ [] ∨ watch.phase ≠ .idle ∧ watch.phase ≠ .subscribed ∧ watch.Active

theorem Anchored.cases {label : WatchLabel} (anchored : after.Anchored)
    (step : watch.next request label = some after) :
    watch.Anchored ∧ after.anchor = watch.anchor ∨
      label = .proceed false ∧ watch.phase = .subscribed ∧ after.anchor =
        if request.fromCursor = 0 then watch.journal.headCursor else request.fromCursor.toNat := by
  unfold Anchored Active at *
  cases label with
  | proceed fault =>
    simp only [Watch.next] at step
    unfold Watch.proceed Watch.listen Watch.anchorAt Watch.fail at step
    grind
  | _ =>
    simp only [Watch.next, Option.map_eq_some_iff] at step
    grind

/-- While the newest event is still in the journal, the journal's head is its cursor. -/
theorem headCursor_eq_newest (trimmed : watch.journal.Trimmed watch.inserted)
    (atHead : watch.journal.headCursor = watch.journal.sequence) :
    watch.journal.headCursor = watch.newest := by
  apply Nat.le_antisymm
  · unfold EventJournal.headCursor
    cases found : (watch.journal.events.map JournalEvent.cursor).max? with
    | none => exact Nat.zero_le _
    | some head =>
      obtain ⟨event, stored, rfl⟩ := List.mem_map.mp (List.max?_mem found)
      have inserted := ((trimmed.kept event).mp stored).1
      exact List.le_max?_getD_of_mem (List.mem_map_of_mem inserted)
  · rw [atHead]
    unfold newest
    cases found : (watch.inserted.map JournalEvent.cursor).max? with
    | none => exact Nat.zero_le _
    | some top =>
      obtain ⟨event, inserted, rfl⟩ := List.mem_map.mp (List.max?_mem found)
      exact trimmed.bounded event inserted

/-- Where the events a stream was asked for begin: at the cursor the request names, or for a stream of
new events at the newest one there is when the stream, once subscribed, finds its anchor. -/
def AnchoredAt (request : WatchEventsRequest) (labels : List WatchLabel) (anchor : Nat) : Prop :=
  ∃ early late before, labels = early ++ .proceed false :: late ∧
    reach request early = some before ∧ before.phase = .subscribed ∧
    anchor = if request.fromCursor = 0 then before.newest else request.fromCursor.toNat

/-! ### No silent gap -/

def Orderly (request : WatchEventsRequest) (labels : List WatchLabel) : Prop :=
  Along (next request) (fun before label _ => before.orderly request label = true) initial labels

variable {labels : List WatchLabel}

theorem Orderly.gapless (orderly : Orderly request labels)
    (reached : reach request labels = some watch) : Gapless request watch := by
  refine Along.invariant (I := Gapless request) ?_ orderly Gapless.initial reached
  intro before label after invariant step permitted
  exact invariant.next permitted step

theorem Orderly.anchoredAt (orderly : Orderly request labels)
    (reached : reach request labels = some watch) (anchored : watch.Anchored) :
    AnchoredAt request labels watch.anchor := by
  have fresh : ¬ (Watch.initial.Anchored ∧ Watch.initial.anchor = watch.anchor) := by
    rintro ⟨sent | ⟨begun, -⟩, -⟩
    · exact sent rfl
    · exact begun rfl
  obtain ⟨early, label, late, before, after, rfl, came, step, notYet, found, same⟩ := run_moment
    (P := fun state : Watch => state.Anchored ∧ state.anchor = watch.anchor) fresh reached
    ⟨anchored, rfl⟩
  obtain ⟨first, rest⟩ := orderly.append came
  rcases found.cases step with ⟨earlier, kept⟩ | ⟨rfl, subscribed, placed⟩
  · exact absurd ⟨earlier, kept.symm.trans same⟩ notYet
  · refine ⟨early, late, before, rfl, came, subscribed, ?_⟩
    rw [← same, placed]
    split
    · next tailOnly =>
        have permitted := (rest.cons step).1
        simp only [Watch.orderly, subscribed, tailOnly, if_true, decide_eq_true_eq] at permitted
        exact headCursor_eq_newest (Orderly.gapless first came).trimmed permitted
    · rfl

/-- **At any moment of an orderly run, however it is interleaved and whatever the filter, the events
delivered so far are in the order of their cursors, are those of the instance asked for, and are all of
those above the anchor up to the last one delivered**; the anchor is the cursor asked for, or the newest
one there was when the stream read the head. This holds on even after the stream has ended. -/
theorem watch_events_no_silent_gap (request : WatchEventsRequest) (labels : List WatchLabel)
    (watch : Watch) (reached : reach request labels = some watch)
    (orderly : Orderly request labels) :
    (watch.delivered.map JournalEvent.cursor).Pairwise (· < ·) ∧
      (∀ event ∈ watch.delivered, event.concerns request.instanceId = true) ∧
      (∀ event, event ∈ watch.delivered ↔
        event ∈ watch.inserted ∧ event.concerns request.instanceId = true ∧
          watch.anchor < event.cursor ∧
          ∃ final, watch.delivered.getLast? = some final ∧ event.cursor ≤ final.cursor) ∧
      (watch.delivered ≠ [] → AnchoredAt request labels watch.anchor) := by
  obtain ⟨upTo, exact_, -, -⟩ := ((orderly.gapless reached).finish true).sent
  have all : ∀ event, event ∈ watch.sent ↔ event ∈ watch.inserted ∧
      event.concerns request.instanceId = true ∧ watch.anchor < event.cursor ∧
      event.cursor ≤ upTo :=
    exact_.members
  have ascending : Ascending JournalEvent.cursor watch.sent := exact_.ascending
  refine ⟨List.pairwise_map.mpr (ascending.take _), ?_, fun event => ?_, fun some_ => ?_⟩
  · intro event taken
    exact ((all event).mp (List.mem_of_mem_take taken)).2.1
  · rw [delivered, ascending.mem_take_iff, all]
    constructor
    · rintro ⟨⟨there, asked, beyond, -⟩, bounded⟩
      exact ⟨there, asked, beyond, bounded⟩
    · rintro ⟨there, asked, beyond, final, last, below⟩
      have within := ((all final).mp (List.mem_of_mem_take (List.mem_of_getLast? last))).2.2.2
      exact ⟨⟨there, asked, beyond, below.trans within⟩, final, last, below⟩
  · apply orderly.anchoredAt reached
    left
    intro unsent
    apply some_
    rw [delivered, unsent, List.take_nil]

def sampleEvent (atMs : Int) : EventRow := ⟨.stateChanged, "i", "", .running, "", atMs, none⟩

def emits (times : List Int) : List WatchLabel :=
  times.flatMap fun atMs => [.insert (sampleEvent atMs), .broadcast]

def proceeds (count : Nat) : List WatchLabel := List.replicate count (.proceed false)

/-- Retention removes the first of three events; the other two are replayed, and a fourth is live. -/
def replayedThenLive : List WatchLabel :=
  emits [10, 20, 30] ++ .prune 15 256 :: .subscribe :: proceeds 5 ++ emits [40] ++ proceeds 2 ++
    List.replicate 3 .receive

/-- Two events are there when a stream of new ones begins, and two more are live. -/
def liveFromHead : List WatchLabel :=
  emits [10, 20] ++ .subscribe :: proceeds 1 ++ emits [30, 40] ++ proceeds 4 ++
    List.replicate 2 .receive

theorem replayedThenLive_gapless :
    (∃ watch, reach ⟨1, "i"⟩ replayedThenLive = some watch ∧
      watch.delivered.map JournalEvent.cursor = [2, 3, 4] ∧ watch.anchor = 1 ∧
      AnchoredAt ⟨1, "i"⟩ replayedThenLive watch.anchor) ∧
    ∃ watch, reach ⟨0, "i"⟩ liveFromHead = some watch ∧
      watch.delivered.map JournalEvent.cursor = [3, 4] ∧ watch.anchor = 2 ∧
      AnchoredAt ⟨0, "i"⟩ liveFromHead watch.anchor := by
  have gapless {request : WatchEventsRequest} {labels : List WatchLabel} {cursors : List Nat}
      {anchor : Nat} (some_ : cursors ≠ [])
      (runs : ((reach request labels).any fun watch =>
        watch.delivered.map JournalEvent.cursor = cursors ∧ watch.anchor = anchor) = true)
      (orderly : Orderly request labels) : ∃ watch, reach request labels = some watch ∧
        watch.delivered.map JournalEvent.cursor = cursors ∧ watch.anchor = anchor ∧
        AnchoredAt request labels watch.anchor := by
    obtain ⟨watch, reached, told, placed⟩ := exists_of_any runs
    obtain ⟨-, -, -, from_⟩ := watch_events_no_silent_gap request labels watch reached orderly
    refine ⟨watch, reached, told, placed, from_ fun none_ => some_ ?_⟩
    rw [← told, none_]
    rfl
  exact ⟨gapless (by decide) (by decide +kernel) (by unfold Orderly; decide +kernel),
    gapless (by decide) (by decide +kernel) (by unfold Orderly; decide +kernel)⟩

def failed (watch : Watch) : Bool :=
  match watch.phase with
  | .ended failed => failed
  | _ => false

/-- An event that was asked for lies between the anchor and the last event delivered, and was not
delivered; the subscriber was not told. -/
def SilentGap (request : WatchEventsRequest) (watch : Watch) : Prop :=
  watch.failed = false ∧ ∃ event ∈ watch.inserted, event.concerns request.instanceId = true ∧
    watch.anchor < event.cursor ∧ (∃ final ∈ watch.delivered, event.cursor ≤ final.cursor) ∧
    event ∉ watch.delivered

instance (watch : Watch) : Decidable (SilentGap request watch) := by
  unfold SilentGap
  infer_instance

/-- Retention removes the first two of three events after the floor was checked. -/
def prunedBeforeRead : List WatchLabel :=
  emits [10, 20, 30] ++ .subscribe :: .proceed false :: .prune 25 256 :: proceeds 2 ++ [.receive]

/-- The clock was set back between the first event and the second, and retention removes the second. -/
def prunedInTheMiddle : List WatchLabel :=
  emits [30, 20, 40] ++ .prune 25 256 :: .subscribe :: proceeds 3 ++ [.receive]

/-- Retention has emptied the journal, whose head is then taken to be 0. -/
def prunedToNothing : List WatchLabel :=
  emits [10] ++ .prune 20 256 :: .subscribe :: .proceed false :: emits [30] ++
    proceeds 2 ++ [.receive]

/-- A replay from a cursor that is negative as an `i64`. -/
def resumedFarAhead : List WatchLabel := emits [10] ++ .subscribe :: proceeds 3 ++ [.receive]

/-- **A stream is missing an event that was asked for, and goes on as if nothing had happened.** In the
last run it delivers one that was not. -/
theorem events_missed_silently :
    (∃ watch, reach ⟨1, ""⟩ prunedBeforeRead = some watch ∧ SilentGap ⟨1, ""⟩ watch) ∧
    (∃ watch, reach ⟨1, ""⟩ prunedInTheMiddle = some watch ∧ SilentGap ⟨1, ""⟩ watch) ∧
    (∃ watch, reach ⟨0, ""⟩ prunedToNothing = some watch ∧ SilentGap ⟨0, ""⟩ watch) ∧
    ∃ watch, reach ⟨2 ^ 63, ""⟩ resumedFarAhead = some watch ∧ watch.failed = false ∧
      ∃ event ∈ watch.delivered, event.cursor ≤ watch.anchor :=
  ⟨exists_of_any (by decide +kernel), exists_of_any (by decide +kernel),
    exists_of_any (by decide +kernel), exists_of_any (by decide +kernel)⟩

end Watch

end Barista.Node
