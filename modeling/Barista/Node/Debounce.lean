import Barista.Foundation.Streak
import Barista.Node.Entrances

/-!
Contract: when the reconciler fails a running instance whose sandbox is gone.

One pass reads the sandboxes, then the registry, and then counts, per instance, for how many passes the
sandbox has been absent while the row read RUNNING. The counts live from pass to pass, and a pass that
cannot make both reads leaves them alone. Whether the journal takes the write makes no difference to them.

Owns: what a pass has read and attempted, passes one after another, and at which of them an instance is
failed. Does not own: what else goes on, which is in the answers a pass gets.
-/

namespace Barista.Node

open Foundation Fleet
open Prog (Ran After)

/-! ### What a pass did -/

def readings : NodeTrace → Option (List String × List InstanceRow)
  | ⟨.runtime .listSandboxes, .ok present⟩ :: ⟨.journal .listInstances, .ok rows⟩ :: _ =>
    some (present, rows)
  | _ => none

def runningIds (rows : List InstanceRow) : List String :=
  (rows.filter fun row => row.state = .running).map InstanceRow.instanceId

/-- What a pass has seen of an instance: nothing if a read failed, and else whether its row read RUNNING
and its sandbox was absent. -/
def verdict (id : String) (trace : NodeTrace) : Option Bool :=
  (readings trace).map fun (present, rows) => decide (id ∈ runningIds rows ∧ id ∉ present)

def attemptsIn (trace : NodeTrace) : List String :=
  trace.filterMap fun exchange =>
    match exchange.act with
    | .journal (.setInstanceState id .failed) => some id
    | _ => none

def countsRead (trace : NodeTrace) : List (List (String × Nat)) :=
  trace.filterMap fun
    | ⟨.vanishedCounts, counts⟩ => some counts
    | _ => none

def countsWritten (trace : NodeTrace) : List (List (String × Nat)) :=
  trace.filterMap fun exchange =>
    match exchange.act with
    | .setVanishedCounts counts => some counts
    | _ => none

theorem attemptsIn_append (early late : NodeTrace) :
    attemptsIn (early ++ late) = attemptsIn early ++ attemptsIn late :=
  List.filterMap_append ..

theorem countsRead_append (early late : NodeTrace) :
    countsRead (early ++ late) = countsRead early ++ countsRead late :=
  List.filterMap_append ..

theorem countsWritten_append (early late : NodeTrace) :
    countsWritten (early ++ late) = countsWritten early ++ countsWritten late :=
  List.filterMap_append ..

/-- Passes one after another, since the process began: each finds the counts the last one left. The ids
of the registry's rows are its key. -/
inductive Passes (agent : Agent) : List NodeTrace → List (String × Nat) → Prop
  | none : Passes agent [] []
  | pass {earlier : List NodeTrace} {counts : List (String × Nat)} {trace : NodeTrace}
      (before : Passes agent earlier counts) (ran : Ran (reconcileVanished agent) trace ())
      (found : ∀ read ∈ countsRead trace, read = counts)
      (keyed : ∀ present rows, readings trace = some (present, rows) →
        (rows.map InstanceRow.instanceId).Nodup) :
      Passes agent (earlier ++ [trace]) ((countsWritten trace).getLast?.getD counts)

/-! ### Counting -/

/-- What counting comes to: the instances to fail, and the counts to keep. -/
def tally (present : List String) : List String → List (String × Nat) → List String × List
    (String × Nat)
  | [], counts => ([], counts)
  | id :: rest, counts =>
    let others := counts.filter fun entry => entry.1 ≠ id
    let absences := ((counts.lookup id).getD 0) + 1
    if id ∈ present then tally present rest others
    else if absences < vanishedSandboxThreshold then tally present rest ((id, absences) :: others)
    else
      let (failed, counts) := tally present rest others
      (id :: failed, counts)

/-- A trace that touches neither the counts nor the state of an instance. -/
structure Elsewhere (trace : NodeTrace) : Prop where
  attempts : attemptsIn trace = []
  read : countsRead trace = []
  written : countsWritten trace = []

theorem Elsewhere.nil : Elsewhere [] := ⟨rfl, rfl, rfl⟩

theorem Elsewhere.append {early late : NodeTrace} (first : Elsewhere early)
    (second : Elsewhere late) : Elsewhere (early ++ late) where
  attempts := by rw [attemptsIn_append, first.attempts, second.attempts, List.append_nil]
  read := by rw [countsRead_append, first.read, second.read, List.append_nil]
  written := by rw [countsWritten_append, first.written, second.written, List.append_nil]

variable {trace : NodeTrace}

theorem Elsewhere.of_custodial {program : NodeProg Unit} (custodial : Custodial program)
    (ran : Ran program trace ()) : Elsewhere trace := by
  have each := (Prog.Emits.after custodial ran).1
  refine ⟨?_, ?_, ?_⟩ <;>
  · refine List.filterMap_eq_nil_iff.mpr fun exchange member => ?_
    have allowed := each exchange member
    obtain ⟨act, answer⟩ := exchange
    revert allowed
    cases act with
    | journal query =>
      cases query <;> simp [NodeAct.isCustodial, NodeAct.isKeeping, Query.isLeaseRow]
    | _ => simp [NodeAct.isCustodial, NodeAct.isKeeping]

theorem custodial_stampAll (ids : List String) : Custodial (stampAll ids) := by
  induction ids with
  | nil => exact .pure
  | cons id rest ih => exact .seq (Keeping.stamp id).custodial fun _ => ih

variable {id : String}

theorem ran_failVanished {gone : Bool} (ran : Ran (failVanished id) trace gone) :
    attemptsIn trace = [id] ∧ countsRead trace = [] ∧ countsWritten trace = [] := by
  obtain ⟨settling, outcome, reporting, rfl, settled, reported⟩ := Prog.ran_bind ran
  obtain ⟨answer, rest, rfl, continued⟩ := Prog.ran_step settled
  have ended : rest = [] := by
    cases answer with
    | error cause => exact (Prog.ran_pure continued).1
    | ok nowMs => exact (Prog.ran_pure continued).1
  have quiet : Elsewhere reporting := by
    cases outcome with
    | error cause =>
      obtain ⟨rfl, -⟩ := Prog.ran_pure reported
      exact .nil
    | ok _ =>
      obtain ⟨first, _, second, rfl, changed, reported⟩ := Prog.ran_bind reported
      obtain ⟨third, _, fourth, rfl, degraded, reported⟩ := Prog.ran_bind reported
      obtain ⟨rfl, -⟩ := Prog.ran_pure reported
      have record {event : EventRow} {trace : NodeTrace}
        (ran : Ran (Events.record event) trace ()) :
          Elsewhere trace := .of_custodial (.act rfl) ran
      exact (record changed).append ((record degraded).append .nil)
  subst ended
  rw [attemptsIn_append, countsRead_append, countsWritten_append, quiet.attempts, quiet.read,
    quiet.written]
  exact ⟨rfl, rfl, rfl⟩

variable {present running : List String} {counts : List (String × Nat)}

theorem ran_countVanished {failed : List String} {kept : List (String × Nat)}
    (ran : Ran (countVanished present running counts) trace (failed, kept)) :
    attemptsIn trace = (tally present running counts).1 ∧ kept = (tally present running counts).2 ∧
      countsRead trace = [] ∧ countsWritten trace = [] := by
  induction running generalizing counts trace failed kept with
  | nil =>
    obtain ⟨rfl, same⟩ := Prog.ran_pure ran
    cases same
    exact ⟨rfl, rfl, rfl, rfl⟩
  | cons id rest ih =>
    unfold countVanished at ran
    simp only [tally]
    dsimp only at ran
    split at ran
    · next there =>
        rw [if_pos there]
        exact ih ran
    · next absent =>
        rw [if_neg absent]
        split at ran
        · next few =>
            rw [if_pos few]
            exact ih ran
        · next many =>
            rw [if_neg many]
            obtain ⟨failing, gone, remaining, rfl, first, ran⟩ := Prog.ran_bind ran
            obtain ⟨counting, ⟨others, after⟩, ending, rfl, second, ran⟩ := Prog.ran_bind ran
            obtain ⟨rfl, same⟩ := Prog.ran_pure ran
            cases same
            obtain ⟨attempted, read, written⟩ := ran_failVanished first
            obtain ⟨attemptedLater, same, readLater, writtenLater⟩ := ih second
            rw [List.append_nil, attemptsIn_append, countsRead_append, countsWritten_append,
              attempted, read, written, attemptedLater, readLater, writtenLater]
            exact ⟨rfl, same, rfl, rfl⟩

variable {agent : Agent}

theorem ran_reconcileVanished (enumerates : agent.enumeratesSandboxes = true)
    (ran : Ran (reconcileVanished agent) trace ()) : readings trace = none ∧ Elsewhere trace ∨
      ∃ present rows counts, readings trace = some (present, rows) ∧ countsRead trace = [counts] ∧
        attemptsIn trace = (tally present (runningIds rows)
          (counts.filter fun entry => entry.1 ∈ runningIds rows)).1 ∧
        countsWritten trace = [(tally present (runningIds rows)
          (counts.filter fun entry => entry.1 ∈ runningIds rows)).2] := by
  unfold reconcileVanished at ran
  rw [if_neg (by rw [enumerates]; nofun)] at ran
  obtain ⟨listing, afterListing, rfl, listed⟩ := Prog.ran_step ran
  cases listing with
  | error cause =>
    obtain ⟨rfl, -⟩ := Prog.ran_pure listed
    exact .inl ⟨rfl, rfl, rfl, rfl⟩
  | ok present =>
    obtain ⟨registry, afterRegistry, rfl, read⟩ := Prog.ran_step listed
    cases registry with
    | error cause =>
      obtain ⟨rfl, -⟩ := Prog.ran_pure read
      exact .inl ⟨rfl, rfl, rfl, rfl⟩
    | ok rows =>
      obtain ⟨counts, afterCounts, rfl, found⟩ := Prog.ran_step read
      rw [Prog.pure_bind] at found
      obtain ⟨counting, ⟨failed, kept⟩, afterCounting, rfl, counted, left⟩ := Prog.ran_bind found
      obtain ⟨_, stamping, rfl, stamped⟩ := Prog.ran_step left
      obtain ⟨attempted, rfl, unread, unwritten⟩ := ran_countVanished counted
      have quiet : Elsewhere stamping := .of_custodial (custodial_stampAll failed) stamped
      refine .inr ⟨present, rows, counts, rfl, ?_, ?_, ?_⟩
      · change counts :: countsRead (counting ++ _ :: stamping) = _
        rw [countsRead_append, unread]
        change counts :: countsRead stamping = _
        rw [quiet.read]
      · change attemptsIn (counting ++ _ :: stamping) = _
        rw [attemptsIn_append, attempted]
        change _ ++ attemptsIn stamping = _
        rw [quiet.attempts, List.append_nil]
        rfl
      · change countsWritten (counting ++ _ :: stamping) = _
        rw [countsWritten_append, unwritten]
        change _ :: countsWritten stamping = _
        rw [quiet.written]
        rfl

/-! ### What counting does to one instance -/

def countOf (counts : List (String × Nat)) (id : String) : Nat := (counts.lookup id).getD 0

theorem countOf_filter_ne {other : String} :
    countOf (counts.filter fun entry => entry.1 ≠ id) other = if other = id then 0
      else countOf counts other := by
  unfold countOf
  induction counts with
  | nil => simp
  | cons entry rest ih =>
    obtain ⟨name, count⟩ := entry
    by_cases same : name = id
    · subst same
      rw [List.filter_cons_of_neg (by simp), ih]
      by_cases equal : other = name
      · simp [equal]
      · simp [equal, List.lookup_cons, beq_eq_false_iff_ne.mpr equal]
    · rw [List.filter_cons_of_pos (by simp [same])]
      by_cases equal : other = name
      · subst equal
        simp [same]
      · simp only [List.lookup_cons, beq_eq_false_iff_ne.mpr equal]
        exact ih

theorem countOf_filter_mem : countOf (counts.filter fun entry => entry.1 ∈ running) id =
      if id ∈ running then countOf counts id else 0 := by
  unfold countOf
  induction counts with
  | nil => simp
  | cons entry rest ih =>
    obtain ⟨name, count⟩ := entry
    by_cases kept : name ∈ running
    · rw [List.filter_cons_of_pos (by simp [kept])]
      by_cases equal : id = name
      · subst equal
        simp [kept]
      · simp only [List.lookup_cons, beq_eq_false_iff_ne.mpr equal]
        exact ih
    · rw [List.filter_cons_of_neg (by simp [kept]), ih]
      by_cases equal : id = name
      · subst equal
        simp [kept]
      · simp [List.lookup_cons, beq_eq_false_iff_ne.mpr equal]

theorem countOf_cons {other : String} {count : Nat} :
    countOf ((id, count) :: counts) other = if other = id then count else countOf counts other := by
  unfold countOf
  by_cases equal : other = id
  · simp [equal]
  · simp [equal, List.lookup_cons, beq_eq_false_iff_ne.mpr equal]

theorem countOf_tally_of_notMem (uncounted : id ∉ running) :
    countOf (tally present running counts).2 id = countOf counts id ∧
    id ∉ (tally present running counts).1 := by
  induction running generalizing counts with
  | nil => exact ⟨rfl, List.not_mem_nil⟩
  | cons first rest ih =>
    obtain ⟨distinct, later⟩ := not_or.mp (List.mem_cons.not.mp uncounted)
    have others : countOf (counts.filter fun entry => entry.1 ≠ first) id = countOf counts id := by
      rw [countOf_filter_ne, if_neg distinct]
    have advanced (count : Nat) :
        countOf ((first, count) :: counts.filter fun entry => entry.1 ≠ first) id =
        countOf counts id := by
      rw [countOf_cons, if_neg distinct, others]
    simp only [tally]
    split
    · rw [← others]
      exact ih later
    · split
      · rw [← advanced]
        exact ih later
      · have after := @ih (counts.filter fun entry => entry.1 ≠ first) later
        rw [others] at after
        exact ⟨after.1, fun member => (List.mem_cons.mp member).elim distinct after.2⟩

theorem countOf_tally_of_mem (keyed : running.Nodup) (counted : id ∈ running) :
    countOf (tally present running counts).2 id =
        debounce vanishedSandboxThreshold (countOf counts id) (some (decide (id ∉ present))) ∧
      (id ∈ (tally present running counts).1 ↔
        id ∉ present ∧ vanishedSandboxThreshold ≤ countOf counts id + 1) := by
  induction running generalizing counts with
  | nil => cases counted
  | cons first rest ih =>
    obtain ⟨once, keyedLater⟩ := List.nodup_cons.mp keyed
    by_cases here : id = first
    · subst here
      have reset : countOf (counts.filter fun entry => entry.1 ≠ id) id = 0 := by
        rw [countOf_filter_ne, if_pos rfl]
      simp only [tally]
      by_cases there : id ∈ present
      · obtain ⟨same, unfailed⟩ := @countOf_tally_of_notMem id present rest
          (counts.filter fun entry => entry.1 ≠ id) once
        rw [if_pos there, same, reset]
        exact ⟨by simp [debounce, there], iff_of_false unfailed fun reached => reached.1 there⟩
      · rw [if_neg there]
        by_cases few : (counts.lookup id).getD 0 + 1 < vanishedSandboxThreshold
        · obtain ⟨same, unfailed⟩ := @countOf_tally_of_notMem id present rest
            ((id, (counts.lookup id).getD 0 + 1) :: counts.filter fun entry => entry.1 ≠ id) once
          rw [if_pos few, same, countOf_cons, if_pos rfl]
          refine ⟨by simp [debounce, there, few, countOf], iff_of_false unfailed fun reached => ?_⟩
          exact absurd few (Nat.not_lt.mpr reached.2)
        · obtain ⟨same, -⟩ := @countOf_tally_of_notMem id present rest
            (counts.filter fun entry => entry.1 ≠ id) once
          rw [if_neg few]
          refine ⟨?_, iff_of_true List.mem_cons_self ⟨there, Nat.not_lt.mp few⟩⟩
          simp only [same, reset]
          simp [debounce, there, few, countOf]
    · have later := (List.mem_cons.mp counted).resolve_left here
      have others : countOf (counts.filter fun entry => entry.1 ≠ first) id =
        countOf counts id := by
        rw [countOf_filter_ne, if_neg here]
      have advanced (count : Nat) :
          countOf ((first, count) :: counts.filter fun entry => entry.1 ≠ first) id =
          countOf counts id := by
        rw [countOf_cons, if_neg here, others]
      simp only [tally]
      split
      · rw [← others]
        exact ih keyedLater later
      · split
        · rw [← advanced]
          exact ih keyedLater later
        · have after := @ih (counts.filter fun entry => entry.1 ≠ first) keyedLater later
          rw [others] at after
          refine ⟨after.1, ?_⟩
          rw [List.mem_cons, or_iff_right here]
          exact after.2

theorem nodup_runningIds {rows : List InstanceRow}
    (keyed : (rows.map InstanceRow.instanceId).Nodup) : (runningIds rows).Nodup :=
  keyed.sublist (List.filter_sublist.map _)

theorem pass_counts (enumerates : agent.enumeratesSandboxes = true)
    (ran : Ran (reconcileVanished agent) trace ())
    (found : ∀ read ∈ countsRead trace, read = counts)
    (keyed : ∀ present rows, readings trace = some (present, rows) →
      (rows.map InstanceRow.instanceId).Nodup) (id : String) :
    countOf ((countsWritten trace).getLast?.getD counts) id =
        debounce vanishedSandboxThreshold (countOf counts id) (verdict id trace) ∧
        (id ∈ attemptsIn trace ↔
        verdict id trace = some true ∧ vanishedSandboxThreshold ≤ countOf counts id + 1) := by
  rcases ran_reconcileVanished enumerates ran with
    ⟨unread, quiet⟩ | ⟨present, rows, before, readBoth, read, attempted, written⟩
  · have none_ : verdict id trace = none := by rw [verdict, unread]; rfl
    rw [none_, quiet.written, quiet.attempts]
    exact ⟨rfl, iff_of_false List.not_mem_nil nofun⟩
  · have same : before = counts := found before (by rw [read]; exact List.mem_singleton_self _)
    subst same
    have seen : verdict id trace = some (decide (id ∈ runningIds rows ∧ id ∉ present)) := by
      rw [verdict, readBoth]
      rfl
    rw [seen, written, attempted]
    by_cases running : id ∈ runningIds rows
    · obtain ⟨advanced, failed⟩ := @countOf_tally_of_mem id present (runningIds rows)
        (before.filter fun entry => entry.1 ∈ runningIds rows)
        (nodup_runningIds (keyed present rows readBoth)) running
      rw [countOf_filter_mem, if_pos running] at advanced failed
      refine ⟨?_, ?_⟩
      · simpa [running] using advanced
      · simpa [running] using failed
    · obtain ⟨kept, unfailed⟩ := @countOf_tally_of_notMem id present (runningIds rows)
        (before.filter fun entry => entry.1 ∈ runningIds rows) running
      rw [countOf_filter_mem, if_neg running] at kept
      refine ⟨?_, iff_of_false unfailed ?_⟩
      · simpa [running, debounce] using kept
      · simp [running]

theorem Passes.countOf_eq (enumerates : agent.enumeratesSandboxes = true) {passes : List NodeTrace}
    (passed : Passes agent passes counts) (id : String) :
    countOf counts id = streak (passes.map (verdict id)) % vanishedSandboxThreshold := by
  induction passed with
  | none => rfl
  | pass before ran found keyed ih =>
    rw [(pass_counts enumerates ran found keyed id).1, ih, List.map_append, List.map_singleton]
    exact debounce_streak (by decide) _

theorem Passes.upTo {passes : List NodeTrace} (passed : Passes agent passes counts)
    {early late : List NodeTrace} (split : passes = early ++ trace :: late) :
    ∃ counts, Passes agent (early ++ [trace]) counts := by
  induction passed generalizing late with
  | none => exact absurd split.symm (List.append_ne_nil_of_right_ne_nil _ (List.cons_ne_nil _ _))
  | pass before ran found keyed ih =>
    rcases List.eq_nil_or_concat late with rfl | ⟨front, last, rfl⟩
    · rw [← split]
      exact ⟨_, .pass before ran found keyed⟩
    · rw [List.concat_eq_append, ← List.cons_append, ← List.append_assoc] at split
      exact ih (List.append_inj_left' split rfl)

/-- **A pass attempts to fail an instance exactly when it is the third, the sixth and so on of the passes
in a row at which the row read RUNNING and the sandbox was absent**; a pass that could not make both reads
neither counts nor ends the row. -/
theorem vanished_failed_at_third_absence (agent : Agent)
    (enumerates : agent.enumeratesSandboxes = true)
    (passes : List NodeTrace) (counts : List (String × Nat)) (passed : Passes agent passes counts)
    (early late : List NodeTrace) (trace : NodeTrace) (split : passes = early ++ trace :: late)
    (id : String) : id ∈ attemptsIn trace ↔
      verdict id trace = some true ∧ 3 ∣ streak ((early ++ [trace]).map (verdict id)) := by
  obtain ⟨after, upTo⟩ := passed.upTo split
  generalize same : early ++ [trace] = passes at upTo
  cases upTo with
  | none => exact absurd same (List.append_ne_nil_of_right_ne_nil _ (List.cons_ne_nil _ _))
  | pass before ran found keyed =>
    obtain ⟨rfl, last⟩ := List.append_inj' same rfl
    cases last
    rw [(pass_counts enumerates ran found keyed id).2, before.countOf_eq enumerates]
    refine and_congr_right fun missed => ?_
    rw [List.map_append, List.map_singleton, missed]
    exact threshold_le_iff (by decide)

/-! ### A phantom -/

def Agent.watchful : Agent := { Agent.plain with enumeratesSandboxes := true }

def phantomRow : InstanceRow :=
  ⟨ulid, .pinned ulid 0, .running, true, "", 0, 0, none, "", "", none, none, none, none, none, 0⟩

/-- A pass that misses the sandbox for the first or the second time. -/
def missing (counts kept : List (String × Nat)) : NodeTrace :=
  [⟨.runtime .listSandboxes, .ok []⟩, ⟨.journal .listInstances, .ok [phantomRow]⟩,
    ⟨.vanishedCounts, counts⟩, ⟨.setVanishedCounts kept, ()⟩]

def untold : NodeTrace := [⟨.runtime .listSandboxes, .error "timeout"⟩]

/-- A pass that misses the sandbox for the third time; the journal does not take the write. -/
def failing : NodeTrace :=
  [⟨.runtime .listSandboxes, .ok []⟩, ⟨.journal .listInstances, .ok [phantomRow]⟩,
    ⟨.vanishedCounts, [(ulid, 2)]⟩, ⟨.journal (.setInstanceState ulid .failed), .error "locked"⟩,
    ⟨.setVanishedCounts [], ()⟩]

def phantomPasses : List NodeTrace :=
  [missing [] [(ulid, 1)], untold, missing [(ulid, 1)] [(ulid, 2)], failing]

theorem ran_missing (count : Nat) (few : count + 1 < vanishedSandboxThreshold)
    (counts : List (String × Nat)) (counted : counts = [] ∧ count = 0 ∨ counts = [(ulid, count)]) :
    Ran (reconcileVanished .watchful) (missing counts [(ulid, count + 1)]) () := by
  refine .step (.step (.step ?_))
  rcases counted with ⟨rfl, rfl⟩ | rfl
  · simp [phantomRow, countVanished, Prog.pure_bind, few]
    exact .step (.refl _)
  · simp [phantomRow, countVanished, Prog.pure_bind, few]
    exact .step (.refl _)

theorem ran_failing : Ran (reconcileVanished .watchful) failing () := by
  refine .step (.step (.step ?_))
  simp [phantomRow, countVanished, Prog.pure_bind, vanishedSandboxThreshold]
  exact .step (.step (.refl _))

theorem passes_phantom : Passes .watchful phantomPasses [] := by
  have keyed (trace : NodeTrace) (present : List String) (rows : List InstanceRow)
      (read : readings trace = some (present, rows))
      (only : readings trace = some ([], [phantomRow])) :
      (rows.map InstanceRow.instanceId).Nodup := by
    rw [only] at read
    cases read
    exact List.nodup_singleton _
  have first : Passes .watchful [missing [] [(ulid, 1)]] [(ulid, 1)] :=
    .pass .none (ran_missing 0 (by decide) [] (.inl ⟨rfl, rfl⟩)) (by simp [missing, countsRead])
      fun present rows read => keyed _ present rows read rfl
  have second : Passes .watchful [missing [] [(ulid, 1)], untold] [(ulid, 1)] :=
    .pass first (.step (.refl _)) nofun nofun
  have third : Passes .watchful [missing [] [(ulid, 1)], untold, missing [(ulid, 1)] [(ulid, 2)]]
    [(ulid, 2)] :=
    .pass second (ran_missing 1 (by decide) [(ulid, 1)] (.inr rfl)) (by simp [missing, countsRead])
      fun present rows read => keyed _ present rows read rfl
  exact .pass third ran_failing (by simp [failing, countsRead]) fun present rows read =>
    keyed _ present rows read rfl

theorem phantom_failed_at_third_absence : Passes .watchful phantomPasses [] ∧
    (ulid ∈ attemptsIn failing ↔
      verdict ulid failing = some true ∧ 3 ∣ streak (phantomPasses.map (verdict ulid))) ∧
    ulid ∈ attemptsIn failing :=
  ⟨passes_phantom, vanished_failed_at_third_absence .watchful rfl phantomPasses [] passes_phantom
    [missing [] [(ulid, 1)], untold, missing [(ulid, 1)] [(ulid, 2)]] [] failing rfl ulid,
    List.mem_singleton_self _⟩

end Barista.Node
