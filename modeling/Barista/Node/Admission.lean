import Barista.Node.Entrances
import Barista.Node.InstanceStates

/-!
Contract: which specs the instances table carries.

A create is submitted with an admitted spec, and a fork clones that of its source; the
target's id and the spec of a restored capsule come from the caller and are not checked.

Owns: the specs in the journal of every run.
-/

namespace Barista.Node

open Foundation Fleet

variable {agent : Agent} {etags : LeaseVersioning} {system after : System}
  {label : Label} {labels : List Label}

/-! ### Specs are immutable -/

theorem spec_stays (stepped : System.next agent etags system label = some after) {id : String}
    {row : InstanceRow} (found : system.world.journal.getInstance id = some row) :
    ∃ current, after.world.journal.getInstance id = some current ∧ current.spec = row.spec := by
  rcases row_cases stepped id with
    same | ⟨_, _, _, old, new, -, read, written, touches⟩ | ⟨_, _, _, _, -, -, -, absent, -⟩
  · exact ⟨row, same.trans found, rfl⟩
  · cases read.symm.trans found
    exact ⟨new, written, (Query.rewritten touches).spec⟩
  · cases absent.symm.trans found

/-- The specs a task was answered with are those the journal still has. -/
def Heard (system : System) (traces : Nat → NodeTrace) : Prop :=
  ∀ index id row, Answered (traces index) id row →
    ∃ current, system.world.journal.getInstance id = some current ∧ current.spec = row.spec

theorem exec_getInstance {index : Nat} {id : String} {choice : Choice} {world later : World}
    {row : InstanceRow}
    (executed : (nodeMachine etags).exec index (.journal (.getInstance id)) choice world =
      some (.ok (some row), later)) : world.journal.getInstance id = some row := by
  rcases query_cases executed with ⟨_, refused, -⟩ | ⟨found, _, answered, ran, -⟩
  · cases refused
  · cases ran
    exact (Except.ok.inj answered).symm

theorem answered_after {P : String → InstanceRow → Prop} {traces : Nat → NodeTrace}
    (before : ∀ index id row, Answered (traces index) id row → P id row)
    (current : ∀ id row, system.world.journal.getInstance id = some row → P id row) :
    ∀ index id row, Answered (System.tracesAfter etags system label traces index) id row →
      P id row := by
  intro index id row answered
  rcases System.mem_tracesAfter_cases answered with earlier | exchanged
  · exact before index id row earlier
  · obtain ⟨choice, -, role, continuation, later, -, executed⟩ := System.exchanged_cases exchanged
    exact current id row (exec_getInstance executed)

theorem Heard.step {traces : Nat → NodeTrace} (heard : Heard system traces)
    (stepped : System.next agent etags system label = some after) :
    Heard after (System.tracesAfter etags system label traces) := by
  refine answered_after ?_ fun id row found => spec_stays stepped found
  intro index id row answered
  obtain ⟨current, found, same⟩ := heard index id row answered
  obtain ⟨later, stays, unchanged⟩ := spec_stays stepped found
  exact ⟨later, stays, unchanged.trans same⟩

theorem reach_heard (reached : System.reach agent etags labels = some system) :
    Heard system (System.traces agent etags labels) := by
  refine run_observed (I := fun current traces => Heard current traces) ?_ ?_ reached
  · intro labels current label later _ heard stepped
    exact heard.step stepped
  · intro index id row answered
    cases answered

/-! ### Admission -/

def InstanceSpec.isPinned (spec : InstanceSpec) : Bool :=
  spec.oci.any fun oci => oci.digest.toList.all isWhitespace = false

def InstanceSpec.isRoutable (agent : Agent) (spec : InstanceSpec) : Bool :=
  spec.egressMediated = false ∨ agent.egressControl = true

theorem admitSpec_ok_iff {spec : InstanceSpec} {requireHardwareIsolation : Bool} :
    admitSpec agent spec requireHardwareIsolation = .ok () ↔
      agent.parseUlid spec.instanceId = .ok () ∧ spec.isPinned = true ∧
        (requireHardwareIsolation = true → agent.hardwareIsolation = true) ∧
        spec.isRoutable agent = true := by
  unfold admitSpec InstanceSpec.isPinned InstanceSpec.isRoutable
  split
  · next cause _ _ refused => simp [refused]
  · next parsed none => simp [none]
  · next oci parsed pinned =>
      split_ifs with blank isolated routed
      · simp only [pinned, Option.any_some, blank]
        simp
      · simp [isolated]
      · simp [routed]
      · simp only [parsed, pinned, Option.any_some, true_and, true_iff]
        refine ⟨by simpa using blank, fun required => ?_, ?_⟩
        · by_contra lacking
          exact isolated ⟨required, by simpa using lacking⟩
        · by_contra lacking
          simp at lacking
          exact routed ⟨lacking.1, lacking.2⟩

/-- The inputs a fork is journaled from, as far as admission would check them. -/
def ForkRequest.isAdmissible (agent : Agent) (request : ForkRequest) : Bool :=
  (agent.parseUlid request.targetInstanceId).isOk &&
    request.targetSpec.all fun spec => spec.isPinned && spec.isRoutable agent

theorem admissible {request : ForkRequest} (isAdmissible : request.isAdmissible agent = true) :
    agent.parseUlid request.targetInstanceId = .ok () ∧ ∀ spec, request.targetSpec = some spec →
        spec.isPinned = true ∧ spec.isRoutable agent = true := by
  obtain ⟨parsed, specified⟩ := Bool.and_eq_true_iff.mp isAdmissible
  refine ⟨?_, fun spec given => ?_⟩
  · cases parse : agent.parseUlid request.targetInstanceId with
    | ok value => rfl
    | error cause =>
      rw [parse] at parsed
      cases parsed
  · rw [given] at specified
    exact Bool.and_eq_true_iff.mp specified

/-- Every fork a client asks for has a ULID for its target and, if it brings a spec for it, one
that is pinned and routable. -/
def ForksAdmissibly (agent : Agent) (_ : System) : Label → System → Prop
  | .invoke (.call (.forkInstance request)), _ => request.isAdmissible agent = true
  | _, _ => True

instance (agent : Agent) (system : System) (label : Label) (after : System) :
    Decidable (ForksAdmissibly agent system label after) := by
  unfold ForksAdmissibly
  split <;> infer_instance

/-- An instance's row carries an admitted spec under its own id. -/
def InstanceRow.IsAdmitted (agent : Agent) (row : InstanceRow) : Prop :=
  row.spec.instanceId = row.instanceId ∧ admitSpec agent row.spec false = .ok ()

structure Admitted (agent : Agent) (system : System) : Prop where
  rows : ∀ row ∈ system.world.journal.instances.rows, row.IsAdmitted agent
  callers : ∀ task ∈ system.tasks, ∀ request, task.role = .caller (.call (.forkInstance request)) →
    request.isAdmissible agent = true

theorem entered_admitted {known : Known} {instanceId key : String} {payload : OpPayload}
    {claim : Option Claim} {spec : InstanceSpec}
    (entered : Entered agent known instanceId key payload claim)
    (creates : createSpec payload = some spec)
    (asked : ∀ request, known.fork request → request.isAdmissible agent = true)
    (read : ∀ id row, known.row id row → admitSpec agent row.spec false = .ok ()) :
    admitSpec agent spec false = .ok () := by
  cases entered with
  | create admitted =>
    cases creates
    obtain ⟨parsed, pinned, -, routable⟩ := admitSpec_ok_iff.mp admitted
    exact admitSpec_ok_iff.mpr ⟨parsed, pinned, nofun, routable⟩
  | fork request source =>
    cases creates
    obtain ⟨-, pinned, -, routable⟩ := admitSpec_ok_iff.mp (read _ _ source)
    exact admitSpec_ok_iff.mpr ⟨(admissible (asked _ request)).1, pinned, nofun, routable⟩
  | capsule request given =>
    cases creates
    obtain ⟨parsed, specified⟩ := admissible (asked _ request)
    obtain ⟨pinned, routable⟩ := specified _ given
    exact admitSpec_ok_iff.mpr ⟨parsed, pinned, nofun, routable⟩
  | verb plain => cases plain.symm.trans creates
  | ttl resolution => cases resolution <;> cases creates
  | wake wakes => rcases wakes with rfl | rfl <;> cases creates

theorem Admitted.step (reached : System.reach agent etags labels = some system)
    (admitted : Admitted agent system) (stepped : System.next agent etags system label = some after)
    (forks : ForksAdmissibly agent system label after) : Admitted agent after := by
  refine ⟨fun row member => ?_, fun task member request asks => ?_⟩
  · have found := Journal.getInstance_mem member
    have known : ∀ {old : InstanceRow}, system.world.journal.getInstance row.instanceId = some old →
        old.IsAdmitted agent := fun found => admitted.rows _ (Table.mem_of_find? found).1
    rcases row_cases stepped row.instanceId with
      same | ⟨_, _, _, old, new, -, read, written, touches⟩ |
      ⟨args, spec, identity, nowMs, made, creates, -, -, written⟩
    · exact known (same.symm.trans found)
    · cases written.symm.trans found
      obtain ⟨sameSpec, sameId, -, -, -, -⟩ := Query.rewritten touches
      obtain ⟨isNamed, isAdmitted⟩ := known read
      exact ⟨by rw [sameSpec, isNamed, sameId], by rw [sameSpec, isAdmitted]⟩
    · have isNew := Option.some.inj (written.symm.trans found)
      obtain ⟨index, task, located, _, _, _, _, _, _, _, rfl, entered⟩ :=
        System.made_entered reached made
      rw [← isNew]
      refine ⟨rfl, entered_admitted entered creates
        (admitted.callers task (List.mem_of_getElem? located)) fun id source answered => ?_⟩
      obtain ⟨current, read, same⟩ := reach_heard reached index id source answered
      rw [← same]
      exact (admitted.rows _ (Table.mem_of_find? read).1).2
  · rcases System.roles_step stepped task member with ⟨old, kept, same⟩ | started
    · exact admitted.callers old kept request (same.trans asks)
    · rw [started _ asks] at forks
      exact forks

/-- **Every journaled spec was admitted**, in every run whose forks name a ULID for their target
and restore capsules into pinned, routable specs: so would admission have it. -/
theorem journaled_specs_admitted (agent : Agent) (etags : LeaseVersioning)
    (labels : List Label) (system : System)
    (reached : System.reach agent etags labels = some system)
    (forks : Along (System.next agent etags) (ForksAdmissibly agent) System.initial labels) :
    ∀ row ∈ system.world.journal.instances.rows,
      row.spec.instanceId = row.instanceId ∧ admitSpec agent row.spec false = .ok () := by
  have kept := forks.invariant_run (I := Admitted agent) ?_ ?_ reached
  · exact kept.rows
  · intro labels current label later reached _ admitted stepped admissible
    exact admitted.step reached stepped admissible
  · exact ⟨by rintro row ⟨⟩, by rintro task ⟨⟩⟩

/-- An instance is created, started and captured, and a fork of it into a target is submitted. -/
def forkInto (target : String) : List Label :=
  let id := ulid
  .boot 0 :: System.drive 0 0 0 4 ++
    System.ask (.createInstance "c" (some (.pinned id 0)) false) :: System.drive 1 0 4 6 ++
    .launch 0 :: System.drive 2 0 10 18 ++
    System.ask (.startInstance "s" id) :: System.drive 3 0 28 5 ++
    .launch 0 :: System.drive 4 0 33 22 ++
    System.ask (.createSnapshot "capture" id "") :: System.drive 5 0 55 5 ++
    .launch 0 :: System.drive 6 0 60 26 ++
    System.ask (.forkInstance ⟨"fork", target, "snapshot", false, none⟩) :: System.drive 7 0 86 7

theorem journaled_specs_admitted_fork :
    ∃ system row, System.reach .plain freshVersions (forkInto "01BX5ZZKBKACTAV9WEVGEMMVRZ") =
      some system ∧ system.world.journal.getInstance "01BX5ZZKBKACTAV9WEVGEMMVRZ" = some row ∧
      row.spec.instanceId = row.instanceId ∧ admitSpec .plain row.spec false = .ok () := by
  have reachable : ((System.reach .plain freshVersions
      (forkInto "01BX5ZZKBKACTAV9WEVGEMMVRZ")).any fun system =>
        (system.world.journal.getInstance "01BX5ZZKBKACTAV9WEVGEMMVRZ").isSome) = true := by
    decide +kernel
  have forks : Along (System.next .plain freshVersions) (ForksAdmissibly .plain)
      System.initial (forkInto "01BX5ZZKBKACTAV9WEVGEMMVRZ") := by
    decide +kernel
  obtain ⟨system, reached, there⟩ := (Option.any_eq_true _ _).mp reachable
  obtain ⟨row, found⟩ := Option.isSome_iff_exists.mp there
  exact ⟨system, row, reached, found, journaled_specs_admitted .plain freshVersions _ system
    reached forks row (Table.mem_of_find? found).1⟩

/-- A fork's target is whatever the caller said, and its row is journaled with it. -/
theorem fork_journaled_unadmitted :
    ∃ system row, System.reach .plain freshVersions (forkInto "../f") = some system ∧
      row ∈ system.world.journal.instances.rows ∧ row.spec.instanceId = "../f" ∧
      admitSpec .plain row.spec false ≠ .ok () :=
  exists_mem_of_any (by decide +kernel)

end Barista.Node
