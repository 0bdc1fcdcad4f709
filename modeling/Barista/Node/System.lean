import Barista.Foundation.Interleaving
import Barista.Foundation.Run
import Barista.Fleet.LeaseProtocol
import Barista.Node.FleetPhase
import Barista.Node.Service

/-!
Contract: one node, its bucket, and everything that may happen to them.

The node's tasks (its reconciler ticks, its executors, the requests it serves) and the
lease calls of other nodes are the tasks of one pool. The process may crash at any
point and boot again; consumers may rewrite the `desired/` objects at any time.

Owns: the transition system, and the rule that carries a discipline of its tasks through
every run.
-/

namespace Barista.Node

open Foundation Fleet

/-- What clients ask of the node, and the reconciler's phases beside the fleet's. Each phase is
a task of its own, so that no order between the phases of a tick is relied on. -/
inductive Invocation where
  | call (request : Rpc)
  | cancel (opId instanceId reason : String)
  | setWake (instanceId : String) (wakeAt : Option Timestamp)
  /-- A guest passthrough. -/
  | passthrough (instanceId : String)
  | importCapsule (capsuleId : String) (manifest : CapsuleManifest) (remote : Bool)
  | deleteCapsule (capsuleId : String)
  /-- Due wakes and expired leases. -/
  | scan
  /-- The probe of one running instance. -/
  | probe (instanceId : String)

def Invocation.prog (agent : Agent) : Invocation → NodeProg Unit
  | call request => discard (request.serve agent)
  | cancel opId instanceId reason => discard (Node.cancel opId instanceId reason)
  | setWake instanceId wakeAt => discard (Node.setWake instanceId wakeAt)
  | passthrough instanceId => Node.passthrough instanceId
  | importCapsule capsuleId manifest remote => registerImport capsuleId manifest remote
  | deleteCapsule capsuleId => Node.deleteCapsule capsuleId
  | scan => Node.scan agent
  | probe instanceId => Node.probe agent instanceId

def callOwner : Call → String
  | .acquire me .. => me
  | .renew held .. | .stampState held _ | .setInstance held _ | .release held => held.lease.owner

/-- The part a task plays. A boot knows the operations the open journal had to fail. -/
inductive Role where
  | boot (failed : List OperationRow)
  | tick
  | caller (invocation : Invocation)
  | executor (accepted : Executor)
  | peer (request : Request)

def Role.isPeer : Role → Bool
  | peer _ => true
  | _ => false

def Role.isBoot : Role → Bool
  | boot _ => true
  | _ => false

def Role.prog (agent : Agent) : Role → NodeProg Unit
  | .boot failed => Node.boot agent failed
  | .tick => Node.tick agent
  | .caller invocation => invocation.prog agent
  | .executor accepted => execute agent accepted
  | .peer request => discard (onBucket .peer (request.prog leaseCodec))

abbrev NodeTask := Task NodeSig Role Unit

abbrev System := Pool NodeSig Role Unit World

inductive Label where
  /-- A task performs its next action. -/
  | deliver (index : Nat) (choice : Choice)
  /-- The scheduler starts an executor. -/
  | launch (position : Nat)
  | tick
  | invoke (invocation : Invocation)
  /-- Another node makes a lease call. -/
  | peer (request : Request)
  /-- Consumers rewrite the desired state. -/
  | desire (objects : List DesiredObject)
  | crash
  /-- A start that dies after failing some of the operations it found in flight. -/
  | open_ (completed : Nat) (nowMs : Int)
  | boot (nowMs : Int)

/-- The message crash recovery leaves on the operations it fails. -/
def restartMessage : String := "node agent restarted mid-operation"

namespace World

/-- A bucket and a journal nobody has written to, and no process. -/
def initial : World where
  bucket := fun _ => ⟨[]⟩
  desired := []
  journal := .empty
  stage := .down
  held := {}
  writing := none
  ticking := none
  holdsReported := []
  outage := none
  vanishedCounts := []
  spawned := []
  aux := .none

/-- What outlives the process: the bucket and the journal. -/
def afterCrash (world : World) : World :=
  { initial with bucket := world.bucket, desired := world.desired, journal := world.journal }

/-- The scheduler takes the executor at a position of its queue and runs it as a task. -/
def launched (world : World) (position index : Nat) (executor : Executor) : World :=
  { world with
    spawned := world.spawned.eraseIdx position
    aux := world.aux.putInCharge executor.op.opId (.executor index) }

/-- The journal is opened and the operations it finds in flight are failed. -/
def booted (world : World) (index : Nat) (nowMs : Int) : World :=
  { world.afterCrash with
    journal := world.journal.openJournal.failInflightOps restartMessage nowMs
    stage := .booting
    ticking := some index }

/-- A start that died after failing some of the operations it found in flight. -/
def halfOpened (world : World) (completed : Nat) (nowMs : Int) : World :=
  let opened := world.journal.openJournal
  { world with
    journal := opened.failOps restartMessage nowMs (opened.inFlightOps.take completed) }

end World

namespace System

/-- Every task of the process ends; other nodes' calls go on. -/
def kill (task : NodeTask) : NodeTask :=
  if task.role.isPeer then task else { task with prog := .pure () }

def initial : System := ⟨.initial, []⟩

def begin_ (agent : Agent) (system : System) (role : Role) : System :=
  system.spawn ⟨role, role.prog agent⟩

def serving (system : System) : Bool :=
  system.world.stage = .alone ∨ system.world.stage = .joined

def next (agent : Agent) (etags : LeaseVersioning) (system : System) :
    Label → Option System
  | .deliver index choice => system.step (nodeMachine etags) index choice
  | .launch position =>
    (system.world.spawned[position]?).map fun executor =>
      begin_ agent
        ⟨system.world.launched position system.tasks.length executor, system.tasks⟩
        (.executor executor)
  | .tick => if system.serving then some (begin_ agent system .tick) else none
  | .invoke invocation =>
    if system.serving then some (begin_ agent system (.caller invocation)) else none
  | .peer request =>
    if callOwner request.call ≠ agent.nodeId then some (begin_ agent system (.peer request))
    else none
  | .desire objects => some { system with world := { system.world with desired := objects } }
  | .crash => some ⟨system.world.afterCrash, system.tasks.map kill⟩
  | .open_ completed nowMs =>
    if system.world.stage = .down then
      some { system with world := system.world.halfOpened completed nowMs }
    else none
  | .boot nowMs =>
    if system.world.stage = .down then
      some (begin_ agent
        ⟨system.world.booted system.tasks.length nowMs, system.tasks.map kill⟩
        (.boot (system.world.journal.openJournal.operations.rows.filter Journal.inFlight)))
    else none

/-- **What a step can do**, and the guard it is taken under. -/
inductive Stepped (agent : Agent) (etags : LeaseVersioning) (system : System) :
    Label → System → Prop
  | deliver {index : Nat} {choice : Choice} {role : Role} {act : NodeAct}
      {continuation : NodeSig.Ans act → NodeProg Unit} {answer : NodeSig.Ans act} {world : World}
      (found : system.tasks[index]? = some ⟨role, .step act continuation⟩)
      (executed : (nodeMachine etags).exec index act choice system.world =
        some (answer, world)) :
      Stepped agent etags system (.deliver index choice)
        ⟨world, system.tasks.set index ⟨role, continuation answer⟩⟩
  | launch {position : Nat} {executor : Executor}
      (found : system.world.spawned[position]? = some executor) :
      Stepped agent etags system (.launch position)
        (begin_ agent ⟨system.world.launched position system.tasks.length executor, system.tasks⟩
          (.executor executor))
  | tick (serving : system.serving = true) :
      Stepped agent etags system .tick (begin_ agent system .tick)
  | invoke {invocation : Invocation} (serving : system.serving = true) :
      Stepped agent etags system (.invoke invocation) (begin_ agent system (.caller invocation))
  | peer {request : Request} (foreign : callOwner request.call ≠ agent.nodeId) :
      Stepped agent etags system (.peer request) (begin_ agent system (.peer request))
  | desire {objects : List DesiredObject} : Stepped agent etags system (.desire objects)
      { system with world := { system.world with desired := objects } }
  | crash : Stepped agent etags system .crash ⟨system.world.afterCrash, system.tasks.map kill⟩
  | open_ {completed : Nat} {nowMs : Int} (down : system.world.stage = .down) :
      Stepped agent etags system (.open_ completed nowMs)
        { system with world := system.world.halfOpened completed nowMs }
  | boot {nowMs : Int} (down : system.world.stage = .down) :
      Stepped agent etags system (.boot nowMs)
        (begin_ agent ⟨system.world.booted system.tasks.length nowMs, system.tasks.map kill⟩
          (.boot (system.world.journal.openJournal.operations.rows.filter Journal.inFlight)))

theorem next_cases {agent : Agent} {etags : LeaseVersioning}
    {system after : System} {label : Label} (stepped : next agent etags system label = some after) :
    Stepped agent etags system label after := by
  cases label with
  | deliver index choice =>
    obtain ⟨role, act, continuation, answer, world, found, executed, rfl⟩ := Pool.step_cases stepped
    exact .deliver found executed
  | launch position =>
    obtain ⟨executor, found, rfl⟩ := Option.map_eq_some_iff.mp stepped
    exact .launch found
  | desire | crash =>
    cases stepped
    constructor
  | tick | invoke | peer | open_ | boot =>
    simp only [next] at stepped
    split at stepped
    · cases stepped
      constructor
      assumption
    · cases stepped

def reach (agent : Agent) (etags : LeaseVersioning) (labels : List Label) :
    Option System :=
  run (next agent etags) initial labels

theorem reach_snoc {agent : Agent} {etags : LeaseVersioning}
    {labels : List Label} {system after : System} {label : Label}
    (reached : reach agent etags labels = some system)
    (stepped : next agent etags system label = some after) :
    reach agent etags (labels ++ [label]) = some after := by
  rw [reach, run_append, show run (next agent etags) initial labels = some system from reached]
  simp [run, stepped]

/-- Let one task take its next `count` actions, with stamps from `first` on. -/
def drive (index : Nat) (nowMs : Int) (first count : Nat) : List Label :=
  (List.range' first count).map fun stamp => .deliver index (.calm nowMs stamp)

/-! ### Disciplines of the node -/

section Contract

variable {agent : Agent} {etags : LeaseVersioning}
  {D : Discipline (nodeMachine etags) Role Unit}

/-- What makes a discipline one of this system: other nodes rely on nothing, every event
outside the tasks is within everyone's rely, and each program meets its obligation where it
is started. -/
structure Contract (agent : Agent) (D : Discipline (nodeMachine etags) Role Unit) :
    Prop where
  free : ∀ {role : Role}, role.isPeer = true → ∀ index before after, D.Rely index role before after
  post : ∀ index role world, D.Post index role () world
  initial : D.Inv World.initial
  desire : ∀ {world : World} (objects), D.Inv world → D.Inv { world with desired := objects } ∧
    ∀ index role, D.Rely index role world { world with desired := objects }
  launch : ∀ {world : World} {position : Nat} {executor : Executor} (index : Nat), D.Inv world →
    world.spawned[position]? = some executor →
    D.Inv (world.launched position index executor) ∧
      (∀ other role, D.Rely other role world (world.launched position index executor)) ∧
      D.wp index (.executor executor) (execute agent executor) (fun _ _ => True)
        (world.launched position index executor)
  serve : ∀ {world : World} (index : Nat) (role : Role), D.Inv world →
    (world.stage = .alone ∨ world.stage = .joined) →
    (role = .tick ∨ ∃ invocation, role = .caller invocation) →
    D.wp index role (role.prog agent) (fun _ _ => True) world
  peer : ∀ {world : World} (index : Nat) (request : Request), D.Inv world →
    callOwner request.call ≠ agent.nodeId →
    D.wp index (.peer request) (Role.prog agent (.peer request)) (fun _ _ => True) world
  crash : ∀ {world : World}, D.Inv world → D.Inv world.afterCrash
  halfOpen : ∀ {world : World} (completed nowMs), D.Inv world → world.stage = .down →
    D.Inv (world.halfOpened completed nowMs) ∧
      ∀ index role, D.Rely index role world (world.halfOpened completed nowMs)
  boot : ∀ {world : World} (index : Nat) (nowMs : Int) (failed : List OperationRow),
    D.Inv world → world.stage = .down → D.Inv (world.booted index nowMs) ∧
      D.wp index (.boot failed) (Role.prog agent (.boot failed)) (fun _ _ => True)
        (world.booted index nowMs)

/-- What a step has to meet for a discipline's assumption. -/
def Assumed (D : Discipline (nodeMachine etags) Role Unit) (system : System) : Label → Prop
  | .deliver index choice => ∀ role act next answer world, system.tasks[index]? = some
    ⟨role, .step act next⟩ →
      (nodeMachine etags).exec index act choice system.world = some (answer, world) →
      D.Assume index role act answer system.world world
  | _ => True

theorem Contract.begin_ (contract : Contract agent D) {system : System} {role : Role}
    (covered : system.Covered D)
    (obligation : D.wp system.tasks.length role (role.prog agent) (fun _ _ => True) system.world) :
    Pool.Covered D (begin_ agent system role) :=
  covered.spawn (Discipline.wp_mono (fun _ world _ _ => contract.post _ _ world) obligation)

theorem Contract.killed (contract : Contract agent D) {system : System} {world : World}
    (covered : system.Covered D) (invariant : D.Inv world) :
    Pool.Covered D ⟨world, system.tasks.map kill⟩ := by
  refine ⟨invariant, fun index task located => ?_⟩
  obtain ⟨old, found, rfl⟩ := Option.map_eq_some_iff.mp (List.getElem?_map .. ▸ located)
  unfold kill
  split
  · next isPeer =>
      exact Discipline.wp_rely (covered.tasks index old found) (contract.free isPeer _ _ _)
  · exact fun current _ _ => contract.post _ _ current

/-- **Every step keeps a discipline of the system.** -/
theorem Contract.step (contract : Contract agent D) {system after : System} {label : Label}
    (covered : system.Covered D) (stepped : next agent etags system label = some after)
    (assumed : Assumed D system label) : after.Covered D := by
  have serves (serving : system.serving = true) :
      system.world.stage = .alone ∨ system.world.stage = .joined := by
    simpa [System.serving] using serving
  cases next_cases stepped with
  | deliver => exact covered.step stepped assumed
  | launch found =>
    obtain ⟨kept, relied, obligation⟩ := contract.launch system.tasks.length covered.inv found
    exact contract.begin_ (covered.event kept relied) obligation
  | tick serving =>
    exact contract.begin_ covered (contract.serve _ .tick covered.inv (serves serving) (.inl rfl))
  | invoke serving =>
    exact contract.begin_ covered (contract.serve _ (.caller _) covered.inv (serves serving)
      (.inr ⟨_, rfl⟩))
  | peer foreign => exact contract.begin_ covered (contract.peer _ _ covered.inv foreign)
  | desire =>
    obtain ⟨kept, relied⟩ := contract.desire _ covered.inv
    exact covered.event kept relied
  | crash => exact contract.killed covered (contract.crash covered.inv)
  | open_ down =>
    obtain ⟨kept, relied⟩ := contract.halfOpen _ _ covered.inv down
    exact covered.event kept relied
  | boot down =>
    obtain ⟨kept, obligation⟩ := contract.boot system.tasks.length _ _ covered.inv down
    refine contract.begin_ (contract.killed covered kept) ?_
    simpa using obligation

theorem Contract.covered_initial (contract : Contract agent D) : Pool.Covered D System.initial :=
  ⟨contract.initial, by simp [System.initial]⟩

end Contract

end System

end Barista.Node
