import Barista.Foundation.Trace
import Barista.Fleet.Lease
import Barista.Node.Rows

/-!
Contract: the node as a machine, one atomic action at a time.

A task of the node is a program over `NodeSig`. Each action is one thing the process
does between two points at which other tasks may run: a request to the bucket, a call
on the journal, an access to the map of held leases, taking or dropping `lease_writes`,
a call to the runtime. What the outside answers is the environment's `Choice`.

Owns: the actions, the state they act on, and what each one does. Left out: the capsule
and guest parts of the agent, whose answers are chosen freely.
-/

namespace Barista.Node

open Foundation Fleet

/-! ### Operations and the substrate -/

inductive OpPayload where
  | create (spec : InstanceSpec)
  | start
  | stop (graceSeconds : Nat)
  | pause (requireMemory : Bool)
  | resume (snapshotId : Option String) (requireMemory : Bool)
  | createSnapshot (name : Option String)
  | deleteSnapshot (snapshotId : String)
  | destroy (keepSnapshots : Bool)
  | fork (spec : InstanceSpec) (sourceInstanceId sourceSnapshotId : String) (lineage : Lineage)
      (requireCow : Bool) (sourceGuestToken : String) (sourceIdentity : Option Identity)
  | restoreCapsule (spec : InstanceSpec) (capsuleId sourceSnapshotId : String) (lineage : Lineage)
deriving DecidableEq, Repr

def OpPayload.kind : OpPayload → OpKind
  | create _ => .create
  | start => .start
  | stop _ => .stop
  | pause _ => .pause
  | resume _ _ => .resume
  | createSnapshot _ => .createSnapshot
  | deleteSnapshot _ => .deleteSnapshot
  | destroy _ => .destroy
  | fork .. | restoreCapsule .. => .fork

structure Executor where
  kind : OpKind
  op : OperationRow
  payload : OpPayload
  recorded : InstanceState
deriving DecidableEq, Repr

structure GuestBootstrap where
  token : String
  identity : Option Identity
deriving DecidableEq, Repr

inductive RuntimeError where
  | templateNotFound (message : String)
  | substrateUnavailable (message : String)
  | nameConflict (message : String)
  | capabilityMissing (message : String)
  | other (message : String)
deriving DecidableEq, Repr

structure SnapshotInfo where
  snapshotId : String
  kind : SnapshotKind
deriving DecidableEq, Repr

structure ForkOutcome where
  mode : ForkMode
  frozeSource : Bool
deriving DecidableEq, Repr

structure StopStatus where
  exitCode : Option Int
  detail : String
deriving DecidableEq, Repr

inductive RuntimeCall where
  | create (spec : InstanceSpec) (guest : GuestBootstrap)
  | start (id : String) (spec : InstanceSpec) (guest : GuestBootstrap)
  | stop (id : String) (graceSeconds : Nat)
  | pause (id : String)
  | resume (id : String) (snapshotId : Option String)
  | createSnapshot (id : String) (name : Option String)
  | deleteSnapshot (snapshotId : String)
  | destroy (id : String)
  | fork (sourceId snapshotId : String) (spec : InstanceSpec) (guest : GuestBootstrap)
      (requireCow : Bool)
  | restoreFromObjects (capsuleId : String) (spec : InstanceSpec) (guest : GuestBootstrap)
  | removeOrphan (id : String)
  | stopStatus (id : String)
  | listSandboxes
deriving DecidableEq, Repr

abbrev RuntimeCall.Answer : RuntimeCall → Type
  | pause _ | createSnapshot _ _ => Except RuntimeError SnapshotInfo
  | fork .. => Except RuntimeError ForkOutcome
  | stopStatus _ => Except String (Option StopStatus)
  | listSandboxes => Except String (List String)
  | _ => Except RuntimeError Unit

structure Timestamp where
  seconds : Int
  nanos : Int
deriving DecidableEq, Repr

/-- The guest's answer to a health probe: the fields the node reads. -/
structure Health where
  ready : Bool
  lastUserActivity : Option Timestamp
  idleDeclared : Option Timestamp
deriving DecidableEq, Repr

/-- The compatibility keys and the lineage of a capsule. -/
structure CapsuleManifest where
  kind : SnapshotKind
  architecture : String
  cpuClass : String
  templateHash : String
  runtimeBundleRef : String
  lineageId : String
deriving DecidableEq, Repr

inductive GuestError where
  | unsupported (runtime : String)
  | unreachable (message : String)
deriving DecidableEq, Repr

/-- Calls into the parts of the agent that are not modelled: the guest channel, the capsule
tables, and the kernel's random bytes. -/
inductive Beyond where
  | newGuestToken
  | preSnapshotHook (id : String)
  | restoreDuties (id : String) (epoch : Nat)
  | getCapsule (capsuleId : String)
  | loadCapsuleObjects (capsuleId : String)
  | connectGuest (id : String)
  | health (id : String)
deriving DecidableEq, Repr

/-- A hook or a duty answers with the downgrades it had to make. -/
abbrev Beyond.Answer : Beyond → Type
  | newGuestToken => Except String String
  | preSnapshotHook _ | restoreDuties _ _ => List String
  | getCapsule _ => Except String (Option CapsuleManifest)
  | loadCapsuleObjects _ => Except (ErrorReason × String) Unit
  | connectGuest _ => Except GuestError Unit
  | health _ => Except String Health

/-! ### Desired state -/

/-- What to do with a session taken over from another node. -/
inductive OnOwnerLoss where
  | coldboot | hold
deriving DecidableEq, Repr

structure Desired where
  schemaVersion : Nat
  name : String
  spec : List UInt8
  onOwnerLoss : OnOwnerLoss
deriving DecidableEq, Repr

/-- An object under `desired/`: where it is, and the record its bytes parse to, if any. -/
structure DesiredObject where
  location : String
  record : Option Desired
deriving DecidableEq, Repr

/-- One stretch of bucket unreachability, as the renewal loop sees it. -/
structure Outage where
  sinceMs : Int
  reported : Bool
deriving DecidableEq, Repr

/-- What one pass's renewals do to the episode, and whether its report is due now. -/
def outageAfterRenewals (outage : Option Outage) (reachedBucket : Bool) (nowMs : Int)
    (ttl : Duration) : Option Outage × Bool :=
  if reachedBucket then (none, false)
  else match outage with
    | none => (some ⟨nowMs, false⟩, false)
    | some episode =>
      if !episode.reported ∧ wrapI64 ttl.asMillis ≤ wrapI64 (nowMs - episode.sinceMs) then
        (some { episode with reported := true }, true)
      else (some episode, false)

/-! ### Actions -/

/-- Which call a bucket request belongs to, with the evidence of ownership the call was given.
`giveBack` is the release of a lease that could not be journaled; `peer` is another node's. -/
inductive Origin where
  | acquire
  | renew (held : Held)
  | stampState (held : Held)
  | setInstance (held : Held)
  | release (held : Held)
  | giveBack (held : Held)
  | resolve
  | peer
deriving DecidableEq, Repr

inductive NodeAct where
  | bucket (origin : Origin) (request : StoreAct String Lease UpdateVersion)
  | journal (query : Query)
  /-- The read of an instance row that decides what a lease record will say. -/
  | runState (id : String)
  | takeWrites
  | dropWrites
  | held
  | hold (name : String) (held : Held)
  | forget (name : String)
  | now
  | ulid
  | listDesired
  | getDesired (location : String)
  | outageAfterRenewals (reachedBucket : Bool) (ttl : Duration)
  | holdsReported
  | reportHold (name : String)
  | vanishedCounts
  | setVanishedCounts (counts : List (String × Nat))
  | runtime (call : RuntimeCall)
  | beyond (call : Beyond)
  | spawn (executor : Executor)
  | fleet
  | join
  | beginTick
  | endTick

abbrev NodeSig : Signature where
  Act := NodeAct
  Ans
    | .bucket _ request => (StoreSig String Lease UpdateVersion).Ans request
    | .journal query => Except String query.Answer
    | .runState _ => Except String (Option InstanceRow)
    | .held => Std.TreeMap String Held
    | .now => Int
    | .ulid => String
    | .listDesired => Except FleetError (List String)
    | .getDesired _ => Except FleetError (Option Desired)
    | .outageAfterRenewals _ _ => Bool
    | .holdsReported => List String
    | .vanishedCounts => List (String × Nat)
    | .runtime call => call.Answer
    | .beyond call => call.Answer
    | .fleet => Bool
    | _ => Unit

/-- What a task has said and heard. -/
abbrev NodeTrace : Type := List (Exchange NodeSig)

/-- How the bucket issues the versions of lease records. -/
abbrev LeaseVersioning : Type := Versioning Lease UpdateVersion

/-! ### The state of a node and its bucket -/

/-- Where the process is in its life. `alone` is a process that could not set its fleet. -/
inductive Stage where
  | down | booting | alone | joined
deriving DecidableEq, Repr

/-- Who answers for an operation that has not been finalized. -/
inductive Charge where
  | submitter (index : Nat)
  | queue
  | executor (index : Nat)
deriving DecidableEq, Repr

/-- What the proofs remember of a run. No answer and no other part of the state depends on it. -/
structure Auxiliary where
  /-- Who answers for an operation. -/
  charge : String → Option Charge
  /-- The state each operation was recorded in at its submission. -/
  recorded : String → Option InstanceState
  /-- The last write of each lease this node was told was applied, until it gives the lease up. -/
  acked : String → Option Held
  /-- The instance whose run state a task has read for a lease record it has yet to write, and
  whether the row said `running`. -/
  reading : Nat → Option (String × Bool)

structure World where
  /-- The `sessions/` objects, by session name. -/
  bucket : Objects String Lease UpdateVersion
  /-- The `desired/` objects, in listing order. -/
  desired : List DesiredObject
  journal : Journal
  stage : Stage
  held : Std.TreeMap String Held
  /-- The task that holds `lease_writes`. -/
  writing : Option Nat
  /-- The task that is the reconciler's current tick, or the boot before the first one. -/
  ticking : Option Nat
  holdsReported : List String
  outage : Option Outage
  vanishedCounts : List (String × Nat)
  /-- Executors handed to the scheduler and not started yet. -/
  spawned : List Executor
  aux : Auxiliary

structure Choice where
  delivery : Delivery UpdateVersion
  nowMs : Int
  journalError : Option String
  ulid : String
  arcUnique : Bool
  runtime : (call : RuntimeCall) → call.Answer
  beyond : (call : Beyond) → call.Answer

/-- A substrate on which every call succeeds, and that lists nothing. -/
def RuntimeCall.succeed : (call : RuntimeCall) → call.Answer
  | pause _ | createSnapshot _ _ => .ok ⟨"snapshot", .memoryAndDisk⟩
  | fork .. => .ok ⟨.cow, false⟩
  | stopStatus _ => .ok none
  | listSandboxes => .ok []
  | create .. | start .. | stop .. | resume .. | deleteSnapshot _ | destroy _
  | restoreFromObjects .. | removeOrphan _ => .ok ()

def Beyond.succeed : (call : Beyond) → call.Answer
  | newGuestToken => .ok "token"
  | preSnapshotHook _ | restoreDuties _ _ => []
  | getCapsule _ => .ok none
  | loadCapsuleObjects _ => .ok ()
  | connectGuest _ => .ok ()
  | health _ => .ok ⟨true, none, none⟩

/-- The id a node generates in a sample run, by its number. -/
def ulidOf (stamp : Nat) : String := .ofList ('0' :: (Nat.toDigits 10 stamp).rightpad 25 'X')

/-- Nothing fails: `stamp` is the version a put is given and tells the next id. -/
def Choice.calm (nowMs : Int) (stamp : Nat) : Choice where
  delivery := .answered ⟨some (toString stamp), none⟩
  nowMs := nowMs
  journalError := none
  ulid := ulidOf stamp
  arcUnique := true
  runtime := RuntimeCall.succeed
  beyond := Beyond.succeed

namespace Auxiliary

def none : Auxiliary := ⟨fun _ => .none, fun _ => .none, fun _ => .none, fun _ => .none⟩

def putInCharge (aux : Auxiliary) (opId : String) (charge : Charge) : Auxiliary :=
  { aux with charge := Function.update aux.charge opId (some charge) }

def record (aux : Auxiliary) (opId : String) (state : InstanceState) : Auxiliary :=
  { aux with recorded := Function.update aux.recorded opId (some state) }

def read (aux : Auxiliary) (index : Nat) (id : String) (running : Bool) : Auxiliary :=
  { aux with reading := Function.update aux.reading index (some (id, running)) }

def doneReading (aux : Auxiliary) (index : Nat) : Auxiliary :=
  { aux with reading := Function.update aux.reading index .none }

def forget (aux : Auxiliary) (name : String) : Auxiliary :=
  { aux with acked := Function.update aux.acked name .none }

def acknowledge (aux : Auxiliary) (name : String) (held : Held) : Auxiliary :=
  { aux with acked := Function.update aux.acked name (some held) }

/-- After a request: a put ends the task's reading, and this node's own is acknowledged by a
version. -/
def request (aux : Auxiliary) (index : Nat) (origin : Origin) :
    (act : StoreAct String Lease UpdateVersion) →
      (StoreSig String Lease UpdateVersion).Ans act → Auxiliary
  | .get _, _ => aux
  | .put name body _, .ok version =>
    if origin = .peer then aux
    else (aux.doneReading index).acknowledge name ⟨body, version⟩
  | .put _ _ _, .error _ => if origin = .peer then aux else aux.doneReading index

/-- After a query: a journaled submission is its submitter's to hand over. -/
def query (aux : Auxiliary) (index : Nat) : (query : Query) → query.Answer → Auxiliary
  | .submitAtomically args, .journaled recorded =>
    (aux.putInCharge args.opId (.submitter index)).record args.opId recorded
  | _, _ => aux

end Auxiliary

namespace World

def request (etags : LeaseVersioning) (index : Nat) (origin : Origin)
    (act : StoreAct String Lease UpdateVersion) (choice : Choice) (world : World) :
    Option ((StoreSig String Lease UpdateVersion).Ans act × World) :=
  (world.bucket.exec etags act choice.delivery).map fun result =>
    (result.1, { world with
      bucket := result.2
      aux := world.aux.request index origin act result.1 })

def query (index : Nat) (query : Query) (choice : Choice) (world : World) :
    Except String query.Answer × World :=
  match choice.journalError with
  | some cause => (.error cause, world)
  | none =>
    match query.run choice.nowMs world.journal with
    | .ok (answer, journal) =>
      (.ok answer, { world with journal := journal, aux := world.aux.query index query answer })
    | .error cause => (.error cause, world)

def runState (index : Nat) (id : String) (choice : Choice) (world : World) :
    Except String (Option InstanceRow) × World :=
  match choice.journalError with
  | some cause => (.error cause, world)
  | none =>
    (.ok (world.journal.getInstance id),
      { world with aux := world.aux.read index id (world.journal.running id) })

def listDesired (choice : Choice) (world : World) : Except FleetError (List String) :=
  match choice.delivery with
  | .answered _ => .ok (world.desired.map DesiredObject.location)
  | _ => .error (.backend .unavailable)

def getDesired (location : String) (choice : Choice) (world : World) :
    Except FleetError (Option Desired) :=
  match choice.delivery with
  | .answered _ =>
    match world.desired.find? fun object => object.location == location with
    | some object => .ok object.record
    | none => .error (.backend .notFound)
  | _ => .error (.backend .unavailable)

def exec (etags : LeaseVersioning) (index : Nat) :
    (act : NodeAct) → Choice → World → Option (NodeSig.Ans act × World)
  | .bucket origin act, choice, world => world.request etags index origin act choice
  | .journal query, choice, world => some (world.query index query choice)
  | .runState id, choice, world => some (world.runState index id choice)
  -- A lock is granted only while it is free.
  | .takeWrites, _, world =>
    if world.writing = none then some ((), { world with writing := some index }) else none
  | .dropWrites, _, world =>
    some ((), { world with writing := none, aux := world.aux.doneReading index })
  | .held, _, world => some (world.held, world)
  | .hold name held, _, world => some ((), { world with held := world.held.insert name held })
  | .forget name, _, world =>
    some ((), { world with held := world.held.erase name, aux := world.aux.forget name })
  | .now, choice, world => some (choice.nowMs, world)
  | .ulid, choice, world => some (choice.ulid, world)
  | .listDesired, choice, world => some (world.listDesired choice, world)
  | .getDesired location, choice, world => some (world.getDesired location choice, world)
  | .outageAfterRenewals reachedBucket ttl, choice, world =>
    let result := Node.outageAfterRenewals world.outage reachedBucket choice.nowMs ttl
    some (result.2, { world with outage := result.1 })
  | .holdsReported, _, world => some (world.holdsReported, world)
  | .reportHold name, _, world =>
    some ((), { world with holdsReported := world.holdsReported.insert name })
  | .vanishedCounts, _, world => some (world.vanishedCounts, world)
  | .setVanishedCounts counts, _, world => some ((), { world with vanishedCounts := counts })
  | .runtime call, choice, world => some (choice.runtime call, world)
  | .beyond call, choice, world => some (choice.beyond call, world)
  | .spawn executor, _, world =>
    some ((), { world with
      spawned := world.spawned ++ [executor]
      aux := world.aux.putInCharge executor.op.opId .queue })
  | .fleet, _, world => some (world.stage == .joined, world)
  -- The fleet is set through `Arc::get_mut`, which fails while anything else holds the agent.
  | .join, choice, world =>
    some ((), { world with stage := if choice.arcUnique then .joined else .alone })
  -- Ticks are strictly serial, and the first follows the boot.
  | .beginTick, _, world =>
    if world.ticking = none then some ((), { world with ticking := some index }) else none
  | .endTick, _, world => some ((), { world with ticking := none })

end World

/-- The node as a machine over a store that issues the given versions. -/
def nodeMachine (etags : LeaseVersioning) :
    Machine NodeSig World Choice where
  exec := World.exec etags

section Steps

variable {etags : LeaseVersioning} {index : Nat} {choice : Choice}
  {before after : World}

/-- Everything a call on the journal can do: fail and write nothing, or be the transaction. -/
theorem query_cases {query : Query} {answer : Except String query.Answer}
    (executed : (nodeMachine etags).exec index (.journal query) choice before = some
      (answer, after)) :
    (∃ cause, answer = .error cause ∧ after = before) ∨ ∃ result journal, answer = .ok result ∧
        query.run choice.nowMs before.journal = .ok (result, journal) ∧
        after = { before with journal := journal, aux := before.aux.query index query result } := by
  simp only [nodeMachine, World.exec, World.query] at executed
  split at executed
  · cases executed
    exact .inl ⟨_, rfl, rfl⟩
  · split at executed
    · next result journal ran =>
        cases executed
        exact .inr ⟨result, journal, rfl, ran, rfl⟩
    · cases executed
      exact .inl ⟨_, rfl, rfl⟩

variable {act : NodeAct} {answer : NodeSig.Ans act}

variable (executed : (nodeMachine etags).exec index act choice before = some (answer, after))

include executed

/-- What an action that is neither a call on the journal nor a hand-over leaves alone. -/
theorem exec_frame (notQuery : ∀ query, act ≠ .journal query)
    (notSpawn : ∀ executor, act ≠ .spawn executor) :
    after.journal = before.journal ∧ after.spawned = before.spawned ∧
      after.aux.charge = before.aux.charge ∧ after.aux.recorded = before.aux.recorded := by
  cases act with
  | journal query => exact absurd rfl (notQuery query)
  | spawn executor => exact absurd rfl (notSpawn executor)
  | bucket origin request =>
    obtain ⟨result, -, same⟩ := Option.map_eq_some_iff.mp executed
    cases same
    refine ⟨rfl, rfl, ?_⟩
    cases request with
    | get name => exact ⟨rfl, rfl⟩
    | put name body mode =>
      obtain ⟨told, objects⟩ := result
      cases told <;>
      · simp only [Auxiliary.request]
        split <;> exact ⟨rfl, rfl⟩
  | runState id =>
    simp only [nodeMachine, World.exec, World.runState] at executed
    split at executed <;> cases executed <;> exact ⟨rfl, rfl, rfl, rfl⟩
  | takeWrites | beginTick =>
    simp only [nodeMachine, World.exec] at executed
    split at executed
    · cases executed
      exact ⟨rfl, rfl, rfl, rfl⟩
    · cases executed
  | _ =>
    cases executed
    exact ⟨rfl, rfl, rfl, rfl⟩

theorem exec_journal (other : ∀ query, act ≠ .journal query) : after.journal = before.journal := by
  by_cases isSpawn : ∃ executor, act = .spawn executor
  · obtain ⟨executor, rfl⟩ := isSpawn
    cases executed
    rfl
  · exact (exec_frame executed other fun executor same => isSpawn ⟨executor, same⟩).1

/-- Only joining the fleet moves the stage, and only ticks and boots hold the tick. -/
theorem exec_phase :
    (after.stage = before.stage ∨ (act = .join ∧ after.stage ≠ .down)) ∧
      (after.ticking = before.ticking ∨ act = .beginTick ∨ act = .endTick) := by
  cases act with
  | journal query =>
    rcases query_cases executed with ⟨_, -, rfl⟩ | ⟨_, _, -, -, rfl⟩ <;> exact ⟨.inl rfl, .inl rfl⟩
  | bucket origin request =>
    obtain ⟨result, -, same⟩ := Option.map_eq_some_iff.mp executed
    cases same
    exact ⟨.inl rfl, .inl rfl⟩
  | runState id =>
    simp only [nodeMachine, World.exec, World.runState] at executed
    split at executed <;> cases executed <;> exact ⟨.inl rfl, .inl rfl⟩
  | takeWrites =>
    simp only [nodeMachine, World.exec] at executed
    split at executed <;> cases executed
    exact ⟨.inl rfl, .inl rfl⟩
  | beginTick =>
    simp only [nodeMachine, World.exec] at executed
    split at executed <;> cases executed
    exact ⟨.inl rfl, .inr (.inl rfl)⟩
  | endTick =>
    cases executed
    exact ⟨.inl rfl, .inr (.inr rfl)⟩
  | join =>
    cases executed
    refine ⟨.inr ⟨rfl, ?_⟩, .inl rfl⟩
    dsimp only
    split <;> exact nofun
  | _ =>
    cases executed
    exact ⟨.inl rfl, .inl rfl⟩

theorem exec_recorded
    (other : ∀ args, act ≠ .journal (.submitAtomically args)) :
    after.aux.recorded = before.aux.recorded := by
  cases act with
  | journal query =>
    rcases query_cases executed with ⟨_, -, rfl⟩ | ⟨_, _, -, -, rfl⟩
    · rfl
    · cases query with
      | submitAtomically args => exact absurd rfl (other args)
      | _ => rfl
  | spawn executor =>
    cases executed
    rfl
  | _ => exact (exec_frame executed (fun _ => nofun) fun _ => nofun).2.2.2

/-- Only a journaled submission and a hand-over put someone in charge of an operation. -/
theorem exec_charge {opId : String}
    (charged : after.aux.charge opId ≠ none) : before.aux.charge opId ≠ none ∨
      (∃ args, act = .journal (.submitAtomically args) ∧ choice.journalError = none ∧
        opId = args.opId) ∨
      ∃ executor, act = .spawn executor ∧ opId = executor.op.opId := by
  cases act with
  | journal query =>
    cases reachable : choice.journalError with
    | some cause =>
      simp only [nodeMachine, World.exec, World.query, reachable] at executed
      cases executed
      exact .inl charged
    | none =>
      rcases query_cases executed with ⟨_, -, rfl⟩ | ⟨answer, _, -, -, rfl⟩
      · exact .inl charged
      · cases query with
        | submitAtomically args =>
          by_cases own : opId = args.opId
          · exact .inr (.inl ⟨args, rfl, rfl, own⟩)
          · left
            cases answer with
            | journaled recorded =>
              simpa [Auxiliary.query, Auxiliary.record, Auxiliary.putInCharge,
                Function.update_of_ne own] using charged
            | _ => exact charged
        | _ => exact .inl charged
  | spawn executor =>
    cases executed
    by_cases own : opId = executor.op.opId
    · exact .inr (.inr ⟨executor, rfl, own⟩)
    · left
      simpa [Auxiliary.putInCharge, Function.update_of_ne own] using charged
  | _ =>
    have same := (exec_frame executed (fun _ => nofun) fun _ => nofun).2.2.1
    exact .inl (same ▸ charged)

theorem exec_spawned {executor : Executor}
    (member : executor ∈ after.spawned) : executor ∈ before.spawned ∨ act = .spawn executor := by
  cases act with
  | spawn handed =>
    cases executed
    rcases List.mem_append.mp member with old | new
    · exact .inl old
    · exact .inr (by rw [List.mem_singleton.mp new])
  | journal query =>
    rcases query_cases executed with ⟨_, -, rfl⟩ | ⟨_, _, -, -, rfl⟩ <;> exact .inl member
  | _ =>
    have same := (exec_frame executed (fun _ => nofun) fun _ => nofun).2.1
    exact .inl (same ▸ member)

end Steps

/-! ### Programs of the node -/

abbrev NodeProg (α : Type) := Prog NodeSig α

abbrev perform (act : NodeAct) : NodeProg (NodeSig.Ans act) := Prog.perform (S := NodeSig) act

/-- Bodies stay the records they encode: no program of the node looks at bytes. -/
abbrev leaseCodec : Codec Lease Lease := Codec.structural Lease

/-- A lease operation of the node, as requests of the given origin. -/
def onBucket {α : Type} (origin : Origin) (program : LeaseProg Lease α) : NodeProg α :=
  program.hoist fun request => perform (.bucket origin request)

abbrev query (query : Query) : NodeProg (Except String query.Answer) :=
  perform (.journal query)

abbrev readHeld : NodeProg (Std.TreeMap String Held) := perform .held

abbrev hold (name : String) (held : Held) : NodeProg Unit :=
  perform (.hold name held)

abbrev forget (name : String) : NodeProg Unit := perform (.forget name)

abbrev clock : NodeProg Int := perform .now

abbrev freshUlid : NodeProg String := perform .ulid

abbrev inFleet : NodeProg Bool := perform .fleet

abbrev spawn (executor : Executor) : NodeProg Unit := perform (.spawn executor)

abbrev runtime (call : RuntimeCall) : NodeProg call.Answer :=
  perform (.runtime call)

abbrev beyond (call : Beyond) : NodeProg call.Answer := perform (.beyond call)

def discard {α : Type} (program : NodeProg α) : NodeProg Unit := program.bind fun _ => .pure ()

def whenever (condition : Prop) [Decidable condition] (program : NodeProg Unit) : NodeProg Unit :=
  if condition then program else .pure ()

def locked {α : Type} (body : NodeProg α) : NodeProg α :=
  .step (S := NodeSig) .takeWrites fun _ =>
    body.bind fun value => .step (S := NodeSig) .dropWrites fun _ => .pure value

/-! ### Events -/

namespace Events

/-- Emit an event; one the journal refuses is only logged. -/
def record (event : EventRow) : NodeProg Unit :=
  .step (S := NodeSig) (.journal (.insertEvent event)) fun _ => .pure ()

def recordAll : List EventRow → NodeProg Unit
  | [] => return ()
  | event :: rest => do
      record event
      recordAll rest

def event (type : EventType) (instanceId opId message : String) : EventRow :=
  ⟨type, instanceId, opId, .unspecified, message, 0, none⟩

def stateChanged (instanceId opId : String) (state : InstanceState)
    (stopReason : Option StopReason) : NodeProg Unit :=
  record { event .stateChanged instanceId opId "" with state := state, stopReason := stopReason }

def readyChanged (instanceId : String) (ready : Bool) : NodeProg Unit :=
  record (event .readyChanged instanceId "" (if ready then "ready" else "not ready"))

def degradation (instanceId opId message : String) : NodeProg Unit :=
  record (event .degradation instanceId opId message)

def lineageRecorded (instanceId opId message : String) : NodeProg Unit :=
  record (event .lineageRecorded instanceId opId message)

def epochRotated (instanceId opId message : String) : NodeProg Unit :=
  record (event .epochRotated instanceId opId message)

def wakeFired (instanceId opId message : String) : EventRow :=
  event .wakeFired instanceId opId message

def idleFired (instanceId opId message : String) : EventRow :=
  event .idleFired instanceId opId message

def fenced (instanceId message : String) : NodeProg Unit :=
  record (event .fenced instanceId "" message)

def opProgress (instanceId opId message : String) : NodeProg Unit :=
  record (event .operationProgress instanceId opId message)

end Events

end Barista.Node
