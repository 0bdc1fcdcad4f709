import Barista.Node.Coverage
import Barista.Node.Traces

/-!
Contract: every submission a task of the node makes came through one of its entrances.

Owns: what the sections that keep the leases do, and what is known of the arguments of every
submission in every run.
-/

namespace Barista.Node

open Foundation Fleet
open Prog (Emits)

/-! ### Keeping leases -/

def NodeAct.isKeeping : NodeAct → Bool
  | .bucket .. | .runState _ | .takeWrites | .dropWrites | .held | .hold .. | .forget _ | .now
  | .fleet => true
  | .journal query => query.isLeaseRow
  | _ => false

/-- The same, or an event recorded. -/
def NodeAct.isCustodial : NodeAct → Bool
  | .journal (.insertEvent _) => true
  | act => act.isKeeping

def Keeping {α : Type} (program : NodeProg α) : Prop :=
  program.Emits fun act : NodeAct => act.isKeeping = true

def Custodial {α : Type} (program : NodeProg α) : Prop :=
  program.Emits fun act : NodeAct => act.isCustodial = true

namespace Keeping

variable {agent : Agent} {α β : Type}

theorem pure {value : α} : Keeping (.pure value : NodeProg α) := trivial

theorem seq {program : NodeProg α} {rest : α → NodeProg β} (first : Keeping program)
    (second : ∀ value, Keeping (rest value)) : Keeping (program.bind rest) :=
  Emits.bind first second

theorem act {act : NodeAct} (keeping : act.isKeeping = true) : Keeping (perform act) :=
  ⟨keeping, fun _ => trivial⟩

theorem onBucket (origin : Origin) (program : LeaseProg Lease α) :
    Keeping (onBucket origin program) := by
  induction program with
  | pure value => exact .pure
  | step request next ih => exact .seq (act rfl) ih

theorem locked {body : NodeProg α} (keeping : Keeping body) : Keeping (locked body) :=
  ⟨rfl, fun _ => seq keeping fun _ => seq (act rfl) fun _ => pure⟩

theorem leaseStateFor (id : String) : Keeping (leaseStateFor id) := by
  unfold Node.leaseStateFor
  split
  · exact .pure
  · exact ⟨rfl, fun _ => trivial⟩

theorem stamp (instanceId : String) : Keeping (stampLeaseState instanceId) := by
  refine .seq (act rfl) fun joined => ?_
  split
  · exact .pure
  refine .seq (leaseStateFor _) fun state => ?_
  split
  · exact .pure
  refine locked (.seq (act rfl) fun held => ?_)
  split
  · exact .pure
  · split
    · exact .pure
    · refine .seq (onBucket ..) fun answer => ?_
      split
      · exact act rfl
      · exact .pure

theorem renew (name : String) (acc : Renewals) : Keeping (renewOne agent name acc) := by
  refine locked (.seq (act rfl) fun held => ?_)
  split
  · exact .pure
  · refine .seq (leaseStateFor _) fun state => .seq (act rfl) fun nowMs =>
      .seq (onBucket ..) fun answer => ?_
    split
    · exact .seq (act rfl) fun _ => .pure
    · exact .seq (act rfl) fun _ => .pure
    · exact .pure

theorem reacquire (name : String) : Keeping (reacquireOne agent name) := by
  refine locked (.seq (act rfl) fun nowMs => .seq (onBucket ..) fun answer => ?_)
  split
  · exact .seq (act rfl) fun _ => .pure
  · exact .pure

theorem custody (name : String) (report : PassReport) : Keeping (custodyOf agent name report) := by
  refine .seq (act rfl) fun held => ?_
  split
  · exact .pure
  · refine locked (.seq (act rfl) fun nowMs => .seq (onBucket ..) fun answer => ?_)
    split
    · refine .seq (act rfl) fun journaled => ?_
      split
      · exact .seq (onBucket ..) fun _ => .pure
      · exact .seq (act rfl) fun _ => .pure
    · exact .pure
    · exact .pure

theorem release (name : String) (held : Held) (report : PassReport) :
    Keeping (releaseHeld name held report) := by
  refine locked (.seq (onBucket ..) fun answer => ?_)
  split
  · exact .seq (act rfl) fun _ => .seq (act rfl) fun _ => .pure
  · exact .pure

theorem custodial {program : NodeProg α} (keeping : Keeping program) : Custodial program := by
  refine Emits.mono (fun act isKeeping => ?_) keeping
  cases act with
  | journal query => cases query <;> first | exact isKeeping | rfl
  | _ => exact isKeeping

end Keeping

namespace Custodial

variable {agent : Agent} {α β : Type}

theorem pure {value : α} : Custodial (.pure value : NodeProg α) := trivial

theorem seq {program : NodeProg α} {rest : α → NodeProg β} (first : Custodial program)
    (second : ∀ value, Custodial (rest value)) : Custodial (program.bind rest) :=
  Emits.bind first second

theorem act {act : NodeAct} (custodial : act.isCustodial = true) :
    Custodial (perform act) :=
  ⟨custodial, fun _ => trivial⟩

theorem record (event : EventRow) : Custodial (Events.record event) :=
  .seq (act rfl) fun _ => .pure

theorem whenever {condition : Prop} [Decidable condition] {program : NodeProg Unit}
    (custodial : Custodial program) : Custodial (whenever condition program) := by
  unfold Node.whenever
  split
  · exact custodial
  · exact .pure

theorem announceFinish (op : OperationRow) (settled : InstanceState)
    (stopReason : Option StopReason) (epoch : Option Nat) (succeeded : Bool)
    (finalized : Finalized) :
    Custodial (announceFinish op settled stopReason epoch succeeded finalized) := by
  refine .seq (whenever (record _)) fun _ => .seq (record _) fun _ =>
    .seq (Keeping.stamp _).custodial fun _ => ?_
  split
  · exact whenever (record _)
  · exact .pure

end Custodial

/-! ### What executors do -/

theorem rotateEpoch_rotates (kind : OpKind) (id : String) :
    (rotateEpoch kind id).Emits fun act : NodeAct =>
      act = .journal .issueExecutionEpoch ∨ ∃ epoch, act = .journal
        (.setInstanceEpoch id epoch) := by
  unfold rotateEpoch
  split
  · refine ⟨.inl rfl, fun issued => ?_⟩
    dsimp only [Prog.pure_bind]
    split
    · trivial
    · refine ⟨.inr ⟨_, rfl⟩, fun bound => ?_⟩
      dsimp only [Prog.pure_bind]
      split <;> trivial
  · trivial

/-- An executor rotates the epoch, finalizes, and for the rest acts loosely and keeps leases. -/
theorem emits_execute {agent : Agent} {P : NodeAct → Prop} (executor : Executor)
    (loose : ∀ act : NodeAct, act.isLoose = true → P act)
    (custodial : ∀ act : NodeAct, act.isCustodial = true → P act)
    (issues : P (.journal .issueExecutionEpoch))
    (binds : ∀ id epoch, P (.journal (.setInstanceEpoch id epoch)))
    (finishes : ∀ args, P (.journal (.finishOperation args))) :
    (execute agent executor).Emits P := by
  have loosely {α : Type} {program : NodeProg α} (isLoose : Loose program) : program.Emits P :=
    Emits.mono loose isLoose
  have finished {args : FinishArgs} {next : Except String Finalized → NodeProg Unit}
      (rest : ∀ answer, (next answer).Emits P) :
      ((query (.finishOperation args)).bind next).Emits P :=
    Emits.bind ⟨finishes args, fun _ => trivial⟩ rest
  refine Emits.bind ((rotateEpoch_rotates ..).mono ?_) fun rotated =>
    Emits.bind (Emits.mono custodial (Keeping.stamp _).custodial) fun _ => ?_
  · rintro act (rfl | ⟨epoch, rfl⟩)
    · exact issues
    · exact binds _ epoch
  split
  · refine Emits.bind (loosely (Loose.step ..)) fun _ => finished fun answer => ?_
    split
    · exact Emits.mono custodial (Custodial.announceFinish ..)
    · trivial
  · refine Emits.bind (loosely (Loose.runPayload ..)) fun work =>
      Emits.bind (loosely (Loose.step ..)) fun _ =>
      Emits.bind (loosely (Consults.deadlineFor ..).aside.loose) fun _ =>
      Emits.bind (loosely (Consults.stopReasonFor ..).aside.loose) fun _ =>
      Emits.bind (loosely (Loose.compensate ..)) fun _ => finished fun answer => ?_
    split
    · exact Emits.mono custodial (Custodial.announceFinish ..)
    · exact loosely (Loose.record _)

/-! ### What sections do -/

/-- A submission reads and announces, makes one transaction under a key, and hands the operation
over. -/
theorem emits_submitClaiming {agent : Agent} {P : NodeAct → Prop} {kind : OpKind}
    {instanceId key : String} {payload : OpPayload} {claim : Option Claim}
    {announce : String → List EventRow} (consult : ∀ act : NodeAct, act.isConsult = true → P act)
    (record : ∀ event, (∃ opId, event ∈ announce opId) ∨ event.type = .stateChanged →
      P (.journal (.insertEvent event)))
    (spawn : ∀ executor, P (.spawn executor))
    (submit : key ≠ "" → ∀ opId guestToken createdAtMs, P (.journal (.submitAtomically
      (submitArgs agent kind instanceId key payload claim opId guestToken createdAtMs)))) :
    (submitClaiming agent kind instanceId key payload claim announce).Emits P := by
  unfold submitClaiming
  split
  · trivial
  next keyed =>
  refine Emits.bind (Emits.mono consult (Consults.guestTokenFor payload)) fun token => ?_
  split
  · trivial
  next guestToken =>
  refine ⟨consult _ rfl, fun opId => ⟨consult _ rfl, fun createdAtMs => ?_⟩⟩
  dsimp only [Prog.pure_bind]
  refine Emits.bind (Emits.mono consult (Consults.preflight ..)) fun refusal => ?_
  split
  · trivial
  refine ⟨submit keyed opId guestToken createdAtMs, fun submission => ?_⟩
  dsimp only [Prog.pure_bind]
  split
  · trivial
  · exact Emits.mono consult (Consults.checkReplay ..)
  · trivial
  · trivial
  · trivial
  · have recordAll (events : List EventRow)
        (announced : ∀ event ∈ events, ∃ opId, event ∈ announce opId) :
        (Events.recordAll events).Emits P := by
      induction events with
      | nil => trivial
      | cons event rest ih =>
        obtain ⟨now, later⟩ := List.forall_mem_cons.mp announced
        exact ⟨record event (.inl now), fun _ => ih later⟩
    refine Emits.bind (recordAll _ fun event member => ⟨_, member⟩) fun _ => Emits.bind ?_ fun _ =>
      ⟨spawn _, fun _ => trivial⟩
    unfold whenever
    split
    · exact ⟨record _ (.inr rfl), fun _ => trivial⟩
    · trivial

/-- A class of actions that holds whatever the sections of the node do. -/
structure Covers (agent : Agent) (permit : Permit) (known : Known) (P : NodeAct → Prop) : Prop where
  aside : ∀ act : NodeAct, act.isLoose = true ∧ act.isWork = false → P act
  custodial : ∀ act : NodeAct, act.isCustodial = true → P act
  spawn : ∀ executor, P (.spawn executor)
  submit : ∀ {instanceId key : String} {payload : OpPayload} {claim : Option Claim},
    Entered agent known instanceId key payload claim → ∀ opId guestToken createdAtMs,
    P (.journal (.submitAtomically
      (submitArgs agent payload.kind instanceId key payload claim opId guestToken createdAtMs)))
  fail : permit.fails = true → ∀ id, P (.journal (.setInstanceState id .failed))

namespace Covers

variable {agent : Agent} {permit : Permit} {known : Known} {P : NodeAct → Prop} {α : Type}

variable {program : NodeProg α}

variable (covers : Covers agent permit known P)

include covers

theorem emits_aside (aside : Aside program) : program.Emits P :=
  Emits.mono covers.aside aside

theorem emits_custodial (custodial : Custodial program) :
    program.Emits P :=
  Emits.mono covers.custodial custodial

theorem emits_submit {instanceId key : String}
    {payload : OpPayload} {claim : Option Claim}
    (entered : Entered agent known instanceId key payload claim)
    (announce : String → List EventRow) :
    (submitClaiming agent payload.kind instanceId key payload claim announce).Emits P :=
  emits_submitClaiming (fun act isConsult => covers.aside act (Consults.act isConsult).aside.1)
    (fun _ _ => covers.aside _ ⟨rfl, rfl⟩) covers.spawn fun _ => covers.submit entered

theorem emits_selfFence (name instanceId : String) :
    (selfFence agent name instanceId).Emits P := by
  refine Emits.bind (covers.emits_aside (Aside.record _)) fun _ => ?_
  split
  · exact covers.emits_aside (Aside.record _)
  · have stop : Entered agent known instanceId (fenceKey name instanceId) (.stop 5) none :=
      .verb rfl nofun
    refine Emits.bind (Emits.bind (covers.emits_submit stop _) fun outcome => ?_) fun _ => trivial
    split <;> trivial

theorem emits_name (name : String) (held : Held)
    (instanceId recordId : String) (realising : Realising) (report : PassReport) :
    (nameInstance agent name held instanceId recordId realising report).Emits P := by
  have custodial {act : NodeAct} (isCustodial : act.isCustodial = true) :
      (perform act).Emits P :=
    covers.emits_custodial (Custodial.act isCustodial)
  refine ⟨covers.custodial _ rfl, fun _ => Emits.bind ?_ fun _ =>
    Emits.bind (custodial rfl) fun _ => trivial⟩
  refine Emits.bind (covers.emits_custodial (Keeping.onBucket ..).custodial) fun answer => ?_
  split
  · refine Emits.bind (custodial rfl) fun _ => Emits.bind (custodial rfl) fun _ => ?_
    split
    · exact Emits.bind (covers.emits_aside (Aside.record _)) fun _ => trivial
    · trivial
  · exact Emits.bind (custodial rfl) fun _ => Emits.bind (covers.emits_selfFence ..)
      fun _ => trivial
  · trivial

/-- **Whatever a section does is of the class.** -/
theorem emits_section {piece : NodeProg α} {R : α → Prop}
    (isSection : Section agent permit known piece R) : piece.Emits P := by
  cases isSection with
  | act act allowed aside =>
    have isLoose : act.isLoose = true := by
      simp only [Permit.allows, Bool.and_eq_true] at allowed
      exact allowed.1
    exact covers.emits_aside (Aside.act isLoose aside)
  | surrender request surrenders =>
    cases request with
    | markLeaseFencing name => exact covers.emits_custodial (Custodial.act rfl)
    | releaseLease name => exact covers.emits_custodial (Custodial.act rfl)
    | _ => cases surrenders
  | fail id fails => exact ⟨covers.fail fails id, fun _ => trivial⟩
  | held => exact covers.emits_custodial (Custodial.act rfl)
  | row _ id => exact covers.emits_aside (Aside.act rfl rfl)
  | submit _ instanceId key payload claim entered announce =>
    exact covers.emits_submit entered announce
  | stamp instanceId => exact covers.emits_custodial (Keeping.stamp _).custodial
  | renew _ name acc => exact covers.emits_custodial (Keeping.renew ..).custodial
  | reacquire _ name => exact covers.emits_custodial (Keeping.reacquire _).custodial
  | custody _ name report => exact covers.emits_custodial (Keeping.custody ..).custodial
  | name _ name held owned => exact covers.emits_name ..
  | release _ name held => exact covers.emits_custodial (Keeping.release ..).custodial

omit covers in
theorem promised {piece : NodeProg α} {R : α → Prop}
    (isSection : Section agent permit known piece R) (leases : ∀ name held, known.lease name held)
    (rows : permit = .caller → ∀ id row, known.row id row) (value : α) : R value := by
  cases isSection with
  | row calls id => exact fun row _ => rows calls id row
  | _ => simp [leases]

theorem emits_sectioned (leases : ∀ name held, known.lease name held)
    (rows : permit = .caller → ∀ id row, known.row id row)
    (sectioned : Sectioned agent permit known program) : program.Emits P :=
  sectioned.emits (fun isSection => promised isSection leases rows) fun isSection =>
    covers.emits_section isSection

theorem emits_settleInstance (id : String)
    {state : InstanceState} (settles : P (.journal (.setInstanceState id state))) :
    (resolveInstance.settleInstance id state).Emits P := by
  have aside {act : NodeAct} (loose : act.isLoose = true) (idle : act.isWork = false) :
      (perform act).Emits P :=
    covers.emits_aside (Aside.act loose idle)
  refine Emits.bind (Emits.bind ⟨settles, fun _ => trivial⟩ fun written => ?_) fun settled => ?_
  · split
    · trivial
    · split
      · exact aside rfl rfl
      · split
        · exact aside rfl rfl
        · trivial
  · split
    · trivial
    · exact Emits.bind (covers.emits_aside (Aside.record _)) fun _ => trivial

/-- What recovery does about one instance: it stops the sandbox of one that was stopping, leaves that
of one that was checkpointing, and removes any other. -/
theorem emits_resolveInstance (row : InstanceRow)
    (stops : row.state = .stopping → P (.runtime (.stop row.instanceId 0)))
    (removes : row.state ≠ .stopping → row.state ≠ .checkpointing →
      P (.runtime (.removeOrphan row.instanceId)))
    (settles : ∀ id, ∀ state ∈ [InstanceState.stopped, .running, .destroyed, .failed],
      P (.journal (.setInstanceState id state))) : (resolveInstance row).Emits P := by
  have act {act : NodeAct} (holds : P act) : (perform act).Emits P :=
    ⟨holds, fun _ => trivial⟩
  have settled (id : String) {state : InstanceState}
      (rests : state ∈ [InstanceState.stopped, .running, .destroyed, .failed]) :
      (resolveInstance.settleInstance id state).Emits P :=
    covers.emits_settleInstance id (settles id state rests)
  unfold resolveInstance
  dsimp only
  split
  · next stopping =>
      refine Emits.bind (act (stops stopping)) fun stopped => ?_
      split
      · exact settled _ (by decide)
      · exact Emits.bind (covers.emits_aside (Aside.record _)) fun _ => settled _ (by decide)
  · refine Emits.bind (settled _ (by decide)) fun outcome => ?_
    split
    · trivial
    · exact Emits.bind (covers.emits_aside (Aside.record _)) fun _ => trivial
  · next destroying =>
      exact Emits.bind (act (removes (by simp [destroying]) (by simp [destroying]))) fun _ =>
        settled _ (by decide)
  · next unstopped unchecked _ =>
      exact Emits.bind (act (removes unstopped unchecked)) fun _ => settled _ (by decide)

omit covers in
theorem emits_resolveInstances {rows : List InstanceRow}
    (resolved : ∀ row ∈ rows, (resolveInstance row).Emits P) : (resolveInstances rows).Emits P := by
  induction rows with
  | nil => trivial
  | cons row rest ih =>
    obtain ⟨first, others⟩ := List.forall_mem_cons.mp resolved
    refine Emits.bind first fun outcome => ?_
    split
    · trivial
    · exact ih others

theorem emits_recoverOps
    (stops : ∀ id, P (.runtime (.stop id 0))) (removes : ∀ id, P (.runtime (.removeOrphan id)))
    (settles : ∀ id, ∀ state ∈ [InstanceState.stopped, .running, .destroyed, .failed],
      P (.journal (.setInstanceState id state))) (failed : List OperationRow) :
    (recoverOps failed).Emits P := by
  refine Emits.bind (covers.emits_aside (Aside.announceFailed failed)) fun _ =>
    Emits.bind (covers.emits_aside (Aside.act rfl rfl)) fun listed => ?_
  split
  · trivial
  · exact emits_resolveInstances fun row _ => covers.emits_resolveInstance row
      (fun _ => stops _) (fun _ _ => removes _) settles

omit covers in
theorem emits_boot (covers : Covers agent .booter known P)
    (leases : ∀ name held, known.lease name held)
    (stops : ∀ id, P (.runtime (.stop id 0))) (removes : ∀ id, P (.runtime (.removeOrphan id)))
    (settles : ∀ id, ∀ state ∈ [InstanceState.stopped, .running, .destroyed, .failed],
      P (.journal (.setInstanceState id state))) (joins : P .join) (ends : P .endTick)
    (failed : List OperationRow) : (boot agent failed).Emits P := by
  refine Emits.bind (covers.emits_recoverOps stops removes settles failed) fun recovered => ?_
  split
  · trivial
  · exact Emits.bind (covers.emits_sectioned leases nofun Sectioned.recover) fun _ =>
      ⟨joins, fun _ => ⟨ends, fun _ => trivial⟩⟩

end Covers

/-! ### Submissions -/

def Answered (trace : NodeTrace) (id : String) (row : InstanceRow) : Prop :=
  ⟨.journal (.getInstance id), .ok (some row)⟩ ∈ trace

def Known.heard (role : Role) (trace : NodeTrace) : Known where
  lease _ _ := True
  row := Answered trace
  fork request := role = .caller (.call (.forkInstance request))

def Entrance (agent : Agent) (role : Role) (trace : NodeTrace) : NodeAct → Prop
  | .journal (.submitAtomically args) =>
    ∃ instanceId key payload claim opId guestToken createdAtMs,
      args = submitArgs agent payload.kind instanceId key payload claim opId guestToken
        createdAtMs ∧
      Entered agent (.heard role trace) instanceId key payload claim
  | _ => True

section Entrances

variable {agent : Agent} {role : Role} {trace : NodeTrace} {α : Type}

variable {program : NodeProg α}

theorem entrance_loose (loose : Loose program) : program.Emits (Entrance agent role trace) := by
  refine Emits.mono (fun act isLoose => ?_) loose
  cases act with
  | journal query => cases query <;> trivial
  | _ => trivial

theorem entrance_covers (permit : Permit) :
    Covers agent permit (.heard role trace) (Entrance agent role trace) where
  aside act isAside := (entrance_loose (Loose.act isAside.1)).1
  custodial act isCustodial := by
    cases act with
    | journal query => cases query <;> trivial
    | _ => trivial
  spawn _ := trivial
  submit entered opId guestToken createdAtMs :=
    ⟨_, _, _, _, opId, guestToken, createdAtMs, rfl, entered⟩
  fail _ _ := trivial

theorem entrance_custodial (custodial : Custodial program) :
    program.Emits (Entrance agent role trace) :=
  (entrance_covers .executor).emits_custodial custodial

variable {act : NodeAct}

theorem entrance_act (entrance : Entrance agent role trace act) :
    (perform act).Emits (Entrance agent role trace) :=
  ⟨entrance, fun _ => trivial⟩

theorem entrance_sectioned (permit : Permit) (notCaller : permit ≠ .caller)
    (sectioned : Sectioned agent permit (.heard role trace) program) :
    program.Emits (Entrance agent role trace) :=
  (entrance_covers permit).emits_sectioned (fun _ _ => trivial)
    (fun calls => absurd calls notCaller) sectioned

theorem entrance_execute (executor : Executor) :
    (execute agent executor).Emits (Entrance agent role trace) :=
  emits_execute executor (fun _ isLoose => (entrance_loose (Loose.act isLoose)).1)
    (entrance_covers .executor).custodial trivial (fun _ _ => trivial) fun _ => trivial

theorem entrance_boot (failed : List OperationRow) :
    (boot agent failed).Emits (Entrance agent role trace) :=
  (entrance_covers .booter).emits_boot (fun _ _ => trivial) (fun _ => trivial) (fun _ => trivial)
    (fun _ _ _ => trivial) trivial trivial failed

theorem entrance_tick : (tick agent).Emits (Entrance agent role trace) := by
  refine Emits.bind (entrance_act trivial) fun _ => ?_
  refine Emits.bind
    (entrance_sectioned .ticker (by decide) (Sectioned.reconcileVanished rfl rfl)) fun _ =>
    Emits.bind (entrance_act trivial) fun joined => ?_
  refine Emits.bind ?_ fun _ => ⟨trivial, fun _ => trivial⟩
  unfold whenever
  split
  · exact Emits.bind (entrance_sectioned .member (by decide) Sectioned.pass) fun _ => trivial
  · trivial

theorem entrance_peer (request : Request) :
    (Role.prog agent (.peer request)).Emits (Entrance agent role trace) :=
  Emits.bind (entrance_custodial (Keeping.onBucket ..).custodial) fun _ => trivial

theorem entrance_caller {next : NodeSig.Ans act → NodeProg α}
    (sectioned : Sectioned agent .caller (.heard role trace) program)
    (reached : Prog.After program trace (.step act next)) : Entrance agent role trace act := by
  have heeds := sectioned.heeds (A := (· ∈ trace)) (P := fun _ => Entrance agent role trace)
    (fun history isSection => ?_) []
  · exact (heeds.after reached fun _ => id).1
  have emits := (entrance_covers .caller).emits_section isSection
  cases isSection with
  | row calls id =>
    refine ⟨trivial, fun answer heard row read => ?_⟩
    subst read
    exact heard
  | _ =>
    refine (Prog.Heeds.of_emits emits fun _ _ _ => id).mono (fun _ _ => id) fun _ value _ => ?_
    simp [Known.heard]

/-- **Whatever a task submits came through an entrance.** -/
theorem role_entrance {next : NodeSig.Ans act → NodeProg Unit}
    (reached : Prog.After (role.prog agent) trace (.step act next)) :
    Entrance agent role trace act := by
  have emitted (emits : (role.prog agent).Emits (Entrance agent role trace)) :
      Entrance agent role trace act := (emits.after reached).2.1
  cases role with
  | boot failed => exact emitted (entrance_boot failed)
  | tick => exact emitted entrance_tick
  | caller invocation =>
    refine entrance_caller (sectioned_invocation invocation fun request asked => ?_) reached
    exact congrArg Role.caller asked
  | executor executor => exact emitted (entrance_execute executor)
  | peer request => exact emitted (entrance_peer request)

end Entrances

namespace System

theorem made_entered {agent : Agent} {etags : LeaseVersioning}
    {labels : List Label} {system : System} {label : Label} {args : SubmitArgs}
    (reached : reach agent etags labels = some system)
    (made : system.made label = some (.submitAtomically args)) :
    ∃ index task, system.tasks[index]? = some task ∧
      ∃ instanceId key payload claim opId guestToken createdAtMs,
        args = submitArgs agent payload.kind instanceId key payload claim opId
          guestToken createdAtMs ∧
        Entered agent (.heard task.role (traces agent etags labels index)) instanceId key
          payload claim := by
  obtain ⟨index, choice, role, continuation, -, -, found⟩ := made_located made
  exact ⟨index, _, found, role_entrance (next_residual reached found)⟩

end System

end Barista.Node
