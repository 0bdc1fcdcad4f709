import Barista.Node.Entrances

/-!
Contract: what a node knows of a lease record, it has read or written.

Histories of lease records only grow, so an exchange with the bucket proves something for
good: what was read, or written and acknowledged, is in the history. Every exchange of the
trace behind a task has happened. Whatever a lease a task has in hand came from, it is
therefore in the history under the name it is held.

Owns: what exchanges prove, and the grounds of every write this node makes to a lease record.
-/

namespace Barista.Node

open Foundation Fleet
open Prog (After Ran Heeds)

/-! ### Leases through one step -/

/-- Actions that write a lease record or the map of held leases. -/
def NodeAct.isLeaseWrite : NodeAct → Bool
  | .bucket _ (.put ..) | .hold .. | .forget _ => true
  | _ => false

section Steps

variable {agent : Agent} {etags : LeaseVersioning} {index : Nat}
  {choice : Choice} {act : NodeAct} {answer : NodeSig.Ans act} {before after : World}

/-- The leases of a node: their records, the map, and what was acknowledged. -/
structure SameLeases (before after : World) : Prop where
  bucket : after.bucket = before.bucket
  held : after.held = before.held
  acked : after.aux.acked = before.aux.acked

theorem SameLeases.refl (world : World) : SameLeases world world := ⟨rfl, rfl, rfl⟩

theorem exec_leases (executed : (nodeMachine etags).exec index act choice before = some
    (answer, after)) (other : act.isLeaseWrite = false) : SameLeases before after := by
  cases act with
  | bucket origin request =>
    cases request with
    | put name body mode => cases other
    | get name =>
      obtain ⟨⟨told, objects⟩, read, same⟩ := Option.map_eq_some_iff.mp executed
      cases same
      exact ⟨(Objects.exec_get_cases read).1, rfl, rfl⟩
  | hold | forget => cases other
  | journal query =>
    rcases query_cases executed with ⟨_, -, rfl⟩ | ⟨result, _, -, -, rfl⟩
    · exact .refl _
    · refine ⟨rfl, rfl, ?_⟩
      cases query with
      | submitAtomically args => cases result <;> rfl
      | _ => rfl
  | runState id =>
    simp only [nodeMachine, World.exec, World.runState] at executed
    split at executed <;> cases executed <;> exact ⟨rfl, rfl, rfl⟩
  | takeWrites | beginTick =>
    simp only [nodeMachine, World.exec] at executed
    split at executed
    · cases executed
      exact ⟨rfl, rfl, rfl⟩
    · cases executed
  | _ =>
    cases executed
    exact ⟨rfl, rfl, rfl⟩

def ackedAfter (acked : String → Option Held) (origin : Origin) (name : String) (body : Lease) :
    Except StoreError UpdateVersion → String → Option Held
  | .ok version =>
    if origin = .peer then acked else Function.update acked name (some ⟨body, version⟩)
  | .error _ => acked

/-- Everything a write to a lease record can do. It is applied under its condition, or the
bucket stays as it was; this node's own is acknowledged by the version it is told. -/
theorem put_cases {origin : Origin} {name : String} {body : Lease} {mode : PutMode UpdateVersion}
    {answer : Except StoreError UpdateVersion}
    (executed : (nodeMachine etags).exec index (.bucket origin (.put name body mode)) choice
      before = some (answer, after)) : after.held = before.held ∧
    after.aux.acked = ackedAfter before.aux.acked origin name body answer ∧
    ((∃ version, (before.bucket name).admits mode = true ∧
      etags (before.bucket name) body version = true ∧
        after.bucket = Function.update before.bucket name
          ((before.bucket name).write ⟨body, version⟩) ∧
        (answer = .ok version ∨ answer = .error .unavailable ∧ choice.delivery = .lost version)) ∨
      (after.bucket = before.bucket ∧
        ((before.bucket name).admits mode = false ∧ answer = .error mode.refusal ∨
          answer = .error .unavailable ∧ ∀ version, choice.delivery ≠ .answered version))) := by
  obtain ⟨⟨told, objects⟩, applied, same⟩ := Option.map_eq_some_iff.mp executed
  cases same
  refine ⟨rfl, ?_, Objects.exec_put_cases applied⟩
  cases told <;>
  · simp only [Auxiliary.request, ackedAfter]
    split <;> rfl

theorem exec_grows (executed : (nodeMachine etags).exec index act choice before = some
    (answer, after)) : Grows before.bucket after.bucket := by
  have unchanged : after.bucket = before.bucket → Grows before.bucket after.bucket := by
    intro same
    rw [same]
    exact fun _ => List.suffix_rfl
  cases writes : act.isLeaseWrite with
  | false => exact unchanged (exec_leases executed writes).bucket
  | true =>
    cases act with
    | bucket origin request =>
      cases request with
      | get name => cases writes
      | put name body mode =>
        obtain ⟨-, -, ⟨version, -, -, written, -⟩ | ⟨same, -⟩⟩ := put_cases executed
        · rw [written]
          exact .write _ _ _
        · exact unchanged same
    | hold | forget =>
      cases executed
      exact unchanged rfl
    | _ => cases writes

end Steps

variable {agent : Agent} {etags : LeaseVersioning} {system after : System}
  {label : Label}

/-- A step that is no action of a task leaves the records alone, and either the leases too or
nothing of them, as a process starts. -/
theorem System.next_outside (outside : ∀ index choice, label ≠ .deliver index choice)
    (stepped : System.next agent etags system label = some after) :
    SameLeases system.world after.world ∨ (after.world.bucket = system.world.bucket ∧
      after.world.held = {} ∧ after.world.aux.acked = fun _ => none) := by
  cases System.next_cases stepped with
  | deliver => exact absurd rfl (outside _ _)
  | launch | tick | invoke | peer | desire | open_ => exact .inl ⟨rfl, rfl, rfl⟩
  | crash | boot => exact .inr ⟨rfl, rfl, rfl⟩

/-- A task is about to write to a lease record, and the store applies it. -/
structure Writes (etags : LeaseVersioning) (system after : System)
    (index : Nat) (choice : Choice) (origin : Origin) (name : String) (body : Lease)
    (mode : PutMode UpdateVersion) (version : UpdateVersion) : Prop where
  found : ∃ role continuation, system.tasks[index]? =
    some ⟨role, .step (S := NodeSig) (.bucket origin (.put name body mode)) continuation⟩
  executed : ∃ answer : Except StoreError UpdateVersion,
    (nodeMachine etags).exec index (.bucket origin (.put name body mode)) choice
      system.world = some (answer, after.world) ∧
    (answer = .ok version ∨ answer = .error .unavailable ∧ choice.delivery = .lost version)
  admitted : (system.world.bucket name).admits mode = true
  issued : etags (system.world.bucket name) body version = true
  written : after.world.bucket = Function.update system.world.bucket name
    ((system.world.bucket name).write ⟨body, version⟩)

theorem System.bucket_cases (stepped : System.next agent etags system label = some after) :
    after.world.bucket = system.world.bucket ∨
      ∃ index choice origin name body mode version, label = .deliver index choice ∧
        Writes etags system after index choice origin name body mode version := by
  by_cases isDeliver : ∃ index choice, label = .deliver index choice
  · obtain ⟨index, choice, rfl⟩ := isDeliver
    obtain ⟨role, act, continuation, answer, world, found, executed, rfl⟩ := Pool.step_cases stepped
    cases writes : act.isLeaseWrite with
    | false => exact .inl (exec_leases executed writes).bucket
    | true =>
      cases act with
      | bucket origin request =>
        cases request with
        | get name => cases writes
        | put name body mode =>
          obtain ⟨-, -, ⟨version, admitted, issued, written, told⟩ | ⟨same, -⟩⟩ :=
            put_cases executed
          · exact .inr ⟨index, choice, origin, name, body, mode, version, rfl,
              ⟨⟨role, continuation, found⟩, ⟨answer, executed, told⟩, admitted, issued, written⟩⟩
          · exact .inl same
      | hold | forget =>
        cases executed
        exact .inl rfl
      | _ => cases writes
  · rcases
      System.next_outside (fun index choice isIt => isDeliver ⟨index, choice, isIt⟩) stepped with
      same | ⟨same, -⟩
    · exact .inl same.bucket
    · exact .inl same

theorem System.next_grows (stepped : System.next agent etags system label = some after) :
    Grows system.world.bucket after.world.bucket := by
  rcases System.bucket_cases stepped with
    same | ⟨_, _, _, name, body, _, version, -, writes⟩
  · rw [same]
    exact fun _ => List.suffix_rfl
  · rw [writes.written]
    exact .write _ _ _

/-! ### What traces prove -/

def OwnEntry (agent : Agent) (bucket : Objects String Lease UpdateVersion) (name : String)
    (held : Held) : Prop :=
  Evident leaseCodec bucket name held ∧ Owned agent held

/-- What an exchange proves of the lease records, for good. -/
def Witnessed (agent : Agent) (bucket : Objects String Lease UpdateVersion) (act : NodeAct) :
    NodeSig.Ans act → Prop :=
  match act with
  | .bucket _ (.get name) => fun answer : Except StoreError (Entry Lease UpdateVersion) =>
    ∀ entry, answer = .ok entry → entry ∈ (bucket name).log
  | .bucket origin (.put name body _) => fun answer : Except StoreError UpdateVersion =>
    ∀ version, answer = .ok version → origin ≠ .peer → OwnEntry agent bucket name ⟨body, version⟩
  | .held => fun held : Std.TreeMap String Held =>
    ∀ (name : String) lease, held[name]? = some lease → OwnEntry agent bucket name lease
  | _ => fun _ => True

theorem Witnessed.mono {before after : Objects String Lease UpdateVersion} {act : NodeAct}
    {answer : NodeSig.Ans act} (grown : Grows before after)
    (witnessed : Witnessed agent before act answer) : Witnessed agent after act answer := by
  cases act with
  | bucket origin request =>
    cases request with
    | get name => exact fun entry read => grown.mem (witnessed entry read)
    | put name body mode =>
      exact fun version told own => (witnessed version told own).imp_left grown.mem
  | held => exact fun name lease listed => (witnessed name lease listed).imp_left grown.mem
  | _ => trivial

structure Logged (world : World) : Prop where
  held : ∀ (name : String) lease, world.held[name]? = some lease →
    Evident leaseCodec world.bucket name lease
  acked : ∀ (name : String) lease, world.aux.acked name = some lease →
    Evident leaseCodec world.bucket name lease

/-- Every task is where its trace has left it, and its trace has happened. -/
structure Traced (agent : Agent) (system : System) (traces : Nat → NodeTrace) :
    Prop extends System.Residual agent system traces where
  happened : ∀ index, ∀ exchange ∈ traces index,
    Witnessed agent system.world.bucket exchange.act exchange.answer
  logged : Logged system.world

section Evidence

variable {agent : Agent} {etags : LeaseVersioning} {labels : List Label}
  {system after : System} {label : Label} {traces : Nat → NodeTrace} {index : Nat}
  {choice : Choice} {act : NodeAct} {answer : NodeSig.Ans act} {before later : World}

theorem Logged.same (logged : Logged before) (same : SameLeases before later) : Logged later := by
  constructor
  · rw [same.held, same.bucket]
    exact logged.held
  · rw [same.acked, same.bucket]
    exact logged.acked

theorem put_logged {origin : Origin} {name : String} {body : Lease} {mode : PutMode UpdateVersion}
    {version : UpdateVersion}
    (executed : (nodeMachine etags).exec index (.bucket origin (.put name body mode)) choice
      before = some (.ok version, later)) : ⟨body, version⟩ ∈ (later.bucket name).log := by
  obtain ⟨-, -, ⟨issued, -, -, written, told | ⟨failed, -⟩⟩ | ⟨-, ⟨-, failed⟩ | ⟨failed, -⟩⟩⟩ :=
    put_cases executed
  · cases told
    simp [written]
  · cases failed
  · cases failed
  · cases failed

theorem witnessed_exec (logged : Logged before) {role : Role} (leases : Leases agent before)
    (fact : Fact agent index role before act)
    (executed : (nodeMachine etags).exec index act choice before = some (answer, later)) :
    Witnessed agent later.bucket act answer := by
  cases act with
  | bucket origin request =>
    cases request with
    | get name =>
      obtain ⟨⟨told, objects⟩, read, same⟩ := Option.map_eq_some_iff.mp executed
      cases same
      obtain ⟨unchanged, found⟩ := Objects.exec_get_cases read
      rintro entry rfl
      rcases found with ⟨_, isOk, current⟩ | ⟨failed, -⟩ | failed
      · cases isOk
        rw [show objects = before.bucket from unchanged]
        exact Cell.current_mem current
      · cases failed
      · cases failed
    | put name body mode =>
      rintro version rfl own
      exact ⟨put_logged executed, (fact.2 own).2.2.1⟩
  | held =>
    cases executed
    exact fun name lease listed => ⟨logged.held name lease listed, leases.held name lease listed⟩
  | _ => trivial

theorem Logged.exec (logged : Logged before)
    (executed : (nodeMachine etags).exec index act choice before = some (answer, later))
    (fact : ∀ name held, act = .hold name held → before.aux.acked name = some held) :
    Logged later := by
  have grown := exec_grows executed
  cases writes : act.isLeaseWrite with
  | false => exact logged.same (exec_leases executed writes)
  | true =>
    cases act with
    | bucket origin request =>
      cases request with
      | get name => cases writes
      | put name body mode =>
        obtain ⟨held, acked, applied⟩ := put_cases executed
        constructor
        · rw [held]
          exact fun other lease listed => grown.mem (logged.held other lease listed)
        · intro other lease known
          rw [acked] at known
          cases answer with
          | error cause => exact grown.mem (logged.acked other lease known)
          | ok version =>
            simp only [ackedAfter] at known
            split at known
            · exact grown.mem (logged.acked other lease known)
            · by_cases same : other = name
              · subst same
                rw [Function.update_self] at known
                cases known
                exact put_logged executed
              · rw [Function.update_of_ne same] at known
                exact grown.mem (logged.acked other lease known)
    | hold name held =>
      cases executed
      refine ⟨fun other lease listed => ?_, logged.acked⟩
      by_cases same : other = name
      · subst same
        simp only [Std.TreeMap.getElem?_insert_self] at listed
        cases listed
        exact logged.acked other _ (fact other held rfl)
      · rw [Std.TreeMap.getElem?_insert, if_neg (by simpa using Ne.symm same)] at listed
        exact logged.held other lease listed
    | forget name =>
      cases executed
      constructor
      · intro other lease listed
        rw [Std.TreeMap.getElem?_erase] at listed
        split at listed
        · cases listed
        · exact logged.held other lease listed
      · intro other lease known
        by_cases same : other = name
        · subst same
          simp [Auxiliary.forget] at known
        · simp only [Auxiliary.forget, Function.update_of_ne same] at known
          exact logged.acked other lease known
    | _ => cases writes

theorem Traced.deliver (traced : Traced agent system traces)
    (reached : System.reach agent etags labels = some system)
    (stepped : System.next agent etags system (.deliver index choice) = some after) :
    Traced agent after (System.tracesAfter etags system (.deliver index choice) traces) := by
  obtain ⟨role, act, continuation, answer, world, found, executed, rfl⟩ := Pool.step_cases stepped
  have covered := reach_conduct reached
  obtain ⟨-, ⟨-, fact⟩, -⟩ := covered.guar found executed trivial
  have grown := exec_grows executed
  refine ⟨traced.toResidual.step stepped, fun other exchange member =>
    ?_, traced.logged.exec executed ?_⟩
  · simp only [System.tracesAfter, System.exchanged, found, executed, Option.map_some] at member
    rcases mem_grown member with old | ⟨rfl, rfl⟩
    · exact (traced.happened other exchange old).mono grown
    · exact witnessed_exec traced.logged covered.inv.2 fact executed
  · rintro name held rfl
    exact fact.2

theorem Traced.outside (traced : Traced agent system traces)
    (outside : ∀ index choice, label ≠ .deliver index choice)
    (stepped : System.next agent etags system label = some after) :
    Traced agent after (System.tracesAfter etags system label traces) := by
  have grown := System.next_grows stepped
  refine ⟨traced.toResidual.step stepped, ?_, ?_⟩
  · rw [System.tracesAfter_outside outside]
    exact fun index exchange member => (traced.happened index exchange member).mono grown
  · rcases System.next_outside outside stepped with same | ⟨-, held, acked⟩
    · exact traced.logged.same same
    · constructor
      · intro name lease listed
        rw [held] at listed
        simp at listed
      · intro name lease known
        rw [acked] at known
        cases known

/-- **Every task is a residual of what it has said and heard**, and all of that has happened. -/
theorem reach_traced (reached : System.reach agent etags labels = some system) :
    Traced agent system (System.traces agent etags labels) := by
  refine run_observed (I := Traced agent) ?_ ?_ reached
  · intro labels current label later reached traced stepped
    by_cases isDeliver : ∃ index choice, label = .deliver index choice
    · obtain ⟨index, choice, rfl⟩ := isDeliver
      exact traced.deliver reached stepped
    · exact traced.outside (fun index choice isIt => isDeliver ⟨index, choice, isIt⟩) stepped
  · exact ⟨⟨by simp [System.initial], fun _ _ => rfl⟩, by simp,
      ⟨by simp [System.initial, World.initial], nofun⟩⟩

end Evidence

/-! ### The grounds of a write -/

/-- A lease in hand was acknowledged or held in the course of a trace. -/
def Proved (whole : NodeTrace) (name : String) (held : Held) : Prop :=
  (∃ origin mode, origin ≠ .peer ∧
      ⟨.bucket origin (.put name held.lease mode), .ok held.version⟩ ∈ whole) ∨
    ∃ leases : Std.TreeMap String Held, ⟨.held, leases⟩ ∈ whole ∧ leases[name]? = some held

def PutGrounds (agent : Agent) (whole : NodeTrace) (name : String) (body : Lease)
    (mode : PutMode UpdateVersion) : Origin → Prop
  | .setInstance held | .release held => Proved whole name held
  | .acquire =>
    (mode = .create ∧ ∃ nowMs, body = firstLease agent.nodeId agent.advertise agent.timing nowMs) ∨
    ∃ prev version nowMs, ⟨.bucket .acquire (.get name), .ok ⟨prev, version⟩⟩ ∈ whole ∧
      mode = .update version ∧
      body = nextLease prev agent.nodeId agent.advertise agent.timing nowMs ∧
      (prev.isExpiredAt nowMs = true ∨ prev.owner = agent.nodeId)
  | _ => True

def Grounds (agent : Agent) (whole : NodeTrace) : NodeAct → Prop
  | .bucket origin (.put name body mode) => PutGrounds agent whole name body mode origin
  | _ => True

section Grounds

variable {agent : Agent} {permit : Permit} {whole within : NodeTrace} {α : Type}

/-- A program all of whose writes have their grounds in a trace. -/
abbrev Grounded (agent : Agent) (whole : NodeTrace) (program : NodeProg α) : Prop :=
  program.Emits (Grounds agent whole)

theorem grounded_loose {program : NodeProg α} (loose : Loose program) :
    Grounded agent whole program := by
  refine Prog.Emits.mono (fun act isLoose => ?_) loose
  cases act with
  | bucket origin request =>
    cases request with
    | get name => trivial
    | put name body mode => cases isLoose
  | _ => trivial

variable {body : NodeProg α}

theorem grounded_locked (grounded : Grounded agent whole body) :
    Grounded agent whole (locked body) :=
  ⟨trivial, fun _ => Prog.Emits.bind grounded fun _ => ⟨trivial, fun _ => trivial⟩⟩

theorem grounded_record (event : EventRow) : Grounded agent whole (Events.record event) :=
  grounded_loose (Loose.record event)

theorem grounded_leaseStateFor (id : String) : Grounded agent whole (leaseStateFor id) := by
  unfold leaseStateFor
  split
  · trivial
  · exact ⟨trivial, fun _ => trivial⟩

theorem grounded_submit {kind : OpKind} {instanceId key : String} {payload : OpPayload}
    {claim : Option Claim} {announce : String → List EventRow} : Grounded agent whole
      (submitClaiming agent kind instanceId key payload claim announce) :=
  emits_submitClaiming (fun _ isConsult => (grounded_loose (Consults.act isConsult).aside.loose).1)
    (fun _ _ => trivial) (fun _ => trivial) fun _ _ _ _ => trivial

theorem grounded_stamp (instanceId : String) :
    Grounded agent whole (stampLeaseState instanceId) := by
  refine ⟨trivial, fun joined => ?_⟩
  dsimp only [Prog.pure_bind]
  split
  · trivial
  refine Prog.Emits.bind (grounded_leaseStateFor _) fun state => ?_
  split
  · trivial
  refine grounded_locked ⟨trivial, fun held => ?_⟩
  dsimp only [Prog.pure_bind]
  split
  · trivial
  · split
    · trivial
    · refine ⟨trivial, fun answer => ?_⟩
      rcases answer with cause | version
      · cases cause <;> trivial
      · exact ⟨trivial, fun _ => trivial⟩

theorem grounded_renew (name : String) (acc : Renewals) :
    Grounded agent whole (renewOne agent name acc) := by
  refine grounded_locked ⟨trivial, fun held => ?_⟩
  dsimp only [Prog.pure_bind]
  split
  · trivial
  refine Prog.Emits.bind (grounded_leaseStateFor _) fun state => ⟨trivial, fun nowMs => ?_⟩
  refine ⟨trivial, fun answer => ?_⟩
  rcases answer with cause | version
  · cases cause with
    | alreadyExists | precondition => exact ⟨trivial, fun _ => trivial⟩
    | notFound | unavailable => trivial
  · exact ⟨trivial, fun _ => trivial⟩

theorem grounded_selfFence (name instanceId : String) :
    Grounded agent whole (selfFence agent name instanceId) := by
  refine Prog.Emits.bind (grounded_record _) fun _ => ?_
  split
  · exact grounded_record _
  · refine Prog.Emits.bind (Prog.Emits.bind grounded_submit fun outcome => ?_) fun _ => trivial
    split <;> trivial

variable {name : String} {held : Held}

theorem grounded_name (proved : Proved whole name held) (instanceId recordId : String)
    (realising : Realising) (report : PassReport) :
    Grounded agent whole (nameInstance agent name held instanceId recordId realising report) := by
  refine grounded_locked ⟨proved, fun answer => ?_⟩
  rcases answer with cause | version
  · cases cause with
    | alreadyExists | precondition =>
      refine ⟨trivial, fun _ => ?_⟩
      dsimp only [Prog.pure_bind]
      exact Prog.Emits.bind (grounded_selfFence ..) fun _ => trivial
    | notFound | unavailable => trivial
  · refine ⟨trivial, fun _ => ⟨trivial, fun _ => ?_⟩⟩
    dsimp only [Prog.pure_bind]
    split
    · exact Prog.Emits.bind (grounded_record _) fun _ => trivial
    · trivial

theorem grounded_release (proved : Proved whole name held) (report : PassReport) :
    Grounded agent whole (releaseHeld name held report) := by
  refine grounded_locked ⟨proved, fun answer => ?_⟩
  have surrendered : ∀ report : PassReport, Grounded agent whole
      (.step (S := NodeSig) (.journal (.releaseLease name)) fun _ =>
        .step (S := NodeSig) (.forget name) fun _ => .pure report) :=
    fun _ => ⟨trivial, fun _ => ⟨trivial, fun _ => trivial⟩⟩
  rcases answer with cause | version
  · cases cause with
    | alreadyExists | precondition => exact surrendered _
    | notFound | unavailable => trivial
  · exact surrendered _

/-! #### Acquisition -/

/-- A program that writes on grounds found in a trace and returns what it promises, where all that it is
answered is in that trace. -/
abbrev Backed (agent : Agent) (whole : NodeTrace) (Q : α → Prop)
    (history : NodeTrace) (program : NodeProg α) : Prop :=
  Heeds (· ∈ whole) (fun _ => Grounds agent whole) (fun _ => Q) history program

variable {history : NodeTrace} {Q : α → Prop}

theorem backed_emits {program : NodeProg α} (grounded : Grounded agent whole program) :
    Backed agent whole (fun _ => True) history program :=
  (Heeds.of_emits grounded fun _ _ _ => id).mono (fun _ _ => id) fun _ _ _ => trivial

theorem backed_locked (backed : ∀ later, Backed agent whole Q later body) :
    Backed agent whole Q history (locked body) :=
  ⟨trivial, fun _ _ => (backed _).bind fun _ _ holds => ⟨trivial, fun _ _ => holds⟩⟩

theorem backed_acquire (nowMs : Int) : Backed agent whole
    (fun outcome => ∀ held, outcome = .ok (.held held) → Proved whole name held) history
      (onBucket .acquire
      (acquire leaseCodec name agent.nodeId agent.advertise agent.timing nowMs)) := by
  unfold Fleet.acquire
  split
  · exact nofun
  have claimed : ∀ {lease mode later}, PutGrounds agent whole name lease mode .acquire →
    Backed agent whole
      (fun outcome => ∀ held, outcome = .ok (.held held) → Proved whole name held) later
      (onBucket .acquire (claim leaseCodec name lease mode)) := by
    intro lease mode later grounds
    refine ⟨grounds, fun answer heard => ?_⟩
    rcases answer with cause | version
    · cases cause <;> exact nofun
    · rintro held ⟨⟩
      exact .inl ⟨.acquire, _, nofun, heard⟩
  refine ⟨trivial, fun answer heard => ?_⟩
  rcases answer with cause | ⟨prev, version⟩
  · cases cause with
    | notFound => exact claimed (.inl ⟨rfl, nowMs, rfl⟩)
    | alreadyExists | precondition | unavailable => exact nofun
  · change Backed agent whole _ _ (onBucket .acquire
      (if prev.isExpiredAt nowMs = false ∧ prev.owner ≠ agent.nodeId then
        pure (.ok (.heldByOther prev.owner prev.expiresMs))
      else claim leaseCodec name
        (nextLease prev agent.nodeId agent.advertise agent.timing nowMs) (.update version)))
    split
    · exact nofun
    · next takeable =>
        refine claimed (.inr ⟨prev, version, nowMs, heard, rfl, rfl, ?_⟩)
        rw [not_and_or, not_not, Bool.not_eq_false] at takeable
        exact takeable

theorem backed_reacquire (name : String) : Backed agent whole
    (fun outcome => ∀ held, outcome = .ok (.held held) → Proved whole name held) history
    (reacquireOne agent name) := by
  refine backed_locked fun later => ⟨trivial, fun nowMs _ => ?_⟩
  refine (backed_acquire nowMs).bind fun later outcome proved => ?_
  split
  · next won => exact ⟨trivial, fun _ _ => proved⟩
  · exact proved

theorem backed_custody (name : String) (report : PassReport) : Backed agent whole
    (fun custody => ∀ held final, custody = .ours held final → Proved whole name held) history
    (custodyOf agent name report) := by
  refine ⟨trivial, fun leases heard => ?_⟩
  dsimp only [Prog.pure_bind]
  split
  · next listed =>
      rintro held final ⟨⟩
      exact .inr ⟨leases, heard, listed⟩
  refine backed_locked fun later => ⟨trivial, fun nowMs _ => ?_⟩
  refine (backed_acquire nowMs).bind fun later outcome proved => ?_
  split
  · next won =>
      refine ⟨trivial, fun journaled _ => ?_⟩
      dsimp only [Prog.pure_bind]
      split
      · exact ⟨trivial, fun _ _ => nofun⟩
      · refine ⟨trivial, fun _ _ => ?_⟩
        rintro held final ⟨⟩
        exact proved _ rfl
  · exact nofun
  · exact nofun

/-! #### Assembly -/

theorem backed_section {piece : NodeProg α} {R : α → Prop}
    (isSection : Section agent permit (.ofLeases (Proved whole)) piece R) :
    Backed agent whole R history piece := by
  cases isSection with
  | act act allowed _ =>
    refine backed_emits (grounded_loose (Loose.act ?_))
    simpa [Permit.allows] using (Bool.and_eq_true_iff.mp allowed).1
  | held => exact ⟨trivial, fun leases heard name lease listed => .inr ⟨leases, heard, listed⟩⟩
  | row => exact ⟨trivial, fun _ _ _ _ => trivial⟩
  | surrender | fail => exact ⟨trivial, fun _ _ => trivial⟩
  | submit => exact backed_emits grounded_submit
  | stamp => exact backed_emits (grounded_stamp _)
  | renew => exact backed_emits (grounded_renew ..)
  | reacquire permitted name => exact backed_reacquire name
  | custody permitted name report => exact backed_custody name report
  | name permitted name held proved => exact backed_emits (grounded_name proved ..)
  | release permitted name held proved => exact backed_emits (grounded_release proved _)

theorem backed_sectioned {program : NodeProg α}
    (sectioned : Sectioned agent permit (.ofLeases (Proved whole)) program) :
    Backed agent whole (fun _ => True) history program :=
  sectioned.heeds (fun _ => backed_section) history

/-- **Whatever a tick writes has its grounds in what the tick has said and heard.** -/
theorem tick_grounds {trace : NodeTrace} {act : NodeAct} {inner : NodeSig.Ans act → NodeProg Unit}
    (reached : After (tick agent) trace (.step act inner)) : Grounds agent trace act := by
  have backed : Backed agent trace (fun _ => True) [] (tick agent) := by
    refine ⟨trivial, fun _ _ => ?_⟩
    refine (backed_sectioned (@Sectioned.reconcileVanished agent .ticker _ rfl rfl)).bind
      fun _ _ _ => ?_
    refine ⟨trivial, fun joined _ => ?_⟩
    dsimp only [Prog.pure_bind]
    refine Heeds.bind (Q := fun _ _ => True) ?_ fun _ _ _ => ⟨trivial, fun _ _ => trivial⟩
    unfold whenever
    split
    · exact (backed_sectioned Sectioned.pass).bind fun _ _ _ => trivial
    · trivial
  exact (backed.after reached fun _ => id).1

end Grounds

/-- What a write to a lease record is based on, in the state in which it is made. -/
def Based (agent : Agent) (bucket : Objects String Lease UpdateVersion) (name : String)
    (body : Lease) (mode : PutMode UpdateVersion) : Origin → Prop
  | .renew held | .stampState held | .giveBack held =>
    Evident leaseCodec bucket name held ∧ mode = .update held.version ∧
      body = { held.lease with expiresMs := body.expiresMs, state := body.state }
  | .setInstance held =>
    Evident leaseCodec bucket name held ∧ mode = .update held.version ∧
      body = { held.lease with instanceId := body.instanceId }
  | .release held =>
    Evident leaseCodec bucket name held ∧ mode = .update held.version ∧
      body = { held.lease with expiresMs := 0 }
  | .acquire =>
    (mode = .create ∧ ∃ nowMs, body = firstLease agent.nodeId agent.advertise agent.timing nowMs) ∨
    ∃ prev version nowMs, ⟨prev, version⟩ ∈ (bucket name).log ∧ mode = .update version ∧
      body = nextLease prev agent.nodeId agent.advertise agent.timing nowMs ∧
      (prev.isExpiredAt nowMs = true ∨ prev.owner = agent.nodeId)
  | .resolve => False
  | .peer => body.owner ≠ agent.nodeId

theorem Proved.ownEntry {bucket : Objects String Lease UpdateVersion}
    {whole : NodeTrace} {name : String} {held : Held} (proved : Proved whole name held)
    (happened : ∀ exchange ∈ whole, Witnessed agent bucket exchange.act exchange.answer) :
    OwnEntry agent bucket name held := by
  rcases proved with ⟨origin, mode, own, told⟩ | ⟨leases, read, listed⟩
  · exact happened _ told held.version rfl own
  · exact happened _ read name held listed

/-- **Every write to a lease record is based on the history of that record.** -/
theorem reach_based {labels : List Label} {index : Nat} {choice : Choice} {role : Role}
    {origin : Origin} {name : String} {body : Lease} {mode : PutMode UpdateVersion}
    {continuation : Except StoreError UpdateVersion → NodeProg Unit}
    {answer : Except StoreError UpdateVersion} {world : World}
    (reached : System.reach agent etags labels = some system) (found : system.tasks[index]? =
      some ⟨role, .step (S := NodeSig) (.bucket origin (.put name body mode)) continuation⟩)
    (executed : (nodeMachine etags).exec index (.bucket origin (.put name body mode)) choice
      system.world = some (answer, world)) :
    Based agent system.world.bucket name body mode origin ∧
      (origin ≠ .peer → body.owner = agent.nodeId) := by
  obtain ⟨-, ⟨-, fact, ours⟩, -⟩ := (reach_conduct reached).guar found executed trivial
  have traced := reach_traced reached
  refine ⟨?_, fun own => (ours own).2.2.1⟩
  have grounds : (∀ held, origin ≠ .stampState held) → origin ≠ .peer →
      PutGrounds agent (System.traces agent etags labels index) name body mode origin := by
    intro notStamp own
    obtain ⟨-, -, -, ⟨held, isStamp⟩ | isTick⟩ := ours own
    · exact absurd isStamp (notStamp held)
    · subst isTick
      rcases traced.residual index _ found with returned | residual
      · cases returned
      · exact tick_grounds residual
  cases origin with
  | renew held | stampState held =>
    obtain ⟨-, acked, isUpdate, kept, -⟩ := fact
    exact ⟨traced.logged.acked name held acked, isUpdate, kept⟩
  | giveBack held =>
    obtain ⟨isUpdate, rfl, -, acked⟩ := fact
    exact ⟨traced.logged.acked name held acked, isUpdate, rfl⟩
  | setInstance held =>
    obtain ⟨isUpdate, kept, -⟩ := fact
    exact ⟨(Proved.ownEntry (grounds nofun nofun) (traced.happened index)).1, isUpdate, kept⟩
  | release held =>
    obtain ⟨isUpdate, kept, -⟩ := fact
    exact ⟨(Proved.ownEntry (grounds nofun nofun) (traced.happened index)).1, isUpdate, kept⟩
  | acquire =>
    rcases grounds nofun nofun with first | ⟨prev, version, nowMs, read, isUpdate, next, may⟩
    · exact .inl first
    · exact .inr ⟨prev, version, nowMs, traced.happened index _ read _ rfl, isUpdate, next, may⟩
  | resolve => exact fact
  | peer => exact fact

end Barista.Node
