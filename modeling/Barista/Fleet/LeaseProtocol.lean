import Barista.Foundation.Interleaving
import Barista.Foundation.Run
import Barista.Foundation.TermLog
import Barista.Fleet.Lease

/-!
Contract: what any number of nodes can do to the lease records of a bucket.

Nodes make lease calls; a call is a task of a pool over the bucket, so between its
read and its conditional write anything else may happen. Clocks are arguments of
the calls and unconstrained. A call on a held lease is possible exactly when some
finished call returned that `Held`.

Owns: the protocol as a transition system, its invariant (each name's history is a
`TermLog`), agreement under fresh versions, and fencing under content-derived ones.
-/

namespace Barista.Fleet

open Foundation

/-! ### The system -/

inductive Call where
  | acquire (me endpoint : String) (timing : Timing) (nowMs : Int)
  | renew (held : Held) (timing : Timing) (nowMs : Int) (state : Option String)
  | stampState (held : Held) (state : Option String)
  | setInstance (held : Held) (instanceId : String)
  | release (held : Held)
deriving DecidableEq, Repr

structure Request where
  name : String
  call : Call
deriving DecidableEq, Repr

inductive Outcome where
  | acquired (result : Except FleetError Acquired)
  | renewed (result : Except FleetError Renewed)
  | released (result : Except FleetError Unit)

def Call.held? : Call → Option Held
  | .acquire .. => none
  | .renew held .. | .stampState held _ | .setInstance held _ | .release held => some held

def Outcome.held? : Outcome → Option Held
  | .acquired (.ok (.held held)) => some held
  | .renewed (.ok (.held held)) => some held
  | _ => none

section System

variable {Body : Type}

def Request.prog (codec : Codec Lease Body) (request : Request) : LeaseProg Body Outcome :=
  match request.call with
  | .acquire me endpoint timing nowMs =>
    (acquire codec request.name me endpoint timing nowMs).bind (.pure ∘ .acquired)
  | .renew held timing nowMs state =>
    (renew codec request.name held timing nowMs state).bind (.pure ∘ .renewed)
  | .stampState held state => (stampState codec request.name held state).bind (.pure ∘ .renewed)
  | .setInstance held instanceId =>
    (setInstance codec request.name held instanceId).bind (.pure ∘ .renewed)
  | .release held => (release codec request.name held).bind (.pure ∘ .released)

abbrev Protocol (Body : Type) :=
  Pool (StoreSig String Body UpdateVersion) Request Outcome (Objects String Body UpdateVersion)

def Protocol.idle : Protocol Body := ⟨fun _ => ⟨[]⟩, []⟩

def returnedHeld (name : String)
    (task : Task (StoreSig String Body UpdateVersion) Request Outcome) : Option Held :=
  match task.prog with
  | .pure outcome => if task.role.name = name then outcome.held? else none
  | .step .. => none

def Protocol.issued (protocol : Protocol Body) (name : String) : List Held :=
  protocol.tasks.filterMap (returnedHeld name)

/-- One event of the system: a node makes a call, or a call's next request is delivered. -/
inductive Event where
  | invoke (request : Request)
  | deliver (index : Nat) (delivery : Delivery UpdateVersion)
deriving DecidableEq, Repr

variable (etags : Versioning Body UpdateVersion) (codec : Codec Lease Body)

def Protocol.next (protocol : Protocol Body) : Event → Option (Protocol Body)
  | .invoke request =>
    if request.call.held?.all (· ∈ protocol.issued request.name) then
      some (protocol.spawn ⟨request, request.prog codec⟩)
    else none
  | .deliver index delivery => protocol.step (storeMachine etags) index delivery

def Protocol.history (protocol : Protocol Body) (name : String) : List Lease :=
  (protocol.world name).log.filterMap fun entry => codec.decode entry.body

def Protocol.stored (protocol : Protocol Body) (name : String) : Option Lease :=
  (protocol.world name).current.bind fun entry => codec.decode entry.body

end System

/-! ### Histories of one name -/

/-- `next` may be written over `prev`: it stays in the epoch under the same owner, or opens
the following one. -/
def Follows (prev next : Lease) : Prop :=
  (next.epoch = prev.epoch ∧ next.owner = prev.owner) ∨ next.epoch = prev.epoch + 1

theorem nextLease_follows (prev : Lease) (me endpoint : String) (timing : Timing) (nowMs : Int) :
    Follows prev (nextLease prev me endpoint timing nowMs) := by
  unfold Follows nextLease
  by_cases renewal : prev.owner = me ∧ prev.isExpiredAt nowMs = false
  · left
    simp only [renewal, and_self, if_true]
  · right
    simp only [renewal, if_false]

def termOf (lease : Lease) : Nat × String := (lease.epoch, lease.owner)

section History

variable {Body : Type} {codec : Codec Lease Body} {cell : Cell Body UpdateVersion}

/-- The bodies of a cell are encoded leases whose epochs and owners form a `TermLog`. -/
def Succession (codec : Codec Lease Body) (cell : Cell Body UpdateVersion) : Prop :=
  ∃ leases : List Lease, cell.log.map Entry.body = leases.map codec.encode ∧
    TermLog (leases.map termOf)

theorem succession_empty : Succession codec ⟨[]⟩ := ⟨[], rfl, .nil⟩

theorem Succession.write_first {lease : Lease} {version : UpdateVersion}
    (unwritten : cell.log = []) (first : lease.epoch = 1) :
    Succession codec (cell.write ⟨codec.encode lease, version⟩) := by
  refine ⟨[lease], by simp [unwritten], ?_⟩
  simp only [List.map_cons, List.map_nil, termOf, first]
  exact .first lease.owner

theorem Succession.write_next {prev lease : Lease} {version : UpdateVersion}
    (succession : Succession codec cell)
    (base : cell.current.map Entry.body = some (codec.encode prev))
    (follows : Follows prev lease) :
    Succession codec (cell.write ⟨codec.encode lease, version⟩) := by
  obtain ⟨leases, bodies, terms⟩ := succession
  cases leases with
  | nil =>
    rw [List.map_nil, List.map_eq_nil_iff] at bodies
    simp [Cell.current, bodies] at base
  | cons head rest =>
    have headIsPrev : head = prev := by
      rw [Cell.current, ← List.head?_map, bodies] at base
      exact codec.encode_injective (Option.some.inj base)
    subst headIsPrev
    refine ⟨lease :: head :: rest, by simp [bodies], ?_⟩
    simp only [List.map_cons, termOf] at terms ⊢
    rcases follows with ⟨sameEpoch, sameOwner⟩ | advanced
    · rw [sameEpoch, sameOwner]
      exact terms.continued
    · rw [advanced]
      exact terms.advanced lease.owner

end History

/-! ### The discipline of the protocol -/

section Discipline

variable {Body : Type} {etags : Versioning Body UpdateVersion}
variable {Ok : Cell Body UpdateVersion → Prop} {codec : Codec Lease Body}

def Grows (before after : Objects String Body UpdateVersion) : Prop :=
  ∀ name, (before name).log <:+ (after name).log

/-- A put is legitimate when it opens a name, or follows a record it is conditioned on. -/
def Legitimate (codec : Codec Lease Body) (objects : Objects String Body UpdateVersion)
    (name : String) (lease : Lease) : PutMode UpdateVersion → Prop
  | .create => lease.epoch = 1
  | .update version => ∃ prev, ⟨codec.encode prev, version⟩ ∈ (objects name).log ∧
      Follows prev lease

variable {name : String}

theorem Grows.mem {before after : Objects String Body UpdateVersion} (grown : Grows before after)
    {entry : Entry Body UpdateVersion} (member : entry ∈ (before name).log) :
    entry ∈ (after name).log :=
  (grown name).subset member

theorem Grows.write (objects : Objects String Body UpdateVersion) (name : String)
    (entry : Entry Body UpdateVersion) :
    Grows objects (Function.update objects name ((objects name).write entry)) := by
  intro other
  by_cases same : other = name
  · subst same
    rw [Function.update_self]
    exact List.suffix_cons entry (objects other).log
  · simp only [Function.update_of_ne same, List.suffix_rfl]

variable {lease : Lease} {mode : PutMode UpdateVersion}

theorem Legitimate.mono {before after : Objects String Body UpdateVersion}
    (grown : Grows before after) (legitimate : Legitimate codec before name lease mode) :
    Legitimate codec after name lease mode := by
  cases mode with
  | create => exact legitimate
  | update version =>
    obtain ⟨prev, known, follows⟩ := legitimate
    exact ⟨prev, grown.mem known, follows⟩

/-- Every name's history is a succession, under versions that identify bodies. -/
def Lawful (Ok : Cell Body UpdateVersion → Prop) (codec : Codec Lease Body)
    (objects : Objects String Body UpdateVersion) : Prop :=
  ∀ name, Ok (objects name) ∧ Succession codec (objects name)

/-- **A legitimate put keeps every history lawful**, however stale what it was based on. -/
theorem Lawful.put (sound : etags.Sound Ok) (lawful : Lawful Ok codec objects)
    {version : UpdateVersion} (legitimate : Legitimate codec objects name lease mode)
    (admitted : (objects name).admits mode = true)
    (issued : etags (objects name) (codec.encode lease) version = true) :
    Lawful Ok codec (Function.update objects name
      ((objects name).write ⟨codec.encode lease, version⟩)) := by
  intro other
  by_cases same : other = name
  · subst same
    rw [Function.update_self]
    obtain ⟨governed, succession⟩ := lawful other
    refine ⟨sound.write governed issued, ?_⟩
    cases mode with
    | create =>
      exact Succession.write_first (Cell.admits_create_iff.mp admitted) legitimate
    | update base =>
      obtain ⟨prev, known, follows⟩ := legitimate
      obtain ⟨entry, found, sameBody⟩ := (sound.identify governed).base_current known admitted
      refine succession.write_next ?_ follows
      rw [found, Option.map_some, sameBody]
  · rw [Function.update_of_ne same]
    exact lawful other

/-- What the lease calls promise each other: they only append to histories, lawfully, and
the evidence they return is in the history it speaks of. -/
def leaseDiscipline (etags : Versioning Body UpdateVersion)
    (Ok : Cell Body UpdateVersion → Prop) (codec : Codec Lease Body) :
    Discipline (storeMachine etags :
      Machine (StoreSig String Body UpdateVersion) _ _) Request Outcome where
  Inv := Lawful Ok codec
  Rely _ _ := Grows
  Assume _ _ _ _ _ _ := True
  Guar _ _ _ _ := Grows
  Post _ request outcome objects := ∀ held, outcome.held? = some held →
    ⟨codec.encode held.lease, held.version⟩ ∈ (objects request.name).log
  rely_refl _ _ _ := fun _ => List.suffix_rfl
  rely_trans first second := fun name => (first name).trans (second name)
  guar_rely _ _ _ guaranteed := guaranteed

variable {index : Nat} {request : Request} {objects : Objects String Body UpdateVersion}

/-- The one spec of a conditional write: it keeps the histories lawful, and an
acknowledged version belongs to the body that was written. -/
theorem put_obligation (sound : etags.Sound Ok) {α : Type}
    {Q : α → Objects String Body UpdateVersion → Prop}
    {next : Except FleetError (Option UpdateVersion) → LeaseProg Body α}
    (legitimate : Legitimate codec objects name lease mode)
    (continues : ∀ result after, Grows objects after →
      (∀ version, result = .ok (some version) → ⟨codec.encode lease, version⟩ ∈ (after name).log) →
      (leaseDiscipline etags Ok codec).wp index request (next result) Q after) :
    (leaseDiscipline etags Ok codec).wp index request
      ((put codec name lease mode).bind next) Q objects := by
  intro current grown lawful delivery answer after executed _
  rcases Objects.exec_put_cases executed with
    ⟨version, admitted, issued, rfl, answered⟩ | ⟨rfl, refused⟩
  · have written := Grows.write current name ⟨codec.encode lease, version⟩
    refine ⟨lawful.put sound (legitimate.mono grown) admitted issued, written, ?_⟩
    have total : Grows objects _ := fun other => (grown other).trans (written other)
    rcases answered with rfl | ⟨rfl, _⟩
    · refine continues _ _ total fun _ same => ?_
      cases same
      simp
    · exact continues _ _ total (by simp [putResult])
  · refine ⟨lawful, fun _ => List.suffix_rfl, ?_⟩
    rcases refused with ⟨_, rfl⟩ | ⟨rfl, _⟩
    · cases mode <;> exact continues _ _ grown (by simp [PutMode.refusal, putResult])
    · exact continues _ _ grown (by simp [putResult])

theorem read_obligation {α : Type} {Q : α → Objects String Body UpdateVersion → Prop}
    {next : Except FleetError (Option (Lease × UpdateVersion)) → LeaseProg Body α}
    (continues : ∀ result after, Grows objects after →
      (∀ lease version, result = .ok (some (lease, version)) →
        ⟨codec.encode lease, version⟩ ∈ (after name).log) →
      (leaseDiscipline etags Ok codec).wp index request (next result) Q after) :
    (leaseDiscipline etags Ok codec).wp index request ((read codec name).bind next) Q objects := by
  intro current grown lawful delivery answer after executed _
  obtain ⟨rfl, answered⟩ := Objects.exec_get_cases executed
  refine ⟨lawful, fun _ => List.suffix_rfl, ?_⟩
  rcases answered with ⟨entry, rfl, found⟩ | ⟨rfl, _⟩ | rfl
  · obtain ⟨leases, bodies, _⟩ := (lawful name).2
    have known : entry ∈ (after name).log := Cell.current_mem found
    obtain ⟨lease, _, encoded⟩ : ∃ lease ∈ leases, codec.encode lease = entry.body := by
      have inBodies := List.mem_map_of_mem (f := Entry.body) known
      rw [bodies] at inBodies
      simpa using inBodies
    have decoded : codec.decode entry.body = some lease := by
      rw [← encoded, codec.decode_encode]
    have result : readResult codec name (.ok entry) = .ok (some (lease, entry.version)) := by
      simp only [readResult, decoded]
    refine continues _ _ grown fun readLease version same => ?_
    cases result.symm.trans same
    rwa [encoded]
  · exact continues _ _ grown (by simp [readResult])
  · exact continues _ _ grown (by simp [readResult])

/-- The evidence in an outcome belongs to the history of the name it was asked about. -/
def Evident (codec : Codec Lease Body) (objects : Objects String Body UpdateVersion)
    (name : String) (held : Held) : Prop :=
  ⟨codec.encode held.lease, held.version⟩ ∈ (objects name).log

theorem claim_obligation (sound : etags.Sound Ok)
    (legitimate : Legitimate codec objects request.name lease mode) :
    (leaseDiscipline etags Ok codec).wp index request
      ((claim codec request.name lease mode).bind (.pure ∘ .acquired))
      ((leaseDiscipline etags Ok codec).Post index request) objects := by
  rw [claim, Prog.bind_eq, Prog.bind_assoc]
  refine put_obligation sound legitimate fun result after _ acknowledged => ?_
  rcases result with cause | _ | version <;>
    refine Discipline.wp_pure fun current grown _ held returned => ?_
  · cases returned
  · cases returned
  · cases returned
    exact grown.mem (acknowledged version rfl)

theorem rewrite_obligation (sound : etags.Sound Ok) {held : Held}
    (evident : Evident codec objects request.name held) (follows : Follows held.lease lease) :
    (leaseDiscipline etags Ok codec).wp index request
      ((rewrite codec request.name held lease).bind (.pure ∘ .renewed))
      ((leaseDiscipline etags Ok codec).Post index request) objects := by
  have legitimate : Legitimate codec objects request.name lease (.update held.version) :=
    ⟨held.lease, evident, follows⟩
  rw [rewrite, Prog.bind_eq, Prog.bind_assoc]
  refine put_obligation sound legitimate fun result after _ acknowledged => ?_
  rcases result with cause | _ | version <;>
    refine Discipline.wp_pure fun current grown _ next returned => ?_
  · cases returned
  · cases returned
  · cases returned
    exact grown.mem (acknowledged version rfl)

theorem acquire_obligation (sound : etags.Sound Ok) (me endpoint : String)
    (timing : Timing) (nowMs : Int) : (leaseDiscipline etags Ok codec).wp index request
      ((acquire codec request.name me endpoint timing nowMs).bind (.pure ∘ .acquired))
      ((leaseDiscipline etags Ok codec).Post index request) objects := by
  have nothing : ∀ (result : Except FleetError Acquired)
    (world : Objects String Body UpdateVersion),
      (Outcome.acquired result).held? = none →
      (leaseDiscipline etags Ok codec).wp index request (.pure (.acquired result))
        ((leaseDiscipline etags Ok codec).Post index request) world := by
    intro result world empty
    refine Discipline.wp_pure fun current _ _ held returned => ?_
    rw [empty] at returned
    cases returned
  unfold acquire
  split
  · exact nothing _ _ rfl
  · rw [Prog.bind_eq, Prog.bind_assoc]
    refine read_obligation fun result after _ answered => ?_
    rcases result with cause | _ | ⟨prev, version⟩
    · exact nothing _ _ rfl
    · exact claim_obligation sound rfl
    · simp only
      split
      · exact nothing _ _ rfl
      · exact claim_obligation sound
          ⟨prev, answered prev version rfl, nextLease_follows prev me endpoint timing nowMs⟩

theorem request_obligation (sound : etags.Sound Ok)
    (evident : ∀ held, request.call.held? = some held →
      Evident codec objects request.name held) :
    (leaseDiscipline etags Ok codec).wp index request (request.prog codec)
      ((leaseDiscipline etags Ok codec).Post index request) objects := by
  obtain ⟨name, call⟩ := request
  have sameTerm : ∀ {prev lease : Lease}, lease.epoch = prev.epoch → lease.owner = prev.owner →
      Follows prev lease := fun epoch owner => .inl ⟨epoch, owner⟩
  cases call with
  | acquire me endpoint timing nowMs => exact acquire_obligation sound me endpoint timing nowMs
  | renew held timing nowMs state =>
    exact rewrite_obligation sound (evident held rfl) (sameTerm rfl rfl)
  | stampState held state =>
    exact rewrite_obligation sound (evident held rfl) (sameTerm rfl rfl)
  | setInstance held instanceId =>
    exact rewrite_obligation sound (evident held rfl) (sameTerm rfl rfl)
  | release held =>
    simp only [Request.prog, release, Prog.bind_eq, Prog.bind_assoc]
    refine put_obligation sound ⟨held.lease, evident held rfl, sameTerm rfl rfl⟩
      fun result after _ _ => ?_
    rcases result with cause | _ <;>
      exact Discipline.wp_pure fun current _ _ next returned => by cases returned

end Discipline

/-! ### Every reachable state -/

section Reachable

variable {Body : Type} {etags : Versioning Body UpdateVersion}
variable {Ok : Cell Body UpdateVersion → Prop} {codec : Codec Lease Body}
variable {protocol later : Protocol Body} {name : String}

theorem issued_evident (covered : protocol.Covered (leaseDiscipline etags Ok codec))
    {held : Held} (issued : held ∈ protocol.issued name) :
    Evident codec protocol.world name held := by
  obtain ⟨⟨role, prog⟩, member, returned⟩ := List.mem_filterMap.mp issued
  obtain ⟨index, located⟩ := List.mem_iff_getElem?.mp member
  cases prog with
  | step act next => cases returned
  | pure outcome =>
    simp only [returnedHeld] at returned
    split at returned
    · next sameName =>
        have post := covered.post located held returned
        rwa [sameName] at post
    · cases returned

theorem next_covered (sound : etags.Sound Ok) {event : Event}
    (covered : protocol.Covered (leaseDiscipline etags Ok codec))
    (stepped : protocol.next etags codec event = some later) :
    later.Covered (leaseDiscipline etags Ok codec) := by
  cases event with
  | invoke request =>
    simp only [Protocol.next] at stepped
    split at stepped
    · next known =>
        cases stepped
        refine covered.spawn (request_obligation sound fun held uses => ?_)
        rw [uses] at known
        exact issued_evident covered (by simpa using known)
    · cases stepped
  | deliver index delivery =>
    exact covered.step stepped fun _ _ _ _ _ _ _ => trivial

theorem idle_covered (sound : etags.Sound Ok) :
    (Protocol.idle : Protocol Body).Covered (leaseDiscipline etags Ok codec) :=
  ⟨fun _ => ⟨sound.empty, succession_empty⟩, by simp [Protocol.idle]⟩

theorem reachable_covered (sound : etags.Sound Ok) {events : List Event}
    (reached : run (Protocol.next etags codec) .idle events = some protocol) :
    protocol.Covered (leaseDiscipline etags Ok codec) :=
  run_invariant (fun covered stepped => next_covered sound covered stepped)
    (idle_covered sound) reached

end Reachable

end Barista.Fleet
