import Barista.Node.Evidence
import Barista.Node.Steps

/-!
Contract: whose loss the loss policy is about.

A pass takes a lease whose epoch is past the first for one that was taken over. The epoch
says how often the name changed hands or lapsed, not how: a node that acquires its own
lapsed lease, or a released one, opens an epoch as well. Where every epoch this node opens
follows another node's record that expired unreleased, the number does tell.

Owns: what lies behind an epoch of this node's, which actions of a pass apply the loss policy
and under which lease, and the runs in which it is applied to a lost owner only.
-/

namespace Barista.Node

open Foundation Fleet
open Prog (After Emits Heeds Ran)

/-- What a pass does by which it applies the loss policy to a session: it reports that it holds
the session, or records that it has started it cold. -/
def NodeAct.appliesLoss (name : String) : NodeAct → Prop
  | .reportHold session => session = name
  | .journal (.insertEvent event) => event.type = .degradation ∧ event.message = coldBooted name
  | _ => False

theorem intentFor_takenOver {policy : OnOwnerLoss} {tookOver running : Bool}
    (lossy : intentFor policy tookOver running = .holdWithoutMaterialising ∨
      intentFor policy tookOver running = .materialise true) : tookOver = true := by
  cases tookOver <;> cases running <;> cases policy <;> first | rfl | simp [intentFor] at lossy

def Custody.counted : Custody → Nat
  | .ours _ report | .notOurs report | .unavailable report => report.heldWithoutMaterialising

/-- A task took a session's turn with this lease in hand. -/
def TookTurn (agent : Agent) (trace : NodeTrace) (name : String) (held : Held) :
    Prop :=
  ∃ report final within, within <:+: trace ∧
    Ran (custodyOf agent name report) within (.ours held final)

/-- Before this node opened an epoch, the record was another node's and had expired, unreleased. -/
def LostOwner (agent : Agent) (log : List (Entry Lease UpdateVersion)) (epoch : Nat) : Prop :=
  ∃ newer opening lost older nowMs, log = newer ++ opening :: lost :: older ∧
    opening.body = nextLease lost.body agent.nodeId agent.advertise agent.timing nowMs ∧
    lost.body.epoch + 1 = epoch ∧ lost.body.owner ≠ agent.nodeId ∧
    lost.body.isExpiredAt nowMs = true ∧ lost.body.expiresMs ≠ 0

/-- An acquisition that opens an epoch finds another node's record, and not a released one. -/
def opensLost (agent : Agent) (system : System) : Label → Bool
  | .deliver index _ =>
    match system.tasks[index]? with
    | some ⟨_, .step (.bucket .acquire (.put name body _)) _⟩ =>
      (system.world.bucket name).current.all fun found =>
        decide (found.body.epoch < body.epoch →
          found.body.owner ≠ agent.nodeId ∧ found.body.expiresMs ≠ 0)
    | _ => true
  | _ => true

/-! ### Turns of a pass -/

def ending (text : String) : List Char := text.toList.reverse.take 12

theorem ending_append {front : String} {last : List Char} (long : 12 ≤ last.length) :
    ending (front ++ String.ofList last) = last.reverse.take 12 := by
  unfold ending
  rw [String.toList_append, String.toList_ofList, List.reverse_append,
    List.take_append_of_le_length]
  rwa [List.length_reverse]

theorem ending_coldBooted (name : String) :
    ending (coldBooted name) = "acceptable.".toList.reverse ++ [' '] :=
  (ending_append (by decide)).trans (by decide)

theorem coldBooted_injective {name other : String} (same : coldBooted name = coldBooted other) :
    name = other := by
  unfold coldBooted at same
  simpa [← String.toList_inj, toString] using same

/-- A program that applies the loss policy to no session. -/
abbrev Lossless {α : Type} (program : NodeProg α) : Prop :=
  program.Emits fun act : NodeAct => ∀ name, ¬ act.appliesLoss name

namespace Lossless

variable {agent : Agent} {α β : Type} {program : NodeProg α}

theorem of_silent {may : NodeAct → Bool}
    (records : ∀ event, may (.journal (.insertEvent event)) = false)
    (reports : ∀ name, may (.reportHold name) = false)
    (emits : program.Emits fun act : NodeAct => may act = true) : Lossless program := by
  refine Emits.mono (fun act does => ?_) emits
  cases act with
  | journal query => cases query <;> first | exact fun _ => id | cases (records _).symm.trans does
  | reportHold name => cases (reports name).symm.trans does
  | _ => exact fun _ => id

theorem consults : Consults program → Lossless program := of_silent (fun _ => rfl) fun _ => rfl

theorem keeping : Keeping program → Lossless program := of_silent (fun _ => rfl) fun _ => rfl

theorem act {act : NodeAct} (other : ∀ name, ¬ act.appliesLoss name) :
    Lossless (perform act) :=
  ⟨other, fun _ => trivial⟩

theorem record {event : EventRow} (other : event.type ≠ .degradation) :
    Lossless (Events.record event) :=
  ⟨fun _ applied => other applied.1, fun _ => trivial⟩

/-- No text that ends otherwise says that a session was started cold. -/
theorem degradation {instanceId opId front back : String} {last : List Char}
    (spelt : back = String.ofList last) (long : 12 ≤ last.length)
    (other : last.reverse.take 12 ≠ "acceptable.".toList.reverse ++ [' ']) :
    Lossless (Events.degradation instanceId opId (front ++ back)) := by
  refine ⟨fun name applied => other ?_, fun _ => trivial⟩
  rw [← @ending_append front last long, ← spelt, ← ending_coldBooted name]
  exact congrArg ending applied.2

theorem submit {kind : OpKind} {instanceId key : String} {payload : OpPayload} :
    Lossless (submit agent kind instanceId key payload) := by
  refine Emits.bind ?_ fun outcome => ?_
  · refine emits_submitClaiming (fun act isConsult => (consults (Consults.act isConsult)).1) ?_
      (fun _ _ => id) fun _ _ _ _ _ => id
    rintro event (⟨_, ⟨⟩⟩ | other) name ⟨degrades, -⟩
    cases other.symm.trans degrades
  · split <;> trivial

theorem selfFence (name instanceId : String) : Lossless (selfFence agent name instanceId) := by
  refine Emits.bind (record (by rintro ⟨⟩)) fun _ => ?_
  split
  · exact degradation rfl (by decide) (by decide)
  · exact Emits.bind submit fun _ => trivial

theorem fenceAll (fenced : List (String × String)) : Lossless (fenceAll agent fenced) := by
  induction fenced with
  | nil => trivial
  | cons entry rest ih =>
    refine Emits.bind (Emits.bind (act fun _ => id) fun _ =>
      Emits.bind (selfFence ..) fun _ => ?_) fun _ => ih
    split
    · exact act fun _ => id
    · refine Emits.bind (act fun _ => id) fun found => ?_
      split
      · exact act fun _ => id
      · trivial

theorem renewAll (names : List String) (acc : Renewals) : Lossless (renewAll agent names acc) := by
  induction names generalizing acc with
  | nil => trivial
  | cons name rest ih => exact Emits.bind (keeping (.renew ..)) fun _ => ih _

theorem reportOutage (reachedBucket : Bool) : Lossless (reportOutage agent reachedBucket) := by
  have announced (held : List (String × Held)) : Lossless (announceOutage agent held) := by
    induction held with
    | nil => trivial
    | cons entry rest ih => exact Emits.bind (degradation rfl (by decide) (by decide)) fun _ => ih
  refine Emits.bind (act fun _ => id) fun due => ?_
  split
  · exact Emits.bind (act fun _ => id) fun _ => announced _
  · trivial

theorem journalState (instanceId : String) : Lossless (journalState instanceId) := by
  unfold Node.journalState
  split
  · trivial
  · refine Emits.bind (act fun _ => id) fun found => ?_
    split <;> trivial

theorem releaseSweep (desired : List String) (report : PassReport) :
    Lossless (releaseSweep agent desired report) := by
  have reacquired (rows : List HeldLeaseRow) (candidates : List (String × Held)) :
      Lossless (reacquire agent desired rows candidates) := by
    induction rows generalizing candidates with
    | nil => trivial
    | cons row rest ih =>
      unfold Node.reacquire
      split
      · exact ih _
      · refine Emits.bind (keeping (.reacquire _)) fun outcome => ?_
        split
        · exact ih _
        · exact ih _
        · trivial
  have swept (candidates : List (String × Held)) (report : PassReport) :
      Lossless (sweepAll agent desired candidates report) := by
    induction candidates generalizing report with
    | nil => trivial
    | cons entry rest ih =>
      refine Emits.bind (Emits.bind (journalState _) fun found => ?_) fun _ => ih _
      split
      · trivial
      · split
        · trivial
        · exact Emits.bind submit fun _ => trivial
        · exact keeping (.release ..)
  refine Emits.bind (act fun _ => id) fun held => Emits.bind (act fun _ => id) fun journaled =>
    Emits.bind (reacquired ..) fun candidates => ?_
  split
  · trivial
  · exact swept ..

theorem desired : Lossless (desired agent) := by
  have read (locations : List String) (set : DesiredSet) :
      Lossless (readDesired agent locations set) := by
    induction locations generalizing set with
    | nil => trivial
    | cons location rest ih =>
      refine Emits.bind (act fun _ => id) fun found => ?_
      split
      · trivial
      · exact ih _
  refine Emits.bind (act fun _ => id) fun listed => ?_
  split
  · trivial
  · exact read ..

theorem reconcileVanished : Lossless (reconcileVanished agent) := by
  have counted (present running : List String) (counts : List (String × Nat)) :
      Lossless (countVanished present running counts) := by
    induction running generalizing counts with
    | nil => trivial
    | cons id rest ih =>
      unfold Node.countVanished
      dsimp only
      split
      · exact ih _
      split
      · exact ih _
      refine Emits.bind (Emits.bind (Emits.bind (act fun _ => False.elim) fun written => ?_)
        fun failed => ?_) fun gone => Emits.bind (ih _) fun _ => trivial
      · split <;> trivial
      · split
        · trivial
        · exact Emits.bind (record (by rintro ⟨⟩)) fun _ =>
            Emits.bind (degradation rfl (by decide) (by decide)) fun _ => trivial
  have stamped (ids : List String) : Lossless (stampAll ids) := by
    induction ids with
    | nil => trivial
    | cons id rest ih => exact Emits.bind (keeping (.stamp _)) fun _ => ih
  unfold Node.reconcileVanished
  split
  · trivial
  refine Emits.bind (act fun _ => id) fun present => ?_
  split
  · trivial
  refine Emits.bind (act fun _ => id) fun rows => ?_
  split
  · trivial
  exact Emits.bind (act fun _ => id) fun counts => Emits.bind (counted ..) fun _ =>
    Emits.bind (act fun _ => id) fun _ => stamped _

end Lossless

section Turns

variable {agent : Agent} {α : Type} {history : NodeTrace} {name : String} {held : Held}
  {may : Prop} {Q : α → Prop}

/-- What a naming of the session's instance leaves of the count. -/
def namingCount : Except PassReport PassReport → Nat
  | .ok report | .error report => report.heldWithoutMaterialising

/-- A program that applies the loss policy to one session only, and only where it may. -/
abbrev Sparing (name : String) (may : Prop) (Q : α → Prop) (history : NodeTrace)
    (program : NodeProg α) : Prop :=
  Heeds (fun _ => True) (fun _ (act : NodeAct) => ∀ other, act.appliesLoss other →
    other = name ∧ may) (fun _ => Q) history program

theorem Lossless.sparing {program : NodeProg α} (lossless : Lossless program) :
    Sparing name may (fun _ => True) history program :=
  (Heeds.of_emits lossless fun _ _ _ never other applied => (never other applied).elim).mono
    (fun _ _ => id) fun _ _ _ => trivial

theorem sparing_act {act : NodeAct} {rest : NodeSig.Ans act → NodeProg α}
    (other : ∀ name, ¬ act.appliesLoss name)
    (then_ : ∀ answer later, Sparing name may Q later (rest answer)) :
    Sparing name may Q history ((perform act).bind rest) :=
  (Lossless.act other).sparing.bind fun _ _ _ => then_ ..

theorem sparing_ensureNamed (instanceId recordId : String) (realising : Realising)
    (report : PassReport) :
    Sparing name may (fun outcome => namingCount outcome = report.heldWithoutMaterialising) history
      (ensureNamed agent name held instanceId recordId realising report) := by
  unfold ensureNamed
  split
  · rfl
  refine ⟨fun _ => False.elim, fun _ _ => Heeds.bind
    (Heeds.bind (Lossless.keeping (.onBucket ..)).sparing fun _ answer _ => ?_)
    fun _ _ same => ⟨fun _ => False.elim, fun _ _ => same⟩⟩
  split
  · refine sparing_act (fun _ => id) fun _ _ => sparing_act (fun _ => id) fun _ _ => ?_
    split
    · exact Heeds.bind (Lossless.degradation rfl (by decide) (by decide)).sparing fun _ _ _ => rfl
    · rfl
  · exact sparing_act (fun _ => id) fun _ _ => Heeds.bind (Lossless.selfFence ..).sparing
      fun _ _ _ => rfl
  · rfl

theorem sparing_materialise (spec : InstanceSpec) (epoch : Nat) {coldBoot : Bool}
    (cold : coldBoot = true → may) : Sparing name may (fun _ => True) history
      (materialise agent name spec epoch coldBoot) := by
  refine sparing_act (fun _ => id) fun known _ => ?_
  split
  · trivial
  refine Heeds.bind Lossless.submit.sparing fun _ outcome _ => ?_
  split
  · trivial
  refine Heeds.bind (Q := fun _ _ => True) ?_ fun _ _ _ => trivial
  unfold whenever
  split
  · next started =>
      exact ⟨fun other applied => ⟨(coldBooted_injective applied.2).symm, cold started.1⟩,
        fun _ _ => trivial⟩
  · trivial

theorem sparing_holdWithout (holdsReported : List String) (instanceId : String) (holds : may) :
    Sparing name may (fun _ => True) history (holdWithout holdsReported name instanceId) := by
  unfold holdWithout
  split
  · trivial
  · exact ⟨fun other applied => ⟨applied.symm, holds⟩, fun _ _ =>
      (Lossless.degradation rfl (by decide) (by decide)).sparing⟩

/-- A pass applies the loss policy to the session whose turn it is, under a lease past its first
epoch, and counts no session held otherwise. -/
theorem sparing_realise (holdsReported : List String) (want : Desired) (report : PassReport) :
    Sparing want.name (1 < held.lease.epoch) (fun later =>
      later.heldWithoutMaterialising = report.heldWithoutMaterialising ∨ 1 < held.lease.epoch)
        history
      (realise agent holdsReported want held report) := by
  unfold realise
  split
  · exact .inl rfl
  refine Heeds.bind (Lossless.journalState _).sparing fun _ record _ =>
    Heeds.bind (Lossless.journalState _).sparing fun _ lease _ => ?_
  split
  · refine Heeds.bind (Q := fun _ _ => True) ?_ fun _ id _ => ?_
    · unfold realisingId
      split
      · trivial
      · trivial
      · exact sparing_act (fun _ => id) fun _ _ => trivial
    unfold realiseSpec
    split
    · exact Heeds.bind (Lossless.degradation rfl (by decide) (by decide)).sparing
        fun _ _ _ => .inl rfl
    refine sparing_act (fun _ => False.elim) fun realised _ => ?_
    split
    · exact .inl rfl
    · exact .inl rfl
    · next holds =>
        have later := of_decide_eq_true (intentFor_takenOver (.inl holds))
        exact (sparing_holdWithout _ _ later).bind fun _ _ _ => .inr later
    · next coldBoot materialises =>
        refine (sparing_ensureNamed ..).bind fun _ outcome same => ?_
        split
        · exact .inl same
        · refine (sparing_materialise _ _ fun cold => ?_).bind fun _ done _ => ?_
          · rw [cold] at materialises
            exact of_decide_eq_true (intentFor_takenOver (.inr materialises))
          · split <;> exact .inl same
  · exact .inl rfl

theorem counted_custody (report : PassReport) : Heeds (fun _ => True) (fun _ _ => True)
    (fun _ custody => custody.counted = report.heldWithoutMaterialising) history
    (custodyOf agent name report) := by
  have free {β : Type} (program : NodeProg β) (history : NodeTrace) :
      Heeds (fun _ => True) (fun _ _ => True) (fun _ _ => True) history program :=
    (Heeds.grows ..).mono (fun _ _ _ => trivial) fun _ _ _ => trivial
  refine Heeds.bind (free ..) fun _ leases _ => ?_
  split
  · rfl
  refine ⟨trivial, fun _ _ => Heeds.bind (Heeds.bind (free ..) fun _ nowMs _ =>
    Heeds.bind (free ..) fun _ outcome _ => ?_) fun _ _ same => ⟨trivial, fun _ _ => same⟩⟩
  split
  · refine Heeds.bind (free ..) fun _ journaled _ => ?_
    split
    · exact Heeds.bind (free ..) fun _ _ _ => rfl
    · exact Heeds.bind (free ..) fun _ _ _ => rfl
  · rfl
  · rfl

def Applied (agent : Agent) (history : NodeTrace) (act : NodeAct) : Prop :=
  ∀ name, act.appliesLoss name → ∃ held, TookTurn agent history name held ∧ 1 < held.lease.epoch

theorem Lossless.applied {program : NodeProg α} (lossless : Lossless program) :
    Heeds (fun _ => True) (Applied agent) (fun _ _ => True) history program :=
  (Heeds.of_emits lossless fun _ _ _ never name applied => (never name applied).elim).mono
    (fun _ _ => id) fun _ _ _ => trivial

theorem TookTurn.grown {later : NodeTrace} (took : TookTurn agent history name held)
    (grown : history <+: later) : TookTurn agent later name held := by
  obtain ⟨report, final, within, inside, ran⟩ := took
  exact ⟨report, final, within, inside.trans grown.isInfix, ran⟩

theorem applied_takeTurn (holdsReported : List String) (want : Desired) (report : PassReport) :
    Heeds (fun _ => True) (Applied agent) (fun last (value : PassReport × Bool) =>
      value.1.heldWithoutMaterialising = report.heldWithoutMaterialising ∨
        ∃ held, TookTurn agent last want.name held ∧ 1 < held.lease.epoch) history
      (takeTurn agent holdsReported want report) := by
  have custody : Heeds (fun _ => True) (Applied agent) (fun _ _ => True) history
      (custodyOf agent want.name report) := (Lossless.keeping (.custody ..)).applied
  refine Heeds.bind (((custody.and (Heeds.grows _ history)).and (counted_custody report)).mono
    (fun _ _ holds => holds.1.1) fun _ _ => id) ?_
  rintro later custody ⟨⟨-, within, rfl, ran⟩, same⟩
  split
  · next held final =>
      have took : TookTurn agent (history ++ within) want.name held :=
        ⟨report, final, within, (List.suffix_append ..).isInfix, ran⟩
      refine Heeds.bind (((sparing_realise holdsReported want final).and (Heeds.grows _ _)).mono ?_
        fun _ _ => id) ?_
      · rintro later act ⟨applies, grown⟩ name applied
        obtain ⟨rfl, past⟩ := applies name applied
        exact ⟨held, took.grown grown, past⟩
      · rintro last done ⟨counted, later, rfl, -⟩
        rcases counted with counted | past
        · exact .inl (counted.trans same)
        · exact .inr ⟨held, took.grown (List.prefix_append ..), past⟩
  · exact .inl same
  · exact .inl same

theorem applied_pass : Heeds (fun _ => True) (Applied agent) (fun _ _ => True) history
    (pass agent) := by
  have realised (holdsReported : List String) (records : List Desired) (report : PassReport)
      (history : NodeTrace) : Heeds (fun _ => True) (Applied agent) (fun _ _ => True)
        history (realiseAll agent holdsReported records report) := by
    induction records generalizing report history with
    | nil => trivial
    | cons want rest ih =>
      refine (applied_takeTurn ..).bind fun _ value _ => ?_
      obtain ⟨report, goOn⟩ := value
      dsimp only
      split
      · exact ih ..
      · trivial
  refine Heeds.bind (Lossless.act fun _ => id).applied fun _ held _ =>
    Heeds.bind (Lossless.renewAll ..).applied fun _ renewals _ => ?_
  refine Heeds.bind (Q := fun _ _ => True) ?_ fun _ _ _ =>
    Heeds.bind (Lossless.fenceAll _).applied fun _ _ _ => ?_
  · unfold whenever
    split
    · exact (Lossless.reportOutage _).applied
    · trivial
  unfold converge
  split
  · trivial
  refine Heeds.bind (Lossless.act fun _ => id).applied fun _ holdsReported _ =>
    Heeds.bind Lossless.desired.applied fun _ listing _ => ?_
  split
  · trivial
  · exact Heeds.bind (Lossless.releaseSweep ..).applied fun _ _ _ => realised ..

/-- **Whatever applies the loss policy comes in a turn of a pass**, under a lease past its first
epoch. -/
theorem tick_applies {trace : NodeTrace} {act : NodeAct}
    {inner : NodeSig.Ans act → NodeProg Unit}
    (reached : After (tick agent) trace (.step act inner)) : Applied agent trace act := by
  have applied : Heeds (fun _ => True) (Applied agent) (fun _ _ => True) [] (tick agent) := by
    refine Heeds.bind (Lossless.act fun _ => id).applied fun _ _ _ =>
      Heeds.bind Lossless.reconcileVanished.applied fun _ _ _ =>
      Heeds.bind (Lossless.act fun _ => id).applied fun _ joined _ =>
      Heeds.bind (Q := fun _ _ => True) ?_ fun _ _ _ => (Lossless.act fun _ => id).applied
    unfold whenever
    split
    · exact applied_pass.bind fun _ _ _ => trivial
    · trivial
  exact (applied.after reached fun _ _ => trivial).1

end Turns

/-! ### Records of this node's -/

def Succeeds (agent : Agent) (lease : Lease) : Option Lease → Prop
  | none => lease.epoch = 1
  | some prev =>
    (prev.owner = agent.nodeId ∧ prev.epoch = lease.epoch) ∨
    ∃ nowMs, lease = nextLease prev agent.nodeId agent.advertise agent.timing nowMs ∧
      prev.epoch + 1 = lease.epoch ∧ prev.owner ≠ agent.nodeId ∧
      prev.isExpiredAt nowMs = true ∧ prev.expiresMs ≠ 0

def Lineal (agent : Agent) : List (Entry Lease UpdateVersion) → Prop
  | [] => True
  | entry :: older =>
    (entry.body.owner = agent.nodeId →
      Succeeds agent entry.body (older.head?.map Entry.body)) ∧ Lineal agent older

theorem Lineal.lostOwner {agent : Agent} {log : List (Entry Lease UpdateVersion)}
    (lineal : Lineal agent log) {entry : Entry Lease UpdateVersion} (member : entry ∈ log)
    (own : entry.body.owner = agent.nodeId) (later : 1 < entry.body.epoch) :
    LostOwner agent log entry.body.epoch := by
  induction log generalizing entry with
  | nil => cases member
  | cons head older ih =>
    obtain ⟨succeeds, lineal⟩ := lineal
    have deeper : ∀ {entry}, entry ∈ older → entry.body.owner = agent.nodeId →
        1 < entry.body.epoch → LostOwner agent (head :: older) entry.body.epoch := by
      intro entry member own later
      obtain ⟨newer, opening, lost, oldest, nowMs, split, opened⟩ := ih lineal member own later
      exact ⟨head :: newer, opening, lost, oldest, nowMs, by rw [split]; rfl, opened⟩
    rcases List.mem_cons.mp member with rfl | past
    · have succeeds := succeeds own
      cases older with
      | nil =>
        rw [show entry.body.epoch = 1 from succeeds] at later
        exact absurd later (Nat.lt_irrefl 1)
      | cons prev oldest =>
        rcases succeeds with ⟨ours, sameEpoch⟩ | ⟨nowMs, written, next, other, expired, unreleased⟩
        · rw [← sameEpoch] at later ⊢
          exact deeper List.mem_cons_self ours later
        · exact ⟨[], entry, prev, oldest, nowMs, rfl, written, next, other, expired, unreleased⟩
    · exact deeper past own later

/-! ### Runs -/

section Runs

variable {agent : Agent} {etags : LeaseVersioning}
  {Ok : Cell Lease UpdateVersion → Prop} {labels : List Label} {system after : System}
  {label : Label}

def LinealHistories (agent : Agent) (Ok : Cell Lease UpdateVersion → Prop)
    (bucket : Objects String Lease UpdateVersion) : Prop :=
  ∀ name, Ok (bucket name) ∧ Lineal agent (bucket name).log

theorem based_succeeds {bucket : Objects String Lease UpdateVersion} {name : String} {body : Lease}
    {mode : PutMode UpdateVersion} {origin : Origin} (identify : (bucket name).VersionsIdentify)
    (based : Based agent bucket name body mode origin) (own : body.owner = agent.nodeId)
    (admitted : (bucket name).admits mode = true)
    (opens : origin = .acquire → ∀ found, (bucket name).current = some found →
      found.body.epoch < body.epoch → found.body.owner ≠ agent.nodeId ∧ found.body.expiresMs ≠ 0) :
    Succeeds agent body ((bucket name).log.head?.map Entry.body) := by
  have continued : ∀ {held : Held}, Evident leaseCodec bucket name held →
      mode = .update held.version → held.lease.owner = body.owner →
      held.lease.epoch = body.epoch →
      Succeeds agent body ((bucket name).log.head?.map Entry.body) := by
    intro held evident isUpdate sameOwner sameEpoch
    rw [isUpdate] at admitted
    obtain ⟨found, current, sameBody⟩ := identify.base_current evident admitted
    rw [show (bucket name).log.head? = some found from current, Option.map_some, sameBody]
    exact .inl ⟨sameOwner.trans own, sameEpoch⟩
  cases origin with
  | renew held | stampState held | giveBack held | setInstance held | release held =>
    obtain ⟨evident, isUpdate, kept⟩ := based
    exact continued evident isUpdate (by rw [kept]) (by rw [kept])
  | acquire =>
    rcases based with ⟨rfl, nowMs, rfl⟩ | ⟨prev, version, nowMs, known, rfl, rfl, may⟩
    · rw [Cell.admits_create_iff.mp admitted]
      rfl
    · obtain ⟨found, current, sameBody⟩ := identify.base_current known admitted
      have opens := opens rfl found current
      rw [show (bucket name).log.head? = some found from current, Option.map_some]
      simp only [show found.body = prev from sameBody] at opens ⊢
      by_cases renews : prev.owner = agent.nodeId ∧ prev.isExpiredAt nowMs = false
      · exact .inl ⟨renews.1, (if_pos renews).symm⟩
      · have next : (nextLease prev agent.nodeId agent.advertise agent.timing nowMs).epoch =
            prev.epoch + 1 := if_neg renews
        obtain ⟨other, unreleased⟩ := opens (by rw [next]; exact Nat.lt_succ_self _)
        exact .inr ⟨nowMs, rfl, next.symm, other, may.resolve_right other, unreleased⟩
  | resolve => exact based.elim
  | peer => exact absurd own based

theorem LinealHistories.step (sound : etags.Sound Ok)
    (lineal : LinealHistories agent Ok system.world.bucket)
    (reached : System.reach agent etags labels = some system)
    (stepped : System.next agent etags system label = some after)
    (opens : opensLost agent system label = true) :
    LinealHistories agent Ok after.world.bucket := by
  rcases System.bucket_cases stepped with
    same | ⟨index, choice, origin, name, body, mode, version, rfl, writes⟩
  · rw [same]
    exact lineal
  obtain ⟨role, continuation, found⟩ := writes.found
  obtain ⟨answer, executed, -⟩ := writes.executed
  obtain ⟨based, -⟩ := reach_based reached found executed
  intro other
  rw [writes.written]
  by_cases same : other = name
  · subst same
    rw [Function.update_self]
    obtain ⟨governed, lineage⟩ := lineal other
    refine ⟨sound.write governed writes.issued, fun ours => ?_, lineage⟩
    refine based_succeeds (sound.identify governed) based ours writes.admitted ?_
    rintro rfl current isCurrent
    simp only [opensLost, found, isCurrent, Option.all_some, decide_eq_true_eq] at opens
    exact opens
  · rw [Function.update_of_ne same]
    exact lineal other

end Runs

/-- **The loss policy is about a lost owner**, in every run in which each epoch this node opens
follows another node's unreleased record. Whenever a pass comes to report a hold or to record a
cold boot, and whenever a turn of a pass counts its session as held, the lease in hand in that
session's turn has an epoch that this node opened over another node's record, after it had
expired unreleased. -/
theorem loss_policy_about_lost_owner {agent : Agent} {etags : LeaseVersioning}
    {Ok : Cell Lease UpdateVersion → Prop} (sound : etags.Sound Ok) (labels : List Label)
    (system : System) (reached : System.reach agent etags labels = some system)
    (opens : Along (System.next agent etags)
      (fun before label _ => opensLost agent before label = true) System.initial labels)
    (index : Nat) :
    (∀ act continuation name, system.tasks[index]? = some ⟨.tick, .step act continuation⟩ →
      act.appliesLoss name →
      ∃ held, TookTurn agent (System.traces agent etags labels index) name held ∧
        LostOwner agent (system.world.bucket name).log held.lease.epoch) ∧
    ∀ holdsReported want report within later goOn,
      within <:+: System.traces agent etags labels index →
      Ran (takeTurn agent holdsReported want report) within (later, goOn) →
      later.heldWithoutMaterialising ≠ report.heldWithoutMaterialising →
      ∃ held, TookTurn agent within want.name held ∧
        LostOwner agent (system.world.bucket want.name).log held.lease.epoch := by
  have lineal := opens.invariant_run
    (I := fun current => LinealHistories agent Ok current.world.bucket)
    (fun reached _ lineal stepped opens => lineal.step sound reached stepped opens)
    (show LinealHistories agent Ok System.initial.world.bucket from fun _ =>
      ⟨sound.empty, trivial⟩) reached
  have lost {name : String} {held : Held}
      (turn : TookTurn agent (System.traces agent etags labels index) name held)
      (past : 1 < held.lease.epoch) : LostOwner agent (system.world.bucket name).log
        held.lease.epoch := by
    obtain ⟨report, final, within, inTrace, ran⟩ := turn
    have proved : Proved (System.traces agent etags labels index) name held :=
      Heeds.after (@backed_custody agent _ [] name report) ran inTrace.subset held final rfl
    obtain ⟨evident, own⟩ := proved.ownEntry ((reach_traced reached).happened index)
    exact (lineal name).2.lostOwner evident own past
  constructor
  · intro act continuation name found applies
    obtain ⟨held, turn, past⟩ := tick_applies (System.next_residual reached found) name applies
    exact ⟨held, turn, lost turn past⟩
  · intro holdsReported want report within later goOn inTrace ran counted
    have applied := (@applied_takeTurn agent [] holdsReported want report).after ran
      fun _ _ => trivial
    obtain ⟨held, turn, past⟩ := applied.resolve_left counted
    have inTask : TookTurn agent (System.traces agent etags labels index) want.name held := by
      obtain ⟨earlier, final, custody, inTurn, looked⟩ := turn
      exact ⟨earlier, final, custody, inTurn.trans inTrace, looked⟩
    exact ⟨held, turn, lost inTask past⟩

/-! ### Sessions acquired past their first epoch -/

def heldDesired : List DesiredObject := [⟨"s", some ⟨1, "s", [], .hold⟩⟩]

/-- Node `n2` owned session `s` and went silent; node `n1` takes it over, and is about to report
that it holds the session. -/
def takenOver : List Label :=
  .desire heldDesired :: .peer ⟨"s", .acquire "n2" "b" .default 0⟩ :: System.drive 0 0 0 2 ++
    .boot 20000 :: System.drive 1 20000 2 4 ++ .tick :: System.drive 2 20000 6 18

/-- Whether the task at an index is a pass about to report a hold of a session. -/
def holding (name : String) (system : System) (index : Nat) : Bool :=
  match system.tasks[index]? with
  | some ⟨.tick, .step (.reportHold session) _⟩ => session = name
  | _ => false

theorem loss_policy_about_lost_owner_taken :
    ∃ (system : System) (held : Held), System.reach .plain freshVersions takenOver = some system ∧
      holding "s" system 2 = true ∧
      TookTurn .plain (System.traces .plain freshVersions takenOver 2) "s" held ∧
      LostOwner .plain (system.world.bucket "s").log held.lease.epoch := by
  have run : ((System.reach .plain freshVersions takenOver).any fun system =>
      decide (holding "s" system 2 = true)) = true := by decide +kernel
  obtain ⟨system, reached, holds⟩ := exists_of_any run
  have opens : Along (System.next .plain freshVersions)
      (fun before label _ => opensLost .plain before label = true) System.initial takenOver := by
    decide +kernel
  have holding := holds
  unfold Node.holding at holding
  split at holding
  · next session continuation found =>
      obtain ⟨held, turn, lost⟩ :=
        (loss_policy_about_lost_owner freshVersions_sound _ system reached
        opens 2).1 _ continuation "s" found (show session = "s" from of_decide_eq_true holding)
      exact ⟨system, held, reached, holds, turn, lost⟩
  · cases holding

/-- Node `n1` owns session `s`, dies creating its instance, and comes back after its lease has
lapsed. No other node is ever there. -/
def lapsedOwner : List Label :=
  .desire heldDesired :: .boot 0 :: System.drive 0 0 0 4 ++ .tick :: System.drive 1 0 4 31 ++
    .crash :: .boot 20000 :: System.drive 2 20000 35 9 ++ .tick :: System.drive 3 20000 44 23

/-- A node that comes back to its own lapsed lease holds the session without materialising it. -/
theorem lapsed_owner_holds : ∃ system, System.reach .plain freshVersions lapsedOwner = some system ∧
      system.world.holdsReported = ["s"] ∧
      (system.world.held["s"]?).map (fun held => held.lease.epoch) = some 2 ∧
      ∀ entry ∈ (system.world.bucket "s").log, entry.body.owner = "n1" :=
  exists_of_any (by decide +kernel)

end Barista.Node
