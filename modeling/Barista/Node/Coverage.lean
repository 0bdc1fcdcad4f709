import Barista.Node.CriticalSections

/-!
Contract: every task of the node keeps its conduct, in every reachable state.

Owns: the handover of an operation from its submitter to its executor, the obligations of
the executor, of crash recovery and of the tick, and the coverage of every run.
-/

namespace Barista.Node

open Foundation Fleet Discipline

/-! ### Submissions -/

structure Handing (index : Nat) (before after : World) : Prop where
  executing : ∀ executor, Executing index executor before → Executing index executor after
  stage : after.stage = before.stage
  ticking : after.ticking = before.ticking
  writing : after.writing = before.writing
  held : after.held = before.held
  acked : after.aux.acked = before.aux.acked

section Submission

variable {agent : Agent} {etags : LeaseVersioning} {permit : Permit}
  {index : Nat} {role : Role} {before after : World} {choice : Choice}
  {A : Std.TreeMap String Held → (String → Option Held) → Prop}

theorem Stance.handing (stance : Stance permit index role before)
    (handing : Handing index before after) : Stance permit index role after where
  up := by rw [handing.stage]; exact stance.up
  executing may executor isExecutor :=
    handing.executing executor (stance.executing may executor isExecutor)
  submits may := by rw [handing.ticking, handing.stage]; exact stance.submits may
  ticks may := by rw [handing.ticking]; exact stance.ticks may
  joined may := by rw [handing.stage]; exact stance.joined may
  boots may := by rw [handing.ticking, handing.stage]; exact stance.boots may
  fails may := by rw [handing.ticking]; exact stance.fails may

theorem InLock.handing (inLock : InLock permit index role A before)
    (handing : Handing index before after) : InLock permit index role A after := by
  refine ⟨inLock.stance.handing handing, ?_, ?_, ?_⟩
  · rw [handing.stage, inLock.joined]
  · rw [handing.writing, inLock.writing]
  · rw [handing.held, handing.acked]
    exact inLock.leases

theorem recorded_planned {journal : Journal} {args : SubmitArgs} {recorded : InstanceState}
    (planned : journal.plannedState args = .ok recorded) :
    recorded = args.transitional ∨ ∃ source, args.plan source = some recorded := by
  unfold Journal.plannedState at planned
  split at planned
  · cases planned
  · cases planned
    exact .inl rfl
  · cases planned
  · next row _ _ =>
      split at planned
      · next chosen =>
          cases planned
          exact .inr ⟨row.state, chosen⟩
      · cases planned

theorem journaled_step {args : SubmitArgs} {payload : OpPayload} {recorded : InstanceState}
    {journal : Journal} {nowMs : Int} (claims : Claims before)
    (kind : args.kind = payload.kind) (text : args.payload = payloadDescriptor payload)
    (transitional : args.transitional = args.kind.states.1)
    (plan : args.plan = planTransition args.kind args.kind.states.1) (queued : args.state = .queued)
    (creating : args.createSpec ≠ none → args.transitional = .creating)
    (ran : before.journal.submitAtomically args nowMs = .ok (.journaled recorded, journal))
    (written : after = { before with
      journal := journal
      aux := (before.aux.putInCharge args.opId (.submitter index)).record args.opId recorded }) :
    Claims after ∧ Handing index before after ∧
      Submitting index ⟨args.kind, Journal.newOperation args, payload, recorded⟩ after ∧
      ∀ executor, Claimed before.journal executor → Claimed after.journal executor ∧
        after.aux.charge executor.op.opId = before.aux.charge executor.op.opId ∧
        after.aux.recorded executor.op.opId = before.aux.recorded executor.op.opId := by
  subst written
  obtain ⟨planned, idle, appended, fresh, -⟩ := Journal.submitAtomically_journaled ran
  have evolved : before.journal.Evolves journal (fun _ => False)
      fun op => op = Journal.newOperation args :=
    ⟨id, [Journal.newOperation args],
      by simpa using appended, fun op _ => ⟨.refl op, .inl⟩, by simp⟩
  -- No operation had this id, so no other charge is touched.
  have elsewhere : ∀ executor, Claimed before.journal executor → Claimed journal executor ∧
      Function.update before.aux.charge args.opId (some (.submitter index)) executor.op.opId =
        before.aux.charge executor.op.opId ∧
      Function.update before.aux.recorded args.opId (some recorded) executor.op.opId =
        before.aux.recorded executor.op.opId := by
    intro executor claimed
    obtain ⟨op, member, opId, instanceId, -, active⟩ := claimed.journaled
    have differs : executor.op.opId ≠ args.opId := opId ▸ fresh op member
    refine ⟨claimed.evolves evolved (fun _ _ => id) ?_, Function.update_of_ne differs _ _,
      Function.update_of_ne differs _ _⟩
    rcases Journal.submitAtomically_stateOf ran executor.op.instanceId with
      same | ⟨_, -, -, sameInstance, -⟩ | created
    · exact .inl same
    · have inactive := hasInflightOp_false idle op member (instanceId.trans sameInstance)
      rw [active] at inactive
      cases inactive
    · exact .inr (.inr created)
  refine ⟨⟨claims.owned.submitAtomically ran, ?_, ?_, claims.distinct⟩,
    ⟨?_, rfl, rfl, rfl, rfl, rfl⟩,
    ⟨⟨kind, ?_⟩, ?_, Function.update_self .., Function.update_self ..⟩, elsewhere⟩
  · refine unparked_evolves claims.unparked evolved ?_
    rintro op rfl
    rw [show (Journal.newOperation args).state = args.state from rfl, queued]
    decide
  · intro executor member
    obtain ⟨planned, claimed, charge, noted⟩ := claims.queued executor member
    obtain ⟨stands, same, sameNote⟩ := elsewhere executor claimed
    exact ⟨planned, stands, same.trans charge, sameNote.trans noted⟩
  · intro executor executing
    obtain ⟨stands, same, sameNote⟩ := elsewhere executor executing.claimed
    exact ⟨executing.planned, stands, same.trans executing.charge, sameNote.trans executing.noted⟩
  · have recordedSo := recorded_planned planned
    rw [transitional, plan] at recordedSo
    exact recordedSo
  · have listed : Journal.newOperation args ∈ journal.operations.rows := by
      rw [appended]
      exact List.mem_append_right _ List.mem_cons_self
    refine ⟨⟨_, listed, rfl, rfl, rfl, rfl⟩, ?_, _, listed, rfl, text⟩
    have read := Journal.submitAtomically_recorded ran
    simp only [AsRecorded, Journal.newOperation]
    rcases read with ⟨-, moved⟩ | ⟨creates, isTransitional, absent | created⟩
    · rw [moved]
      exact .inl rfl
    · rw [absent, isTransitional]
      exact creating creates
    · rw [created, isTransitional]
      exact .inl (creating creates).symm

theorem spawned_step {executor : Executor} (claims : Claims before)
    (submitting : Submitting index executor before) (written : after = { before with
      spawned := before.spawned ++ [executor]
      aux := before.aux.putInCharge executor.op.opId .queue }) :
    Claims after ∧ Handing index before after ∧
      ∀ opId, after.aux.charge opId = before.aux.charge opId ∨
        before.aux.charge opId = some (.submitter index) := by
  subst written
  have elsewhere : ∀ opId charge, before.aux.charge opId = some charge → charge ≠ .submitter index →
      (before.aux.putInCharge executor.op.opId .queue).charge opId = some charge := by
    intro opId charge charged other
    refine (Function.update_of_ne ?_ _ _).trans charged
    rintro rfl
    rw [submitting.charge] at charged
    exact other (Option.some.inj charged).symm
  refine ⟨⟨claims.owned, claims.unparked, ?_, ?_⟩, ⟨?_, rfl, rfl, rfl, rfl, rfl⟩, ?_⟩
  · intro other member
    rcases List.mem_append.mp member with old | new
    · obtain ⟨planned, claimed, charge, noted⟩ := claims.queued other old
      exact ⟨planned, claimed, elsewhere _ _ charge nofun, noted⟩
    · rw [List.mem_singleton.mp new]
      exact ⟨submitting.planned, submitting.claimed, Function.update_self .., submitting.noted⟩
  · rw [List.map_append, List.nodup_append]
    refine ⟨claims.distinct, by simp, ?_⟩
    intro opId old other new same
    obtain ⟨queued, member, rfl⟩ := List.mem_map.mp old
    have named : queued.op.opId = executor.op.opId := by simpa using same.trans (by simpa using new)
    have charge := (claims.queued queued member).2.2.1
    rw [named, submitting.charge] at charge
    cases charge
  · intro other executing
    exact ⟨executing.planned, executing.claimed, elsewhere _ _ executing.charge nofun,
      executing.noted⟩
  · intro opId
    by_cases same : opId = executor.op.opId
    · exact .inr (same ▸ submitting.charge)
    · exact .inl (Function.update_of_ne same _ _)

structure Submittable (index : Nat) (role : Role) (A : World → Prop) : Prop
    extends Acting index role A where
  handing : ∀ {before after}, Handing index before after → A before → A after
  may : ∀ {world}, A world →
    world.stage ≠ .down ∧ (world.ticking = some index ∨ world.stage ≠ .booting)

theorem submittable_stance (own : role.isPeer = false) (acts : permit.acts = true)
    (submits : permit.submits = true) : Submittable index role (Stance permit index role) :=
  ⟨acting_stance own acts, fun handing stance => stance.handing handing,
    fun stance => ⟨stance.up, stance.submits submits⟩⟩

theorem submittable_inLock (own : role.isPeer = false) (acts : permit.acts = true)
    (submits : permit.submits = true) : Submittable index role (InLock permit index role A) :=
  ⟨⟨steady_inLock own, fun executor isExecutor inLock =>
      inLock.stance.executing acts executor isExecutor⟩,
    fun handing inLock => inLock.handing handing,
    fun inLock => ⟨inLock.stance.up, inLock.stance.submits submits⟩⟩

theorem Handing.leases (handing : Handing index before after) (leases : Leases agent before)
    (up : before.stage ≠ .down) : Leases agent after := by
  constructor
  · rw [handing.held]
    exact leases.held
  · rw [handing.acked]
    exact leases.acked
  · rw [handing.writing, handing.held, handing.acked]
    exact leases.synced
  · rw [handing.stage, handing.acked]
    exact leases.outside
  · rw [handing.stage]
    exact fun down => absurd down up

theorem Handing.kept (handing : Handing index before after)
    (claims : ∀ executor, Claimed before.journal executor → Claimed after.journal executor ∧
      (after.aux.charge executor.op.opId = before.aux.charge executor.op.opId ∨
        before.aux.charge executor.op.opId = some (.submitter index)) ∧
      after.aux.recorded executor.op.opId = before.aux.recorded executor.op.opId)
    (may : before.ticking = some index ∨ before.stage ≠ .booting)
    (reading : after.aux.reading = before.aux.reading) : Kept index before after where
  claims executor claimed := ⟨.inl (claims executor claimed).1, (claims executor claimed).2⟩
  lock _ := ⟨.inl handing.writing, handing.held, handing.acked⟩
  tick other := ⟨.inl handing.ticking, handing.stage, by rw [handing.held]; exact fun _ => id,
    fun booting => absurd booting (may.resolve_left other)⟩
  stage _ := handing.stage
  up up := by rwa [handing.stage]
  reading _ _ := by rw [reading]

section Programs

variable {A : World → Prop} {world : World}

theorem acting_submitting (acting : Acting index role A) (executor : Executor) :
    Acting index role fun current => A current ∧ Submitting index executor current where
  own := acting.own
  relied relied known := ⟨acting.relied relied known.1, known.2.relied relied⟩
  quiet quiet known := ⟨acting.quiet quiet known.1, known.2.quiet quiet⟩
  executing executor isExecutor known := acting.executing executor isExecutor known.1

theorem wp_launch (submittable : Submittable index role A) {executor : Executor}
    (announce : String → List EventRow) (holds : A world ∧ Submitting index executor world) :
    (conduct agent etags).wp index role
      (launch executor.kind executor.op executor.payload executor.recorded announce)
      (fun _ => A) world := by
  have acting := acting_submitting submittable.toActing executor
  refine wp_seq (wp_loose acting (Aside.recordAll _).loose holds) ?_
  rintro - current - holds
  refine wp_seq (wp_loose acting (Loose.whenever (Loose.record _)) holds) ?_
  rintro - current - holds
  refine wp_step acting.stable holds ?_
  rintro current choice answer after ⟨holds, submitting⟩ ⟨claims, leases⟩ executed -
  cases executed
  obtain ⟨kept, handing, charges⟩ := spawned_step claims submitting rfl
  obtain ⟨up, may⟩ := submittable.may holds
  exact ⟨⟨kept, handing.leases leases up⟩,
    ⟨handing.kept (fun executor claimed => ⟨claimed, charges _, rfl⟩) may rfl, submitting⟩,
    wp_value submittable.stable (submittable.handing handing holds) fun _ kept => kept⟩

theorem answered_unchanged {args : SubmitArgs} {submission : Submission}
    {journal : Journal} {nowMs : Int}
    (ran : before.journal.submitAtomically args nowMs = .ok (submission, journal))
    (written : after = { before with
      journal := journal, aux := before.aux.query index (.submitAtomically args) submission })
    (answered : ∀ recorded, submission ≠ .journaled recorded) : after = before := by
  rcases Journal.submitAtomically_cases ran with ⟨same, -⟩ | ⟨recorded, _, shape, -⟩
  · cases submission with
    | journaled recorded => exact absurd rfl (answered recorded)
    | _ => rw [written, same]; rfl
  · exact absurd shape (answered recorded)

theorem createSpec_creating {payload : OpPayload} (creates : createSpec payload ≠ none) :
    payload.kind.states.1 = .creating := by
  cases payload <;> first | rfl | exact absurd rfl creates

theorem wp_submitClaiming (submittable : Submittable index role A) (instanceId key : String)
    (payload : OpPayload) (claim : Option Claim) (announce : String → List EventRow)
    (holds : A world) : (conduct agent etags).wp index role
      (submitClaiming agent payload.kind instanceId key payload claim announce)
      (fun _ => A) world := by
  have answered : ∀ {value : Except SubmitError ClaimedSubmission} {current}, A current →
      (conduct agent etags).wp index role (.pure value) (fun _ => A) current :=
    fun holds => wp_value submittable.stable holds fun _ kept => kept
  unfold submitClaiming
  split
  · exact answered holds
  refine wp_seq (wp_loose submittable.toActing (Consults.guestTokenFor payload).aside.loose holds)
    ?_
  rintro token current - holds
  split
  · exact answered holds
  next guestToken =>
  refine wp_seq (wp_loose submittable.toActing (Loose.act rfl) holds) ?_
  rintro opId current - holds
  refine wp_seq (wp_loose submittable.toActing (Loose.act rfl) holds) ?_
  rintro createdAtMs current - holds
  refine wp_seq (wp_loose submittable.toActing
    (Consults.preflight instanceId payload).aside.loose holds) ?_
  rintro refusal current - holds
  split
  · exact answered holds
  refine wp_step submittable.stable holds ?_
  rintro current choice answer after holds ⟨claims, leases⟩ executed -
  -- Every answer but one leaves the world as it was.
  have unchanged : ∀ {value : NodeProg (Except SubmitError ClaimedSubmission)}, after = current →
      Loose value → (conduct agent etags).Inv after ∧
        (conduct agent etags).Guar index role _ answer current after ∧
        (conduct agent etags).wp index role value (fun _ => A) after := by
    rintro value rfl loose
    have quiet : Quiet index after after := .of_same claims.owned rfl rfl rfl rfl rfl rfl rfl
    exact ⟨⟨claims, leases⟩, ⟨quiet.kept, rfl, rfl⟩, wp_loose submittable.toActing loose holds⟩
  rcases query_cases executed with ⟨cause, rfl, same⟩ | ⟨result, journal, rfl, ran, written⟩
  · exact unchanged same .pure
  cases result with
  | journaled recorded =>
    obtain ⟨kept, handing, submitting, elsewhere⟩ :=
      journaled_step claims rfl rfl rfl rfl rfl createSpec_creating ran written
    obtain ⟨up, may⟩ := submittable.may holds
    refine ⟨⟨kept, handing.leases leases up⟩,
      ⟨handing.kept ?_ may (by rw [written]; rfl), rfl, rfl⟩,
      wp_launch submittable announce ⟨submittable.handing handing holds, submitting⟩⟩
    exact fun executor claimed => (elsewhere executor claimed).imp_right fun same =>
      ⟨.inl same.1, same.2⟩
  | replay original =>
    exact unchanged (answered_unchanged ran written nofun) (Consults.checkReplay ..).aside.loose
  | conflict => exact unchanged (answered_unchanged ran written nofun) .pure
  | rejected message => exact unchanged (answered_unchanged ran written nofun) .pure
  | claimSuperseded => exact unchanged (answered_unchanged ran written nofun) .pure

theorem wp_selfFence (submittable : Submittable index role A) (name instanceId : String)
    (holds : A world) :
    (conduct agent etags).wp index role (selfFence agent name instanceId) (fun _ => A) world := by
  have stopping : ∀ {current}, A current → (conduct agent etags).wp index role
      (submit agent .stop instanceId (fenceKey name instanceId) (.stop 5))
      (fun _ => A) current := by
    intro current holds
    refine wp_seq (wp_submitClaiming submittable instanceId _ (.stop 5) none _ holds) ?_
    rintro outcome current - holds
    split <;> exact wp_value submittable.stable holds fun _ kept => kept
  refine wp_seq (wp_loose submittable.toActing (Loose.record _) holds) ?_
  rintro - current - holds
  split
  · exact wp_loose submittable.toActing (Loose.record _) holds
  · refine wp_seq (stopping holds) ?_
    rintro - current - holds
    exact wp_value submittable.stable holds fun _ kept => kept

theorem wp_nameInstance (own : role.isPeer = false) (name : String) {lease : Held}
    (owned : Owned agent lease) (instanceId recordId : String) (realising : Realising)
    (report : PassReport) (holds : Stance .member index role world) :
    (conduct agent etags).wp index role
      (nameInstance agent name lease instanceId recordId realising report)
      (fun _ after => True ∧ Stance .member index role after ∧ after.stage = .joined) world := by
  refine wp_locked own (steady_stance own).stable
    (fun current stance => ⟨stance, stance.joined rfl⟩) holds fun current _ inLock => ?_
  refine wp_put nofun owned (.inr rfl) (steady_inLock own).stable (fun _ inLock => inLock)
    (fun _ inLock => ⟨rfl, rfl, inLock.leases⟩) inLock fun answer current inLock => ?_
  rcases answer with cause | version
  · cases cause with
    | alreadyExists | precondition =>
      refine wp_forget own rfl inLock fun current inLock => ?_
      rw [Prog.pure_bind]
      refine wp_seq (wp_selfFence (submittable_inLock own rfl rfl) name _ inLock) ?_
      rintro - current - inLock
      refine wp_done own trivial ?_ inLock
      rintro _ _ ⟨held, acked, synced, rfl, rfl⟩
      exact synced.erase
    | notFound | unavailable => exact wp_done own trivial (fun _ _ => id) inLock
  · refine wp_row own rfl rfl inLock fun answer current inLock => ?_
    refine wp_hold own owned ?_ (.inl rfl) inLock fun current inLock => ?_
    · rintro held acked ⟨old, -, rfl⟩
      exact Function.update_self ..
    dsimp only [Prog.bind]
    split
    · refine wp_plain (steady_inLock own) rfl rfl inLock fun answer current inLock => ?_
      exact wp_done own trivial (fun _ _ => Synced.rewritten fun _ _ => id) inLock
    · exact wp_done own trivial (fun _ _ => Synced.rewritten fun _ _ => id) inLock

theorem failed_unmoved {id : String} {answer : Except String Int}
    (executed : (nodeMachine etags).exec index (.journal (.setInstanceState id .failed)) choice
      before = some (answer, after)) (other : String) : Unmoved before.journal
        after.journal other := by
  rcases query_cases executed with ⟨_, -, rfl⟩ | ⟨_, _, -, ran, rfl⟩
  · exact .inl rfl
  · cases ran
    rcases Journal.setInstanceState_stateOf before.journal id .failed choice.nowMs other with
      same | ⟨-, there, failed⟩
    · exact .inl same
    · exact .inr (.inl ⟨there, failed⟩)

/-- **Every section of the node keeps its conduct.** -/
theorem wp_section (own : role.isPeer = false)
    (coherent : permit.submits = true → permit.acts = true) {β : Type} {program : NodeProg β}
    {Q : β → Prop} (isSection : Section agent permit (.ofLeases fun _ => Owned agent) program Q)
    (holds : Stance permit index role world) : (conduct agent etags).wp index role program
      (fun value after => Q value ∧ Stance permit index role after) world := by
  have forgetting : ∀ {β : Type} {program : NodeProg β} {Q : β → Prop},
      (conduct agent etags).wp index role program
        (fun value after => Q value ∧ Stance permit index role after ∧
        after.stage = .joined) world →
      (conduct agent etags).wp index role program
        (fun value after => Q value ∧ Stance permit index role after) world :=
    wp_mono fun _ _ _ known => ⟨known.1, known.2.1⟩
  have returned : ∀ {β : Type} {value : β} {current}, Stance permit index role current →
      (conduct agent etags).wp index role (.pure value)
        (fun _ after => True ∧ Stance permit index role after) current :=
    fun stance => wp_value (steady_stance own).stable stance fun _ kept => ⟨trivial, kept⟩
  cases isSection with
  | act act allowed _ =>
    obtain ⟨loose, may⟩ : act.isLoose = true ∧ (act.isRuntime = false ∨ permit.acts = true) := by
      simpa [Permit.allows] using allowed
    rcases may with plain | acts
    · exact wp_plain (steady_stance own) loose plain holds fun _ _ stance => returned stance
    · exact wp_mono (fun _ _ _ stance => ⟨trivial, stance⟩)
        (wp_loose (acting_stance own acts) (Loose.act loose) holds)
  | surrender request surrenders ticks =>
    refine wp_step (steady_stance own).stable holds ?_
    rintro current choice answer after stance ⟨claims, leases⟩ executed -
    have quiet : Quiet index current after := by
      refine query_quiet claims ?_ ?_ (.inl ?_) executed
      · rintro args rfl
        cases surrenders
      · rintro args rfl
        cases surrenders
      · cases request <;> first | rfl | cases surrenders
    have fact : Fact agent index role current (.journal request) := by
      cases request with
      | markLeaseFencing | releaseLease => exact fun _ => stance.ticks ticks
      | _ => cases surrenders
    exact ⟨⟨quiet.claims claims, quiet.leases leases⟩, ⟨quiet.kept, fact⟩,
      returned (stance.quiet quiet)⟩
  | fail id fails =>
    refine wp_step (steady_stance own).stable holds ?_
    rintro current choice answer after stance ⟨claims, leases⟩ executed -
    obtain ⟨isTick, ticking⟩ := stance.fails fails
    have quiet : Quiet index current after := query_quiet claims (by rintro _ ⟨⟩) (by rintro _ ⟨⟩)
        (.inr ⟨ticking, fun _ _ => failed_unmoved executed _⟩) executed
    exact ⟨⟨quiet.claims claims, quiet.leases leases⟩,
      ⟨quiet.kept, .inl ⟨isTick, rfl, ticking⟩⟩, returned (stance.quiet quiet)⟩
  | held =>
    refine wp_held (steady_stance own).stable holds fun current stance leases => ?_
    exact wp_value (steady_stance own).stable stance fun _ kept => ⟨leases.held, kept⟩
  | row permitted id =>
    subst permitted
    exact wp_mono (fun _ _ _ stance => ⟨fun _ _ => trivial, stance⟩)
      (wp_loose (acting_stance own rfl) (Loose.act rfl) holds)
  | submit submits instanceId key payload claim entered announce =>
    exact wp_mono (fun _ _ _ stance => ⟨trivial, stance⟩)
      (wp_submitClaiming (submittable_stance own (coherent submits) submits) _ _ _ _ _ holds)
  | stamp instanceId => exact wp_stampLeaseState own instanceId holds
  | renew permitted name acc =>
    subst permitted
    exact forgetting (wp_renewOne own name acc holds)
  | reacquire permitted name =>
    subst permitted
    exact forgetting (wp_reacquireOne own name holds)
  | custody permitted name report =>
    subst permitted
    exact wp_custodyOf own name report holds
  | name permitted name lease owned instanceId recordId realising report =>
    subst permitted
    exact forgetting (wp_nameInstance own name owned instanceId recordId realising report holds)
  | release permitted name lease owned report =>
    subst permitted
    exact forgetting (wp_releaseHeld own name owned report holds)

theorem wp_sectioned (own : role.isPeer = false)
    (coherent : permit.submits = true → permit.acts = true) {β : Type} {program : NodeProg β}
    (sectioned : Sectioned agent permit (.ofLeases fun _ => Owned agent) program)
    (holds : Stance permit index role world) : (conduct agent etags).wp index role program
      (fun _ after => Stance permit index role after) world :=
  wp_mono (fun _ _ _ known => known.2)
    (wp_assembled (steady_stance own).stable
      (fun isSection _ stance => wp_section own coherent isSection stance) sectioned holds)

end Programs

end Submission

/-! ### Executors -/

section Executors

variable {agent : Agent} {etags : LeaseVersioning} {index : Nat}
  {executor : Executor} {before after world : World} {β : Type} {Q : β → World → Prop}

theorem finish_kept {args : FinishArgs} {finalized : Finalized} {journal : Journal} {nowMs : Int}
    (claims : Claims before) (executing : Executing index executor before)
    (named : args.opId = executor.op.opId) (onInstance : args.instanceId = executor.op.instanceId)
    (ran : before.journal.finishOperation args nowMs = .ok (finalized, journal)) :
    Claims { before with journal := journal } ∧
      Kept index before { before with journal := journal } := by
  have evolved : before.journal.Evolves journal (fun op => op.opId = args.opId) fun _ => False :=
    Journal.Evolves.finishOperation ran
  have stands : ∀ other, Claimed before.journal other → other.op.opId ≠ executor.op.opId →
      Claimed journal other := by
    intro other claimed different
    refine claimed.evolves evolved (fun op same yielded => different ?_) ?_
    · rw [← same, yielded, named]
    · refine (Journal.finishOperation_stateOf ran other.op.instanceId).imp_right ?_
      rintro ⟨sameInstance, -⟩
      obtain ⟨op, member, opId, instanceId, -, active⟩ := claimed.journaled
      obtain ⟨own, ownMember, ownId, ownInstance, -, ownActive⟩ := executing.claimed.journaled
      have same := claims.owned.one_active op member own ownMember active ownActive
        (by rw [instanceId, sameInstance, onInstance, ownInstance])
      exact absurd (by rw [← opId, same, ownId]) different
  refine ⟨⟨claims.owned.finishOperation ran, unparked_evolves claims.unparked evolved
    fun _ => False.elim,
    ?_, claims.distinct⟩, ⟨?_, fun _ => ⟨.inl rfl, rfl, rfl⟩, ?_, fun _ => rfl, id, fun _ _ => rfl⟩⟩
  · intro other member
    obtain ⟨planned, claimed, charge, noted⟩ := claims.queued other member
    refine ⟨planned, stands other claimed ?_, charge, noted⟩
    intro same
    rw [same, executing.charge] at charge
    cases charge
  · intro other claimed
    refine ⟨?_, .inl rfl, rfl⟩
    by_cases same : other.op.opId = executor.op.opId
    · exact .inr (same ▸ executing.charge)
    · exact .inl (stands other claimed same)
  · exact fun _ => ⟨.inl rfl, rfl, fun _ => id, fun _ idle =>
      absurd idle executing.claimed.not_idle⟩

theorem wp_finish {args : FinishArgs} {next : Except String Finalized → NodeProg β}
    (opId : args.opId = executor.op.opId) (instanceId : args.instanceId = executor.op.instanceId)
    (settled : args.state = settledState executor.kind executor.recorded args.outcome)
    (armed : args.ttlDeadlineMs.isSome = true → args.state = .running)
    (cleared : args.clearReady = true ∨ args.state = .running)
    (holds : Stance .executor index (.executor executor) world)
    (rest : ∀ answer current, Stance .finalized index (.executor executor) current →
      (conduct agent etags).wp index (.executor executor) (next answer) Q current) :
    (conduct agent etags).wp index (.executor executor)
      (.step (S := NodeSig) (.journal (.finishOperation args)) next) Q world := by
  refine wp_step (steady_stance rfl).stable holds ?_
  rintro current choice answer after stance ⟨claims, leases⟩ executed -
  have executing := stance.executing rfl executor rfl
  have fact : Fact agent index (.executor executor) current (.journal (.finishOperation args)) :=
    ⟨executor, rfl, executing, opId, instanceId, settled, armed, cleared⟩
  have done : ∀ {later : World}, later.stage = current.stage →
      Stance .finalized index (.executor executor) later :=
    fun same => ⟨same ▸ stance.up, nofun, nofun, nofun, nofun, nofun, nofun⟩
  rcases query_cases executed with ⟨cause, -, rfl⟩ | ⟨finalized, journal, -, ran, rfl⟩
  · have quiet : Quiet index after after := .of_same claims.owned rfl rfl rfl rfl rfl rfl rfl
    exact ⟨⟨claims, leases⟩, ⟨quiet.kept, fact⟩, rest _ _ (done rfl)⟩
  · obtain ⟨kept, guaranteed⟩ := finish_kept claims executing opId instanceId ran
    exact ⟨⟨kept, leases.held, leases.acked, leases.synced, leases.outside, leases.down⟩,
      ⟨guaranteed, fact⟩, rest _ _ (done rfl)⟩

theorem wp_announceFinish {op : OperationRow} {settled : InstanceState}
    {stopReason : Option StopReason} {epoch : Option Nat} {succeeded : Bool}
    {finalized : Finalized} (holds : Stance .finalized index (.executor executor) world) :
    (conduct agent etags).wp index (.executor executor)
      (announceFinish op settled stopReason epoch succeeded finalized) (fun _ _ => True) world :=
  wp_mono (fun _ _ _ _ => trivial)
    (wp_sectioned rfl (by decide) (Sectioned.announceFinish ..) holds)

theorem deadlineFor_armed {id : String} {settled : InstanceState} {trace : NodeTrace}
    {deadline : Option Int} (ran : Prog.Ran (deadlineFor id settled) trace deadline)
    (armed : deadline.isSome = true) : settled = .running := by
  unfold deadlineFor at ran
  split at ran
  · assumption
  · rw [(Prog.ran_pure ran).2] at armed
    cases armed

theorem compensate_result {kind : OpKind} {op : OperationRow} {work reported : Work}
    {trace : NodeTrace} (ran : Prog.Ran (compensate agent kind op work) trace reported) :
    reported.result = work.result := by
  unfold compensate at ran
  split at ran
  · rw [(Prog.ran_pure ran).2]
  · obtain ⟨_, _, _, -, -, ran⟩ := Prog.ran_bind ran
    unfold reportUnavailable at ran
    split at ran
    · obtain ⟨_, _, _, -, -, ran⟩ := Prog.ran_bind ran
      rw [(Prog.ran_pure ran).2]
    · rw [(Prog.ran_pure ran).2]

theorem wp_finalize (epoch : Option Nat) (work : Work)
    (holds : Stance .executor index (.executor executor) world) :
    (conduct agent etags).wp index (.executor executor)
      (finalize agent executor.kind executor.op executor.recorded epoch work)
      (fun _ _ => True) world := by
  have acting : Acting index (.executor executor) (Stance .executor index (.executor executor)) :=
    acting_stance rfl rfl
  refine wp_seq (wp_loose acting (Loose.step ..) holds) ?_
  rintro - current - holds
  refine wp_seq (wp_ran (wp_loose acting (Consults.deadlineFor ..).aside.loose holds) fun _ _ =>
    deadlineFor_armed) ?_
  rintro deadline current - ⟨armed, holds⟩
  refine wp_seq (wp_loose acting (Consults.stopReasonFor ..).aside.loose holds) ?_
  rintro stopReason current - holds
  refine wp_seq (wp_ran (wp_loose acting (Loose.compensate ..) holds) fun _ _ =>
    compensate_result) ?_
  rintro reported current - ⟨sameResult, holds⟩
  refine wp_finish rfl rfl ?_ armed ?_ holds fun answer current finalized => ?_
  · rw [← sameResult]
    rfl
  · simpa [finishArgs] using (em _).symm
  rw [Prog.pure_bind]
  split
  · exact wp_announceFinish finalized
  · exact wp_mono (fun _ _ _ _ => trivial)
      (wp_sectioned rfl (by decide) (Sectioned.record _) finalized)

theorem wp_rotateEpoch (holds : Stance .executor index (.executor executor) world) :
    (conduct agent etags).wp index (.executor executor)
    (rotateEpoch executor.kind executor.op.instanceId)
      (fun _ => Stance .executor index (.executor executor)) world := by
  have performed {β : Type} {query : Query} {next : Except String query.Answer → NodeProg β}
      {Q : β → World → Prop} {world : World}
      (rotates : query = .issueExecutionEpoch ∨
        ∃ epoch, query = .setInstanceEpoch executor.op.instanceId epoch)
      (holds : Stance .executor index (.executor executor) world)
      (rest : ∀ answer current, Stance .executor index (.executor executor) current →
        (conduct agent etags).wp index (.executor executor) (next answer) Q current) :
      (conduct agent etags).wp index (.executor executor)
        (.step (S := NodeSig) (.journal query) next) Q world := by
    refine wp_step (steady_stance rfl).stable holds ?_
    rintro current choice answer after stance ⟨claims, leases⟩ executed -
    have executing := stance.executing rfl executor rfl
    have quiet : Quiet index current after := by
      rcases rotates with rfl | ⟨epoch, rfl⟩ <;>
        exact query_quiet claims (by rintro _ ⟨⟩) (by rintro _ ⟨⟩) (.inl rfl) executed
    have fact : Fact agent index (.executor executor) current (.journal query) := by
      rcases rotates with rfl | ⟨epoch, rfl⟩
      · exact ⟨executor, rfl, executing⟩
      · exact ⟨executor, rfl, executing, rfl⟩
    exact ⟨⟨quiet.claims claims, quiet.leases leases⟩, ⟨quiet.kept, fact⟩,
      rest answer after (stance.quiet quiet)⟩
  have returned {value : Except String (Option Nat)} {current : World}
      (stance : Stance .executor index (.executor executor) current) :
      (conduct agent etags).wp index (.executor executor) (.pure value)
        (fun _ => Stance .executor index (.executor executor)) current :=
    wp_value (steady_stance rfl).stable stance fun _ kept => kept
  unfold rotateEpoch
  split
  · refine performed (.inl rfl) holds fun issued current holds => ?_
    rw [Prog.pure_bind]
    split
    · exact returned holds
    · refine performed (.inr ⟨_, rfl⟩) holds fun bound current holds => ?_
      rw [Prog.pure_bind]
      split <;> exact returned holds
  · exact returned holds

theorem rotateEpoch_beside {kind : OpKind} (beside : kind.touchesInstanceState = false)
    (id : String) : rotateEpoch kind id = .pure (.ok none) := by
  cases kind <;> first | rfl | cases beside

theorem wp_failClosed (message : String) (touches : executor.kind.touchesInstanceState = true)
    (holds : Stance .executor index (.executor executor) world) :
    (conduct agent etags).wp index (.executor executor) (failClosed executor.op message)
      (fun _ _ => True) world := by
  refine wp_seq (wp_loose (acting_stance rfl rfl) (Loose.step ..) holds) ?_
  rintro - current - holds
  refine wp_finish rfl rfl ?_ nofun (.inl rfl) holds fun answer current finalized => ?_
  · simp [settledState, touches]
  rw [Prog.pure_bind]
  split
  · exact wp_announceFinish finalized
  · exact wp_value (steady_stance rfl).stable finalized fun _ _ => trivial

theorem wp_execute (holds : Stance .executor index (.executor executor) world) :
    (conduct agent etags).wp index (.executor executor) (execute agent executor)
      (fun _ _ => True) world := by
  have own : (Role.executor executor).isPeer = false := rfl
  have acted : ∀ (epoch : Option Nat) {current}, Stance .executor index
    (.executor executor) current →
      (conduct agent etags).wp index (.executor executor)
        ((runPayload agent executor.op executor.recorded (epoch.getD 0) executor.payload).bind
          fun work => finalize agent executor.kind executor.op executor.recorded epoch work)
        (fun _ _ => True) current := by
    intro epoch current holds
    refine wp_seq (wp_loose (acting_stance rfl rfl) (Loose.runPayload ..) holds) ?_
    rintro work current - holds
    exact wp_finalize epoch work holds
  unfold execute
  dsimp only
  by_cases touches : executor.kind.touchesInstanceState = true
  · refine wp_seq (wp_rotateEpoch holds) ?_
    rintro rotated current - holds
    refine wp_seq (wp_stampLeaseState own _ holds) ?_
    rintro - current - ⟨-, holds⟩
    split
    · exact wp_failClosed _ touches holds
    · exact acted _ holds
  · rw [rotateEpoch_beside (by simpa using touches), Prog.bind_eq, Prog.pure_bind]
    refine wp_seq (wp_stampLeaseState own _ holds) ?_
    rintro - current - ⟨-, holds⟩
    exact acted _ holds

end Executors

/-! ### The reconciler, the boot, callers and peers -/

section Roles

variable {agent : Agent} {etags : LeaseVersioning} {index : Nat} {role : Role}
  {world : World} {β : Type} {Q : β → World → Prop}

theorem stance_ticker (up : world.stage ≠ .down) (ticking : world.ticking = some index) :
    Stance .ticker index .tick world :=
  ⟨up, by rintro - _ ⟨⟩, fun _ => .inl ticking, fun _ => ticking,
    fun joined => absurd joined (by decide), fun boots => absurd boots (by decide),
    fun _ => ⟨rfl, ticking⟩⟩

theorem stance_booted (up : world.stage ≠ .down)
    (notExecutor : ∀ executor, role ≠ .executor executor) (ticking : world.ticking = some index) :
    Stance .booted index role world :=
  ⟨up, fun _ executor isExecutor => absurd isExecutor (notExecutor executor), fun _ => .inl ticking,
    fun _ => ticking, fun joined => absurd joined (by decide), fun boots =>
    absurd boots (by decide),
    fun fails => absurd fails (by decide)⟩

theorem stance_caller (serving : world.stage = .alone ∨ world.stage = .joined)
    (notExecutor : ∀ executor, role ≠ .executor executor) : Stance .caller index role world := by
  refine ⟨?_, fun _ executor isExecutor => absurd isExecutor (notExecutor executor),
    fun _ => .inr ?_,
    fun ticks => absurd ticks (by decide), fun joined => absurd joined (by decide),
    fun boots => absurd boots (by decide), fun fails => absurd fails (by decide)⟩ <;>
  · rcases serving with stage | stage <;> rw [stage] <;> decide

/-- A boot, before it has joined the fleet: nothing is submitted until fleet recovery, and the
instances it has yet to resolve read as it listed them. -/
structure Recovering (index : Nat) (role : Role) (rows : List InstanceRow) (world : World) :
    Prop where
  stance : Stance .booter index role world
  idle : NoneActive world.journal
  listed : ∀ row ∈ rows, world.journal.stateOf row.instanceId = some row.state

theorem recovering_nil (stance : Stance .booter index role world)
    (idle : NoneActive world.journal) : Recovering index role [] world :=
  ⟨stance, idle, fun _ member => absurd member List.not_mem_nil⟩

theorem recovering_stable (own : role.isPeer = false) (rows : List InstanceRow) :
    (conduct agent etags).Stable index role (Recovering index role rows) := by
  rintro _ _ relied - recovering
  obtain ⟨ticking, booting⟩ := recovering.stance.boots rfl
  obtain ⟨idle, states⟩ := (relied own).idle ticking booting recovering.idle
  refine ⟨recovering.stance.relied (relied own), idle, fun row member => ?_⟩
  rw [states]
  exact recovering.listed row member

theorem wp_recovering (own : role.isPeer = false)
    (notExecutor : ∀ executor, role ≠ .executor executor) {rows : List InstanceRow} {α : Type}
    {program : NodeProg α} (loose : Loose program) (holds : Recovering index role rows world) :
    (conduct agent etags).wp index role program (fun _ => Recovering index role rows) world := by
  refine wp_emits (recovering_stable own rows) ?_ loose holds
  rintro act isLoose current choice answer after recovering ⟨claims, leases⟩ executed -
  have quiet := loose_quiet claims isLoose executed
  refine ⟨⟨quiet.claims claims, quiet.leases leases⟩,
    ⟨quiet.kept, loose_fact isLoose fun _ executor isExecutor =>
    absurd isExecutor (notExecutor executor)⟩,
    recovering.stance.quiet quiet, recovering.idle.evolves quiet.operations fun _ => id,
    fun row member => ?_⟩
  rw [loose_unmoved isLoose executed]
  exact recovering.listed row member

theorem wp_settleInstance (own : role.isPeer = false) (boots : role.isBoot = true)
    (notExecutor : ∀ executor, role ≠ .executor executor) {row : InstanceRow}
    {rest : List InstanceRow} {state : InstanceState}
    (transitional : row.state.isTransitional = true)
    (legal : row.state.canTransition state = true)
    (others : ∀ other ∈ rest, other.instanceId ≠ row.instanceId)
    (holds : Recovering index role (row :: rest) world) :
    (conduct agent etags).wp index role (resolveInstance.settleInstance row.instanceId state)
      (fun _ => Recovering index role rest) world := by
  refine wp_step (recovering_stable own _) holds ?_
  rintro current choice answer after recovering ⟨claims, leases⟩ executed -
  obtain ⟨ticking, booting⟩ := recovering.stance.boots rfl
  have quiet : Quiet index current after := query_quiet claims (by rintro _ ⟨⟩) (by rintro _ ⟨⟩)
      (.inr ⟨ticking, fun _ claimed => absurd recovering.idle claimed.not_idle⟩) executed
  have fact : Fact agent index role current (.journal (.setInstanceState row.instanceId state)) :=
    .inr ⟨boots, booting, recovering.idle, row.state,
      recovering.listed row List.mem_cons_self, transitional, legal⟩
  have left : Recovering index role rest after := by
    refine ⟨recovering.stance.quiet quiet, recovering.idle.evolves quiet.operations fun _ => id,
      fun other member => ?_⟩
    have read := recovering.listed other (List.mem_cons_of_mem _ member)
    rcases query_cases executed with ⟨_, -, rfl⟩ | ⟨_, _, -, ran, rfl⟩
    · exact read
    · cases ran
      rcases Journal.setInstanceState_stateOf current.journal row.instanceId state choice.nowMs
        other.instanceId with same | ⟨named, -⟩
      · exact same.trans read
      · exact absurd named (others other member)
  refine ⟨⟨quiet.claims claims, quiet.leases leases⟩, ⟨quiet.kept, fact⟩, ?_⟩
  -- The statements that follow the first move no instance.
  refine wp_recovering own notExecutor (Loose.seq ?_ fun outcome => ?_) left
  · dsimp only [Prog.pure_bind]
    split
    · exact .pure
    · split_ifs
      · exact .act rfl
      · exact .act rfl
      · exact .pure
  · split
    · exact .pure
    · exact .seq (Loose.record _) fun _ => .pure

theorem wp_resolveInstance (own : role.isPeer = false) (boots : role.isBoot = true)
    (notExecutor : ∀ executor, role ≠ .executor executor) {row : InstanceRow}
    {rest : List InstanceRow} (transitional : row.state.isTransitional = true)
    (others : ∀ other ∈ rest, other.instanceId ≠ row.instanceId)
    (holds : Recovering index role (row :: rest) world) :
    (conduct agent etags).wp index role (resolveInstance row)
      (fun _ => Recovering index role rest) world := by
  have settled : ∀ (state : InstanceState) {current}, row.state.canTransition state = true →
      Recovering index role (row :: rest) current →
      (conduct agent etags).wp index role (resolveInstance.settleInstance row.instanceId state)
        (fun _ => Recovering index role rest) current :=
    fun _ _ legal holds => wp_settleInstance own boots notExecutor transitional legal others holds
  have loosely : ∀ {α : Type} {program : NodeProg α} {current}, Loose program →
      Recovering index role (row :: rest) current → (conduct agent etags).wp index role program
        (fun _ => Recovering index role (row :: rest)) current :=
    fun loose holds => wp_recovering own notExecutor loose holds
  -- Every transitional state may fail; `stopping`, `checkpointing` and `destroying` have an edge
  -- of their own to where the crash is taken to have left them.
  have fails : row.state.canTransition .failed = true := by
    cases state : row.state <;> first | rfl | simp
      [state, InstanceState.isTransitional] at transitional
  unfold resolveInstance
  dsimp only
  split
  · next stopping =>
      refine wp_seq (loosely (Loose.act rfl) holds) ?_
      rintro stopped current - holds
      split
      · exact settled .stopped (by rw [stopping]; rfl) holds
      · refine wp_seq (loosely (Loose.record _) holds) ?_
        rintro - current - holds
        exact settled .failed fails holds
  · next checkpointing =>
      refine wp_seq (settled .running (by rw [checkpointing]; rfl) holds) ?_
      rintro outcome current - left
      refine wp_recovering own notExecutor ?_ left
      split
      · exact .pure
      · exact .seq (Loose.record _) fun _ => .pure
  · next destroying =>
      refine wp_seq (loosely (Loose.act rfl) holds) ?_
      rintro - current - holds
      exact settled .destroyed (by rw [destroying]; rfl) holds
  · refine wp_seq (loosely (Loose.act rfl) holds) ?_
    rintro - current - holds
    exact settled .failed fails holds

theorem wp_resolveInstances (own : role.isPeer = false) (boots : role.isBoot = true)
    (notExecutor : ∀ executor, role ≠ .executor executor) {rows : List InstanceRow}
    (transitional : ∀ row ∈ rows, row.state.isTransitional = true)
    (distinct : (rows.map InstanceRow.instanceId).Nodup)
    (holds : Recovering index role rows world) :
    (conduct agent etags).wp index role (resolveInstances rows)
      (fun _ => Recovering index role []) world := by
  induction rows generalizing world with
  | nil => exact wp_value (recovering_stable own _) holds fun _ kept => kept
  | cons row rest ih =>
    rw [List.map_cons, List.nodup_cons] at distinct
    have others : ∀ other ∈ rest, other.instanceId ≠ row.instanceId :=
      fun other member same => distinct.1 (same ▸ List.mem_map_of_mem member)
    refine wp_seq (wp_resolveInstance own boots notExecutor
      (transitional row List.mem_cons_self) others holds) ?_
    rintro outcome current - left
    split
    · exact wp_value (recovering_stable own _) left fun _ kept =>
        recovering_nil kept.stance kept.idle
    · exact ih (fun other member => transitional other
        (List.mem_cons_of_mem _ member)) distinct.2 left

theorem listInstances_read {journal : Journal} {row : InstanceRow}
    (member : row ∈ journal.listInstances) : journal.stateOf row.instanceId = some row.state := by
  have inTable : row ∈ journal.instances.rows := (List.perm_insertionSort _ _).mem_iff.mp member
  rw [Journal.stateOf, Journal.getInstance]
  cases found : journal.instances.find? fun other => other.instanceId == row.instanceId with
  | none =>
    have unnamed := Table.find?_none found row inTable
    simp at unnamed
  | some other =>
    obtain ⟨otherMember, named⟩ := Table.mem_of_find? found
    have idColumn : InstanceRow.instanceId ∈ [InstanceRow.instanceId] := List.mem_cons_self
    have same := Table.eq_of_column idColumn otherMember inTable (beq_iff_eq.mp named)
    rw [same]
    rfl

theorem listInstances_distinct (journal : Journal) :
    (journal.listInstances.map InstanceRow.instanceId).Nodup :=
  ((List.perm_insertionSort _ _).map _).nodup_iff.mpr
    (journal.instances.unique InstanceRow.instanceId List.mem_cons_self)

theorem wp_recoverOps (own : role.isPeer = false) (boots : role.isBoot = true)
    (notExecutor : ∀ executor, role ≠ .executor executor) (failed : List OperationRow)
    (holds : Recovering index role [] world) :
    (conduct agent etags).wp index role (recoverOps failed)
      (fun _ => Recovering index role []) world := by
  refine wp_seq (wp_recovering own notExecutor (Aside.announceFailed failed).loose holds) ?_
  rintro - current - holds
  refine wp_step (recovering_stable own _) holds ?_
  rintro current choice answer after recovering ⟨claims, leases⟩ executed -
  have quiet : Quiet index current after :=
    query_quiet claims (by rintro _ ⟨⟩) (by rintro _ ⟨⟩) (.inl rfl) executed
  have left : Recovering index role [] after := recovering_nil (recovering.stance.quiet quiet)
      (recovering.idle.evolves quiet.operations fun _ => id)
  refine ⟨⟨quiet.claims claims, quiet.leases leases⟩,
    ⟨quiet.kept, fun leaseRow => nomatch leaseRow⟩, ?_⟩
  rw [Prog.pure_bind]
  rcases query_cases executed with ⟨_, rfl, -⟩ | ⟨_, _, rfl, ran, rfl⟩
  · exact wp_value (recovering_stable own _) left fun _ kept => kept
  · cases ran
    refine wp_resolveInstances own boots notExecutor
      (fun row member => (List.mem_filter.mp member).2)
      ((listInstances_distinct _).sublist (List.filter_sublist.map _)) ?_
    exact ⟨left.stance, left.idle, fun row member => listInstances_read
      (List.mem_filter.mp member).1⟩

theorem wp_endTick (own : role.isPeer = false) {permit : Permit} (ticks : permit.ticks = true)
    (holds : Stance permit index role world) :
    (conduct agent etags).wp index role (perform .endTick)
      (fun _ _ => True) world := by
  refine wp_step (steady_stance own).stable holds ?_
  rintro current choice answer after stance ⟨claims, leases⟩ executed -
  cases executed
  have ticking := stance.ticks ticks
  refine ⟨⟨claims_kept claims rfl rfl rfl rfl, leases.held, leases.acked, leases.synced,
    leases.outside,
      fun down => absurd down stance.up⟩,
    ⟨⟨fun _ claimed => ⟨.inl claimed, .inl rfl, rfl⟩, fun _ => ⟨.inl rfl, rfl, rfl⟩,
      fun other => absurd ticking other, fun _ => rfl, id, fun _ _ => rfl⟩, trivial⟩,
    fun _ _ _ => trivial⟩

theorem wp_join (own : role.isPeer = false) (notExecutor : ∀ executor, role ≠ .executor executor)
    {next : Unit → NodeProg β} (holds : Stance .booter index role world)
    (rest : ∀ current, Stance .booted index role current →
      (conduct agent etags).wp index role (next ()) Q current) :
    (conduct agent etags).wp index role (.step (S := NodeSig) .join next) Q world := by
  refine wp_step (steady_stance own).stable holds ?_
  rintro current choice answer after stance ⟨claims, leases⟩ executed -
  cases executed
  obtain ⟨ticking, booting⟩ := stance.boots rfl
  have up : (if choice.arcUnique then Stage.joined else .alone) ≠ .down := by split <;> decide
  have outside := leases.outside (by rw [booting]; decide)
  have kept : Kept index current { current with
      stage := if choice.arcUnique then .joined else .alone } := by
    refine ⟨fun _ claimed => ⟨.inl claimed, .inl rfl, rfl⟩, fun _ => ⟨.inl rfl, rfl, rfl⟩,
      fun other => absurd ticking other, fun other => absurd booting other, fun _ => up,
      fun _ _ => rfl⟩
  refine ⟨⟨claims_kept claims rfl rfl rfl rfl, leases.held, leases.acked, leases.synced,
    fun _ => outside, fun down => absurd down up⟩, ⟨kept, trivial⟩, rest _ ?_⟩
  exact stance_booted up notExecutor ticking

theorem wp_boot (failed : List OperationRow) (holds : Recovering index (.boot failed) [] world) :
    (conduct agent etags).wp index (.boot failed) (boot agent failed) (fun _ _ => True) world := by
  have own : (Role.boot failed).isPeer = false := rfl
  have notExecutor : ∀ executor, Role.boot failed ≠ .executor executor := by rintro _ ⟨⟩
  refine wp_seq (wp_recoverOps own rfl notExecutor failed holds) ?_
  rintro outcome current - ⟨stance, -⟩
  split
  · exact wp_value (steady_stance own).stable stance fun _ _ => trivial
  refine wp_seq (wp_sectioned own (by decide) Sectioned.recover stance) ?_
  rintro - current - stance
  exact wp_join own notExecutor stance fun current stance => wp_endTick own rfl stance

theorem wp_pass (own : role.isPeer = false) (holds : Stance .ticker index role world)
    (joined : world.stage = .joined) : (conduct agent etags).wp index role (discard (pass agent))
      (fun _ => Stance .ticker index role) world := by
  have member : Stance .member index role world :=
    ⟨holds.up, holds.executing, holds.submits, holds.ticks, fun _ => joined,
      fun boots => absurd boots (by decide), holds.fails⟩
  refine wp_seq (wp_sectioned own (by decide) Sectioned.pass member) ?_
  rintro report current - stance
  refine wp_value (steady_stance own).stable stance fun _ kept => ?_
  exact ⟨kept.up, kept.executing, kept.submits, kept.ticks, fun joined => absurd joined (by decide),
    fun boots => absurd boots (by decide), kept.fails⟩

theorem wp_tick (serving : world.stage = .alone ∨ world.stage = .joined) :
    (conduct agent etags).wp index .tick (tick agent) (fun _ _ => True) world := by
  have own : Role.tick.isPeer = false := rfl
  have notExecutor : ∀ executor, Role.tick ≠ .executor executor := by rintro _ ⟨⟩
  refine wp_step (steady_stance own).stable (stance_caller serving notExecutor) ?_
  rintro current choice answer after stance ⟨claims, leases⟩ executed -
  simp only [nodeMachine, World.exec] at executed
  split at executed
  swap
  · cases executed
  next free =>
  cases executed
  have kept : Kept index current { current with ticking := some index } :=
    ⟨fun _ claimed => ⟨.inl claimed, .inl rfl, rfl⟩, fun _ => ⟨.inl rfl, rfl, rfl⟩,
      fun _ => ⟨.inr free, rfl, fun _ => id, fun _ idle => ⟨idle, fun _ => rfl⟩⟩, fun _ => rfl, id,
      fun _ _ => rfl⟩
  refine ⟨⟨claims_kept claims rfl rfl rfl rfl, leases.held, leases.acked, leases.synced,
    leases.outside, fun down => absurd down stance.up⟩, ⟨kept, trivial⟩, ?_⟩
  have stance : Stance .ticker index .tick { current with ticking := some index } :=
    stance_ticker stance.up rfl
  rw [Prog.pure_bind]
  refine wp_seq (wp_sectioned own (by decide) (Sectioned.reconcileVanished rfl rfl) stance) ?_
  rintro - current - stance
  refine wp_look (steady_stance own).stable ?_ (fun _ _ => trivial) stance
    fun choice current answer stance _ executed => ?_
  · intro choice current answer after executed
    cases executed
    rfl
  cases executed
  rw [Prog.pure_bind]
  have ended : ∀ current, Stance .ticker index .tick current →
      (conduct agent etags).wp index .tick (perform .endTick)
        (fun _ _ => True) current := fun _ stance => wp_endTick own rfl stance
  refine wp_bind (wp_mono (fun _ current _ stance => ended current stance) ?_)
  unfold whenever
  split
  · next joined => exact wp_pass own stance (by simpa using joined)
  · exact wp_value (steady_stance own).stable stance fun _ kept => kept

theorem sectioned_invocation {known : Known} (invocation : Invocation)
    (asked : ∀ request, invocation = .call (.forkInstance request) → known.fork request) :
    Sectioned agent .caller known (invocation.prog agent) := by
  cases invocation with
  | call request => 
    refine .seq (Sectioned.serve request fun fork isFork => asked fork ?_) fun _ => .pure trivial
    rw [isFork]
  | cancel opId instanceId reason => exact .aside rfl (Aside.discard (Aside.cancel ..))
  | setWake instanceId wakeAt => exact .aside rfl (Aside.discard (Aside.setWake ..))
  | passthrough instanceId => exact .aside rfl (Aside.passthrough _)
  | importCapsule capsuleId manifest remote => exact .aside rfl (Aside.registerImport ..)
  | deleteCapsule capsuleId => exact .aside rfl (Aside.deleteCapsule _)
  | scan => exact Sectioned.scan rfl rfl
  | probe instanceId => exact Sectioned.probe rfl rfl _

theorem wp_invocation (invocation : Invocation)
    (serving : world.stage = .alone ∨ world.stage = .joined) :
    (conduct agent etags).wp index (.caller invocation) (invocation.prog agent)
      (fun _ _ => True) world := by
  have stance : Stance .caller index (.caller invocation) world :=
    stance_caller serving (by rintro _ ⟨⟩)
  exact wp_mono (fun _ _ _ _ => trivial)
    (wp_sectioned rfl (by decide) (sectioned_invocation invocation fun _ _ => trivial) stance)

/-- A request another node makes writes records of its own. -/
def ownedBy (owner : String) : StoreAct String Lease UpdateVersion → Prop
  | .get _ => True
  | .put _ body _ => body.owner = owner

theorem request_emits (request : Request) :
    (request.prog leaseCodec).Emits (ownedBy (callOwner request.call)) := by
  obtain ⟨name, call⟩ := request
  cases call with
  | acquire me endpoint timing nowMs =>
    refine Prog.Emits.bind ?_ fun _ => trivial
    unfold Fleet.acquire
    split
    · trivial
    · refine ⟨trivial, fun answer => ?_⟩
      dsimp only [Prog.bind]
      split
      · trivial
      · exact ⟨rfl, fun _ => trivial⟩
      · split
        · trivial
        · exact ⟨rfl, fun _ => trivial⟩
  | renew | stampState | setInstance | release => exact ⟨rfl, fun _ => trivial⟩

theorem wp_peer (request : Request) (foreign : callOwner request.call ≠ agent.nodeId) :
    (conduct agent etags).wp index (.peer request) (Role.prog agent (.peer request))
      (fun _ _ => True) world := by
  have emits : (Role.prog agent (.peer request)).Emits fun act : NodeAct =>
      ∃ request, act = .bucket .peer request ∧
        ∀ name body mode, request = .put name body mode → body.owner ≠ agent.nodeId := by
    refine Prog.Emits.bind (Prog.Emits.hoist ?_ (request_emits request)) fun _ => trivial
    rintro act owned
    refine ⟨⟨act, rfl, ?_⟩, fun _ => trivial⟩
    rintro name body mode rfl
    rw [show body.owner = callOwner request.call from owned]
    exact foreign
  refine wp_emits (A := fun _ => True) (fun _ _ _ _ _ => trivial) ?_ emits trivial
  rintro _ ⟨act, rfl, owned⟩ current choice answer after - ⟨claims, leases⟩ executed -
  obtain ⟨result, -, same⟩ := Option.map_eq_some_iff.mp executed
  cases same
  have sameAux : current.aux.request index .peer act result.1 = current.aux := by
    obtain ⟨answer, bucket⟩ := result
    cases act with
    | get name => rfl
    | put name body mode => cases answer <;> rfl
  have quiet : Quiet index current { current with
      bucket := result.2, aux := current.aux.request index .peer act result.1 } :=
    .of_same claims.owned rfl rfl sameAux rfl rfl rfl rfl
  refine ⟨⟨quiet.claims claims, quiet.leases leases⟩, ⟨quiet.kept, ?_⟩, trivial⟩
  cases act with
  | get name => trivial
  | put name body mode => exact ⟨owned name body mode rfl, fun other => absurd rfl other⟩

end Roles

/-! ### Every run -/

section Runs

variable {agent : Agent} {etags : LeaseVersioning} {world after : World}
  {journal : Journal}

theorem unparked_failOps {opIds : List String} {message : String} {nowMs : Int}
    (unparked : ∀ op ∈ journal.operations.rows, op.state ≠ .awaitingInput) :
    ∀ op ∈ (journal.failOps message nowMs opIds).operations.rows, op.state ≠ .awaitingInput := by
  induction opIds generalizing journal with
  | nil => exact unparked
  | cons opId rest ih =>
    have evolved : journal.Evolves (journal.finishOpFailed opId .unspecified message nowMs)
        (fun _ => True) fun _ => False :=
      .update rfl fun op _ _ => ⟨⟨rfl, rfl, rfl, rfl, rfl, nofun, nofun⟩, fun _ => .inr trivial⟩
    exact ih (unparked_evolves unparked evolved fun _ => False.elim)

theorem unparked_openJournal
    (unparked : ∀ op ∈ journal.operations.rows, op.state ≠ .awaitingInput) :
    ∀ op ∈ journal.openJournal.operations.rows, op.state ≠ .awaitingInput := by
  intro op member
  obtain ⟨old, oldMember, rfl⟩ := List.mem_map.mp member
  exact unparked old oldMember

theorem failOps_active {opIds : List String} {message : String} {nowMs : Int} :
    ∀ op ∈ (journal.failOps message nowMs opIds).operations.rows, op.executorActive = true →
      op.opId ∉ opIds ∧ ∃ old ∈ journal.operations.rows, old.opId = op.opId ∧
        old.instanceId = op.instanceId ∧ old.executorActive = true := by
  induction opIds generalizing journal with
  | nil => exact fun op member active => ⟨by simp, op, member, rfl, rfl, active⟩
  | cons opId rest ih =>
    intro op member active
    obtain ⟨notLater, middle, middleMember, sameId, sameInstance, middleActive⟩ :=
      ih op member active
    obtain ⟨old, oldMember, written⟩ := List.mem_map.mp middleMember
    by_cases hit : old.opId = opId
    · rw [if_pos (by simp [hit])] at written
      rw [← written] at middleActive
      cases middleActive
    · rw [if_neg (by simp [hit])] at written
      subst written
      refine ⟨?_, old, oldMember, sameId, sameInstance, middleActive⟩
      rw [List.mem_cons, not_or]
      exact ⟨fun same => hit (sameId.trans same), notLater⟩

theorem noneActive_booted (message : String) (nowMs : Int) :
    NoneActive (journal.openJournal.failInflightOps message nowMs) := by
  intro op member
  by_contra active
  rw [Bool.not_eq_false] at active
  obtain ⟨notFailed, old, oldMember, sameId, -, oldActive⟩ := failOps_active op member active
  refine notFailed ?_
  rw [← sameId]
  refine List.mem_map_of_mem (List.mem_filter.mpr ⟨oldMember, ?_⟩)
  obtain ⟨first, firstMember, rfl⟩ := List.mem_map.mp oldMember
  exact oldActive

theorem inv_outside {stage : Stage} {ticking : Option Nat} (owned : Ownership journal)
    (unparked : ∀ op ∈ journal.operations.rows, op.state ≠ .awaitingInput)
    (reset : after = { world.afterCrash with
      journal := journal, stage := stage, ticking := ticking })
    (down : stage = .down → ticking = none) :
    (conduct agent etags).Inv after := by
  subst reset
  have empty : ∀ (name : String) lease, World.initial.held[name]? ≠ some lease := by
    simp [World.initial]
  constructor
  · refine ⟨owned, unparked, fun _ member => ?_, List.nodup_nil⟩
    cases member
  · refine ⟨fun name lease listed => absurd listed (empty name lease), fun _ _ known => ?_,
      fun _ => ⟨fun name lease listed => absurd listed (empty name lease), fun _ _ known => ?_⟩,
      fun _ _ => rfl, fun isDown => ⟨rfl, down isDown, fun _ => rfl⟩⟩ <;>
    cases known

theorem launched_kept (index : Nat) {position : Nat} {executor : Executor} (claims : Claims world)
    (found : world.spawned[position]? = some executor) :
    Claims (world.launched position index executor) ∧
      Executing index executor (world.launched position index executor) ∧
      ∀ opId, world.aux.charge opId ≠ some .queue →
        (world.launched position index executor).aux.charge opId = world.aux.charge opId := by
  obtain ⟨planned, claimed, charge, noted⟩ := claims.queued executor (List.mem_of_getElem? found)
  refine ⟨⟨claims.owned, claims.unparked, ?_, ?_⟩,
    ⟨planned, claimed, Function.update_self .., noted⟩, ?_⟩
  · intro other member
    obtain ⟨place, elsewhere, located⟩ := List.mem_eraseIdx_iff_getElem?.mp member
    obtain ⟨planned, claimed, charge, noted⟩ := claims.queued other (List.mem_of_getElem? located)
    refine ⟨planned, claimed, (Function.update_of_ne ?_ _ _).trans charge, noted⟩
    intro same
    have bound := (List.getElem?_eq_some_iff.mp located).1
    refine elsewhere ((List.getElem?_inj (by simpa using bound) claims.distinct).mp ?_)
    rw [List.getElem?_map, List.getElem?_map, located, found]
    exact congrArg some same
  · have erased : ((world.spawned.eraseIdx position).map fun executor => executor.op.opId).Sublist
        (world.spawned.map fun executor => executor.op.opId) :=
      (List.eraseIdx_sublist ..).map _
    exact erased.nodup claims.distinct
  · intro opId notQueued
    refine Function.update_of_ne ?_ _ _
    rintro rfl
    exact notQueued charge

theorem relied_event {index : Nat} {before : World}
    (claims : ∀ executor, before.aux.charge executor.op.opId ≠ some .queue →
      before.aux.charge executor.op.opId ≠ none →
      Claimed before.journal executor → Claimed after.journal executor ∧
        after.aux.charge executor.op.opId = before.aux.charge executor.op.opId)
    (noted : after.aux.recorded = before.aux.recorded)
    (idle : before.ticking = some index → after.journal = before.journal)
    (acked : after.aux.acked = before.aux.acked) (reading : after.aux.reading = before.aux.reading)
    (held : after.held = before.held) (writing : after.writing = before.writing)
    (ticking : after.ticking = before.ticking) (stage : after.stage = before.stage) :
    Relied index before after where
  claims executor charge claimed := by
    refine (claims executor ?_ ?_ claimed).imp_right fun same => ⟨same, by rw [noted]⟩ <;>
      rcases charge with charge | charge <;> rw [charge] <;> exact nofun
  lock locked := ⟨writing.trans locked, held, acked⟩
  tick ticks := ⟨ticking.trans ticks, stage, by rw [held]; exact fun _ => id⟩
  stage _ := stage
  up up := by rwa [stage]
  reading := by rw [reading]
  idle ticks _ := by rw [idle ticks]; exact fun idle => ⟨idle, fun _ => rfl⟩

/-- **The conduct of the node.** Every program of the node keeps it, wherever it is started. -/
theorem conduct_contract : System.Contract agent (conduct agent etags) where
  free isPeer _ _ _ own := by
    rw [isPeer] at own
    cases own
  post _ _ _ := trivial
  initial := by
    have reset : World.initial = { World.initial.afterCrash with
        journal := .empty, stage := .down, ticking := none } := rfl
    exact inv_outside ownership_empty (by simp [Journal.empty]) reset fun _ => rfl
  desire objects inv := by
    obtain ⟨claims, leases⟩ := inv
    refine ⟨⟨claims_kept claims rfl rfl rfl rfl, leases.held, leases.acked, leases.synced,
      leases.outside, leases.down⟩, fun index role _ => ?_⟩
    exact relied_event (fun _ _ _ claimed => ⟨claimed, rfl⟩) rfl (fun _ => rfl) rfl rfl rfl rfl rfl
      rfl
  launch {world position executor} index inv found := by
    obtain ⟨claims, leases⟩ := inv
    obtain ⟨kept, executing, charges⟩ := launched_kept index claims found
    have queued := (claims.queued executor (List.mem_of_getElem? found)).2.2.1
    have up : world.stage ≠ .down := by
      intro down
      rw [(leases.down down).2.2] at queued
      cases queued
    refine ⟨⟨kept, leases.held, leases.acked, leases.synced, leases.outside,
      fun down => absurd down up⟩, fun other role _ => ?_, wp_execute ?_⟩
    · exact relied_event (fun _ notQueued _ claimed => ⟨claimed, charges _ notQueued⟩) rfl
        (fun _ => rfl) rfl rfl rfl rfl rfl rfl
    · refine ⟨up, ?_, ?_, ?_, ?_, ?_, ?_⟩
      · rintro - accepted ⟨⟩
        exact executing
      all_goals
        intro otherwise
        cases otherwise
  serve index role inv serving starts := by
    rcases starts with rfl | ⟨invocation, rfl⟩
    · exact wp_tick serving
    · exact wp_invocation invocation serving
  peer index request _ foreign := wp_peer request foreign
  crash {world} inv := inv_outside inv.1.owned inv.1.unparked rfl fun _ => rfl
  halfOpen {world} completed nowMs inv down := by
    obtain ⟨claims, leases⟩ := inv
    obtain ⟨writing, ticking, uncharged⟩ := leases.down down
    refine ⟨⟨⟨claims.owned.openJournal.failOps _ _ _,
      unparked_failOps (unparked_openJournal claims.unparked), ?_, claims.distinct⟩,
      leases.held, leases.acked, leases.synced, leases.outside, leases.down⟩,
        fun index role _ => ?_⟩
    · intro executor member
      have charge := (claims.queued executor member).2.2.1
      rw [uncharged] at charge
      cases charge
    · refine relied_event (fun executor _ charged => absurd (uncharged _) charged) rfl ?_
        rfl rfl rfl rfl rfl rfl
      rw [ticking]
      intro mine
      cases mine
  boot {world} index nowMs failed inv down := by
    refine ⟨inv_outside (inv.1.owned.openJournal.failOps _ _ _)
      (unparked_failOps (unparked_openJournal inv.1.unparked)) rfl fun down => ?_,
      wp_boot failed (recovering_nil ?_ ?_)⟩
    · cases down
    · refine ⟨fun down => ?_, fun _ _ isExecutor => ?_, fun _ => .inl rfl, fun _ => rfl,
        fun joined => absurd joined (by decide), fun _ => ⟨rfl, rfl⟩,
        fun fails => absurd fails (by decide)⟩
      · cases down
      · cases isExecutor
    · exact noneActive_booted _ _

theorem reach_conduct {labels : List Label} {system : System}
    (reached : System.reach agent etags labels = some system) :
    system.Covered (conduct agent etags) := by
  refine run_invariant ?_ conduct_contract.covered_initial reached
  intro state label after covered stepped
  refine conduct_contract.step covered stepped ?_
  cases label <;> first | trivial | exact fun _ _ _ _ _ _ _ => trivial

end Runs

end Barista.Node
