import Mathlib.Data.List.Dedup
import Barista.Node.Sweeps

/-!
Contract: which of several sandboxes of one instance the sweep keeps.

The substrate tells eight states of a sandbox apart, and a start that finds several sandboxes keeps the
one whose state ranks highest. The sweep sees one bit of it, whether the sandbox is running: where none
is, it keeps the one that was listed last.

Owns: the substrate's listing as the sweep reads it, the ranking, what a sweep removes, and exactly when
the two rules agree.
-/

namespace Barista.Node

open Foundation Fleet
open Prog (Ran After)

/-! ### The substrate's listing -/

namespace Hypeman

inductive InstanceState where
  | created | initializing | running | paused | shutdown | stopped | standby | unknown
deriving DecidableEq, Repr

def INSTANCE_TAG : String := "barista.instance_id"

structure Instance where
  id : String
  state : InstanceState
  tags : List (String × String)
deriving DecidableEq, Repr

def Instance.tagged (sandbox : Instance) : Option String := sandbox.tags.lookup INSTANCE_TAG

def Instance.view (sandbox : Instance) (instanceId : String) : Sandbox where
  substrateId := sandbox.id
  instanceId := instanceId
  running := sandbox.state = .running

def listSandboxes (listing : List Instance) : List Sandbox :=
  listing.filterMap fun sandbox => sandbox.tagged.map sandbox.view

/-- How much a sandbox is preferred when duplicates are reduced. -/
def survivorRank : InstanceState → Nat
  | .running => 7
  | .initializing => 6
  | .created => 5
  | .standby => 4
  | .paused => 3
  | .stopped => 2
  | .shutdown => 1
  | .unknown => 0

/-- The sandboxes tagged for an instance, in the order of the listing. -/
def taggedFor (listing : List Instance) (instanceId : String) : List Instance :=
  listing.filter fun sandbox => sandbox.tagged = some instanceId

theorem sandboxesOf_listSandboxes (listing : List Instance) (instanceId : String) :
    sandboxesOf (listSandboxes listing) instanceId =
      (taggedFor listing instanceId).map fun sandbox => sandbox.view instanceId := by
  induction listing with
  | nil => rfl
  | cons sandbox rest ih =>
    unfold sandboxesOf listSandboxes taggedFor at ih ⊢
    cases tag : sandbox.tagged with
    | none => simp [tag, ih]
    | some other =>
      by_cases same : other = instanceId
      · subst same
        simp [tag, Instance.view, ih]
      · simp [tag, same, Instance.view, ih]

end Hypeman

/-! ### What a sweep removes -/

def removedIn (trace : List (Exchange SweepSig)) : List String :=
  trace.filterMap fun exchange =>
    match exchange.act with
    | .removeSandbox substrateId => some substrateId
    | _ => none

theorem removedIn_append (early late : List (Exchange SweepSig)) :
    removedIn (early ++ late) = removedIn early ++ removedIn late :=
  List.filterMap_append ..

/-- The sandboxes of one instance that a sweep condemns. -/
def condemned (live : List String) (forkingSources : Option (List String)) (id : String)
    (group : List Sandbox) : List Sandbox :=
  if id ∉ live then group
  else if 1 < group.length then
    match forkingSources with
    | none => []
    | some sources =>
      if id ∈ sources ∨ 1 < group.countP Sandbox.running then [] else (byRunning group).dropLast
  else []

variable {live : List String} {forkingSources : Option (List String)} {id : String}
  {group : List Sandbox}

theorem condemned_subset {sandbox : Sandbox}
    (member : sandbox ∈ condemned live forkingSources id group) : sandbox ∈ group := by
  unfold condemned at member
  split at member
  · exact member
  · split at member
    · split at member
      · cases member
      · split at member
        · cases member
        · exact mem_byRunning (List.dropLast_subset _ member)
    · cases member

variable {trace : List (Exchange SweepSig)}

theorem removedIn_degradation {message : String}
    (ran : Ran (Sweep.degradation id message) trace ()) : removedIn trace = [] := by
  obtain ⟨answer, rest, rfl, done⟩ := Prog.ran_step ran
  obtain ⟨rfl, -⟩ := Prog.ran_pure done
  rfl

theorem removedIn_reapSandboxes {why : String} (ran : Ran (reapSandboxes id why group) trace ()) :
    removedIn trace = group.map Sandbox.substrateId := by
  induction group generalizing trace with
  | nil =>
    obtain ⟨rfl, -⟩ := Prog.ran_pure ran
    rfl
  | cons sandbox rest ih =>
    obtain ⟨early, value, late, rfl, reaped, remaining⟩ := Prog.ran_bind ran
    obtain ⟨answer, reported, rfl, continued⟩ := Prog.ran_step reaped
    have quiet : removedIn reported = [] := by
      cases answer with
      | ok value => exact removedIn_degradation continued
      | error cause =>
        obtain ⟨rfl, -⟩ := Prog.ran_pure continued
        rfl
    rw [removedIn_append, ih remaining, List.map_cons]
    change sandbox.substrateId :: removedIn reported ++ _ = _
    rw [quiet]
    rfl

theorem removedIn_sweepGroup (ran : Ran (sweepGroup live forkingSources id group) trace ()) :
    removedIn trace = (condemned live forkingSources id group).map Sandbox.substrateId := by
  have nothing {trace : List (Exchange SweepSig)}
    (done : Ran (.pure () : SweepProg Unit) trace ()) :
      removedIn trace = [] := by
    obtain ⟨rfl, -⟩ := Prog.ran_pure done
    rfl
  unfold sweepGroup at ran
  unfold condemned
  by_cases stale : id ∉ live
  · rw [if_pos stale] at ran ⊢
    exact removedIn_reapSandboxes ran
  rw [if_neg stale] at ran ⊢
  by_cases several : 1 < group.length
  · rw [if_pos several] at ran ⊢
    cases forkingSources with
    | none => exact nothing ran
    | some sources =>
      simp only at ran ⊢
      by_cases forking : id ∈ sources
      · rw [if_pos forking] at ran
        rw [if_pos (.inl forking)]
        exact nothing ran
      rw [if_neg forking] at ran
      by_cases crowded : 1 < group.countP Sandbox.running
      · rw [if_pos crowded] at ran
        rw [if_pos (.inr crowded)]
        exact removedIn_degradation ran
      · rw [if_neg crowded] at ran
        rw [if_neg (not_or.mpr ⟨forking, crowded⟩)]
        exact removedIn_reapSandboxes ran
  · rw [if_neg several] at ran ⊢
    exact nothing ran

theorem removedIn_sweepGroups {groups : List (String × List Sandbox)}
    (ran : Ran (sweepGroups live forkingSources groups) trace ()) :
    removedIn trace = groups.flatMap fun entry =>
      (condemned live forkingSources entry.1 entry.2).map Sandbox.substrateId := by
  induction groups generalizing trace with
  | nil =>
    obtain ⟨rfl, -⟩ := Prog.ran_pure ran
    rfl
  | cons entry rest ih =>
    obtain ⟨early, value, late, rfl, first, others⟩ := Prog.ran_bind ran
    rw [removedIn_append, removedIn_sweepGroup first, ih others, List.flatMap_cons]

theorem ran_sweepInstances {sandboxes : List Sandbox} {rows : List InstanceRow}
    {forkingSources : Except String (List String)} (some_ : sandboxes ≠ []) :
    Ran sweepInstances (instanceReads sandboxes rows forkingSources ++ trace) () ↔
      Ran (sweepGroups (liveInstances rows) forkingSources.toOption (byInstance sandboxes))
        trace () := by
  constructor
  · intro ran
    obtain ⟨_, _, first, ran⟩ := Prog.ran_step ran
    cases first
    simp only [Prog.pure_bind, if_neg some_] at ran
    obtain ⟨_, _, second, ran⟩ := Prog.ran_step ran
    cases second
    obtain ⟨_, _, third, ran⟩ := Prog.ran_step ran
    cases third
    exact ran
  · intro ran
    refine .step ?_
    simp only [Prog.pure_bind, if_neg some_]
    exact .step (.step ran)

theorem exists_sweep (sandboxes : List Sandbox) (rows : List InstanceRow) (sources : List String)
    (some_ : sandboxes ≠ []) :
    ∃ trace, Ran sweepInstances (instanceReads sandboxes rows (.ok sources) ++ trace) () := by
  let answers (act : SweepAct) : SweepSig.Ans act := by
    cases act <;> first
      | exact .ok ()
      | exact .ok []
      | exact []
      | exact ()
  exact ⟨_, (ran_sweepInstances some_).mpr (Prog.ran_played answers _)⟩

namespace Hypeman

variable {listing : List Instance} {rows : List InstanceRow} {sources : List String} {id : String}

def runningLast (group : List Instance) : List Instance :=
  (group.filter fun sandbox => sandbox.state ≠ .running) ++
    group.filter fun sandbox => sandbox.state = .running

variable {group : List Instance} {sandbox : Instance}

theorem mem_runningLast : sandbox ∈ runningLast group ↔ sandbox ∈ group := by
  unfold runningLast
  by_cases running : sandbox.state = .running <;> simp [running]

def runningCount (group : List Instance) : Nat := group.countP fun sandbox =>
    sandbox.state = .running

theorem byRunning_view (group : List Instance) :
    byRunning (group.map fun sandbox => sandbox.view id) =
      (runningLast group).map fun sandbox => sandbox.view id := by
  simp only [byRunning, runningLast, List.filter_map, List.map_append, Function.comp_def,
    Instance.view, decide_not]

theorem condemned_view (live : id ∈ liveInstances rows) (unforked : id ∉ sources)
    (several : 1 < group.length) :
    condemned (liveInstances rows) (some sources) id (group.map fun sandbox => sandbox.view id) =
      if 1 < runningCount group then []
      else (runningLast group).dropLast.map fun sandbox => sandbox.view id := by
  have counted : (group.map fun sandbox => sandbox.view id).countP Sandbox.running =
    runningCount group := by
    rw [List.countP_map]
    rfl
  rw [condemned, if_neg (not_not.mpr live), if_pos (by rwa [List.length_map]), counted,
    byRunning_view, ← List.map_dropLast]
  simp only [unforked, false_or]

/-- **What a sweep removes of the sandboxes of a live instance that no fork is at work on.** -/
theorem removed_iff (distinct : (listing.map Instance.id).Nodup) (live : id ∈ liveInstances rows)
    (unforked : id ∉ sources) (several : 1 < (taggedFor listing id).length)
    {trace : List (Exchange SweepSig)}
    (ran : Ran sweepInstances (instanceReads (listSandboxes listing) rows (.ok sources) ++ trace)
      ())
    (member : sandbox ∈ taggedFor listing id) : sandbox.id ∈ removedIn trace ↔
      runningCount (taggedFor listing id) ≤ 1 ∧
      sandbox ∈ (runningLast (taggedFor listing id)).dropLast := by
  have same {other : Instance} (there : other ∈ listing) (named : other.id = sandbox.id) :
    other = sandbox :=
    List.inj_on_of_nodup_map distinct there (List.mem_filter.mp member).1 named
  have tag := of_decide_eq_true (List.mem_filter.mp member).2
  have seen : sandbox.view id ∈ listSandboxes listing :=
    List.mem_filterMap.mpr ⟨sandbox, (List.mem_filter.mp member).1, by rw [tag]; rfl⟩
  rw [removedIn_sweepGroups ((ran_sweepInstances (List.ne_nil_of_mem seen)).mp ran)]
  have verdict := condemned_view live unforked several
  rw [← sandboxesOf_listSandboxes] at verdict
  simp only [List.mem_flatMap, List.mem_map, byInstance]
  constructor
  · rintro ⟨entry, ⟨other, -, rfl⟩, spare, removed, named⟩
    have within := condemned_subset removed
    rw [sandboxesOf_listSandboxes] at within
    obtain ⟨twin, there, rfl⟩ := List.mem_map.mp within
    obtain rfl := same (List.mem_filter.mp there).1 named
    obtain rfl : other = id :=
      Option.some.inj ((of_decide_eq_true (List.mem_filter.mp there).2).symm.trans tag)
    change _ ∈ condemned _ (some sources) _ _ at removed
    rw [verdict] at removed
    split at removed
    · cases removed
    · next few =>
        obtain ⟨again, spare, viewed⟩ := List.mem_map.mp removed
        have listed := (List.mem_filter.mp (mem_runningLast.mp (List.dropLast_subset _ spare))).1
        obtain rfl := same listed (congrArg Sandbox.substrateId viewed)
        exact ⟨Nat.not_lt.mp few, spare⟩
  · rintro ⟨few, spare⟩
    refine ⟨_, ⟨id, ?_, rfl⟩, sandbox.view id, ?_, rfl⟩
    · rw [List.mem_insertionSort, List.mem_dedup]
      exact List.mem_map.mpr ⟨_, seen, rfl⟩
    · change _ ∈ condemned _ (some sources) _ _
      rw [verdict, if_neg (Nat.not_lt.mpr few)]
      exact List.mem_map.mpr ⟨sandbox, spare, rfl⟩

/-! ### When the sweep keeps what ranks highest -/

/-- One of the sandboxes is running, or none ranks higher than the one listed last. -/
def KeepsBest (group : List Instance) : Prop :=
  (∃ sandbox ∈ group, sandbox.state = .running) ∨
    ∀ sandbox ∈ group, ∀ last, group.getLast? = some last →
      survivorRank sandbox.state ≤ survivorRank last.state

theorem survivorRank_le (state : InstanceState) : survivorRank state ≤ survivorRank .running := by
  cases state <;> decide

theorem runningLast_of_none (none_ : ∀ sandbox ∈ group, sandbox.state ≠ .running) :
    runningLast group = group := by
  have empty : (group.filter fun sandbox => sandbox.state = .running) = [] := by
    simpa [List.filter_eq_nil_iff] using none_
  have all : (group.filter fun sandbox => sandbox.state ≠ .running) = group := by
    simpa [List.filter_eq_self] using none_
  rw [runningLast, empty, all, List.append_nil]

theorem getLast_runningLast {last : Instance} (member : sandbox ∈ group)
    (running : sandbox.state = .running) (final : (runningLast group).getLast? = some last) :
    last.state = .running := by
  have nonempty : (group.filter fun sandbox => sandbox.state = .running) ≠ [] :=
    List.ne_nil_of_mem (List.mem_filter.mpr ⟨member, by simp [running]⟩)
  rw [runningLast, List.getLast?_append_of_ne_nil _ nonempty] at final
  exact of_decide_eq_true (List.mem_filter.mp (List.mem_of_getLast? final)).2

theorem mem_dropLast_or (member : sandbox ∈ group) :
    sandbox ∈ group.dropLast ∨ group.getLast? = some sandbox := by
  have nonempty := List.ne_nil_of_mem member
  rw [← List.dropLast_append_getLast nonempty, List.mem_append, List.mem_singleton] at member
  refine member.imp_right fun last => ?_
  rw [List.getLast?_eq_some_getLast nonempty, last]

theorem last_not_mem_dropLast {last : Instance} (distinct : group.Nodup)
    (final : group.getLast? = some last) : last ∉ group.dropLast := by
  obtain ⟨front, rfl⟩ := List.getLast?_eq_some_iff.mp final
  rw [List.dropLast_concat]
  intro early
  exact (List.nodup_append.mp distinct).2.2 last early last (by simp) rfl

/-- **A sweep never removes a sandbox that ranks higher than the one it keeps, exactly when one of them
is running or none ranks higher than the one listed last.** -/
theorem sweep_keeps_best_iff (listing : List Instance) (rows : List InstanceRow)
    (sources : List String)
    (id : String) (distinct : (listing.map Instance.id).Nodup) (live : id ∈ liveInstances rows)
    (unforked : id ∉ sources) (several : 1 < (taggedFor listing id).length) :
    (∀ trace,
      Ran sweepInstances (instanceReads (listSandboxes listing) rows (.ok sources) ++ trace) () → ∀ kept ∈ taggedFor listing id, ∀ gone ∈ taggedFor listing id,
        gone.id ∈ removedIn trace → kept.id ∉ removedIn trace →
          survivorRank gone.state ≤ survivorRank kept.state) ↔
            KeepsBest (taggedFor listing id) := by
  constructor
  · intro keeps
    by_cases some_ : ∃ sandbox ∈ taggedFor listing id, sandbox.state = .running
    · exact .inl some_
    have none_ : ∀ sandbox ∈ taggedFor listing id, sandbox.state ≠ .running :=
      fun sandbox member running => some_ ⟨sandbox, member, running⟩
    refine .inr fun sandbox member last final => ?_
    rcases mem_dropLast_or member with spare | same
    · have few : runningCount (taggedFor listing id) ≤ 1 := by
        rw [runningCount, List.countP_eq_zero.mpr (by simpa using none_)]
        exact Nat.zero_le 1
      have nodup : (taggedFor listing id).Nodup := (List.Nodup.of_map _ distinct).filter _
      have listed : listSandboxes listing ≠ [] := by
        intro none_
        have group := sandboxesOf_listSandboxes listing id
        rw [none_] at group
        rw [List.map_eq_nil_iff.mp group.symm] at member
        cases member
      obtain ⟨trace, swept⟩ := exists_sweep _ rows sources listed
      have removed {sandbox : Instance} (member : sandbox ∈ taggedFor listing id) :=
        removed_iff distinct live unforked several swept member
      rw [runningLast_of_none none_] at removed
      have there := List.mem_of_getLast? final
      exact keeps trace swept last there sandbox member ((removed member).mpr ⟨few, spare⟩)
        fun gone => last_not_mem_dropLast nodup final ((removed there).mp gone).2
    · rw [Option.some.inj (same.symm.trans final)]
  · intro best trace ran kept keptMember gone goneMember removed left
    obtain ⟨few, spare⟩ := (removed_iff distinct live unforked several ran goneMember).mp removed
    have survives : kept ∉ (runningLast (taggedFor listing id)).dropLast :=
      fun spare => left ((removed_iff distinct live unforked several ran keptMember).mpr
        ⟨few, spare⟩)
    have final := (mem_dropLast_or (mem_runningLast.mpr keptMember)).resolve_left survives
    by_cases some_ : ∃ sandbox ∈ taggedFor listing id, sandbox.state = .running
    · obtain ⟨sandbox, member, running⟩ := some_
      rw [getLast_runningLast member running final]
      exact survivorRank_le gone.state
    · rw [runningLast_of_none fun sandbox member running =>
        some_ ⟨sandbox, member, running⟩] at final
      exact (best.resolve_left some_) gone goneMember kept final

def pausedRow : InstanceRow :=
  ⟨ulid, .pinned ulid 0, .paused, false, "", 0, 0, none, "", "", none, none, none, none, none, 0⟩

def sampleSandbox (id : String) (state : InstanceState) :
    Instance := ⟨id, state, [(INSTANCE_TAG, ulid)]⟩

def samplePair (first last : InstanceState) : List Instance :=
  [sampleSandbox "a" first, sampleSandbox "b" last]

theorem samplePair_swept {first last : InstanceState} (firstIdle : first ≠ .running)
    (lastIdle : last ≠ .running) : ∃ trace, Ran sweepInstances
        (instanceReads (listSandboxes (samplePair first last)) [pausedRow] (.ok []) ++ trace) () ∧
      "a" ∈ removedIn trace ∧ "b" ∉ removedIn trace := by
  obtain ⟨trace, ran⟩ := exists_sweep (listSandboxes (samplePair first last)) [pausedRow] [] nofun
  have group : taggedFor (samplePair first last) ulid = samplePair first last := rfl
  have several : 1 < (taggedFor (samplePair first last) ulid).length := Nat.one_lt_two
  have idle : ∀ sandbox ∈ samplePair first last, sandbox.state ≠ .running := by
    simp [samplePair, sampleSandbox, firstIdle, lastIdle]
  have removed (sandbox : Instance) (member : sandbox ∈ taggedFor (samplePair first last) ulid) :=
    removed_iff (by simp [samplePair, sampleSandbox]) (by decide) (by simp) several ran member
  rw [group, runningLast_of_none idle] at removed
  refine ⟨trace, ran, (removed (sampleSandbox "a" first) (by simp [samplePair])).mpr ⟨?_, ?_⟩,
    fun gone => ?_⟩
  · rw [runningCount, List.countP_eq_zero.mpr (by simpa using idle)]
    exact Nat.zero_le 1
  · simp [samplePair]
  · have early := ((removed (sampleSandbox "b" last) (by simp [samplePair])).mp gone).2
    simp [samplePair, sampleSandbox] at early

theorem sweep_keeps_best_standby : ∃ trace, Ran sweepInstances
        (instanceReads (listSandboxes (samplePair .stopped .standby)) [pausedRow] (.ok []) ++ trace)
        () ∧
      "a" ∈ removedIn trace ∧ "b" ∉ removedIn trace ∧ survivorRank .stopped ≤
        survivorRank .standby := by
  obtain ⟨trace, ran, gone, left⟩ := @samplePair_swept .stopped .standby (by decide) (by decide)
  refine ⟨trace, ran, gone, left, ?_⟩
  have best : KeepsBest (taggedFor (samplePair .stopped .standby) ulid) := .inr (by decide)
  exact (sweep_keeps_best_iff (samplePair .stopped .standby) [pausedRow] [] ulid
    (by decide) (by decide)
    (by decide) (by decide)).mpr best trace ran (sampleSandbox "b" .standby) (by decide)
    (sampleSandbox "a" .stopped) (by decide) gone left

/-- The memory of a paused session is removed, and a stopped duplicate is kept. -/
theorem sweep_removes_standby : ∃ trace, Ran sweepInstances
        (instanceReads (listSandboxes (samplePair .standby .stopped)) [pausedRow] (.ok []) ++ trace)
        () ∧
      "a" ∈ removedIn trace ∧ "b" ∉ removedIn trace ∧ survivorRank .stopped <
        survivorRank .standby := by
  obtain ⟨trace, ran, gone, left⟩ := @samplePair_swept .standby .stopped (by decide) (by decide)
  exact ⟨trace, ran, gone, left, by decide⟩

end Hypeman

end Barista.Node
