import Barista.Foundation.Run
import Barista.Capsule.Conduct

/-!
Contract: the capsule subsystem of one node, its files and its journal.

Tasks run interleaved over two directories and the registry. The bucket answers as it likes. The
process may be killed at any moment: its tasks are gone, files that were synced are as they were, and
files that were not hold anything.

Owns: what each action does, the transition system, and that the tasks of a reachable state are where
their histories have left them.
-/

namespace Barista.Capsule

open Foundation
open Prog (Heeds)

/-! ### Files and actions -/

structure StoredFile where
  bytes : Vec UInt8
  synced : Bool
deriving DecidableEq

structure Depot where
  staging : StagingName → Option StoredFile
  objects : Text → Option StoredFile
  registry : Registry
  serving : Bool
  /-- What each task has said and heard. -/
  heard : Nat → List (Exchange StoreSig)

structure StoreChoice where
  failure : Option String := none
  failedAt : FailedAt := .first
  /-- What a write that fails leaves in its file. -/
  written : Vec UInt8 := .empty
  stagingEntry : Option StagingName := none
  objectEntry : Option Text := none
  contained : Bool := false
  downloaded : Option (Vec UInt8) := none
  snapshot : Option SnapshotSource := none
  lineage : Option Text := none
  exported : Except CapsuleError (Vec SnapshotObject) := .ok .empty
  now : Int := 0

def StoreChoice.calm : StoreChoice := {}

namespace Depot

variable {α ε : Type}

def attempted (depot : Depot) (failure : Option ε) (result : Except ε α × Depot) :
    Except ε α × Depot :=
  match failure with
  | some cause => (.error cause, depot)
  | none => result

def onFile (depot : Depot) (file : Option StoredFile)
    (result : StoredFile → Except String α × Depot) : Except String α × Depot :=
  match file with
  | none => (.error "No such file or directory (os error 2)", depot)
  | some file => result file

def setStaging (depot : Depot) (name : StagingName) (file : Option StoredFile) : Depot :=
  { depot with staging := Function.update depot.staging name file }

def setObject (depot : Depot) (digest : Text) (file : Option StoredFile) : Depot :=
  { depot with objects := Function.update depot.objects digest file }

def setRegistry (depot : Depot) (registry : Registry) : Depot := { depot with registry := registry }

def stagingName (depot : Depot) (index : Nat) : StagingName := ⟨index, (depot.heard index).length⟩

def perform (depot : Depot) (index : Nat) (choice : StoreChoice) :
    (act : StoreAct) → StoreSig.Ans act × Depot
  | .createStaging =>
    let name := depot.stagingName index
    depot.attempted choice.failure (.ok name, depot.setStaging name (some ⟨.empty, false⟩))
  | .fillStaging name bytes =>
    -- A file that was unlinked meanwhile is written all the same, and nobody sees it.
    let left (file : StoredFile) := depot.setStaging name ((depot.staging name).map fun _ => file)
    match choice.failure with
    | some _ => (.error choice.failedAt, left ⟨choice.written, false⟩)
    | none => (.ok (), left ⟨bytes, true⟩)
  | .readStaging name => depot.attempted choice.failure <|
      depot.onFile (depot.staging name) fun file => (.ok file.bytes, depot)
  | .removeStaging name | .sweepStaging name => depot.attempted choice.failure <|
      depot.onFile (depot.staging name) fun _ => (.ok (), depot.setStaging name none)
  | .publish name digest => depot.attempted choice.failure <|
      depot.onFile (depot.staging name) fun file =>
        (.ok (), (depot.setStaging name none).setObject digest (some file))
  | .nextStaging => depot.attempted choice.failure
      (.ok (choice.stagingEntry.filter fun name => (depot.staging name).isSome), depot)
  | .isObject digest => (choice.failure.isNone && (depot.objects digest).isSome, depot)
  | .readObject digest => depot.attempted (choice.failure.map fun _ => choice.failedAt)
      (.ok ((depot.objects digest).map StoredFile.bytes), depot)
  | .removeObject digest => depot.attempted choice.failure (.ok (), depot.setObject digest none)
  | .nextObject => depot.attempted choice.failure
      (.ok (choice.objectEntry.filter fun digest => (depot.objects digest).isSome), depot)
  | .sweepObject digest => depot.attempted choice.failure <|
      depot.onFile (depot.objects digest) fun _ => (.ok (), depot.setObject digest none)
  | .head _ => depot.attempted choice.failure (.ok choice.contained, depot)
  | .put _ _ | .deleteRemote _ => depot.attempted choice.failure (.ok (), depot)
  | .get _ => depot.attempted choice.failure (.ok choice.downloaded, depot)
  | .getSnapshot _ => depot.attempted choice.failure (.ok choice.snapshot, depot)
  | .getLineage _ => (choice.lineage, depot)
  | .getCapsule capsuleId => depot.attempted choice.failure
      (.ok (depot.registry.capsule? capsuleId), depot)
  | .registerCapsule row =>
    let (registered, registry) := depot.registry.registerCapsule row
    depot.attempted choice.failure (.ok registered, depot.setRegistry registry)
  | .insertSnapshot row => depot.attempted choice.failure
      (.ok (), depot.setRegistry (depot.registry.insertSnapshot row))
  | .deleteCapsule capsuleId => depot.attempted choice.failure
      (.ok (), depot.setRegistry (depot.registry.deleteCapsule capsuleId))
  | .collectableObjects => depot.attempted choice.failure
      (.ok depot.registry.collectableObjects, depot)
  | .finalizeObjectGc digest => depot.attempted choice.failure
      (.ok (), depot.setRegistry (depot.registry.finalizeObjectGc digest))
  | .objectRef digest => depot.attempted choice.failure
      (.ok (depot.registry.objectRefs.row? digest), depot)
  | .exportSnapshot _ => (choice.exported, depot)
  | .now => (choice.now, depot)
  | .serve => ((), { depot with serving := true })

def hear (depot : Depot) (index : Nat) (exchange : Exchange StoreSig) : Depot :=
  { depot with heard := Function.update depot.heard index (depot.heard index ++ [exchange]) }

def survived (damage : Vec UInt8) (file : StoredFile) : StoredFile :=
  if file.synced then file else ⟨damage, false⟩

def crashed (depot : Depot) (staging : StagingName → Vec UInt8) (objects : Text → Vec UInt8) :
    Depot :=
  { depot with
    staging := fun name => (depot.staging name).map (survived (staging name))
    objects := fun digest => (depot.objects digest).map (survived (objects digest))
    serving := false }

def empty : Depot := ⟨fun _ => none, fun _ => none, .empty, false, fun _ => []⟩

/-! ### Everything an action can do -/

/-- What an answer tells of the depot when the action changes nothing. -/
def Told (depot : Depot) : Exchange StoreSig → Prop
  | ⟨.isObject digest, present⟩ => present = true → (depot.objects digest).isSome
  | ⟨.readObject digest, .ok (some _)⟩ => (depot.objects digest).isSome
  | ⟨.nextObject, .ok (some digest)⟩ => (depot.objects digest).isSome
  | ⟨.nextStaging, .ok (some name)⟩ => (depot.staging name).isSome
  | ⟨.objectRef digest, .ok ref⟩ => ref = depot.registry.objectRefs.row? digest
  | ⟨.createStaging, .ok _⟩ | ⟨.fillStaging _ _, _⟩ | ⟨.publish _ _, .ok _⟩ | ⟨.serve, _⟩ => False
  | _ => True

/-- What an action is answered and does, whatever the environment decides. -/
inductive Effect (depot : Depot) (index : Nat) : Exchange StoreSig → Depot → Prop
  | same {exchange : Exchange StoreSig} (told : depot.Told exchange) :
    Effect depot index exchange depot
  | createStaging : Effect depot index ⟨.createStaging, .ok (depot.stagingName index)⟩
      (depot.setStaging (depot.stagingName index) (some ⟨.empty, false⟩))
  | fillStaging (name : StagingName) (bytes : Vec UInt8) :
      Effect depot index ⟨.fillStaging name bytes, .ok ()⟩
        (depot.setStaging name ((depot.staging name).map fun _ => ⟨bytes, true⟩))
  | spoilStaging (name : StagingName) (bytes written : Vec UInt8) (cause : FailedAt) :
      Effect depot index ⟨.fillStaging name bytes, .error cause⟩
        (depot.setStaging name ((depot.staging name).map fun _ => ⟨written, false⟩))
  | removeStaging (name : StagingName) : Effect depot index ⟨.removeStaging name, .ok ()⟩
      (depot.setStaging name none)
  | sweepStaging (name : StagingName) : Effect depot index ⟨.sweepStaging name, .ok ()⟩
      (depot.setStaging name none)
  | publish {name : StagingName} {file : StoredFile} (digest : Text)
      (staged : depot.staging name = some file) : Effect depot index ⟨.publish name digest, .ok ()⟩
      ((depot.setStaging name none).setObject digest (some file))
  | removeObject (digest : Text) : Effect depot index ⟨.removeObject digest, .ok ()⟩
      (depot.setObject digest none)
  | sweepObject (digest : Text) : Effect depot index ⟨.sweepObject digest, .ok ()⟩
      (depot.setObject digest none)
  | registerCapsule (row : CapsuleRow) :
      Effect depot index ⟨.registerCapsule row, .ok (depot.registry.registerCapsule row).1⟩
        (depot.setRegistry (depot.registry.registerCapsule row).2)
  | insertSnapshot (row : Node.SnapshotRow) : Effect depot index ⟨.insertSnapshot row, .ok ()⟩
      (depot.setRegistry (depot.registry.insertSnapshot row))
  | deleteCapsule (capsuleId : Text) : Effect depot index ⟨.deleteCapsule capsuleId, .ok ()⟩
      (depot.setRegistry (depot.registry.deleteCapsule capsuleId))
  | finalizeObjectGc (digest : Text) : Effect depot index ⟨.finalizeObjectGc digest, .ok ()⟩
      (depot.setRegistry (depot.registry.finalizeObjectGc digest))
  | serve : Effect depot index ⟨.serve, ()⟩ { depot with serving := true }

variable {depot after : Depot} {index : Nat} {exchange : Exchange StoreSig}

variable {name : StagingName} {file : Option StoredFile}

theorem setStaging_self : (depot.setStaging name file).staging name = file :=
  Function.update_self ..

theorem setStaging_of_ne {other : StagingName} (apart : other ≠ name) :
    (depot.setStaging name file).staging other = depot.staging other :=
  Function.update_of_ne apart ..

variable {digest : Text}

theorem setObject_self : (depot.setObject digest file).objects digest = file :=
  Function.update_self ..

theorem setObject_of_ne {other : Text} (apart : other ≠ digest) :
    (depot.setObject digest file).objects other = depot.objects other :=
  Function.update_of_ne apart ..

theorem setObject_staging : (depot.setObject digest file).staging = depot.staging := rfl

/-- **The environment's choices aside, this is all an action can do.** -/
theorem perform_effect (depot : Depot) (index : Nat) (choice : StoreChoice) (act : StoreAct) :
    depot.Effect index ⟨act, (depot.perform index choice act).1⟩
      (depot.perform index choice act).2 := by
  obtain ⟨failure, failedAt, written, stagingEntry, objectEntry, contained, downloaded,
    snapshot, lineage,
    exported, now⟩ := choice
  cases failure with
  | some cause =>
    cases act with
    | fillStaging name bytes => exact .spoilStaging name bytes written failedAt
    | isObject digest => exact .same nofun
    | serve => exact .serve
    | _ => exact .same trivial
  | none =>
    cases act with
    | createStaging => exact .createStaging
    | fillStaging name bytes => exact .fillStaging name bytes
    | readStaging name =>
      simp only [perform, attempted]
      cases depot.staging name <;> exact .same trivial
    | removeStaging name =>
      simp only [perform, attempted]
      cases depot.staging name with
      | none => exact .same trivial
      | some file => exact .removeStaging name
    | sweepStaging name =>
      simp only [perform, attempted]
      cases depot.staging name with
      | none => exact .same trivial
      | some file => exact .sweepStaging name
    | publish name digest =>
      simp only [perform, attempted]
      cases staged : depot.staging name with
      | none => exact .same trivial
      | some file => exact .publish digest staged
    | nextStaging =>
      refine .same ?_
      cases found : stagingEntry.filter fun name => (depot.staging name).isSome with
      | none => simp only [perform, attempted, found, Told]
      | some name =>
        simp only [perform, attempted, found, Told]
        exact (Option.filter_eq_some_iff.mp found).2
    | isObject digest => exact .same id
    | readObject digest =>
      refine .same ?_
      simp only [perform, attempted]
      cases read : depot.objects digest with
      | none => exact trivial
      | some file => simp [Told, read]
    | removeObject digest => exact .removeObject digest
    | nextObject =>
      refine .same ?_
      cases found : objectEntry.filter fun digest => (depot.objects digest).isSome with
      | none => simp only [perform, attempted, found, Told]
      | some digest =>
        simp only [perform, attempted, found, Told]
        exact (Option.filter_eq_some_iff.mp found).2
    | sweepObject digest =>
      simp only [perform, attempted]
      cases depot.objects digest with
      | none => exact .same trivial
      | some file => exact .sweepObject digest
    | registerCapsule row => exact .registerCapsule row
    | insertSnapshot row => exact .insertSnapshot row
    | deleteCapsule capsuleId => exact .deleteCapsule capsuleId
    | finalizeObjectGc digest => exact .finalizeObjectGc digest
    | objectRef digest => exact .same rfl
    | serve => exact .serve
    | _ => exact .same trivial

section Effects

variable (effect : depot.Effect index exchange after)

include effect

theorem Effect.heard : after.heard = depot.heard := by
  cases effect <;> rfl

theorem Effect.staged {file : StoredFile}
    (there : after.staging name = some file) : depot.staging name = some file ∨
      exchange = ⟨.createStaging, .ok name⟩ ∧ name = depot.stagingName index ∨
      ∃ bytes answer, exchange = ⟨.fillStaging name bytes, answer⟩ ∧
        (answer = .ok () → file = ⟨bytes, true⟩) := by
  cases effect with
  | createStaging =>
    by_cases same : name = depot.stagingName index
    · exact .inr (.inl ⟨by rw [same], same⟩)
    · exact .inl (by rwa [setStaging_of_ne same] at there)
  | fillStaging written bytes =>
    by_cases same : name = written
    · subst same
      rw [setStaging_self] at there
      obtain ⟨-, -, rfl⟩ := Option.map_eq_some_iff.mp there
      exact .inr (.inr ⟨bytes, .ok (), rfl, fun _ => rfl⟩)
    · exact .inl (by rwa [setStaging_of_ne same] at there)
  | spoilStaging written bytes left cause =>
    by_cases same : name = written
    · subst same
      exact .inr (.inr ⟨bytes, .error cause, rfl, nofun⟩)
    · exact .inl (by rwa [setStaging_of_ne same] at there)
  | removeStaging gone | sweepStaging gone =>
    by_cases same : name = gone
    · rw [same, setStaging_self] at there
      cases there
    · exact .inl (by rwa [setStaging_of_ne same] at there)
  | @publish gone moved digest staged =>
    by_cases same : name = gone
    · rw [setObject_staging, same, setStaging_self] at there
      cases there
    · exact .inl (by rwa [setObject_staging, setStaging_of_ne same] at there)
  | _ => exact .inl there

theorem Effect.stored {file : StoredFile}
    (there : after.objects digest = some file) : depot.objects digest = some file ∨
      ∃ name, exchange = ⟨.publish name digest, .ok ()⟩ ∧ depot.staging name = some file := by
  cases effect with
  | @publish name moved published staged =>
    by_cases same : digest = published
    · subst same
      rw [setObject_self] at there
      exact .inr ⟨name, rfl, there ▸ staged⟩
    · exact .inl (by rwa [setObject_of_ne same] at there)
  | removeObject gone | sweepObject gone =>
    by_cases same : digest = gone
    · rw [same, setObject_self] at there
      cases there
    · exact .inl (by rwa [setObject_of_ne same] at there)
  | _ => exact .inl there

theorem Effect.staging_kept (there : (depot.staging name).isSome) :
    (after.staging name).isSome ∨ exchange = ⟨.removeStaging name, .ok ()⟩ ∨
      exchange = ⟨.sweepStaging name, .ok ()⟩ ∨
      ∃ digest, exchange = ⟨.publish name digest, .ok ()⟩ := by
  cases effect with
  | createStaging =>
    refine .inl ?_
    simp only [setStaging, Function.update_apply]
    split
    · rfl
    · exact there
  | fillStaging written bytes | spoilStaging written bytes =>
    refine .inl ?_
    simp only [setStaging, Function.update_apply]
    split
    · next same => rwa [Option.isSome_map, ← same]
    · exact there
  | removeStaging gone =>
    by_cases same : name = gone
    · exact .inr (.inl (by rw [same]))
    · exact .inl (by rwa [setStaging_of_ne same])
  | sweepStaging gone =>
    by_cases same : name = gone
    · exact .inr (.inr (.inl (by rw [same])))
    · exact .inl (by rwa [setStaging_of_ne same])
  | @publish gone moved digest staged =>
    by_cases same : name = gone
    · exact .inr (.inr (.inr ⟨digest, by rw [same]⟩))
    · exact .inl (by rwa [setObject_staging, setStaging_of_ne same])
  | _ => exact .inl there

theorem Effect.object_kept (there : (depot.objects digest).isSome) :
    (after.objects digest).isSome ∨ exchange = ⟨.removeObject digest, .ok ()⟩ ∨
      exchange = ⟨.sweepObject digest, .ok ()⟩ := by
  cases effect with
  | @publish name moved published staged =>
    refine .inl ?_
    simp only [setObject, Function.update_apply]
    split
    · rfl
    · exact there
  | removeObject gone =>
    by_cases same : digest = gone
    · exact .inr (.inl (by rw [same]))
    · exact .inl (by rwa [setObject_of_ne same])
  | sweepObject gone =>
    by_cases same : digest = gone
    · exact .inr (.inr (by rw [same]))
    · exact .inl (by rwa [setObject_of_ne same])
  | _ => exact .inl there

theorem Effect.secures (secured : secures exchange = some digest) :
    (after.objects digest).isSome := by
  unfold Capsule.secures at secured
  split at secured
  · cases secured
    cases effect with
    | same told => exact told.elim
    | publish published staged =>
      rw [setObject_self]
      rfl
  · cases secured
    cases effect with
    | same told => exact told rfl
  · cases secured
    cases effect with
    | same told => exact told
  · cases secured

theorem Effect.registered {later : CapsuleRow}
    (member : later ∈ after.registry.capsules.rows) : later ∈ depot.registry.capsules.rows ∨
      ∃ row answer, exchange = ⟨.registerCapsule row, answer⟩ ∧
        (later = row ∧ depot.registry.capsule? row.capsuleId = none ∨
          ∃ existing ∈ depot.registry.capsules.rows, existing.capsuleId = row.capsuleId ∧
            capsuleTierRank existing.storage < capsuleTierRank row.storage ∧
            later = { existing with storage := row.storage }) := by
  cases effect with
  | registerCapsule row =>
    rcases Registry.mem_registerCapsule member with old | fresh | promoted
    · exact .inl old
    · exact .inr ⟨row, _, rfl, .inl fresh⟩
    · exact .inr ⟨row, _, rfl, .inr promoted⟩
  | deleteCapsule capsuleId => exact .inl (Registry.mem_deleteCapsule member)
  | _ => exact .inl member

theorem Effect.exact_ (counted : depot.registry.Exact) :
    after.registry.Exact := by
  cases effect with
  | registerCapsule row => exact counted.registerCapsule row
  | deleteCapsule capsuleId => exact counted.deleteCapsule capsuleId
  | finalizeObjectGc digest => exact counted.finalizeObjectGc digest
  | insertSnapshot row => exact ⟨counted.counts, counted.marked⟩
  | _ => exact counted

end Effects

theorem hear_self : (depot.hear index exchange).heard index = depot.heard index ++ [exchange] :=
  Function.update_self ..

theorem hear_of_ne {other : Nat} (apart : other ≠ index) :
    (depot.hear index exchange).heard other = depot.heard other := Function.update_of_ne apart ..

theorem hear_grows (other : Nat) :
    depot.heard other <+: (depot.hear index exchange).heard other := by
  by_cases same : other = index
  · rw [same, hear_self]
    exact List.prefix_append _ _
  · exact (hear_of_ne same).symm ▸ List.prefix_rfl

theorem heard_cases (heard : after.heard = depot.heard) {other moment : Nat}
    {old : Exchange StoreSig}
    (said : ((after.hear index exchange).heard other)[moment]? = some old) :
    (depot.heard other)[moment]? = some old ∨
      other = index ∧ moment = (depot.heard index).length ∧ old = exchange := by
  simp only [hear, heard] at said
  by_cases same : other = index
  · subst same
    rw [Function.update_self] at said
    exact (located_append said).imp_right fun last => ⟨rfl, last⟩
  · rw [Function.update_of_ne same] at said
    exact .inl said

end Depot

def storeMachine : Machine StoreSig Depot StoreChoice where
  exec index act choice depot :=
    let result := depot.perform index choice act
    some (result.1, result.2.hear index ⟨act, result.1⟩)

/-! ### The transition system -/

abbrev StoreTask (Role : Type) := Task StoreSig Role (Except CapsuleError Unit)

abbrev Crew (Role : Type) := Pool StoreSig Role (Except CapsuleError Unit) Depot

/-- The tasks a depot is worked by: what each does, when it may begin, and what its actions rest on. -/
structure Service (agent : CapsuleAgent) (Role : Type) where
  prog : Role → StoreProg (Except CapsuleError Unit)
  admits : Crew Role → Role → Bool
  leave : Role → Leave
  heeds : ∀ role, Heeds (fun _ => True) (RestsOn agent (leave role)) (fun _ _ => True)
    [] (prog role)

inductive CrewLabel (Role : Type) where
  | begin_ (role : Role)
  | step (index : Nat) (choice : StoreChoice)
  /-- The process is killed, and files that were not synced hold what is given here. -/
  | crash (staging : StagingName → Vec UInt8) (objects : Text → Vec UInt8)

namespace Crew

variable {Role : Type} {agent : CapsuleAgent}

def halt (task : StoreTask Role) : StoreTask Role := { task with prog := .pure (.ok ()) }

def next (service : Service agent Role) (crew : Crew Role) : CrewLabel Role → Option (Crew Role)
  | .begin_ role =>
    if service.admits crew role then some (crew.spawn ⟨role, service.prog role⟩) else none
  | .step index choice => crew.step storeMachine index choice
  | .crash staging objects => some ⟨crew.world.crashed staging objects, crew.tasks.map halt⟩

def initial : Crew Role := ⟨.empty, []⟩

def reach (service : Service agent Role) (labels : List (CrewLabel Role)) : Option (Crew Role) :=
  run (next service) initial labels

def asks (crew : Crew Role) (index : Nat) : Option StoreAct :=
  match crew.tasks[index]? with
  | some ⟨_, .step act _⟩ => some act
  | _ => none

def live (crew : Crew Role) (index : Nat) : Bool := (crew.asks index).isSome

def busy (crew : Crew Role) : Bool := (List.range crew.tasks.length).any crew.live

def calmly (count : Nat) : List StoreChoice := List.replicate count .calm

def pass (index : Nat) (choices : List StoreChoice) : List (CrewLabel Role) :=
  choices.map (.step index)

end Crew

def verbs (agent : CapsuleAgent) : Service agent Verb where
  prog := Verb.prog agent
  admits crew
    | .bootstrap _ => !crew.world.serving && !crew.busy
    | _ => crew.world.serving
  leave := Verb.leave
  heeds := heeds_verb agent

/-- The verbs together with whoever calls the store directly, at any time. -/
def everyone (agent : CapsuleAgent) : Service agent (Verb ⊕ StoreCall) where
  prog := Sum.elim (Verb.prog agent) (StoreCall.prog agent)
  admits _ _ := true
  leave := Sum.elim Verb.leave fun _ => StoreCall.leave
  heeds
    | .inl verb => heeds_verb agent verb
    | .inr call => heeds_call agent call

/-! ### Sample runs -/

/-- A node with a bucket and a runtime that can do everything. -/
def sampleAgent : CapsuleAgent where
  objects := ⟨checksum, some "bucket"⟩
  arch := sampleManifest.architecture
  cpuClass := Text.empty
  capsuleExport := true
  capsuleImport := true
  memorySnapshot := true

def sampleBytes : Vec UInt8 := ⟨[1, 2, 3], by simp⟩

def sampleSource : SnapshotSource where
  instanceId := ⟨"i", by decide⟩
  kind := .diskOnly
  cpuClass := Text.empty
  templateHash := Text.empty
  runtimeBundleRef := Text.empty
  createdAtMs := 0

def snapshotRead : List StoreChoice :=
  [{ snapshot := some sampleSource }, { exported := .ok ⟨[⟨.disk, sampleBytes⟩], by simp⟩ }]

def exportedManifest : CapsuleManifest :=
  exportManifest sampleAgent sampleSource none ⟨[⟨objectDigest checksum sampleBytes,
    byteLength sampleBytes, CapsuleObjectType.toInt32 .disk, mediaType .disk⟩], by simp⟩

def booted : List (CrewLabel Verb) :=
  .begin_ (.bootstrap 0) :: Crew.pass 0 (Crew.calmly 2)

namespace Crew

variable {Role : Type} {agent : CapsuleAgent} {service : Service agent Role}
  {crew after : Crew Role} {label : CrewLabel Role} {labels : List (CrewLabel Role)}

inductive Step (service : Service agent Role) (crew : Crew Role) : CrewLabel Role → Crew Role → Prop
  | begin_ {role : Role} (admitted : service.admits crew role = true) :
      Step service crew (.begin_ role) (crew.spawn ⟨role, service.prog role⟩)
  | step {index : Nat} {choice : StoreChoice} {role : Role} {act : StoreAct}
      {continuation : StoreSig.Ans act → StoreProg (Except CapsuleError Unit)}
      {answer : StoreSig.Ans act} {depot : Depot}
      (found : crew.tasks[index]? = some ⟨role, .step act continuation⟩)
      (effect : crew.world.Effect index ⟨act, answer⟩ depot)
      (answered : answer = (crew.world.perform index choice act).1) :
      Step service crew (.step index choice)
        ⟨depot.hear index ⟨act, answer⟩, crew.tasks.set index ⟨role, continuation answer⟩⟩
  | crash (staging : StagingName → Vec UInt8) (objects : Text → Vec UInt8) :
      Step service crew (.crash staging objects)
        ⟨crew.world.crashed staging objects, crew.tasks.map halt⟩

theorem step_of_next (stepped : next service crew label = some after) :
    Step service crew label after := by
  cases label with
  | begin_ role =>
    simp only [next] at stepped
    split at stepped
    · next admitted =>
        cases stepped
        exact .begin_ admitted
    · cases stepped
  | step index choice =>
    have acted : crew.step storeMachine index choice = some after := stepped
    obtain ⟨role, act, continuation, answer, world, found, executed, rfl⟩ := Pool.step_cases acted
    cases executed
    exact .step found (Depot.perform_effect ..) rfl
  | crash staging objects =>
    cases stepped
    exact .crash staging objects

/-! ### Tasks at work -/

def Working (crew : Crew Role) (index : Nat) (role : Role) : Prop :=
  ∃ act continuation, crew.tasks[index]? = some ⟨role, .step act continuation⟩

variable {index : Nat} {act : StoreAct}

theorem asks_eq_some : crew.asks index = some act ↔
    ∃ role continuation, crew.tasks[index]? = some ⟨role, .step act continuation⟩ := by
  unfold asks
  split
  · next role asked continuation found =>
      constructor
      · rintro ⟨⟩
        exact ⟨role, continuation, found⟩
      · rintro ⟨part, rest, again⟩
        rw [found] at again
        cases again
        rfl
  · next other =>
      constructor
      · rintro ⟨⟩
      · rintro ⟨role, continuation, found⟩
        exact absurd found (other role act continuation)

variable {role : Role}

theorem live_of_working (working : crew.Working index role) : crew.live index = true := by
  obtain ⟨act, continuation, found⟩ := working
  rw [live, asks_eq_some.mpr ⟨role, continuation, found⟩]
  rfl

theorem working_lt (working : crew.Working index role) : index < crew.tasks.length := by
  obtain ⟨act, continuation, found⟩ := working
  exact (List.getElem?_eq_some_iff.mp found).1

theorem idle (free : crew.busy = false) : ¬ crew.Working index role := by
  intro working
  have busy : crew.busy = true :=
    List.any_eq_true.mpr ⟨index, List.mem_range.mpr (working_lt working), live_of_working working⟩
  rw [free] at busy
  cases busy

theorem working_of_set {other : Nat} {part : Role} {world : Depot}
    {continuation : StoreSig.Ans act → StoreProg (Except CapsuleError Unit)}
    {rest : StoreProg (Except CapsuleError Unit)}
    (found : crew.tasks[index]? = some ⟨role, .step act continuation⟩)
    (working : Working ⟨world, crew.tasks.set index ⟨role, rest⟩⟩ other part) :
    crew.Working other part := by
  obtain ⟨later, goesOn, located⟩ := working
  rcases located_set found located with ⟨rfl, written⟩ | ⟨-, located⟩
  · obtain ⟨rfl, -⟩ := Task.mk.inj written
    exact ⟨act, continuation, found⟩
  · exact ⟨later, goesOn, located⟩

theorem working_of_spawn {part : Role} {prog : StoreProg (Except CapsuleError Unit)}
    (working : Working (crew.spawn ⟨role, prog⟩) index part) :
    crew.Working index part ∨ index = crew.tasks.length ∧ part = role := by
  obtain ⟨act, continuation, located⟩ := working
  rcases located_append located with located | ⟨last, started⟩
  · exact .inl ⟨act, continuation, located⟩
  · exact .inr ⟨last, (Task.mk.inj started).1⟩

theorem not_working_halted {world : Depot} : ¬ Working ⟨world, crew.tasks.map halt⟩ index role := by
  rintro ⟨act, continuation, located⟩
  obtain ⟨old, -, ended⟩ := Option.map_eq_some_iff.mp (List.getElem?_map .. ▸ located)
  cases ended

/-! ### What the tasks of a crew rest on -/

def Resides (service : Service agent Role) (crew : Crew Role) : Prop :=
  Pool.Resides service.prog crew crew.world.heard

theorem Resides.step (resides : Resides service crew)
    (stepped : next service crew label = some after) : Resides service after := by
  cases step_of_next stepped with
  | begin_ admitted => exact Pool.Resides.spawn resides _ crew.world
  | step found effect answered =>
    simp only [Resides, Depot.hear, effect.heard]
    exact Pool.Resides.step resides found
  | crash staging objects => exact Pool.Resides.survive resides _ fun _ => .inr ⟨_, rfl⟩

theorem resides_initial : Resides service initial := by
  refine ⟨?_, fun _ => rfl⟩
  intro index role act continuation found
  cases found

theorem resides_of_reach (reached : reach service labels = some crew) : Resides service crew :=
  run_invariant Resides.step resides_initial reached

theorem Resides.rests (resides : Resides service crew)
    {continuation : StoreSig.Ans act → StoreProg (Except CapsuleError Unit)}
    (found : crew.tasks[index]? = some ⟨role, .step act continuation⟩) :
    RestsOn agent (service.leave role) (crew.world.heard index) act :=
  ((service.heeds role).after (Pool.Resides.residual resides found) fun _ _ => trivial).1

def Named (crew : Crew Role) : Prop :=
  ∀ index moment name, (crew.world.heard index)[moment]? =
    some (⟨.createStaging, .ok name⟩ : Exchange StoreSig) → name = ⟨index, moment⟩

theorem Named.step (named : Named crew) (stepped : next service crew label = some after) :
    Named after := by
  cases step_of_next stepped with
  | begin_ admitted => exact named
  | crash staging objects => exact named
  | @step index choice role act continuation answer depot found effect answered =>
    intro other moment name said
    rcases Depot.heard_cases effect.heard said with old | ⟨rfl, rfl, same⟩
    · exact named other moment name old
    · cases same
      cases effect with
      | same told => exact told.elim
      | createStaging => rfl

theorem named_initial : Named (initial : Crew Role) := by
  intro index moment name said
  simp [initial, Depot.empty] at said

/-- **Every answer a task has heard was given at some moment of the run.** -/
theorem heard_at (reached : reach service labels = some crew) {exchange : Exchange StoreSig}
    (member : exchange ∈ crew.world.heard index) :
    ∃ early choice late moment, labels = early ++ .step index choice :: late ∧
      reach service early = some moment ∧ moment.asks index = some exchange.act ∧
      exchange.answer = (moment.world.perform index choice exchange.act).1 := by
  obtain ⟨early, label, late, before, after, rfl, came, stepped, unheard, heard⟩ := run_moment
    (P := fun crew : Crew Role => exchange ∈ crew.world.heard index)
    (by simp [initial, Depot.empty]) reached member
  cases step_of_next stepped with
  | begin_ admitted => exact absurd heard unheard
  | crash staging objects => exact absurd heard unheard
  | @step actor choice role act continuation answer depot found effect answered =>
    obtain ⟨position, said⟩ := List.getElem?_of_mem heard
    rcases Depot.heard_cases effect.heard said with old | ⟨rfl, -, rfl⟩
    · exact absurd (List.mem_of_getElem? old) unheard
    · exact ⟨early, choice, late, before, rfl, came, asks_eq_some.mpr ⟨role, continuation, found⟩,
        answered⟩

end Crew

end Barista.Capsule
