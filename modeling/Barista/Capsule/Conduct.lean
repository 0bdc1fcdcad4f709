import Barista.Capsule.Verbs

/-!
Contract: what each action of a capsule verb, or of a call of the store, rests on.

A verb writes, reads, publishes and discards only staging files it holds; it publishes bytes under
the digest they were measured to have; it sweeps what a scan has handed out, unlinks what the journal
has let go, and registers a capsule only after it has found or put every object in the local store,
or read every one of them back from the bucket.

Owns: these facts, for every verb and whatever the answers are.
-/

namespace Barista.Capsule

open Foundation
open Node (SnapshotRow)
open Prog (Yields Heeds attempt mapError each)

/-! ### What a history says -/

/-- What an exchange does to the staging files a task holds. -/
def hold (names : List StagingName) : Exchange StoreSig → List StagingName
  | ⟨.createStaging, .ok name⟩ => names ++ [name]
  | ⟨.removeStaging name, _⟩ => names.filter (· ≠ name)
  | ⟨.publish name _, _⟩ => names.filter (· ≠ name)
  | _ => names

def held (history : List (Exchange StoreSig)) : List StagingName := history.foldl hold []

/-- The object an exchange has found or put in the local store. -/
def secures : Exchange StoreSig → Option Text
  | ⟨.publish _ digest, .ok ()⟩ => some digest
  | ⟨.isObject digest, true⟩ => some digest
  | ⟨.readObject digest, .ok (some _)⟩ => some digest
  | _ => none

def secured (history : List (Exchange StoreSig)) : List Text := history.filterMap secures

/-- Bytes read from the bucket under a digest's key had that digest, and this length. -/
def ReadBack (sha256 : List UInt8 → Digest) (history : List (Exchange StoreSig)) (digest : Text)
    (length : UInt64) : Prop :=
  ∃ bytes, (⟨.get digest, .ok (some bytes)⟩ : Exchange StoreSig) ∈ history ∧
    objectDigest sha256 bytes = digest ∧ byteLength bytes = length

/-- What a capsule that is about to be registered rests on. -/
structure Backed (agent : CapsuleAgent) (history : List (Exchange StoreSig)) (row : CapsuleRow) :
    Prop where
  identified : row.capsuleId = capsuleId agent.objects.sha256 row.manifest
  dated : row.manifest.createdAt.isSome
  tiers : row.storage = .localDir ∨ row.storage = .objectStore
  present : row.storage = .localDir → ∀ object ∈ row.manifest.objects.val, object.digest ∈
    secured history
  durable : row.storage = .objectStore → ∀ object ∈ row.manifest.objects.val,
    ReadBack agent.objects.sha256 history object.digest object.length

def Unserved (history : List (Exchange StoreSig)) : Prop :=
  ∀ exchange ∈ history, exchange.act ≠ .serve

structure Leave where
  /-- Sweep the objects without a row, and open the node for service. -/
  boots : Prop
  /-- Unlink objects the journal has not listed. -/
  removes : Prop

/-- Only a boot may sweep objects the journal has no row for. -/
def Verb.leave (verb : Verb) : Leave where
  boots := ∃ scan, verb = .bootstrap scan
  removes := False

/-- Whoever calls the store directly is bound by nothing but the store. -/
def StoreCall.leave : Leave where
  boots := True
  removes := True

/-- What an action rests on, read off what its task has said and heard. -/
def RestsOn (agent : CapsuleAgent) (leave : Leave) (history : List (Exchange StoreSig)) :
    StoreAct → Prop
  | .fillStaging name _ =>
    history.getLast? = some (⟨.createStaging, .ok name⟩ : Exchange StoreSig)
  | .readStaging name | .removeStaging name => name ∈ held history
  | .publish name digest => name ∈ held history ∧ ∃ bytes,
      (⟨.fillStaging name bytes, .ok ()⟩ : Exchange StoreSig) ∈ history ∧
        digest = objectDigest agent.objects.sha256 bytes
  | .sweepStaging name => (⟨.nextStaging, .ok (some name)⟩ : Exchange StoreSig) ∈ history
  | .isObject digest => ∃ bytes, digest = objectDigest agent.objects.sha256 bytes
  | .readObject digest => isPathSafeDigest digest = true
  | .removeObject digest => isPathSafeDigest digest = true ∧ (leave.removes ∨ ∃ digests,
      (⟨.collectableObjects, .ok digests⟩ : Exchange StoreSig) ∈ history ∧ digest ∈ digests)
  | .sweepObject digest => leave.boots ∧
      (⟨.nextObject, .ok (some digest)⟩ : Exchange StoreSig) ∈ history ∧
      history.getLast? = some (⟨.objectRef digest, .ok none⟩ : Exchange StoreSig) ∧ Unserved history
  | .serve => leave.boots
  | .registerCapsule row => ¬ leave.boots ∧ Backed agent history row
  | .insertSnapshot row => ∃ manifest storage now, row = importedSnapshot agent manifest storage now
  | _ => True

variable {agent : CapsuleAgent} {leave : Leave} {history later : List (Exchange StoreSig)}

theorem held_snoc (history : List (Exchange StoreSig)) (exchange : Exchange StoreSig) :
    held (history ++ [exchange]) = hold (held history) exchange := by
  rw [held, List.foldl_append]
  rfl

theorem secured_mono (grown : history <+: later) {digest : Text} (had : digest ∈ secured history) :
    digest ∈ secured later := by
  obtain ⟨more, rfl⟩ := grown
  rw [secured, List.filterMap_append]
  exact List.mem_append_left _ had

theorem secured_snoc {exchange : Exchange StoreSig} {digest : Text}
    (secures_ : secures exchange = some digest) : digest ∈ secured (history ++ [exchange]) :=
  List.mem_filterMap.mpr ⟨exchange, by simp, secures_⟩

theorem readBack_mono {sha256 : List UInt8 → Digest} (grown : history <+: later) {digest : Text}
    {length : UInt64} (read : ReadBack sha256 history digest length) :
    ReadBack sha256 later digest length := by
  obtain ⟨bytes, member, facts⟩ := read
  exact ⟨bytes, grown.subset member, facts⟩

theorem Unserved.snoc (unserved : Unserved history) (exchange : Exchange StoreSig)
    (other : exchange.act ≠ .serve) : Unserved (history ++ [exchange]) := by
  intro later member
  rcases List.mem_append.mp member with old | new
  · exact unserved later old
  · rwa [List.mem_singleton.mp new]

theorem unserved_nil : Unserved [] := by
  intro exchange member
  cases member

/-! ### The store's functions -/

/-- A staged blob of these bytes, not yet committed or discarded. -/
structure Blob (agent : CapsuleAgent) (history : List (Exchange StoreSig)) (bytes : Vec UInt8)
    (staged : Staged) : Prop where
  held : staged.name ∈ held history
  filled : (⟨.fillStaging staged.name bytes, .ok ()⟩ : Exchange StoreSig) ∈ history
  digest : staged.digest = objectDigest agent.objects.sha256 bytes
  length : staged.length = byteLength bytes

section Store

variable {α ε : Type} {G : List (Exchange StoreSig) → α → Prop}

theorem acts (act : StoreAct) {next : StoreSig.Ans act → StoreProg (Except ε α)}
    (permitted : RestsOn agent leave history act)
    (rest : ∀ answer, Yields (RestsOn agent leave) G (history ++ [⟨act, answer⟩]) (next answer)) :
    Yields (RestsOn agent leave) G history (.step act next) :=
  Yields.step permitted rest

theorem yields_stage (bytes : Vec UInt8) :
    Yields (RestsOn agent leave) (fun later staged => Blob agent later bytes staged) history
      (agent.objects.stage bytes) := by
  refine acts .createStaging trivial fun created => ?_
  cases created with
  | error cause => exact .error
  | ok name =>
    refine acts (.fillStaging name bytes) (by simp [RestsOn]) fun filled => ?_
    cases filled with
    | error cause => exact .error
    | ok done =>
      refine .ok ⟨?_, by simp, rfl, rfl⟩
      rw [held_snoc, held_snoc]
      simp [hold]

theorem yields_refuse {staged : Staged} {message : String}
    {G : List (Exchange StoreSig) → Unit → Prop} (holds : staged.name ∈ held history) :
    Yields (RestsOn agent leave) G history (ObjectStore.refuse staged message) :=
  acts (.removeStaging staged.name) holds fun _ => .error

theorem yields_commit {bytes : Vec UInt8} {staged : Staged} (blob : Blob agent history bytes staged)
    (expectedDigest : Text) (expectedLength : UInt64) :
    Yields (RestsOn agent leave) (fun later _ => expectedDigest ∈ secured later) history
      (ObjectStore.commit staged expectedDigest expectedLength) := by
  unfold ObjectStore.commit
  split
  · exact yields_refuse blob.held
  · next same =>
      split
      · exact yields_refuse blob.held
      · have measured : expectedDigest = objectDigest agent.objects.sha256 bytes :=
          (not_not.mp same).symm.trans blob.digest
        refine acts (.isObject expectedDigest) ⟨bytes, measured⟩ fun (present : Bool) => ?_
        cases present with
        | true =>
          refine acts (.removeStaging staged.name) ?_ fun _ => .ok ?_
          · rw [RestsOn, held_snoc]
            exact blob.held
          · exact secured_mono (List.prefix_append _ _) (secured_snoc rfl)
        | false =>
          refine acts (.publish staged.name expectedDigest) ⟨?_, bytes, ?_, measured⟩
            fun published => ?_
          · rw [held_snoc]
            exact blob.held
          · exact List.mem_append_left _ blob.filled
          · cases published with
            | error cause => exact .error
            | ok done => exact .ok (secured_snoc rfl)

theorem yields_upload {staged : Staged} (holds : staged.name ∈ held history) (label : String)
    (digest : Text) :
    Yields (RestsOn agent leave) (fun later _ => staged.name ∈ held later) history
      (ObjectStore.upload label staged digest) := by
  refine acts (.head digest) trivial fun contained => ?_
  have stillHeld : staged.name ∈ held (history ++ [⟨.head digest, contained⟩]) := by
    rw [held_snoc]
    exact holds
  cases contained with
  | error cause => exact .error
  | ok there =>
    cases there with
    | true => exact .ok stillHeld
    | false =>
      refine acts (.readStaging staged.name) stillHeld fun read => ?_
      cases read with
      | error cause => exact .error
      | ok bytes =>
        refine acts (.put digest bytes) trivial fun put => ?_
        cases put with
        | error cause => exact .error
        | ok done =>
          refine .ok ?_
          rw [held_snoc, held_snoc]
          exact stillHeld

theorem yields_commitRemote {bytes : Vec UInt8} {staged : Staged}
    (blob : Blob agent history bytes staged) (expectedDigest : Text) (expectedLength : UInt64) :
    Yields (RestsOn agent leave)
      (fun later _ => ReadBack agent.objects.sha256 later expectedDigest expectedLength) history
      (agent.objects.commitRemote staged expectedDigest expectedLength) := by
  unfold ObjectStore.commitRemote
  split
  · exact .error
  · split
    · exact yields_refuse blob.held
    · split
      · exact yields_refuse blob.held
      · refine (yields_upload blob.held _ expectedDigest).attempt fun uploaded _ _ holds => ?_
        refine acts (.get expectedDigest) trivial fun got => ?_
        have stillHeld : staged.name ∈ held (uploaded ++ [⟨.get expectedDigest, got⟩]) := by
          rw [held_snoc]
          exact holds
        cases got with
        | error cause => exact .error
        | ok roundTripped =>
          cases roundTripped with
          | none => exact .error
          | some bytes =>
            change Yields _ _ _ (ite _ _ _)
            split
            · refine acts (.deleteRemote expectedDigest) trivial fun _ => yields_refuse ?_
              rw [held_snoc]
              exact stillHeld
            · next verified =>
                obtain ⟨digest, length⟩ := not_or.mp verified
                refine acts (.removeStaging staged.name) stillHeld fun _ => .ok ?_
                exact ⟨bytes, by simp, not_not.mp digest, not_not.mp length⟩

theorem yields_fetchRemoteVerified (digest : Text) :
    Yields (RestsOn agent leave) (fun later fetched => ∀ bytes, fetched = some bytes →
        ReadBack agent.objects.sha256 later digest (byteLength bytes) ∧ digest ∈ secured later)
      history (agent.objects.fetchRemoteVerified digest) := by
  unfold ObjectStore.fetchRemoteVerified
  split
  · exact .ok (by simp)
  · refine acts (.get digest) trivial fun got => ?_
    cases got with
    | error cause => exact .error
    | ok downloaded =>
      cases downloaded with
      | none => exact .ok (by simp)
      | some bytes =>
        change Yields _ _ _ (ite _ _ _)
        split
        · exact .error
        · next verified =>
            have read : ReadBack agent.objects.sha256
                (history ++ [⟨.get digest, .ok (some bytes)⟩]) digest (byteLength bytes) :=
              ⟨bytes, by simp, not_not.mp verified, rfl⟩
            refine (yields_stage bytes).attempt fun staging staged grown blob => ?_
            refine (yields_commit blob digest (byteLength bytes)).attempt
              fun last _ further present => ?_
            refine .ok ?_
            rintro _ ⟨⟩
            exact ⟨readBack_mono (grown.trans further) read, present⟩

theorem yields_readVerified (digest : Text) :
    Yields (RestsOn agent leave)
    (fun later read => ∀ bytes, read = some bytes → digest ∈ secured later)
      history (agent.objects.readVerified digest) := by
  unfold ObjectStore.readVerified
  split
  · exact .error
  · next refused =>
      have safe : isPathSafeDigest digest = true := by simpa using refused
      refine acts (.readObject digest) safe fun read => ?_
      cases read with
      | error cause => exact .error
      | ok found =>
        cases found with
        | none => exact .ok (by simp)
        | some bytes =>
          change Yields _ _ _ (ite _ _ _)
          split
          · exact .error
          · exact .ok fun _ _ => secured_snoc rfl

theorem yields_fetch (digest : Text) : Yields (RestsOn agent leave)
      (fun later fetched => ∀ bytes, fetched = some bytes → digest ∈ secured later)
      history (agent.objects.fetch digest) := by
  refine (yields_readVerified digest).attempt fun later read _ found => ?_
  cases read with
  | some bytes => exact .ok found
  | none =>
    exact (yields_fetchRemoteVerified digest).mono fun last fetched _ facts bytes same =>
      (facts bytes same).2

/-! ### Collection -/

theorem yields_sweepStagingDir (scan swept : Nat) :
    Yields (RestsOn agent leave) (fun _ _ => True) history
      (ObjectStore.sweepStagingDir scan swept) := by
  induction scan generalizing swept history with
  | zero => exact .ok trivial
  | succ scan ih =>
    refine acts .nextStaging trivial fun next => ?_
    cases next with
    | error cause => exact .error
    | ok entry =>
      cases entry with
      | none => exact .ok trivial
      | some name =>
        refine acts (.sweepStaging name) (by simp [RestsOn]) fun removed => ?_
        cases removed with
        | error cause => exact .error
        | ok done => exact ih _

theorem yields_remove {digest : Text} (listed : leave.removes ∨ ∃ digests,
      (⟨.collectableObjects, .ok digests⟩ : Exchange StoreSig) ∈ history ∧ digest ∈ digests) :
    Yields (RestsOn agent leave) (fun _ _ => True) history (ObjectStore.remove digest) := by
  cases safe : isPathSafeDigest digest with
  | false =>
    simp only [ObjectStore.remove, safe]
    exact .error
  | true =>
    simp only [ObjectStore.remove, safe]
    refine acts (.removeObject digest) ⟨safe, listed⟩ fun removed => ?_
    cases removed with
    | error cause => exact .error
    | ok done => exact .ok trivial

theorem yields_collect {digests : List Text} (collected : Nat)
    (listed : ∃ all, (⟨.collectableObjects, .ok all⟩ : Exchange StoreSig) ∈ history ∧
      ∀ digest ∈ digests, digest ∈ all) :
    Yields (RestsOn agent leave) (fun _ _ => True) history
      (ObjectStore.collect digests collected) := by
  induction digests generalizing collected history with
  | nil => exact .ok trivial
  | cons digest rest ih =>
    obtain ⟨all, read, among⟩ := listed
    obtain ⟨first, others⟩ := List.forall_mem_cons.mp among
    refine (yields_remove (.inr ⟨all, read, first⟩)).attempt fun later _ grown _ => ?_
    refine acts (.finalizeObjectGc digest) trivial fun finalized => ?_
    cases finalized with
    | error cause => exact .error
    | ok done =>
      exact ih _ ⟨all, List.mem_append_left _ (grown.subset read), others⟩

theorem yields_runGc (scan : Nat) :
    Yields (RestsOn agent leave) (fun _ _ => True) history (ObjectStore.runGc scan) := by
  refine (yields_sweepStagingDir scan 0).attempt fun later swept _ _ => ?_
  refine acts .collectableObjects trivial fun listed => ?_
  cases listed with
  | error cause => exact .error
  | ok digests =>
    refine (yields_collect 0 ⟨digests, by simp, fun _ => id⟩).attempt fun _ _ _ _ => ?_
    exact .ok trivial

theorem yields_sweepUntrackedLocal {scan swept : Nat} (boots : leave.boots)
    (unserved : Unserved history) :
    Yields (RestsOn agent leave) (fun _ _ => True) history
      (ObjectStore.sweepUntrackedLocal scan swept) := by
  induction scan generalizing swept history with
  | zero => exact .ok trivial
  | succ scan ih =>
    refine acts .nextObject trivial fun next => ?_
    cases next with
    | error cause => exact .error
    | ok entry =>
      cases entry with
      | none => exact .ok trivial
      | some digest =>
        refine acts (.objectRef digest) trivial fun read => ?_
        have looked := (unserved.snoc ⟨.nextObject, .ok (some digest)⟩ nofun).snoc
          ⟨.objectRef digest, read⟩ nofun
        cases read with
        | error cause => exact .error
        | ok ref =>
          cases ref with
          | some found => exact ih looked
          | none =>
            refine acts (.sweepObject digest) ⟨boots, by simp, by simp, looked⟩
              fun removed => ?_
            cases removed with
            | error cause => exact .error
            | ok done => exact ih (looked.snoc _ nofun)

theorem yields_runStartupGc {scan : Nat} (boots : leave.boots) (unserved : Unserved history) :
    Yields (RestsOn agent leave) (fun _ _ => True) history (ObjectStore.runStartupGc scan) := by
  refine (yields_sweepUntrackedLocal boots unserved).attempt fun _ _ _ _ => ?_
  refine (yields_runGc scan).attempt fun _ _ _ _ => ?_
  exact .ok trivial

end Store

/-! ### The verbs -/

/-- An object has been verified where a tier claims it to be. -/
structure Vouched (agent : CapsuleAgent) (tier : CapsuleStorage)
    (history : List (Exchange StoreSig)) (object : CapsuleObject) : Prop where
  present : achieved tier = .localDir → object.digest ∈ secured history
  durable : achieved tier = .objectStore →
    ReadBack agent.objects.sha256 history object.digest object.length

variable {tier : CapsuleStorage}

theorem Vouched.mono {object : CapsuleObject} (grown : history <+: later)
    (vouched : Vouched agent tier history object) : Vouched agent tier later object :=
  ⟨fun here => secured_mono grown (vouched.present here),
    fun there => readBack_mono grown (vouched.durable there)⟩

theorem backed_capsuleRow {manifest : CapsuleManifest} (dated : manifest.createdAt.isSome)
    (vouched : ∀ object ∈ manifest.objects.val, Vouched agent tier history object) (now : Int) :
    Backed agent history (capsuleRow agent manifest tier now) := by
  refine ⟨rfl, dated, ?_, fun here object member => (vouched object member).present here,
    fun there object member => (vouched object member).durable there⟩
  unfold capsuleRow achieved
  split
  · exact .inr rfl
  · exact .inl rfl

theorem yields_register {row : CapsuleRow} (serves : ¬ leave.boots)
    (backed : Backed agent history row) :
    Yields (RestsOn agent leave) (fun _ _ => True) history (register row) := by
  refine Yields.mapError (acts (.registerCapsule row) ⟨serves, backed⟩ fun registered => ?_)
  cases registered with
  | error cause => exact .error
  | ok row => exact .ok trivial

theorem yields_exportObject (object : SnapshotObject) :
    Yields (RestsOn agent leave) (fun later exported => Vouched agent tier later exported) history
      (exportObject agent tier object) := by
  refine (yields_stage object.bytes).mapError.attempt fun staging staged _ blob => ?_
  by_cases remote : tier = .objectStore
  · rw [if_pos remote]
    refine (yields_commitRemote blob staged.digest staged.length).mapError.attempt
      fun last _ _ read => ?_
    refine .ok ⟨fun here => ?_, fun _ => read⟩
    rw [achieved, if_pos remote] at here
    cases here
  · rw [if_neg remote]
    refine (yields_commit blob staged.digest staged.length).mapError.attempt
      fun last _ _ present => ?_
    refine .ok ⟨fun _ => present, fun there => ?_⟩
    rw [achieved, if_neg remote] at there
    cases there

theorem yields_exportCapsule (serves : ¬ leave.boots) (snapshotId : String)
    (tier : CapsuleStorage) :
    Yields (RestsOn agent leave) (fun _ _ => True) history
      (exportCapsule agent snapshotId tier) := by
  unfold exportCapsule
  split
  · exact .error
  · refine acts (.getSnapshot snapshotId) trivial fun read => ?_
    rcases read with cause | (_ | snapshot)
    · exact .error
    · exact .error
    · change Yields _ _ _ (ite _ _ _)
      split
      · exact .error
      · refine acts (.exportSnapshot snapshotId) trivial fun exported => ?_
        rcases exported with cause | objects
        · exact .error
        · refine (Yields.each (G := fun _ later exported => Vouched agent tier later exported)
            Vouched.mono fun object _ _ _ => yields_exportObject object).attempt
              fun last exported _ ⟨_, vouched⟩ => ?_
          refine acts (.getLineage snapshot.instanceId) trivial fun lineage => ?_
          refine acts .now trivial fun now => yields_register serves (backed_capsuleRow rfl ?_ now)
          intro object member
          obtain ⟨source, -, good⟩ := vouched object member
          exact good.mono ((List.prefix_append _ _).trans (List.prefix_append _ _))

theorem yields_importObject (object : CapsuleObject) :
    Yields (RestsOn agent leave) (fun later _ => Vouched agent tier later object) history
      (importObject agent tier object) := by
  unfold importObject
  change Yields _ _ _ (ite _ _ _)
  split
  · exact .error
  · by_cases remote : tier = .objectStore
    · rw [if_pos remote]
      refine (yields_fetchRemoteVerified object.digest).mapError.attempt
        fun later fetched _ facts => ?_
      cases fetched with
      | none => exact .error
      | some bytes =>
        change Yields _ _ _ (ite _ _ _)
        split
        · next sized =>
            refine .ok ⟨fun here => ?_, fun _ => sized ▸ (facts bytes rfl).1⟩
            rw [achieved, if_pos remote] at here
            cases here
        · exact .error
    · rw [if_neg remote]
      refine (yields_fetch object.digest).mapError.attempt fun later fetched _ present => ?_
      cases fetched with
      | none => exact .error
      | some bytes =>
        change Yields _ _ _ (ite _ _ _)
        split
        · refine .ok ⟨fun _ => present bytes rfl, fun there => ?_⟩
          rw [achieved, if_neg remote] at there
          cases there
        · exact .error

theorem dated_of_preflight {manifest : CapsuleManifest}
    (passed : preflight agent manifest tier = .ok ()) : manifest.createdAt.isSome := by
  cases created : manifest.createdAt with
  | some createdAt => rfl
  | none =>
    simp only [preflight, created, throw, throwThe, MonadExceptOf.throw, bind,
      Except.bind] at passed
    repeat' split at passed
    all_goals cases passed

theorem yields_importCapsule (serves : ¬ leave.boots) (manifest : CapsuleManifest)
    (tier : CapsuleStorage) :
    Yields (RestsOn agent leave) (fun _ _ => True) history (importCapsule agent manifest tier) := by
  unfold importCapsule
  split
  · exact .error
  · next passed =>
      refine (Yields.each (G := fun object later _ => Vouched agent tier later object)
        Vouched.mono fun object _ _ _ => yields_importObject object).attempt
          fun verified _ _ ⟨vouched, _⟩ => ?_
      refine acts .now trivial fun now => ?_
      refine (yields_register serves (backed_capsuleRow (dated_of_preflight passed) ?_ now)).attempt
        fun registered _ _ _ => ?_
      · intro object member
        obtain ⟨_, -, good⟩ := vouched object member
        exact good.mono (List.prefix_append _ _)
      · refine acts .now trivial fun later => ?_
        refine acts (.insertSnapshot (importedSnapshot agent manifest tier later))
          ⟨manifest, tier, later, rfl⟩ fun inserted => ?_
        cases inserted with
        | error cause => exact .error
        | ok done => exact .ok trivial

theorem yields_deleteCapsule (capsuleId : Text) (scan : Nat) :
    Yields (RestsOn agent leave) (fun _ _ => True) history (deleteCapsule capsuleId scan) := by
  refine acts (.deleteCapsule capsuleId) trivial fun deleted => ?_
  cases deleted with
  | error cause => exact .error
  | ok done =>
    change Yields _ _ _ (Prog.bind (ObjectStore.runGc scan) _)
    exact (yields_runGc scan).anyway fun _ _ _ => .ok trivial

theorem yields_loadCapsuleObjects (capsuleId : Text) :
    Yields (RestsOn agent leave) (fun _ _ => True) history
      (loadCapsuleObjects agent capsuleId) := by
  refine acts (.getCapsule capsuleId) trivial fun read => ?_
  rcases read with cause | (_ | row)
  · exact .error
  · exact .error
  · have loads (object : CapsuleObject) {base : List (Exchange StoreSig)} :
        Yields (RestsOn agent leave) (fun _ _ => True) base
        (loadObject agent capsuleId object) := by
      refine (yields_fetch object.digest).mapError.attempt fun later fetched _ _ => ?_
      cases fetched with
      | none => exact .error
      | some bytes =>
        change Yields _ _ _ (ite _ _ _)
        split
        · exact .error
        · exact .ok trivial
    refine (Yields.each (G := fun _ _ _ => True) (fun _ _ => trivial)
      fun object _ _ _ => loads object).attempt fun _ _ _ _ => ?_
    exact .ok trivial

/-! ### Tasks -/

theorem heeds_of_yields {ε α : Type} {program : StoreProg (Except ε α)}
    (yields : Yields (RestsOn agent leave) (fun _ _ => True) [] program) :
    Heeds (fun _ => True) (RestsOn agent leave) (fun _ _ => True) [] program :=
  Heeds.mono yields (fun _ _ => id) fun _ _ _ => trivial

/-- **Every action of a verb rests on what the verb has heard.** -/
theorem heeds_verb (agent : CapsuleAgent) (verb : Verb) :
    Heeds (fun _ => True) (RestsOn agent verb.leave) (fun _ _ => True) [] (verb.prog agent) := by
  cases verb with
  | exportCapsule snapshotId tier =>
    exact heeds_of_yields ((yields_exportCapsule (by simp [Verb.leave]) snapshotId tier).attempt
      fun _ _ _ _ => .ok trivial)
  | importCapsule manifest storage =>
    exact heeds_of_yields ((yields_importCapsule (by simp [Verb.leave]) manifest storage).attempt
      fun _ _ _ _ => .ok trivial)
  | deleteCapsule capsuleId scan =>
    exact heeds_of_yields ((yields_deleteCapsule capsuleId scan).attempt fun _ _ _ _ => .ok trivial)
  | loadCapsuleObjects capsuleId =>
    exact heeds_of_yields ((yields_loadCapsuleObjects capsuleId).attempt fun _ _ _ _ => .ok trivial)
  | bootstrap scan =>
    refine Heeds.bind (yields_runStartupGc ⟨scan, rfl⟩ unserved_nil) fun later _ _ => ?_
    exact ⟨⟨scan, rfl⟩, fun _ _ => trivial⟩

theorem heeds_call (agent : CapsuleAgent) (call : StoreCall) :
    Heeds (fun _ => True) (RestsOn agent StoreCall.leave) (fun _ _ => True) []
    (call.prog agent) := by
  refine heeds_of_yields ?_
  cases call with
  | commit bytes expectedDigest expectedLength =>
    refine ((yields_stage bytes).attempt fun _ _ _ blob => ?_).mapError
    exact (yields_commit blob expectedDigest expectedLength).mono fun _ _ _ _ => trivial
  | commitRemote bytes expectedDigest expectedLength =>
    refine ((yields_stage bytes).attempt fun _ _ _ blob => ?_).mapError
    exact (yields_commitRemote blob expectedDigest expectedLength).mono fun _ _ _ _ => trivial
  | fetch digest => exact ((yields_fetch digest).attempt fun _ _ _ _ => .ok trivial).mapError
  | fetchRemoteVerified digest =>
    exact ((yields_fetchRemoteVerified digest).attempt fun _ _ _ _ => .ok trivial).mapError
  | remove digest => exact (yields_remove (.inl trivial)).mapError
  | runGc scan => exact ((yields_runGc scan).attempt fun _ _ _ _ => .ok trivial).mapError
  | runStartupGc scan =>
    exact ((yields_runStartupGc trivial unserved_nil).attempt fun _ _ _ _ => .ok trivial).mapError

end Barista.Capsule
