import Barista.Foundation.Trim
import Barista.Node.Admission

/-!
Contract: the names under which one substrate keeps the sandboxes and the credentials of a node's
instances.

A name is the node's id and the instance's, each forced into the substrate's grammar: letters in lower
case, a dash for everything else, and none at the ends. That loses what an id may carry and a canonical
ULID does not: letters in lower case, and signs. A create is checked to be a ULID. The target of a fork
or of a capsule's restore is only checked not to be empty.

Owns: the names, the calls that are made under them, which ids keep them apart, and a fork that does
not. Does not own: the substrate's own ids, by which sweeps delete.
-/

namespace Barista.Node

open Foundation Fleet

/-! ### Names -/

/-- Force a component into the substrate's name grammar. -/
def sanitize (component : String) : String :=
  let mapped := component.toList.map fun c => if c.isAlphanum then c.toLower else '-'
  .ofList (trimMatches (· == '-') mapped)

def sandboxName (nodeId instanceId : String) : String :=
  "barista-" ++ sanitize nodeId ++ "-" ++ sanitize instanceId

def ID_PREFIX : String := "barista-token-"

def volumeId (nodeId instanceId : String) : String :=
  ID_PREFIX ++ .ofList (trimStart "barista-".toList (sandboxName nodeId instanceId).toList)

/-! ### What is done under them -/

/-- What the substrate keeps by name: routes and sandboxes with the instance they are tagged with, and
volumes with the claim and the token on them. -/
structure Substrate where
  ingresses : String → Option String
  sandboxes : String → Option String
  volumes : String → Option (String × String)

inductive SubstrateCall where
  /-- Replace the credential. -/
  | ensure (token : String)
  | remove
  /-- Build a fresh sandbox, and publish it if the node is configured to. -/
  | createFresh (token : String) (publishes : Bool)
  | destroy

namespace Substrate

variable (nodeId instanceId : String) (substrate : Substrate)

def removeVolume : Substrate :=
  { substrate with volumes := Function.update substrate.volumes (volumeId nodeId instanceId) none }

/-- Create the token volume for an instance, replacing any leftover. -/
def ensureVolume (token : String) : Substrate :=
  let cleared := substrate.removeVolume nodeId instanceId
  { cleared with
    volumes := Function.update cleared.volumes (volumeId nodeId instanceId)
      (some (instanceId, token)) }

def apply : SubstrateCall → Substrate
  | .ensure token => substrate.ensureVolume nodeId instanceId token
  | .remove => substrate.removeVolume nodeId instanceId
  | .createFresh token publishes =>
    let name := sandboxName nodeId instanceId
    let ensured := substrate.ensureVolume nodeId instanceId token
    { ensured with
      sandboxes := Function.update ensured.sandboxes name (some instanceId)
      ingresses :=
        if publishes then Function.update ensured.ingresses name (some instanceId)
        else ensured.ingresses }
  | .destroy =>
    let name := sandboxName nodeId instanceId
    let routeless := { substrate with ingresses := Function.update substrate.ingresses name none }
    let gone := { routeless with sandboxes := Function.update routeless.sandboxes name none }
    gone.removeVolume nodeId instanceId

/-- The route, the sandbox and the credential found under an instance's names. -/
def heldFor : Option String × Option String × Option (String × String) :=
  let name := sandboxName nodeId instanceId
  (substrate.ingresses name, substrate.sandboxes name, substrate.volumes
    (volumeId nodeId instanceId))

end Substrate

theorem Substrate.heldFor_apply {nodeId instanceId other : String} (substrate : Substrate)
    (sandboxes : sandboxName nodeId instanceId ≠ sandboxName nodeId other)
    (volumes : volumeId nodeId instanceId ≠ volumeId nodeId other) (call : SubstrateCall) :
    (substrate.apply nodeId instanceId call).heldFor nodeId other =
      substrate.heldFor nodeId other := by
  cases call with
  | ensure token => simp [apply, ensureVolume, removeVolume, heldFor, volumes.symm]
  | remove => simp [apply, removeVolume, heldFor, volumes.symm]
  | createFresh token publishes =>
    cases publishes <;>
      simp [apply, ensureVolume, removeVolume, heldFor, volumes.symm, sandboxes.symm]
  | destroy => simp [apply, removeVolume, heldFor, volumes.symm, sandboxes.symm]

/-! ### Ids that keep them apart -/

def canonicalChars : List Char := "0123456789ABCDEFGHIJKLMNOPQRSTUVWXYZ".toList

/-- Nothing but digits and capital letters, as in a canonical ULID. -/
def isCanonical (id : String) : Bool := id.toList.all (· ∈ canonicalChars)

theorem canonical_char {c : Char} (canonical : c ∈ canonicalChars) :
    c.isAlphanum = true ∧ c.toLower ≠ '-' ∧ c.toLower.toUpper = c := by
  have all : (canonicalChars.all fun c =>
      c.isAlphanum && c.toLower != '-' && c.toLower.toUpper == c) = true := by decide +kernel
  simpa [and_assoc] using List.all_eq_true.mp all c canonical

theorem chars_canonical {id : String} (canonical : isCanonical id = true) :
    ∀ c ∈ id.toList, c ∈ canonicalChars := by
  simpa [isCanonical] using canonical

theorem sanitize_canonical {id : String} (canonical : isCanonical id = true) :
    (sanitize id).toList = id.toList.map Char.toLower ∧ '-' ∉ (sanitize id).toList := by
  have each := chars_canonical canonical
  have mapped : (id.toList.map fun c => if c.isAlphanum then c.toLower else '-') =
      id.toList.map Char.toLower :=
    List.map_congr_left fun c member => if_pos (canonical_char (each c member)).1
  have undashed : ∀ c ∈ id.toList.map Char.toLower, (c == '-') = false := by
    intro c member
    obtain ⟨original, there, rfl⟩ := List.mem_map.mp member
    simpa using (canonical_char (each original there)).2.1
  have exactly : (sanitize id).toList = id.toList.map Char.toLower := by
    rw [sanitize, String.toList_ofList, mapped, trimMatches_of_none undashed]
  refine ⟨exactly, ?_⟩
  rw [exactly]
  intro member
  simpa using undashed '-' member

theorem toUpper_sanitize {id : String} (canonical : isCanonical id = true) :
    (sanitize id).toList.map Char.toUpper = id.toList := by
  rw [(sanitize_canonical canonical).1, List.map_map]
  refine (List.map_congr_left fun c member => ?_).trans (List.map_id _)
  exact (canonical_char (chars_canonical canonical c member)).2.2

theorem sanitize_injective {left right : String} (first : isCanonical left = true)
    (second : isCanonical right = true) (same : sanitize left = sanitize right) : left = right := by
  apply String.toList_injective
  rw [← toUpper_sanitize first, ← toUpper_sanitize second, same]

theorem sandboxName_injective {nodeId left right : String} (first : isCanonical left = true)
    (second : isCanonical right = true)
    (same : sandboxName nodeId left = sandboxName nodeId right) :
    left = right := by
  apply sanitize_injective first second
  apply String.toList_injective
  have texts := congrArg String.toList same
  simpa only [sandboxName, String.toList_append, List.append_cancel_left_eq] using texts

theorem volumeId_canonical {nodeId id : String} (canonical : isCanonical id = true) :
    (volumeId nodeId id).toList = ID_PREFIX.toList ++
      (trimStart "barista-".toList ("barista-" ++ sanitize nodeId ++ "-").toList ++
        (sanitize id).toList) := by
  have ends : "barista-".toList.getLast? = some '-' := by decide
  rw [volumeId, sandboxName, String.toList_append, String.toList_ofList, String.toList_append,
    trimStart_append ends (sanitize_canonical canonical).2]

theorem volumeId_injective {nodeId left right : String} (first : isCanonical left = true)
    (second : isCanonical right = true) (same : volumeId nodeId left = volumeId nodeId right) :
    left = right := by
  apply sanitize_injective first second
  apply String.toList_injective
  have texts := congrArg String.toList same
  rw [volumeId_canonical first, volumeId_canonical second] at texts
  exact List.append_cancel_left (List.append_cancel_left texts)

/-! ### Which ids the journal has -/

variable {agent : Agent} {etags : LeaseVersioning} {system after : System}
  {label : Label} {labels : List Label}

/-- Whatever enters the journal as a new instance does so under a canonical id. -/
def CreatesCanonically (system : System) (label : Label) (_ : System) : Prop :=
  match system.made label with
  | some (.submitAtomically args) => args.createSpec.all fun spec => isCanonical spec.instanceId
  | _ => True

instance (system : System) (label : Label) (after : System) :
    Decidable (CreatesCanonically system label after) := by
  unfold CreatesCanonically
  refine Option.casesOn (system.made label) (isTrue trivial) fun query => ?_
  apply @Query.casesOn _ query <;> intros <;> infer_instance

theorem canonical_ids_step (stepped : System.next agent etags system label = some after)
    (canonically : CreatesCanonically system label after)
    (before : ∀ row ∈ system.world.journal.instances.rows, isCanonical row.instanceId = true) :
    ∀ row ∈ after.world.journal.instances.rows, isCanonical row.instanceId = true := by
  intro row member
  have found := Journal.getInstance_mem member
  rcases row_cases stepped row.instanceId with
    same | ⟨_, _, _, old, new, -, read, written, touches⟩ |
    ⟨args, spec, identity, nowMs, made, creates, -, -, written⟩
  · exact before row (Table.mem_of_find? (same.symm.trans found)).1
  · cases written.symm.trans found
    rw [(Query.rewritten touches).instanceId]
    exact before old (Table.mem_of_find? read).1
  · rw [CreatesCanonically, made] at canonically
    simp only [creates, Option.all_some] at canonically
    rw [← Option.some.inj (written.symm.trans found)]
    exact canonically

/-- **Different instances have different names**, in every run that creates instances only under
canonical ids: the sandboxes, the routes and the credentials of one are out of reach of what is done
for another. -/
theorem substrate_names_apart (agent : Agent) (etags : LeaseVersioning)
    (labels : List Label) (system : System)
    (reached : System.reach agent etags labels = some system)
    (canonically : Along (System.next agent etags) CreatesCanonically System.initial labels) :
    ∀ row ∈ system.world.journal.instances.rows, ∀ other ∈ system.world.journal.instances.rows,
      row.instanceId ≠ other.instanceId →
      sandboxName agent.nodeId row.instanceId ≠ sandboxName agent.nodeId other.instanceId ∧
      volumeId agent.nodeId row.instanceId ≠ volumeId agent.nodeId other.instanceId ∧
      ∀ (substrate : Substrate) (call : SubstrateCall),
        (substrate.apply agent.nodeId row.instanceId call).heldFor agent.nodeId other.instanceId =
          substrate.heldFor agent.nodeId other.instanceId := by
  have canonical : ∀ row ∈ system.world.journal.instances.rows,
    isCanonical row.instanceId = true := by
    refine canonically.invariant
      (I := fun current => ∀ row ∈ current.world.journal.instances.rows,
      isCanonical row.instanceId = true)
      ?_ ?_ reached
    · intro before label after invariant stepped here
      exact canonical_ids_step stepped here invariant
    · rintro row ⟨⟩
  intro row member other there different
  have sandboxes : sandboxName agent.nodeId row.instanceId ≠ sandboxName agent.nodeId
    other.instanceId :=
    fun same => different (sandboxName_injective (canonical row member)
      (canonical other there) same)
  have volumes : volumeId agent.nodeId row.instanceId ≠ volumeId agent.nodeId other.instanceId :=
    fun same => different (volumeId_injective (canonical row member) (canonical other there) same)
  exact ⟨sandboxes, volumes, fun substrate call => substrate.heldFor_apply sandboxes volumes call⟩

theorem substrate_names_apart_fork :
    ∃ system row other, System.reach .plain freshVersions (forkInto "01BX5ZZKBKACTAV9WEVGEMMVRZ") =
        some system ∧ system.world.journal.getInstance ulid = some row ∧
      system.world.journal.getInstance "01BX5ZZKBKACTAV9WEVGEMMVRZ" = some other ∧
      sandboxName "n1" row.instanceId ≠ sandboxName "n1" other.instanceId ∧
      volumeId "n1" row.instanceId ≠ volumeId "n1" other.instanceId := by
  obtain ⟨reachable, canonically⟩ : ((System.reach .plain freshVersions
      (forkInto "01BX5ZZKBKACTAV9WEVGEMMVRZ")).any fun system =>
        (system.world.journal.getInstance ulid).isSome ∧
          (system.world.journal.getInstance "01BX5ZZKBKACTAV9WEVGEMMVRZ").isSome) = true ∧
      Along (System.next .plain freshVersions) CreatesCanonically System.initial
        (forkInto "01BX5ZZKBKACTAV9WEVGEMMVRZ") := by decide +kernel
  obtain ⟨system, reached, first, second⟩ := exists_of_any reachable
  obtain ⟨row, found⟩ := Option.isSome_iff_exists.mp first
  obtain ⟨other, there⟩ := Option.isSome_iff_exists.mp second
  have ids : row.instanceId ≠ other.instanceId := by
    rw [Journal.getInstance_named found, Journal.getInstance_named there]
    decide
  obtain ⟨sandboxes, volumes, -⟩ := substrate_names_apart .plain freshVersions _ system reached
    canonically row (Table.mem_of_find? found).1 other (Table.mem_of_find? there).1 ids
  exact ⟨system, row, other, reached, found, there, sandboxes, volumes⟩

/-- A fork into the source's own id in lower case is journaled, under the source's names: destroying it
takes the sandbox of the source and its credential. -/
theorem fork_shares_names :
    ∃ system row other, System.reach .plain freshVersions (forkInto "01arz3ndektsv4rrffq69g5fav") =
        some system ∧ system.world.journal.getInstance ulid = some row ∧
      system.world.journal.getInstance "01arz3ndektsv4rrffq69g5fav" = some other ∧
      row.instanceId ≠ other.instanceId ∧ sandboxName "n1" row.instanceId =
        sandboxName "n1" other.instanceId ∧
      volumeId "n1" row.instanceId = volumeId "n1" other.instanceId ∧ ∀ substrate : Substrate,
        (substrate.apply "n1" other.instanceId .destroy).heldFor "n1" row.instanceId =
          (none, none, none) := by
  have reachable : ((System.reach .plain freshVersions
      (forkInto "01arz3ndektsv4rrffq69g5fav")).any fun system =>
        (system.world.journal.getInstance ulid).isSome ∧
          (system.world.journal.getInstance "01arz3ndektsv4rrffq69g5fav").isSome) = true := by
    decide +kernel
  obtain ⟨system, reached, first, second⟩ := exists_of_any reachable
  obtain ⟨row, found⟩ := Option.isSome_iff_exists.mp first
  obtain ⟨other, there⟩ := Option.isSome_iff_exists.mp second
  have rowId := Journal.getInstance_named found
  have otherId := Journal.getInstance_named there
  have sandboxes : sandboxName "n1" row.instanceId = sandboxName "n1" other.instanceId := by
    rw [rowId, otherId]
    decide +kernel
  have volumes : volumeId "n1" row.instanceId = volumeId "n1" other.instanceId := by
    rw [volumeId, volumeId, sandboxes]
  refine ⟨system, row, other, reached, found, there, ?_, sandboxes, volumes, fun substrate => ?_⟩
  · rw [rowId, otherId]
    decide
  · simp [Substrate.apply, Substrate.removeVolume, Substrate.heldFor, sandboxes, volumes]

end Barista.Node
