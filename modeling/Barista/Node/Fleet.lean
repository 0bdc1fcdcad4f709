import Barista.Node.Execute

/-!
Contract: this node as a member of a fleet, apart from what a pass does.

Owns: the `desired/` listing, the decisions a pass takes from it (which instance
realises a session, whether to materialise it, whether to release it), and admission
of a spec.
-/

namespace Barista.Node

open Foundation Fleet

/-! ### Desired state -/

def currentSchemaVersion : Nat := 1

def Desired.decode (agent : Agent) (want : Desired) : Except FleetError InstanceSpec :=
  if currentSchemaVersion < want.schemaVersion then
    .error (.config (s!"desired/{want.name} is schema version {want.schemaVersion}, and this " ++
      s!"node understands up to {currentSchemaVersion}. Refusing rather than guessing: a newer record " ++
      "may carry policy this build would silently not apply. Upgrade the node."))
  else match agent.decodeSpec want.spec with
    | .ok spec => .ok spec
    | .error cause => .error (.encode s!"desired/{want.name}: {cause}")

/-- One `desired/` listing: the names under the prefix, and the records that could be read. -/
structure DesiredSet where
  names : List String
  records : List Desired

def DesiredSet.list (agent : Agent) (location : String) (set : DesiredSet) : DesiredSet :=
  match agent.filename location with
  | some name => { set with names := set.names.insert name }
  | none => set

def DesiredSet.read (record : Option Desired) (set : DesiredSet) : DesiredSet :=
  match record with
  | some record => { set with records := set.records ++ [record] }
  | none => set

/-- Read the listed objects one by one; one that cannot be fetched fails the listing. -/
def readDesired (agent : Agent) : List String → DesiredSet →
    NodeProg (Except FleetError DesiredSet)
  | [], set => return .ok set
  | location :: rest, set => do
      match ← perform (.getDesired location) with
      | .error cause => return .error cause
      | .ok record => readDesired agent rest ((set.list agent location).read record)

def desired (agent : Agent) : NodeProg (Except FleetError DesiredSet) := do
  match ← perform .listDesired with
  | .error cause => return .error cause
  | .ok locations => readDesired agent locations ⟨[], []⟩

/-! ### Decisions -/

inductive Intent where
  | notOurs
  | alreadyRunning
  | materialise (coldBoot : Bool)
  | holdWithoutMaterialising
deriving DecidableEq, Repr

def intentFor (policy : OnOwnerLoss) (tookOver alreadyRunningLocally : Bool) : Intent :=
  match tookOver, alreadyRunningLocally, policy with
  | _, true, _ => .alreadyRunning
  | false, false, _ => .materialise false
  | true, false, .coldboot => .materialise true
  | true, false, .hold => .holdWithoutMaterialising

/-- Which instance realises a desired session this node owns. -/
inductive Realising where
  | record | lease | fresh
deriving DecidableEq, Repr

def realisingInstance (record : Option InstanceState) (leaseNamesAnother : Bool)
    (lease : Option InstanceState) : Realising :=
  if record.any InstanceState.isTerminal = false then .record
  else if leaseNamesAnother ∧ lease.any InstanceState.isTerminal = false then .lease
  else .fresh

inductive ReleaseIntent where
  | keep | destroy | release
deriving DecidableEq, Repr

def releaseIntent (desired fencing : Bool) (instance_ : Option InstanceState) : ReleaseIntent :=
  if desired ∨ fencing then .keep
  else match instance_ with
    | none | some .destroyed => .release
    | some _ => .destroy

/-! ### Admission -/

structure Refusal where
  reason : ErrorReason
  message : String
deriving DecidableEq, Repr

/-- Unicode white space, as `str::trim` has it. -/
def isWhitespace (c : Char) : Bool :=
  let n := c.toNat
  (0x09 ≤ n && n ≤ 0x0D) || n == 0x20 || n == 0x85 || n == 0xA0 || n == 0x1680 ||
    (0x2000 ≤ n && n ≤ 0x200A) || n == 0x2028 || n == 0x2029 || n == 0x202F || n == 0x205F ||
    n == 0x3000

/-- Check a spec against what this node can actually provide. -/
def admitSpec (agent : Agent) (spec : InstanceSpec) (requireHardwareIsolation : Bool) :
    Except Refusal Unit :=
  match agent.parseUlid spec.instanceId, spec.oci with
  | .error cause, _ =>
    .error ⟨.invalidSpec, "spec.instance_id must be a ULID (contract: client-chosen ULID, " ++
      s!"unique per node); {quoted spec.instanceId} is not one: {cause}"⟩
  | .ok (), none => .error ⟨.invalidSpec, "template.oci is required"⟩
  | .ok (), some oci =>
    if oci.digest.toList.all isWhitespace then
      .error ⟨.invalidSpec, "template.oci.digest is required: the digest is the template's " ++
        "identity (a tag can be repointed at different bytes), and a snapshot's restore key " ++
        "derives from it. Pin the image by digest."⟩
    else if requireHardwareIsolation ∧ agent.hardwareIsolation = false then
      .error ⟨.capabilityMissing,
        s!"runtime '{agent.runtimeName}' does not provide hardware isolation"⟩
    else if spec.egressMediated ∧ agent.egressControl = false then
      .error ⟨.capabilityMissing,
        s!"runtime '{agent.runtimeName}' does not provide egress_control, so it cannot " ++
        "mediate this instance's outbound network. Drop spec.egress to accept the runtime's " ++
        "default networking, or create on a runtime that reports egress_control"⟩
    else .ok ()

end Barista.Node
