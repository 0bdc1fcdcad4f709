import Mathlib.Algebra.Group.Int.Defs
import Mathlib.Algebra.Group.Nat.Defs
import Barista.Foundation.ConditionalStore

/-!
Contract: ownership of a session name, as one conditional write per attempt.

This module is the code of the lease layer: the record at `sessions/<name>`, the
timing it is written with, and the read and conditional-write steps of `acquire`,
`renew`, `stampState`, `setInstance` and `release`. The expiry decides when a node
may try; the version a write is conditioned on decides who wins.

Owns: the lease record, its outcomes and errors, and the lease operations as
programs over the object store. Does not own: how a record is encoded (a `Codec`),
which nodes call what and when, or any fact about interleavings.
-/

namespace Barista.Fleet

open Foundation

/-! ### Durations and timing -/

structure Duration where
  nanos : Nat
deriving DecidableEq, Repr

namespace Duration

def fromSecs (seconds : Nat) : Duration := ⟨seconds * 1000000000⟩

def asMillis (duration : Duration) : Nat := duration.nanos / 1000000

/-- Decimal digits of `fraction` below the unit, most significant first, without trailing
zeros. -/
def fractionDigits : Nat → Nat → Nat → String
  | 0, _, _ => ""
  | fuel + 1, fraction, divisor =>
    if fraction = 0 then ""
    else toString (fraction / divisor) ++
      fractionDigits fuel (fraction % divisor) (divisor / 10)

def decimal (whole fraction divisor : Nat) (unit : String) : String :=
  if fraction = 0 then s!"{whole}{unit}"
  else s!"{whole}.{fractionDigits 9 fraction divisor}{unit}"

/-- A duration as it prints in an error message: `15s`, `1.5s`, `400ms`. -/
def debug (duration : Duration) : String :=
  let nanos := duration.nanos
  if 1000000000 ≤ nanos then
    decimal (nanos / 1000000000) (nanos % 1000000000) 100000000 "s"
  else if 1000000 ≤ nanos then decimal (nanos / 1000000) (nanos % 1000000) 100000 "ms"
  else if 1000 ≤ nanos then decimal (nanos / 1000) (nanos % 1000) 100 "µs"
  else s!"{nanos}ns"

end Duration

/-- How long an acquisition is good for, and how often the owner refreshes it. -/
structure Timing where
  ttl : Duration
  renewEvery : Duration
deriving DecidableEq, Repr

def Timing.default : Timing := ⟨.fromSecs 15, .fromSecs 5⟩

inductive FleetError where
  | backend (cause : StoreError)
  | corrupt (key : String)
  | encode (message : String)
  | config (message : String)
deriving DecidableEq, Repr

/-- A time to live at or below the renewal cadence would lose a healthy owner its lease. -/
def Timing.validate (timing : Timing) : Except FleetError Unit :=
  if timing.renewEvery.nanos = 0 ∨ timing.ttl.nanos ≤ timing.renewEvery.nanos then
    .error (.config (s!"lease ttl ({timing.ttl.debug}) must be greater than the renewal " ++
      s!"interval ({timing.renewEvery.debug}), or a healthy owner expires between its own " ++
      "heartbeats"))
  else .ok ()

/-- Signed 64-bit wrapping, as the release build's arithmetic has it. -/
def wrapI64 (value : Int) : Int := value.bmod (2 ^ 64)

/-- `now_ms + ttl.as_millis() as i64`. -/
def Timing.expiryAt (timing : Timing) (nowMs : Int) : Int :=
  wrapI64 (nowMs + wrapI64 timing.ttl.asMillis)

/-! ### Records and outcomes -/

/-- The object at `sessions/<name>`: who owns this name right now. Epochs stay far below the
source's 64 bits, so they are plain numbers here. -/
structure Lease where
  owner : String
  epoch : Nat
  expiresMs : Int
  endpoint : String
  instanceId : String
  state : Option String
deriving DecidableEq, Repr

def Lease.isExpiredAt (lease : Lease) (nowMs : Int) : Bool :=
  lease.expiresMs ≤ nowMs

structure UpdateVersion where
  eTag : Option String
  version : Option String
deriving DecidableEq, Repr

/-- A lease this node holds, with the version that fences its writes. -/
structure Held where
  lease : Lease
  version : UpdateVersion
deriving DecidableEq, Repr

inductive Acquired where
  | held (held : Held)
  | heldByOther (owner : String) (expiresMs : Int)
  | contended
deriving DecidableEq, Repr

inductive Renewed where
  | held (held : Held)
  | fenced
deriving DecidableEq, Repr

/-! ### The lease operations -/

section Operations

variable {Body : Type}

/-- Programs that talk to the bucket's `sessions/` objects, keyed by session name. -/
abbrev LeaseProg (Body α : Type) := Prog (StoreSig String Body UpdateVersion) α

/-- What the answer to a read says. A record that does not parse is not an absent record. -/
def readResult (codec : Codec Lease Body) (name : String) :
    Except StoreError (Entry Body UpdateVersion) →
      Except FleetError (Option (Lease × UpdateVersion))
  | .ok entry =>
    match codec.decode entry.body with
    | some lease => .ok (some (lease, entry.version))
    | none => .error (.corrupt s!"sessions/{name}")
  | .error .notFound => .ok none
  | .error cause => .error (.backend cause)

def read (codec : Codec Lease Body) (name : String) :
    LeaseProg Body (Except FleetError (Option (Lease × UpdateVersion))) :=
  .step (.get name) fun answer => .pure (readResult codec name answer)

def resolve (codec : Codec Lease Body) (name : String) :
    LeaseProg Body (Except FleetError (Option Lease)) := do
  match ← read codec name with
  | .ok found => return .ok (found.map Prod.fst)
  | .error cause => return .error cause

/-- The two answers every caller branches on: the new version, or a refused condition. -/
def putResult : Except StoreError UpdateVersion → Except FleetError (Option UpdateVersion)
  | .ok version => .ok (some version)
  | .error .alreadyExists => .ok none
  | .error .precondition => .ok none
  | .error cause => .error (.backend cause)

def put (codec : Codec Lease Body) (name : String) (lease : Lease)
    (mode : PutMode UpdateVersion) :
    LeaseProg Body (Except FleetError (Option UpdateVersion)) :=
  .step (.put name (codec.encode lease) mode) fun answer => .pure (putResult answer)

def acquiredResult (lease : Lease) :
    Except FleetError (Option UpdateVersion) → Except FleetError Acquired
  | .ok (some version) => .ok (.held ⟨lease, version⟩)
  | .ok none => .ok .contended
  | .error cause => .error cause

def renewedResult (lease : Lease) :
    Except FleetError (Option UpdateVersion) → Except FleetError Renewed
  | .ok (some version) => .ok (.held ⟨lease, version⟩)
  | .ok none => .ok .fenced
  | .error cause => .error cause

/-- A refused release is success: the name is not ours either way. -/
def releasedResult : Except FleetError (Option UpdateVersion) → Except FleetError Unit
  | .ok _ => .ok ()
  | .error cause => .error cause

def claim (codec : Codec Lease Body) (name : String) (lease : Lease)
    (mode : PutMode UpdateVersion) : LeaseProg Body (Except FleetError Acquired) := do
  return acquiredResult lease (← put codec name lease mode)

def firstLease (me endpoint : String) (timing : Timing) (nowMs : Int) : Lease where
  owner := me
  epoch := 1
  expiresMs := timing.expiryAt nowMs
  endpoint := endpoint
  instanceId := ""
  state := none

/-- The record an acquirer writes over `prev`: renewal keeps the epoch, takeover advances
it, and the instance survives either way. -/
def nextLease (prev : Lease) (me endpoint : String) (timing : Timing) (nowMs : Int) : Lease where
  owner := me
  epoch := if prev.owner = me ∧ prev.isExpiredAt nowMs = false then prev.epoch else prev.epoch + 1
  expiresMs := timing.expiryAt nowMs
  endpoint := endpoint
  instanceId := prev.instanceId
  state := none

def acquire (codec : Codec Lease Body) (name me endpoint : String) (timing : Timing)
    (nowMs : Int) : LeaseProg Body (Except FleetError Acquired) :=
  match timing.validate with
  | .error cause => return .error cause
  | .ok () => do
      match ← read codec name with
      | .error cause => return .error cause
      | .ok none => claim codec name (firstLease me endpoint timing nowMs) .create
      | .ok (some (prev, version)) =>
        if prev.isExpiredAt nowMs = false ∧ prev.owner ≠ me then
          return .ok (.heldByOther prev.owner prev.expiresMs)
        else claim codec name (nextLease prev me endpoint timing nowMs) (.update version)

/-- Replace the record of a lease we hold, under the version we hold it at. -/
def rewrite (codec : Codec Lease Body) (name : String) (held : Held) (lease : Lease) :
    LeaseProg Body (Except FleetError Renewed) := do
  return renewedResult lease (← put codec name lease (.update held.version))

/-- Refresh a lease we hold, keeping the epoch, and say its run state afresh. -/
def renew (codec : Codec Lease Body) (name : String) (held : Held) (timing : Timing)
    (nowMs : Int) (state : Option String) : LeaseProg Body (Except FleetError Renewed) :=
  rewrite codec name held { held.lease with expiresMs := timing.expiryAt nowMs, state := state }

def stampState (codec : Codec Lease Body) (name : String) (held : Held)
    (state : Option String) : LeaseProg Body (Except FleetError Renewed) :=
  rewrite codec name held { held.lease with state := state }

def setInstance (codec : Codec Lease Body) (name : String) (held : Held)
    (instanceId : String) : LeaseProg Body (Except FleetError Renewed) :=
  rewrite codec name held { held.lease with instanceId := instanceId }

def release (codec : Codec Lease Body) (name : String) (held : Held) :
    LeaseProg Body (Except FleetError Unit) := do
  return releasedResult
    (← put codec name { held.lease with expiresMs := 0 } (.update held.version))

end Operations

end Barista.Fleet
