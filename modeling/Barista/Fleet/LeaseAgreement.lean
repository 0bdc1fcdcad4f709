import Mathlib.Logic.Equiv.List
import Barista.Foundation.Encoding
import Barista.Fleet.LeaseProtocol

/-!
Agreement and fencing of the lease protocol, over every run.

Owns: one owner an epoch, epochs that never decrease and leave no gap, under
versions that are always fresh; and that a superseded `Held` can change nothing,
under versions that are only a function of the stored bytes.
-/

namespace Barista.Fleet

open Foundation

section Agreement

variable {Body : Type} {etags : Versioning Body UpdateVersion}
variable {Ok : Cell Body UpdateVersion → Prop} {codec : Codec Lease Body}
variable {protocol later : Protocol Body} {name : String}

theorem next_grows {event : Event} (covered : protocol.Covered (leaseDiscipline etags Ok codec))
    (stepped : protocol.next etags codec event = some later) :
    Grows protocol.world later.world := by
  cases event with
  | invoke request =>
    simp only [Protocol.next] at stepped
    split at stepped
    · cases stepped
      exact fun _ => List.suffix_rfl
    · cases stepped
  | deliver index delivery =>
    obtain ⟨role, act, continuation, answer, world, located, executed, rfl⟩ :=
      Pool.step_cases stepped
    exact (covered.guar located executed trivial).2.1

theorem run_grows (sound : etags.Sound Ok) {events : List Event}
    (covered : protocol.Covered (leaseDiscipline etags Ok codec))
    (reached : run (Protocol.next etags codec) protocol events = some later) :
    Grows protocol.world later.world := by
  refine run_relates (P := fun state => state.Covered (leaseDiscipline etags Ok codec))
    (R := fun before after => Grows before.world after.world)
    (fun _ _ => List.suffix_rfl) (fun first second other => (first other).trans (second other))
    (fun kept stepped => ⟨next_covered sound kept stepped, next_grows kept stepped⟩)
    covered reached

theorem Succession.decoded {cell : Cell Body UpdateVersion} (succession : Succession codec cell) :
    ∃ leases : List Lease, cell.log.map Entry.body = leases.map codec.encode ∧
      cell.log.filterMap (fun entry => codec.decode entry.body) = leases ∧
      TermLog (leases.map termOf) := by
  obtain ⟨leases, bodies, terms⟩ := succession
  refine ⟨leases, bodies, ?_, terms⟩
  calc cell.log.filterMap (fun entry => codec.decode entry.body)
      = (cell.log.map Entry.body).filterMap codec.decode := by
        rw [List.filterMap_map]
        rfl
    _ = (leases.map codec.encode).filterMap codec.decode := by rw [bodies]
    _ = leases := by
        rw [List.filterMap_map]
        have identity : codec.decode ∘ codec.encode = some := by
          funext lease
          exact codec.decode_encode lease
        rw [identity, List.filterMap_some]

theorem history_terms (name : String)
    (covered : protocol.Covered (leaseDiscipline etags Ok codec)) :
    TermLog ((protocol.history codec name).map termOf) := by
  obtain ⟨leases, -, decoded, terms⟩ := ((covered.inv name).2).decoded
  rw [Protocol.history, decoded]
  exact terms

theorem stored_eq_head (name : String)
    (covered : protocol.Covered (leaseDiscipline etags Ok codec)) :
    protocol.stored codec name = (protocol.history codec name).head? := by
  obtain ⟨leases, bodies, decoded, -⟩ := ((covered.inv name).2).decoded
  rw [Protocol.history, decoded, Protocol.stored, Cell.current]
  cases written : (protocol.world name).log with
  | nil =>
    rw [written] at decoded
    rw [← decoded]
    rfl
  | cons entry older =>
    rw [written] at bodies
    cases leases with
    | nil => cases bodies
    | cons head rest =>
      rw [List.map_cons, List.map_cons, List.cons.injEq] at bodies
      rw [List.head?_cons, List.head?_cons, Option.bind_some, bodies.1, codec.decode_encode]

theorem history_suffix (codec : Codec Lease Body) (name : String)
    (grown : Grows protocol.world later.world) :
    protocol.history codec name <:+ later.history codec name :=
  (grown name).filterMap _

theorem stored_epoch_mono (sound : etags.Sound Ok) {events : List Event}
    (covered : protocol.Covered (leaseDiscipline etags Ok codec))
    (reached : run (Protocol.next etags codec) protocol events = some later)
    {lease : Lease} (stored : protocol.stored codec name = some lease) :
    ∃ current, later.stored codec name = some current ∧ lease.epoch ≤ current.epoch := by
  have coveredLater : later.Covered (leaseDiscipline etags Ok codec) :=
    run_invariant (fun kept stepped => next_covered sound kept stepped) covered reached
  obtain ⟨newer, extended⟩ := history_suffix codec name (run_grows sound covered reached)
  rw [stored_eq_head name covered] at stored
  obtain ⟨older, whole⟩ := List.head?_eq_some_iff.mp stored
  have terms := history_terms name coveredLater
  rw [← extended, whole, List.map_append, List.map_cons] at terms
  rw [stored_eq_head name coveredLater, ← extended, whole]
  cases newest : (newer ++ lease :: older).head? with
  | none => simp at newest
  | some current =>
    have newestTerm : (newer.map termOf ++ termOf lease :: older.map termOf).head? = some
      (termOf current) := by
      rw [← List.map_cons, ← List.map_append, List.head?_map, newest, Option.map_some]
    exact ⟨current, rfl, terms.head_mono newestTerm⟩

end Agreement

/-- **Lease agreement.** Over every run of lease calls with arbitrary clocks, on a store
that applies conditional puts atomically and never repeats a version: an epoch has one
owner, the stored epoch never decreases, and the epochs ever stored are exactly those from
1 to the stored one. -/
theorem lease_agreement {Body : Type} (codec : Codec Lease Body) (name : String)
    (events : List Event) (protocol : Protocol Body)
    (reached : run (Protocol.next freshVersions codec) .idle events = some protocol) :
    (∀ first ∈ protocol.history codec name, ∀ second ∈ protocol.history codec name,
      first.epoch = second.epoch → first.owner = second.owner) ∧
    (∀ more later, run (Protocol.next freshVersions codec) protocol more = some later →
      ∀ lease, protocol.stored codec name = some lease →
        ∃ current, later.stored codec name = some current ∧ lease.epoch ≤ current.epoch) ∧
    (∀ epoch, (∃ lease ∈ protocol.history codec name, lease.epoch = epoch) ↔
      ∃ current, protocol.stored codec name = some current ∧ 1 ≤ epoch ∧
        epoch ≤ current.epoch) := by
  have covered := reachable_covered freshVersions_sound reached
  have terms := history_terms name covered
  refine ⟨fun first firstMem second secondMem sameEpoch => ?_, fun more later continued lease => ?_,
    fun epoch => ?_⟩
  · exact terms.holder_unique (List.mem_map_of_mem firstMem)
      (List.mem_map_of_mem secondMem) sameEpoch
  · exact stored_epoch_mono freshVersions_sound covered continued
  · rw [stored_eq_head name covered]
    cases written : protocol.history codec name with
    | nil => simp
    | cons newest older =>
      rw [written, List.map_cons] at terms
      have gapless := terms.terms_gapless epoch
      rw [← List.map_cons] at gapless
      simpa [termOf] using gapless

/-- Two nodes race for an empty name, then the loser's clock runs ahead and it takes over. -/
def takeoverRun : List Event :=
  let answered tag := Delivery.answered (UpdateVersion.mk (some tag) none)
  [.invoke ⟨"s", .acquire "a" "" .default 0⟩, .invoke ⟨"s", .acquire "b" "" .default 0⟩,
    .deliver 0 .failed, .invoke ⟨"s", .acquire "a" "" .default 0⟩,
    .deliver 2 (answered ""), .deliver 1 (answered ""),
    .deliver 2 (answered "v1"), .deliver 1 (answered "v2"),
    .invoke ⟨"s", .acquire "b" "" .default 60000⟩, .deliver 3 (answered ""),
    .deliver 3 (.lost ⟨some "v2", none⟩)]

theorem lease_agreement_takeover :
    ∃ protocol, run (Protocol.next freshVersions (.structural Lease)) .idle takeoverRun =
      some protocol ∧ (protocol.history (.structural Lease) "s").map termOf = [(2, "b"), (1, "a")] ∧
      ∀ first ∈ protocol.history (.structural Lease) "s", ∀ second ∈ protocol.history
        (.structural Lease) "s",
          first.epoch = second.epoch → first.owner = second.owner := by
  obtain ⟨protocol, reached⟩ : ∃ protocol,
      run (Protocol.next freshVersions (.structural Lease)) .idle takeoverRun = some protocol :=
    Option.isSome_iff_exists.mp (by decide)
  refine ⟨protocol, reached, ?_, (lease_agreement (.structural Lease) "s" _ protocol reached).1⟩
  have evaluated : (run (Protocol.next freshVersions (.structural Lease)) .idle takeoverRun).map
      (fun state => (state.history (.structural Lease) "s").map termOf) =
        some [(2, "b"), (1, "a")] := by decide
  rw [reached] at evaluated
  exact Option.some.inj evaluated

/-! ### Superseded evidence -/

/-- What a call on a held lease returns when the store refuses its write. -/
def Call.refused : Call → Outcome
  | .acquire .. => .acquired (.ok .contended)
  | .release _ => .released (.ok ())
  | .renew .. | .stampState .. | .setInstance .. => .renewed (.ok .fenced)

/-- What a call returns when its request gets no answer. -/
def Call.unanswered : Call → Outcome
  | .acquire .. => .acquired (.error (.backend .unavailable))
  | .release _ => .released (.error (.backend .unavailable))
  | .renew .. | .stampState .. | .setInstance .. => .renewed (.error (.backend .unavailable))

section Superseded

variable {Body : Type} {etags : Versioning Body UpdateVersion}
variable {Ok : Cell Body UpdateVersion → Prop} {codec : Codec Lease Body}
variable {protocol later : Protocol Body} {name : String}

/-- A call on a held lease is one conditional put under that lease's version. -/
theorem prog_of_held (codec : Codec Lease Body) (request : Request) {held : Held}
    (uses : request.call.held? = some held) :
    ∃ (lease : Lease) (settle : Except StoreError UpdateVersion → Outcome), request.prog codec =
        .step (.put request.name (codec.encode lease) (.update held.version))
          (fun answer => .pure (settle answer)) ∧ settle (.error .precondition) =
            request.call.refused ∧
      settle (.error .unavailable) = request.call.unanswered := by
  obtain ⟨name, call⟩ := request
  cases call with
  | acquire => cases uses
  | renew | stampState | setInstance | release =>
    cases uses
    exact ⟨_, _, rfl, rfl, rfl⟩

/-- Calls on held leases work with evidence of the history, and wait for their one put. -/
def HeldCalls (codec : Codec Lease Body) (protocol : Protocol Body) : Prop :=
  ∀ (index : Nat) (request : Request) (prog : LeaseProg Body Outcome) (held : Held),
    protocol.tasks[index]? = some ⟨request, prog⟩ → request.call.held? = some held →
      Evident codec protocol.world request.name held ∧
      (prog = request.prog codec ∨ ∃ outcome, prog = .pure outcome)

theorem HeldCalls.next {event : Event} (calls : HeldCalls codec protocol)
    (covered : protocol.Covered (leaseDiscipline etags Ok codec))
    (stepped : protocol.next etags codec event = some later) : HeldCalls codec later := by
  have grown := next_grows covered stepped
  intro index request prog held located uses
  cases event with
  | invoke fresh =>
    simp only [Protocol.next] at stepped
    split at stepped
    · next known =>
        cases stepped
        rcases located_append located with located | ⟨-, started⟩
        · exact calls index request prog held located uses
        · cases started
          rw [uses] at known
          exact ⟨issued_evident covered (by simpa using known), .inl rfl⟩
    · cases stepped
  | deliver actor delivery =>
    obtain ⟨role, act, continuation, answer, world, found, executed, rfl⟩ := Pool.step_cases stepped
    rcases located_set found located with ⟨rfl, written⟩ | ⟨-, located⟩
    · cases written
      obtain ⟨evident, shape⟩ := calls index _ _ held found uses
      refine ⟨grown.mem evident, .inr ?_⟩
      obtain ⟨lease, settle, oneput, -⟩ := prog_of_held codec _ uses
      rw [oneput] at shape
      rcases shape with waiting | ⟨outcome, finished⟩
      · cases waiting
        exact ⟨_, rfl⟩
      · cases finished
    · obtain ⟨evident, shape⟩ := calls index request prog held located uses
      exact ⟨grown.mem evident, shape⟩

theorem reachable_heldCalls (sound : etags.Sound Ok) {events : List Event}
    (reached : run (Protocol.next etags codec) .idle events = some protocol) :
    HeldCalls codec protocol := by
  have both : protocol.Covered (leaseDiscipline etags Ok codec) ∧ HeldCalls codec protocol := by
    refine run_invariant (P := fun state =>
      state.Covered (leaseDiscipline etags Ok codec) ∧ HeldCalls codec state)
      (fun kept stepped => ⟨next_covered sound kept.1 stepped, kept.2.next kept.1 stepped⟩)
      ⟨idle_covered sound, ?_⟩ reached
    intro index request prog held located
    simp [Protocol.idle] at located
  exact both.2

theorem superseded_not_admitted (sound : etags.Sound Ok)
    (covered : protocol.Covered (leaseDiscipline etags Ok codec)) {held : Held}
    (evident : Evident codec protocol.world name held) {lease : Lease}
    (stored : protocol.stored codec name = some lease)
    (superseded : held.lease.epoch < lease.epoch) :
    (protocol.world name).admits (.update held.version) = false := by
  by_contra admitted
  rw [Bool.not_eq_false] at admitted
  -- The version matches, so the stored bytes are the held lease's own, epoch included.
  obtain ⟨entry, found, sameBody⟩ := (sound.identify (covered.inv name).1).base_current
    evident admitted
  have storedHeld : protocol.stored codec name = some held.lease := by
    rw [Protocol.stored, found, Option.bind_some, sameBody, codec.decode_encode]
  rw [stored] at storedHeld
  cases storedHeld
  exact Nat.lt_irrefl _ superseded

end Superseded

/-- **Fencing survives content-derived versions.** When the version of a record is only an
injective function of its bytes, then once the stored epoch exceeds a `Held`'s, every later
write made with that `Held` leaves the bucket as it is, and returns `Fenced` (a release
returns as if done) unless its request went unanswered. -/
theorem superseded_held_fenced {Body : Type} (codec : Codec Lease Body)
    (tag : Body → UpdateVersion) (injective : Function.Injective tag)
    (events : List Event) (protocol : Protocol Body)
    (reached : run (Protocol.next (contentVersions tag) codec) .idle events = some protocol)
    (name : String) (held : Held) (lease : Lease) (stored : protocol.stored codec name = some lease)
    (superseded : held.lease.epoch < lease.epoch) (more : List Event) (later : Protocol Body)
    (continued : run (Protocol.next (contentVersions tag) codec) protocol more = some later)
    (index : Nat) (call : Call) (prog : LeaseProg Body Outcome)
    (located : later.tasks[index]? = some ⟨⟨name, call⟩, prog⟩)
    (uses : call.held? = some held) (delivery : Delivery UpdateVersion) (after : Protocol Body)
    (stepped : later.next (contentVersions tag) codec (.deliver index delivery) = some after) :
    after.world = later.world ∧ ∃ outcome, after.tasks[index]? = some
      ⟨⟨name, call⟩, .pure outcome⟩ ∧
        (outcome = call.refused ∨ (∀ version, delivery ≠ .answered version) ∧
          outcome = call.unanswered) := by
  have sound := contentVersions_sound injective
  have covered := reachable_covered sound reached
  obtain ⟨current, storedNow, atLeast⟩ := stored_epoch_mono sound covered continued stored
  have reachedLater : run (Protocol.next (contentVersions tag) codec) .idle (events ++ more) =
    some later := by
    rw [run_append, reached, Option.bind_some, continued]
  have coveredLater := reachable_covered sound reachedLater
  obtain ⟨evident, shape⟩ := reachable_heldCalls sound reachedLater index
    ⟨name, call⟩ prog held located uses
  have refused := superseded_not_admitted sound coveredLater evident storedNow
    (Nat.lt_of_lt_of_le superseded atLeast)
  obtain ⟨written, settle, oneput, whenRefused, whenUnanswered⟩ :=
    prog_of_held codec ⟨name, call⟩ uses
  obtain ⟨role, act, continuation, answer, world, found, executed, rfl⟩ := Pool.step_cases stepped
  rw [located] at found
  rcases shape with waiting | ⟨outcome, finished⟩
  · rw [oneput] at waiting
    subst waiting
    cases found
    have settled := List.getElem?_set_self (a := (⟨⟨name, call⟩, .pure (settle answer)⟩ :
      Task (StoreSig String Body UpdateVersion) Request Outcome))
      (List.getElem?_eq_some_iff.mp located).1
    rcases Objects.exec_put_cases executed with ⟨version, admitted, -⟩ | ⟨unchanged, answered⟩
    · rw [admitted] at refused
      cases refused
    · refine ⟨unchanged, settle answer, settled, ?_⟩
      rcases answered with ⟨-, rfl⟩ | ⟨rfl, silent⟩
      · exact .inl whenRefused
      · exact .inr ⟨silent, whenUnanswered⟩
  · subst finished
    cases found

def letters (text : String) : List Nat := text.toList.map Char.toNat

/-- A version that is computed from what a record says, as an entity tag is from its bytes. -/
def contentTag (lease : Lease) : UpdateVersion :=
  ⟨some (toString (Encodable.encode (letters lease.owner, lease.epoch, lease.expiresMs,
    letters lease.endpoint, letters lease.instanceId, lease.state.map letters))), none⟩

theorem letters_injective : Function.Injective letters := by
  intro left right same
  apply String.toList_injective
  apply List.map_injective_iff.mpr _ same
  intro one other alike
  exact Char.toNat_inj.mp alike

theorem contentTag_injective : Function.Injective contentTag := by
  intro left right same
  have texts := Option.some.inj (congrArg UpdateVersion.eTag same)
  have parts := Encodable.encode_injective (decimal_injective texts)
  simp only [Prod.mk.injEq, letters_injective.eq_iff,
    (Option.map_injective letters_injective).eq_iff] at parts
  cases left
  cases right
  simpa using parts

/-- What node `a` holds after winning an empty name at time zero. -/
def firstHeld : Held :=
  let lease := firstLease "a" "" .default 0
  ⟨lease, contentTag lease⟩

/-- Node `a` wins an empty name; node `b`, its clock a minute ahead, takes it over. -/
def supersedingRun : List Event :=
  let lease := nextLease firstHeld.lease "b" "" .default 60000
  [.invoke ⟨"s", .acquire "a" "" .default 0⟩, .deliver 0 (.answered firstHeld.version),
    .deliver 0 (.answered firstHeld.version),
    .invoke ⟨"s", .acquire "b" "" .default 60000⟩, .deliver 1 (.answered firstHeld.version),
    .deliver 1 (.answered (contentTag lease))]

/-- Node `a` renews with what it held before the takeover. -/
def staleRenewal : Call := .renew firstHeld .default 5000 (some "running")

theorem superseded_held_fenced_takeover : ∃ later after : Protocol Lease,
      run (Protocol.next (contentVersions contentTag) (.structural Lease)) .idle
        (supersedingRun ++ [.invoke ⟨"s", staleRenewal⟩]) = some later ∧
      later.next (contentVersions contentTag) (.structural Lease)
        (.deliver 2 (.answered firstHeld.version)) = some after ∧ after.world = later.world ∧
      after.tasks[2]? = some ⟨⟨"s", staleRenewal⟩, .pure (.renewed (.ok .fenced))⟩ := by
  let next := Protocol.next (contentVersions contentTag) (.structural Lease)
  let lease := nextLease firstHeld.lease "b" "" .default 60000
  obtain ⟨protocol, reached, stored⟩ : ∃ protocol, run next .idle supersedingRun = some protocol ∧
        protocol.stored (.structural Lease) "s" = some lease :=
    Option.bind_eq_some_iff.mp (by decide +kernel)
  obtain ⟨later, continued, located⟩ : ∃ later, run next protocol [.invoke ⟨"s", staleRenewal⟩] =
    some later ∧
        later.tasks[2]?.map Task.role = some ⟨"s", staleRenewal⟩ := by
    have evaluated : (run next .idle (supersedingRun ++ [.invoke ⟨"s", staleRenewal⟩])).bind
        (fun state => state.tasks[2]?.map Task.role) = some ⟨"s", staleRenewal⟩ := by
      decide +kernel
    rw [run_append, reached, Option.bind_some] at evaluated
    exact Option.bind_eq_some_iff.mp evaluated
  obtain ⟨⟨role, prog⟩, found, rfl⟩ := Option.map_eq_some_iff.mp located
  have reachedLater : run next .idle (supersedingRun ++ [.invoke ⟨"s", staleRenewal⟩]) =
    some later := by
    rw [run_append, reached, Option.bind_some, continued]
  obtain ⟨after, stepped⟩ : ∃ after, later.next (contentVersions contentTag) (.structural Lease)
        (.deliver 2 (.answered firstHeld.version)) = some after := by
    have evaluated : ((run next .idle (supersedingRun ++ [.invoke ⟨"s", staleRenewal⟩])).bind
        fun state => next state (.deliver 2 (.answered firstHeld.version))).isSome = true := by
      decide +kernel
    rw [reachedLater, Option.bind_some] at evaluated
    exact Option.isSome_iff_exists.mp evaluated
  obtain ⟨unchanged, outcome, settled, fenced | ⟨silent, -⟩⟩ :=
    superseded_held_fenced (.structural Lease) contentTag contentTag_injective
      supersedingRun protocol
      reached "s" firstHeld lease stored (by decide) _ later continued 2 staleRenewal prog found
      rfl (.answered firstHeld.version) after stepped
  · rw [fenced] at settled
    exact ⟨later, after, reachedLater, stepped, unchanged, settled⟩
  · exact absurd rfl (silent firstHeld.version)

end Barista.Fleet
