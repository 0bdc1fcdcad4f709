import Barista.Node.Admission

/-!
Contract: which name the certificate of an instance's guest carries.

An identity is minted once, for one instance id, and a fork inherits its source's. The host
verifies the name it computes from the id it dials, once that name has passed for a DNS name.

Owns: the minting of an identity, the name a dial verifies, and the identities in the journal of
every run. Does not own: the certificate library, whose laws are the fields of `Pki`.
-/

namespace Barista.Node

open Foundation Fleet

/-! ### Certificates -/

/-- DNS names are compared up to the case of ASCII letters. -/
def sameName (left right : String) : Bool :=
  left.toList.map Char.toLower = right.toList.map Char.toLower

/-- The certificate library. An issuer is its certificate and its signing key. -/
structure Pki where
  selfSigned : (commonName : String) → Except String (List UInt8 × List UInt8)
  /-- A leaf for one name, as a server or as a client: its certificate and its key. -/
  signedBy : (issuer : List UInt8 × List UInt8) → (san : String) → (server : Bool) →
    Except String (List UInt8 × List UInt8)
  /-- The name in a certificate. -/
  dnsName : List UInt8 → Option String
  /-- Whether `ServerName::try_from` takes a text for a DNS name. -/
  isDnsName : String → Bool
  /-- Whether a server that presents a certificate passes for a name, under an anchor. -/
  verifies : (anchor certificate : List UInt8) → (name : String) → Bool
  dnsName_signedBy : ∀ {issuer san server certificate key},
    signedBy issuer san server = .ok (certificate, key) → dnsName certificate = some san
  /-- A leaf passes for its own name up to case, and only as one DNS name for another. More passes
  for a wildcard, which begins with a star, and under a name with a final dot. -/
  verifies_signedBy : ∀ {issuer san certificate key},
    signedBy issuer san true = .ok (certificate, key) → san.toList.head? ≠ some '*' →
      ∀ name, name.toList.getLast? ≠ some '.' → (verifies issuer.1 certificate name = true ↔
        isDnsName san = true ∧ isDnsName name = true ∧ sameName name san = true)

def guestSan (instanceId : String) : String := s!"guest.{instanceId}.barista.invalid"

def hostSan (instanceId : String) : String := s!"host.{instanceId}.barista.invalid"

def mint (pki : Pki) (instanceId : String) : Except String Identity := do
  let ca ← pki.selfSigned s!"barista instance {instanceId}"
  let guest ← pki.signedBy ca (guestSan instanceId) true
  let host ← pki.signedBy ca (hostSan instanceId) false
  return ⟨ca.1, guest.1, guest.2, host.1, host.2⟩

/-- A guest that presents this identity passes when it is dialled as that instance: the name
`connect` verifies is the one in the certificate, it is taken for a DNS name, and the certificate
passes for it. -/
structure Dialled (pki : Pki) (instanceId : String) (identity : Identity) : Prop where
  carried : pki.dnsName identity.guestCert = some (guestSan instanceId)
  named : pki.isDnsName (guestSan instanceId) = true
  passes : pki.verifies identity.anchor identity.guestCert (guestSan instanceId) = true

/-- The certificate names another instance, and passes for this one only if the two names differ in
nothing but case. -/
def Foreign (pki : Pki) (instanceId : String) (identity : Identity) : Prop :=
  ∃ origin, origin ≠ instanceId ∧ pki.dnsName identity.guestCert = some (guestSan origin) ∧
    (pki.verifies identity.anchor identity.guestCert (guestSan instanceId) = true →
      sameName (guestSan instanceId) (guestSan origin) = true)

theorem guestSan_injective {first second : String} (same : guestSan first = guestSan second) :
    first = second := by
  have shape : "guest." ++ first ++ ".barista.invalid" = "guest." ++ second ++ ".barista.invalid" :=
    same
  exact (String.append_right_inj _).mp ((String.append_left_inj _).mp shape)

variable {identity : Identity} {pki : Pki} {origin : String}

theorem Foreign.undialled {id : String} (foreign : Foreign pki id identity) :
    ¬ Dialled pki id identity := by
  obtain ⟨origin, other, named, -⟩ := foreign
  intro dialled
  have same := dialled.carried
  rw [named] at same
  exact other (guestSan_injective (Option.some.inj same))

theorem mint_spec (minted : mint pki origin = .ok identity) :
    pki.dnsName identity.guestCert = some (guestSan origin) ∧
      ∀ id, pki.verifies identity.anchor identity.guestCert (guestSan id) = true ↔
        pki.isDnsName (guestSan origin) = true ∧ pki.isDnsName (guestSan id) = true ∧
          sameName (guestSan id) (guestSan origin) = true := by
  unfold mint at minted
  cases issued : pki.selfSigned s!"barista instance {origin}" with
  | error cause => simp [issued, bind, Except.bind] at minted
  | ok ca =>
    cases guest : pki.signedBy ca (guestSan origin) true with
    | error cause => simp [issued, guest, bind, Except.bind] at minted
    | ok leaf =>
      cases host : pki.signedBy ca (hostSan origin) false with
      | error cause => simp [issued, guest, host, bind, Except.bind] at minted
      | ok other =>
        simp only [issued, guest, host, bind, Except.bind, pure, Except.pure] at minted
        cases minted
        have shape (id : String) : (guestSan id).toList.head? ≠ some '*' ∧
            (guestSan id).toList.getLast? ≠ some '.' := by
          rw [show guestSan id = "guest." ++ id ++ ".barista.invalid" from rfl]
          simp [List.getLast?_cons]
        exact ⟨pki.dnsName_signedBy guest, fun id =>
          pki.verifies_signedBy guest (shape origin).1 _ (shape id).2⟩

theorem dialled_mint (minted : mint pki origin = .ok identity)
    (named : pki.isDnsName (guestSan origin) = true) : Dialled pki origin identity := by
  obtain ⟨carried, passes⟩ := mint_spec minted
  exact ⟨carried, named, (passes _).mpr ⟨named, named, decide_eq_true rfl⟩⟩

theorem foreign_mint {id : String} (minted : mint pki origin = .ok identity) (other : origin ≠ id) :
    Foreign pki id identity := by
  obtain ⟨carried, passes⟩ := mint_spec minted
  exact ⟨origin, other, carried, fun verified => ((passes _).mp verified).2.2⟩

/-! ### Identities in the journal -/

def inherited : OpPayload → Option Identity
  | .fork _ _ _ _ _ _ identity => identity
  | _ => none

variable {payload : OpPayload}

theorem identityMint_inherited (brought : inherited payload = some identity) (id : String) :
    identityMint agent payload id = .ok (some identity) := by
  cases payload with
  | fork =>
    cases brought
    rfl
  | _ => cases brought

theorem identityMint_own (own : inherited payload = none) (id : String) :
    identityMint agent payload id = agent.mintIdentity id := by
  cases payload with
  | fork =>
    cases own
    rfl
  | _ => rfl

variable {id : String}

theorem entered_inherited {known : Known} {key : String} {claim : Option Claim}
    (entered : Entered agent known id key payload claim)
    (brought : inherited payload = some identity) :
    ∃ sourceId source, known.row sourceId source ∧ source.identity = some identity := by
  cases entered with
  | fork _ read => exact ⟨_, _, read, brought⟩
  | create | capsule => cases brought
  | verb plain =>
    cases payload with
    | fork => cases plain
    | _ => cases brought
  | ttl resolution => cases resolution <;> cases brought
  | wake wakes => rcases wakes with rfl | rfl <;> cases brought

theorem entered_created {known : Known} {key : String} {claim : Option Claim} {spec : InstanceSpec}
    (entered : Entered agent known id key payload claim)
    (creates : createSpec payload = some spec) : spec.instanceId = id := by
  cases entered with
  | create | fork | capsule =>
    cases creates
    rfl
  | verb plain => cases plain.symm.trans creates
  | ttl resolution => cases resolution <;> cases creates
  | wake wakes => rcases wakes with rfl | rfl <;> cases creates

/-- A step journals an instance under the identity of another one. -/
def Inherits (agent : Agent) (system : System) (label : Label) (after : System) : Prop :=
  ∃ payload id key claim opId guestToken createdAtMs, system.made label = some (.submitAtomically
      (submitArgs agent payload.kind id key payload claim opId guestToken createdAtMs)) ∧
    inherited payload ≠ none ∧
    system.world.journal.getInstance id = none ∧ after.world.journal.getInstance id ≠ none

/-- The instances a step journals have ids whose names are DNS names. -/
def Nameable (pki : Pki) (system after : System) : Prop :=
  ∀ id, system.world.journal.getInstance id = none → after.world.journal.getInstance id ≠ none →
    pki.isDnsName (guestSan id) = true

/-- An identity was minted for an instance of the journal. -/
def Originates (pki : Pki) (journal : Journal) (identity : Identity) : Prop :=
  ∃ origin, journal.getInstance origin ≠ none ∧ mint pki origin = .ok identity

variable {agent : Agent} {etags : LeaseVersioning} {system after : System}
  {label : Label} {labels : List Label}

theorem Originates.step (originates : Originates pki system.world.journal identity)
    (stepped : System.next agent etags system label = some after) :
    Originates pki after.world.journal identity := by
  obtain ⟨origin, known, minted⟩ := originates
  obtain ⟨row, found⟩ := Option.ne_none_iff_exists'.mp known
  obtain ⟨later, stays, -⟩ := spec_stays stepped found
  exact ⟨origin, by simp [stays], minted⟩

/-- Where the identity of a row after a step came from: it was there, it was minted for the row,
or the submission brought it along. -/
theorem identity_cases (stepped : System.next agent etags system label = some after)
    {row : InstanceRow} (found : after.world.journal.getInstance id = some row)
    (held : row.identity = some identity) :
    (∃ old, system.world.journal.getInstance id = some old ∧ old.identity = some identity) ∨
      ∃ args spec, system.made label = some (.submitAtomically args) ∧
        args.createSpec = some spec ∧ spec.instanceId = id ∧
        system.world.journal.getInstance id = none ∧ args.mintIdentity id = .ok
          (some identity) := by
  rcases row_cases stepped id with
    same | ⟨_, _, _, old, new, -, read, written, touches⟩ |
    ⟨args, spec, minted, _, made, creates, mints, absent, written⟩
  · exact .inl ⟨row, same ▸ found, held⟩
  · cases written.symm.trans found
    rcases (Query.rewritten touches).identity with same | scrubbed
    · exact .inl ⟨old, read, same ▸ held⟩
    · cases scrubbed.symm.trans held
  · have named := Journal.getInstance_named written
    cases written.symm.trans found
    cases held
    exact .inr ⟨args, spec, made, creates, named, absent, named ▸ mints⟩

/-- Every identity a task was answered with, or that the journal holds, was minted for an instance
of the journal. -/
def Minted (pki : Pki) (system : System) (traces : Nat → NodeTrace) : Prop :=
  (∀ id row, system.world.journal.getInstance id = some row →
    ∀ identity, row.identity = some identity → Originates pki system.world.journal identity) ∧
  ∀ index id row, Answered (traces index) id row →
    ∀ identity, row.identity = some identity → Originates pki system.world.journal identity

section Minting

variable (minting : ∀ id, agent.mintIdentity id = (mint pki id).map some)

include minting

theorem minted_ok (minted : agent.mintIdentity id = .ok (some identity)) :
    mint pki id = .ok identity := by
  rw [minting] at minted
  cases made : mint pki id with
  | error cause => simp [made, Except.map] at minted
  | ok fresh =>
    simp only [made, Except.map] at minted
    cases minted
    rfl

theorem Minted.step (reached : System.reach agent etags labels = some system)
    (minted : Minted pki system (System.traces agent etags labels))
    (stepped : System.next agent etags system label = some after) : Minted pki after
      (System.tracesAfter etags system label (System.traces agent etags labels)) := by
  obtain ⟨rows, answers⟩ := minted
  refine ⟨?_, ?_⟩
  · intro id row found identity held
    rcases identity_cases stepped found held with ⟨old, read, same⟩ |
      ⟨args, _, made, -, -, -, mints⟩
    · exact (rows id old read identity same).step stepped
    obtain ⟨_, task, -, _, _, payload, _, _, _, _, rfl, entered⟩ := System.made_entered reached made
    cases own : inherited payload with
    | none =>
      exact ⟨id, by simp [found], minted_ok minting ((identityMint_own own id).symm.trans mints)⟩
    | some brought =>
      cases (identityMint_inherited own id).symm.trans mints
      obtain ⟨_, source, read, held⟩ := entered_inherited entered own
      exact (answers _ _ source read identity held).step stepped
  · refine answered_after ?_ ?_
    · intro index id row answered identity held
      exact (answers index id row answered identity held).step stepped
    · intro id row found identity held
      exact (rows id row found identity held).step stepped

theorem reach_minted (reached : System.reach agent etags labels = some system) :
    Minted pki system (System.traces agent etags labels) := by
  refine run_observed (I := fun current traces => Minted pki current traces) ?_ ?_ reached
  · intro labels current label later reached minted stepped
    exact minted.step minting reached stepped
  · exact ⟨by rintro id row ⟨⟩, by rintro index id row ⟨⟩⟩

theorem inherited_of_constant
    (constant : ∀ id, identityMint agent payload id = .ok (some identity)) :
    inherited payload = some identity := by
  cases brought : inherited payload with
  | some other =>
    cases (identityMint_inherited brought "").symm.trans (constant "")
    rfl
  | none =>
    have minted (id : String) : mint pki id = .ok identity :=
      minted_ok minting ((identityMint_own brought id).symm.trans (constant id))
    have one : some (guestSan "") = some (guestSan "x") :=
      (mint_spec (minted "")).1.symm.trans (mint_spec (minted "x")).1
    exact absurd (guestSan_injective (Option.some.inj one)) (by decide)

/-- In a run that has inherited no identity so far, every identity was minted for the row that
holds it. -/
def Own (pki : Pki) (system : System) : Prop :=
  ∀ id row, system.world.journal.getInstance id = some row →
    ∀ identity, row.identity = some identity → mint pki id = .ok identity

theorem Own.step (reached : System.reach agent etags labels = some system) (own : Own pki system)
    (stepped : System.next agent etags system label = some after)
    (mints : ¬ Inherits agent system label after) : Own pki after := by
  intro id row found identity held
  rcases identity_cases stepped found held with
    ⟨old, read, same⟩ | ⟨args, spec, made, creates, named, absent, minted⟩
  · exact own id old read identity same
  obtain ⟨_, task, -, target, key, payload, claim, opId, guestToken, createdAtMs, rfl, entered⟩ :=
    System.made_entered reached made
  obtain rfl : id = target := named.symm.trans (entered_created entered creates)
  cases brought : inherited payload with
  | none => exact minted_ok minting ((identityMint_own brought id).symm.trans minted)
  | some other =>
    exact absurd ⟨payload, id, key, claim, opId, guestToken, createdAtMs, made,
      by simp [brought], absent, by simp [found]⟩ mints

theorem reach_own
    (reached : System.reach agent etags labels = some system)
    (mints : Along (System.next agent etags)
      (fun before label after => ¬ Inherits agent before label after) System.initial labels) :
    Own pki system := by
  refine mints.invariant_run (I := Own pki) ?_ (by rintro id row ⟨⟩) reached
  intro labels current label later reached _ own stepped step
  exact own.step minting reached stepped step

theorem inherits_foreign (reached : System.reach agent etags labels = some system)
    (stepped : System.next agent etags system label = some after)
    (inherits : Inherits agent system label after) :
    ∃ row ∈ after.world.journal.instances.rows, ∃ identity, row.identity = some identity ∧
      Foreign pki row.instanceId identity := by
  obtain ⟨payload, id, key, claim, opId, guestToken, createdAtMs, made, brought, absent, present⟩ :=
    inherits
  obtain ⟨identity, brings⟩ := Option.ne_none_iff_exists'.mp brought
  -- The row is the one this submission inserts, under the identity it brings along.
  obtain ⟨row, found, held⟩ : ∃ row, after.world.journal.getInstance id = some row ∧
      row.identity = some identity := by
    rcases row_cases stepped id with
      same | ⟨_, _, _, _, _, -, read, -⟩ | ⟨args, spec, minted, _, made', creates,
        mints, -, written⟩
    · exact absurd (same.trans absent) present
    · cases absent.symm.trans read
    · cases made.symm.trans made'
      refine ⟨_, written, ?_⟩
      cases (identityMint_inherited brings spec.instanceId).symm.trans mints
      rfl
  refine ⟨row, (Table.mem_of_find? found).1, identity, held, ?_⟩
  rw [Journal.getInstance_named found]
  obtain ⟨origin, known, minted⟩ : Originates pki system.world.journal identity := by
    obtain ⟨_, _, -, _, _, entrant, _, _, _, _, same, entered⟩ := System.made_entered reached made
    have mints : ∀ origin, identityMint agent entrant origin = .ok (some identity) := by
      intro origin
      have own : identityMint agent payload origin = .ok (some identity) :=
        identityMint_inherited brings origin
      exact (congrFun (congrArg SubmitArgs.mintIdentity same) origin).symm.trans own
    obtain ⟨_, source, read, sourceHeld⟩ :=
      entered_inherited entered (inherited_of_constant minting mints)
    exact (reach_minted minting reached).2 _ _ source read identity sourceHeld
  apply foreign_mint minted
  rintro rfl
  exact known absent

end Minting

theorem nameable_row (reached : System.reach agent etags labels = some system)
    (nameable : Along (System.next agent etags) (fun before _ after => Nameable pki before after)
      System.initial labels) {row : InstanceRow}
    (found : system.world.journal.getInstance id = some row) :
    pki.isDnsName (guestSan id) = true := by
  have all : ∀ row, system.world.journal.getInstance id = some row →
      pki.isDnsName (guestSan id) = true := by
    refine nameable.invariant (I := fun state : System => ∀ row,
      state.world.journal.getInstance id = some row → pki.isDnsName (guestSan id) = true)
      ?_ (by rintro row ⟨⟩) reached
    intro before label after known stepped named row found
    cases old : before.world.journal.getInstance id with
    | none => exact named id old (by simp [found])
    | some earlier => exact known earlier old
  exact all row found

/-- **Each instance is dialled under its own certificate**, in every run in which no fork inherits
an identity and every new instance's name is a DNS name; and every fork that does inherit leaves a
child whose certificate is another's. -/
theorem dialled_under_own_certificate (agent : Agent) (etags : LeaseVersioning)
    (pki : Pki) (minting : ∀ id, agent.mintIdentity id = (mint pki id).map some)
    (labels : List Label) (system : System)
    (reached : System.reach agent etags labels = some system) :
    (Along (System.next agent etags) (fun before label after =>
        ¬ Inherits agent before label after ∧ Nameable pki before after) System.initial labels →
      ∀ row ∈ system.world.journal.instances.rows, ∀ identity, row.identity = some identity →
        Dialled pki row.instanceId identity) ∧
    ∀ label after, System.next agent etags system label = some after →
      Inherits agent system label after →
      ∃ row ∈ after.world.journal.instances.rows, ∃ identity, row.identity = some identity ∧
        Foreign pki row.instanceId identity ∧ ¬ Dialled pki row.instanceId identity := by
  refine ⟨fun meets row member identity held => ?_, fun label after stepped inherits => ?_⟩
  · have found := Journal.getInstance_mem member
    have own := reach_own minting reached (meets.mono fun _ met => met.1)
    have named := nameable_row reached (meets.mono fun _ met => met.2) found
    exact dialled_mint (own row.instanceId row found identity held) named
  · obtain ⟨row, member, identity, held, foreign⟩ :=
      inherits_foreign minting reached stepped inherits
    exact ⟨row, member, identity, held, foreign, foreign.undialled⟩

/-- The names a small library has issued, by their certificates. -/
def tabledName : List UInt8 → Option String
  | [0] => some (guestSan ulid)
  | [1] => some (hostSan ulid)
  | [2] => some (guestSan "f")
  | [3] => some (hostSan "f")
  | _ => none

/-- Letters, digits, hyphens and dots. -/
def hostname (name : String) : Bool :=
  name.toList.all fun char => char.isAlphanum || char = '-' || char = '.'

/-- A library that knows the names of two instances. -/
def Pki.tabled : Pki where
  selfSigned _ := .ok ([], [])
  signedBy _ san _ :=
    if san = guestSan ulid then .ok ([0], [])
    else if san = hostSan ulid then .ok ([1], [])
    else if san = guestSan "f" then .ok ([2], [])
    else if san = hostSan "f" then .ok ([3], [])
    else .error "unknown name"
  dnsName := tabledName
  isDnsName := hostname
  verifies _ certificate name := (tabledName certificate).any fun san =>
    hostname san && (hostname name && sameName name san)
  dnsName_signedBy {_ san _ certificate key} signed := by
    split_ifs at signed <;> cases signed <;> subst_vars <;> rfl
  verifies_signedBy {_ san certificate key} signed _ name _ := by
    have known : tabledName certificate = some san := by
      split_ifs at signed <;> cases signed <;> subst_vars <;> rfl
    simp only [known, Option.any_some, Bool.and_eq_true]

def Agent.networked : Agent :=
  { Agent.plain with mintIdentity := fun id => (mint .tabled id).map some }

def createdSession : List Label :=
  .boot 0 :: System.drive 0 0 0 4 ++
    System.ask (.createInstance "c" (some (.pinned ulid 60)) false) :: System.drive 1 0 4 6

def Query.forks : Query → Bool
  | .submitAtomically args => args.kind = .fork
  | _ => false

/-- A step that submits no fork, and whose instances have names like host names. -/
def Unforked (system : System) (label : Label) (after : System) : Prop :=
  (system.made label).any Query.forks = false ∧
    ∀ row ∈ after.world.journal.instances.rows, hostname (guestSan row.instanceId) = true

instance (system : System) (label : Label) (after : System) :
    Decidable (Unforked system label after) :=
  inferInstanceAs (Decidable (_ ∧ _))

theorem Unforked.meets (unforked : Unforked system label after) :
    ¬ Inherits agent system label after ∧ Nameable .tabled system after := by
  refine ⟨?_, fun id _ present => ?_⟩
  · rintro ⟨payload, _, _, _, _, _, _, made, brought, -⟩
    have forkless := unforked.1
    rw [made] at forkless
    cases payload with
    | fork => cases forkless
    | _ => exact brought rfl
  · obtain ⟨row, found⟩ := Option.ne_none_iff_exists'.mp present
    have named := unforked.2 row (Table.mem_of_find? found).1
    rwa [Journal.getInstance_named found] at named

/-- The instance a client has just created is dialled under its own certificate. -/
theorem dialled_under_own_certificate_created :
    ∃ system row identity, System.reach .networked freshVersions createdSession = some system ∧
      row ∈ system.world.journal.instances.rows ∧ row.identity = some identity ∧
      Dialled .tabled row.instanceId identity := by
  have reachable : ((System.reach .networked freshVersions createdSession).any fun system =>
      (system.world.journal.getInstance ulid).any fun row => row.identity.isSome) = true := by
    decide +kernel
  have unforked : Along (System.next .networked freshVersions) Unforked System.initial
    createdSession := by
    decide +kernel
  obtain ⟨system, reached, facts⟩ := (Option.any_eq_true _ _).mp reachable
  obtain ⟨row, found, holds⟩ := (Option.any_eq_true _ _).mp facts
  obtain ⟨identity, held⟩ := Option.isSome_iff_exists.mp holds
  have member := (Table.mem_of_find? found).1
  refine ⟨system, row, identity, reached, member, held, ?_⟩
  exact (dialled_under_own_certificate .networked freshVersions .tabled
    (fun _ => rfl) createdSession
    system reached).1 (unforked.mono fun _ => Unforked.meets) row member identity held

/-- An instance is forked into `f`, whose row holds a certificate that names the source and does not
pass for `f`. -/
theorem forked_child_undialled : ∃ system row identity, System.reach .networked freshVersions
        (System.capturedSession ++ [System.ask System.forkRequest] ++ System.drive 7 0 142 7) =
          some system ∧
      (∀ id, Agent.networked.mintIdentity id = (mint .tabled id).map some) ∧
      row ∈ system.world.journal.instances.rows ∧ row.identity = some identity ∧
      row.instanceId = "f" ∧ Pki.tabled.isDnsName (guestSan "f") = true ∧
      Pki.tabled.dnsName identity.guestCert = some (guestSan ulid) ∧
      Pki.tabled.verifies identity.anchor identity.guestCert (guestSan "f") = false := by
  have reachable : ((System.reach .networked freshVersions
      (System.capturedSession ++ [System.ask System.forkRequest] ++ System.drive 7 0 142 7)).any
      fun system => (system.world.journal.getInstance "f").any fun row =>
        row.identity.any fun identity =>
          Pki.tabled.dnsName identity.guestCert = some (guestSan ulid) ∧
          Pki.tabled.verifies identity.anchor identity.guestCert (guestSan "f") = false) =
            true := by
    decide +kernel
  obtain ⟨system, reached, facts⟩ := (Option.any_eq_true _ _).mp reachable
  obtain ⟨row, identity, found, held, carried, refused⟩ := exists_found_of_any facts
  exact ⟨system, row, identity, reached, fun _ => rfl, (Table.mem_of_find? found).1, held,
    Journal.getInstance_named found, by decide, carried, refused⟩

end Barista.Node
