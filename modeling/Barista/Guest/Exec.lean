import Barista.Foundation.Run

/-!
Contract: one `Exec` call of the guest agent, and the channel its frames go out on.

Three kinds of tasks share the channel. The serving task reads the first frame, spawns the process,
waits for its end or for a break of the transport, gives the pumps a grace period to drain, and sends
the last frame. A pump reads one of the process's outputs and sends what it reads; it ends at the end of
the file, which a grandchild that inherited the pipe can put off. The input task sends nothing. A pump
the serving task has stopped waiting for is not stopped by that: it still holds its clone of the channel.

Owns: the transition system of one call, the frames in the order they were sent, runs in which a frame
follows the last one, and the condition under which none does. Does not own: what the process writes, and
when its outputs are closed.
-/

namespace Barista.Guest

open Foundation

/-! ### Frames and tasks -/

inductive Frame where
  | stdout (bytes : List UInt8)
  | stderr (bytes : List UInt8)
  | exit (code : Int)
  /-- The call ends with this status. -/
  | status (message : String)
deriving DecidableEq, Repr

def Frame.isFinal : Frame → Bool
  | exit _ | status _ => true
  | stdout _ | stderr _ => false

def CHUNK : Nat := 8192

inductive PumpState where
  | reading
  | sending (bytes : List UInt8)
  | ended
deriving DecidableEq, Repr

inductive Output where
  | stdout | stderr
deriving DecidableEq, Repr

def Output.frame : Output → List UInt8 → Frame
  | stdout => .stdout
  | stderr => .stderr

structure Pump where
  output : Output
  state : PumpState
deriving DecidableEq, Repr

structure ExecStart where
  cmd : List String
  pty : Bool
deriving DecidableEq, Repr

inductive InputEnd where
  | peerFinished
  | broken (status : String)
deriving DecidableEq, Repr

inductive ExecPhase where
  | awaitingStart
  | spawning (pty : Bool)
  /-- Selecting between a break of the transport and the end of the process. -/
  | waiting
  | draining (code : Int)
  /-- About to send the last frame. -/
  | finishing (frame : Frame)
  | done
deriving DecidableEq, Repr

structure Exec where
  phase : ExecPhase
  pumps : List Pump
  /-- Whether the input task is running. -/
  input : Bool
  /-- What the input task has reported. -/
  broke : Option String
  /-- How `child.wait()` came out, once it has. -/
  exited : Option (Except String (Option Int))
  /-- Whether the client still takes frames. -/
  listening : Bool
  sent : List Frame

inductive ExecLabel where
  | firstFrame (frame : Except String ExecStart)
  | spawn (outcome : Except String Unit)
  | clientFrame
  | inputEnds (ending : InputEnd)
  | exit (status : Except String (Option Int))
  | select
  | read (pump : Nat) (bytes : List UInt8)
  /-- The end of the file, or an error of the read. -/
  | eof (pump : Nat)
  | forward (pump : Nat)
  | drained
  | drainExpires
  | finish
  | hangUp

namespace Exec

def initial : Exec := ⟨.awaitingStart, [], false, none, none, true, []⟩

/-- The pumps of a call: a terminal merges the two outputs into one. -/
def pumpsOf (pty : Bool) : List Pump :=
  if pty then [⟨.stdout, .reading⟩] else [⟨.stdout, .reading⟩, ⟨.stderr, .reading⟩]

def setPump (exec : Exec) (index : Nat) (pump : Pump) (state : PumpState) : Exec :=
  { exec with pumps := exec.pumps.set index { pump with state := state } }

def quiet (exec : Exec) : Bool := exec.pumps.all fun pump => pump.state = .ended

/-- Decide between a break and the end of the process, the break first. -/
def select (exec : Exec) : Option Exec :=
  match exec.broke, exec.exited with
  | some status, _ => some { exec with input := false, phase := .finishing (.status status) }
  | none, some (.ok code) => some { exec with input := false, phase := .draining (code.getD (-1)) }
  | none, some (.error cause) =>
    some { exec with phase := .finishing (.status s!"waiting on the exec process: {cause}") }
  | none, none => none

def next (exec : Exec) : ExecLabel → Option Exec
  | .firstFrame frame =>
    match exec.phase, frame with
    | .awaitingStart, .error status => some { exec with phase := .finishing (.status status) }
    | .awaitingStart, .ok start =>
      if start.cmd = [] then
        some { exec with phase := .finishing (.status "exec `cmd` is empty") }
      else some { exec with phase := .spawning start.pty }
    | _, _ => none
  | .spawn outcome =>
    match exec.phase, outcome with
    | .spawning _, .error status => some { exec with phase := .finishing (.status status) }
    | .spawning pty, .ok () =>
        some { exec with phase := .waiting, pumps := pumpsOf pty, input := true }
    | _, _ => none
  | .clientFrame => if exec.input then some exec else none
  | .inputEnds ending =>
    if exec.input then
      match ending with
      | .peerFinished => some { exec with input := false }
      | .broken status => some { exec with input := false, broke := some status }
    else none
  | .exit status =>
    match exec.phase, exec.exited with
    | .waiting, none => some { exec with exited := some status }
    | _, _ => none
  | .select => if exec.phase = .waiting then exec.select else none
  | .read index bytes => exec.pumps[index]?.bind fun pump =>
    if pump.state = .reading ∧ bytes ≠ [] ∧ bytes.length ≤ CHUNK then
      some (exec.setPump index pump (.sending bytes))
    else none
  | .eof index => exec.pumps[index]?.bind fun pump =>
    if pump.state = .reading then some (exec.setPump index pump .ended) else none
  | .forward index => exec.pumps[index]?.bind fun pump =>
    match pump.state with
    | .sending bytes =>
      if exec.listening then
        let moved := exec.setPump index pump .reading
        some { moved with sent := exec.sent ++ [pump.output.frame bytes] }
      else some (exec.setPump index pump .ended)
    | _ => none
  | .drained =>
    match exec.phase with
    | .draining code =>
      if exec.quiet then some { exec with phase := .finishing (.exit code) } else none
    | _ => none
  | .drainExpires =>
    match exec.phase with
    | .draining code => some { exec with phase := .finishing (.exit code) }
    | _ => none
  | .finish =>
    match exec.phase with
    | .finishing frame =>
      some { exec with
        phase := .done, sent := if exec.listening then exec.sent ++ [frame] else exec.sent }
    | _ => none
  | .hangUp => some { exec with listening := false }

def reach (labels : List ExecLabel) : Option Exec := run next initial labels

/-! ### The condition -/

/-- The serving task gives up on no pump: the grace period does not run out, and the call is not ended by
a break or a failed wait, while a pump still runs. -/
def patient (exec : Exec) : ExecLabel → Bool
  | .select =>
    match exec.broke, exec.exited with
    | none, some (.ok _) => true
    | _, _ => exec.quiet
  | .drainExpires => exec.quiet
  | _ => true

/-! ### The last frame -/

variable {exec after : Exec} {label : ExecLabel}

theorem frame_not_final (output : Output) (bytes : List UInt8) :
    (output.frame bytes).isFinal = false := by
  cases output <;> rfl

/-- A last frame is sent once, when no pump runs any more. -/
structure Orderly (exec : Exec) : Prop where
  /-- Nothing follows a last frame. -/
  closed : ∀ frame ∈ exec.sent.dropLast, frame.isFinal = false
  unfinished : exec.phase ≠ .done → ∀ frame ∈ exec.sent, frame.isFinal = false
  settled : (∃ frame, exec.phase = .finishing frame) ∨ exec.phase = .done → exec.quiet = true
  unspawned : exec.phase = .awaitingStart ∨ (∃ pty, exec.phase = .spawning pty) → exec.pumps = []

theorem Orderly.moveOn (orderly : Orderly exec) (phase : ExecPhase) (open_ : exec.phase ≠ .done)
    (notDone : phase ≠ .done) (settled : (∃ frame, phase = .finishing frame) → exec.quiet = true)
    (unspawned : phase = .awaitingStart ∨ (∃ pty, phase = .spawning pty) → exec.pumps = [])
    (input : Bool) : Orderly { exec with phase := phase, input := input } where
  closed := orderly.closed
  unfinished := fun _ => orderly.unfinished open_
  settled := fun last => settled (last.resolve_right notDone)
  unspawned := unspawned

theorem quiet_of_unspawned (unspawned : exec.pumps = []) : exec.quiet = true := by
  rw [quiet, unspawned]
  rfl

theorem Orderly.pumping (orderly : Orderly exec) {index : Nat} {pump : Pump}
    (found : exec.pumps[index]? = some pump) (running : pump.state ≠ .ended) :
    ¬((∃ frame, exec.phase = .finishing frame) ∨ exec.phase = .done) ∧
      ¬(exec.phase = .awaitingStart ∨ ∃ pty, exec.phase = .spawning pty) := by
  have member := List.mem_of_getElem? found
  constructor
  · intro last
    exact running (of_decide_eq_true (List.all_eq_true.mp (orderly.settled last) pump member))
  · intro early
    rw [orderly.unspawned early] at member
    cases member

theorem Orderly.pump (orderly : Orderly exec) {index : Nat} {pump : Pump}
    (found : exec.pumps[index]? = some pump) (running : pump.state ≠ .ended) (pumps : List Pump)
    (more : List Frame) (plain : ∀ frame ∈ more, frame.isFinal = false) :
    Orderly { exec with pumps := pumps, sent := exec.sent ++ more } := by
  obtain ⟨going, spawned⟩ := orderly.pumping found running
  have all : ∀ frame ∈ exec.sent ++ more, frame.isFinal = false := by
    intro frame member
    rcases List.mem_append.mp member with early | late
    · exact orderly.unfinished (fun done => going (.inr done)) frame early
    · exact plain frame late
  exact ⟨fun frame member => all frame (List.dropLast_subset _ member), fun _ => all,
    fun last => absurd last going, fun early => absurd early spawned⟩

theorem Orderly.select (orderly : Orderly exec) (waiting : exec.phase = .waiting)
    (patient : exec.patient .select = true) (step : exec.select = some after) : Orderly after := by
  have open_ : exec.phase ≠ .done := by
    rw [waiting]
    nofun
  unfold Exec.select at step
  unfold Exec.patient at patient
  split at step
  · next broke =>
      simp only [broke] at patient
      cases step
      exact orderly.moveOn (.finishing _) open_ nofun (fun _ => patient) nofun false
  · next broke exited =>
      cases step
      exact orderly.moveOn (.draining _) open_ nofun nofun nofun false
  · next broke exited =>
      simp only [broke, exited] at patient
      cases step
      exact orderly.moveOn (.finishing _) open_ nofun (fun _ => patient) nofun exec.input
  · cases step

theorem Orderly.finish (orderly : Orderly exec) {frame : Frame}
    (finishing : exec.phase = .finishing frame) : Orderly { exec with
      phase := .done, sent := if exec.listening then exec.sent ++ [frame] else exec.sent } := by
  have before : ∀ frame ∈ exec.sent, frame.isFinal = false := by
    apply orderly.unfinished
    rw [finishing]
    nofun
  have quiet := orderly.settled (.inl ⟨frame, finishing⟩)
  refine ⟨?_, fun notDone => absurd rfl notDone, fun _ => quiet, nofun⟩
  cases exec.listening with
  | true =>
    intro other member
    rw [if_pos rfl, List.dropLast_concat] at member
    exact before other member
  | false => exact fun other member => before other (List.dropLast_subset _ member)

theorem Orderly.next (orderly : Orderly exec) (patient : exec.patient label = true)
    (step : exec.next label = some after) : Orderly after := by
  cases label with
  | firstFrame frame =>
    simp only [Exec.next] at step
    split at step
    · next awaiting =>
        cases step
        have none_ := orderly.unspawned (.inl awaiting)
        exact orderly.moveOn (.finishing _) (by rw [awaiting]; nofun) nofun
          (fun _ => quiet_of_unspawned none_) nofun exec.input
    · next awaiting =>
        have none_ := orderly.unspawned (.inl awaiting)
        split at step
        · cases step
          exact orderly.moveOn (.finishing _) (by rw [awaiting]; nofun) nofun
            (fun _ => quiet_of_unspawned none_) nofun exec.input
        · cases step
          exact orderly.moveOn (.spawning _) (by rw [awaiting]; nofun) nofun nofun (fun _ => none_)
            exec.input
    · cases step
  | spawn outcome =>
    simp only [Exec.next] at step
    split at step
    · next spawning =>
        cases step
        have none_ := orderly.unspawned (.inr ⟨_, spawning⟩)
        exact orderly.moveOn (.finishing _) (by rw [spawning]; nofun) nofun
          (fun _ => quiet_of_unspawned none_) nofun exec.input
    · next spawning =>
        cases step
        have open_ : exec.phase ≠ .done := by
          rw [spawning]
          nofun
        exact ⟨orderly.closed, fun _ => orderly.unfinished open_, nofun, nofun⟩
    · cases step
  | clientFrame =>
    simp only [Exec.next, Option.ite_none_right_eq_some, Option.some.injEq] at step
    exact step.2 ▸ orderly
  | inputEnds ending =>
    simp only [Exec.next] at step
    split at step
    · split at step <;>
      · cases step
        exact ⟨orderly.closed, orderly.unfinished, orderly.settled, orderly.unspawned⟩
    · cases step
  | exit status =>
    simp only [Exec.next] at step
    split at step
    · cases step
      exact ⟨orderly.closed, orderly.unfinished, orderly.settled, orderly.unspawned⟩
    · cases step
  | select =>
    simp only [Exec.next, Option.ite_none_right_eq_some] at step
    exact orderly.select step.1 patient step.2
  | read index bytes =>
    obtain ⟨pump, found, step⟩ := Option.bind_eq_some_iff.mp step
    simp only [Option.ite_none_right_eq_some, Option.some.injEq] at step
    obtain ⟨⟨reading, -⟩, rfl⟩ := step
    have moved := orderly.pump found (by rw [reading]; nofun)
      (exec.pumps.set index { pump with state := .sending bytes }) [] nofun
    rwa [List.append_nil] at moved
  | eof index =>
    obtain ⟨pump, found, step⟩ := Option.bind_eq_some_iff.mp step
    simp only [Option.ite_none_right_eq_some, Option.some.injEq] at step
    obtain ⟨reading, rfl⟩ := step
    have moved := orderly.pump found (by rw [reading]; nofun)
      (exec.pumps.set index { pump with state := .ended }) [] nofun
    rwa [List.append_nil] at moved
  | forward index =>
    obtain ⟨pump, found, step⟩ := Option.bind_eq_some_iff.mp step
    split at step
    · next bytes sending =>
        have running : pump.state ≠ .ended := by
          rw [sending]
          nofun
        split at step
        · cases step
          refine orderly.pump found running _ [pump.output.frame bytes] fun frame member => ?_
          rw [List.mem_singleton.mp member]
          exact frame_not_final pump.output bytes
        · cases step
          have moved := orderly.pump found running
            (exec.pumps.set index { pump with state := .ended }) [] nofun
          rwa [List.append_nil] at moved
    · cases step
  | drained =>
    simp only [Exec.next] at step
    split at step
    · next draining =>
        simp only [Option.ite_none_right_eq_some, Option.some.injEq] at step
        obtain ⟨quiet, rfl⟩ := step
        exact orderly.moveOn (.finishing _) (by rw [draining]; nofun) nofun (fun _ => quiet) nofun
          exec.input
    · cases step
  | drainExpires =>
    simp only [Exec.next] at step
    split at step
    · next draining =>
        cases step
        exact orderly.moveOn (.finishing _) (by rw [draining]; nofun) nofun (fun _ => patient) nofun
          exec.input
    · cases step
  | finish =>
    simp only [Exec.next] at step
    split at step
    · next finishing =>
        cases step
        exact orderly.finish finishing
    · cases step
  | hangUp =>
    cases step
    exact ⟨orderly.closed, orderly.unfinished, orderly.settled, orderly.unspawned⟩

theorem Orderly.initial : Orderly Exec.initial :=
  ⟨nofun, fun _ => nofun, nofun, fun _ => rfl⟩

/-- **Nothing is sent after the frame a call ends with**, in every run in which the serving task gives up
on no pump. -/
theorem exit_frame_is_last (labels : List ExecLabel) (exec : Exec)
    (reached : reach labels = some exec)
    (patiently : Along next (fun before label _ => before.patient label = true) initial labels)
    (early late : List Frame) (frame : Frame) (sent : exec.sent = early ++ frame :: late)
    (final : frame.isFinal = true) : late = [] := by
  have orderly : Orderly exec := by
    refine patiently.invariant (I := Orderly) ?_ Orderly.initial reached
    intro before label after invariant step here
    exact invariant.next here step
  by_contra more
  have inside : frame ∈ exec.sent.dropLast := by
    rw [sent, List.dropLast_append_of_ne_nil (List.cons_ne_nil _ _),
      List.dropLast_cons_of_ne_nil more]
    simp
  rw [orderly.closed frame inside] at final
  cases final

/-- A process writes to one output, closes both, and exits. -/
def ordinary : List ExecLabel :=
  [.firstFrame (.ok ⟨["true"], false⟩), .spawn (.ok ()), .read 0 [104], .forward 0,
    .inputEnds .peerFinished, .exit (.ok (some 0)), .select, .eof 0, .eof 1, .drained, .finish]

theorem ordinary_ends_with_exit : ∃ exec, reach ordinary = some exec ∧
    exec.sent = [.stdout [104], .exit 0] ∧
    ∀ early late, exec.sent = early ++ .exit 0 :: late → late = [] := by
  obtain ⟨ran, patiently⟩ : ((reach ordinary).any fun exec =>
    exec.sent = [.stdout [104], .exit 0]) = true ∧
      Along next (fun before label _ => before.patient label = true) initial ordinary := by decide
  obtain ⟨exec, reached, sent⟩ := exists_of_any ran
  exact ⟨exec, reached, sent, fun early late split =>
    exit_frame_is_last ordinary exec reached patiently early late (.exit 0) split rfl⟩

/-- A grandchild keeps the pipe open past the grace period, and writes to it afterwards. -/
def grandchild : List ExecLabel :=
  [.firstFrame (.ok ⟨["sh"], false⟩), .spawn (.ok ()), .exit (.ok (some 0)), .select, .eof 1,
    .drainExpires, .finish, .read 0 [104], .forward 0]

/-- The transport breaks while the process is writing to its terminal. -/
def brokenTransport : List ExecLabel :=
  [.firstFrame (.ok ⟨["sh"], true⟩), .spawn (.ok ()), .inputEnds (.broken "reset"),
    .select, .finish, .read 0 [104], .forward 0]

/-- **Output follows the exit frame, and it follows an error status.** -/
theorem output_follows_exit :
    (∃ exec, reach grandchild = some exec ∧ exec.sent = [.exit 0, .stdout [104]]) ∧
    ∃ exec, reach brokenTransport = some exec ∧ exec.sent = [.status "reset", .stdout [104]] := by
  obtain ⟨late, broken⟩ : ((reach grandchild).any fun exec =>
    exec.sent = [.exit 0, .stdout [104]]) = true ∧
      ((reach brokenTransport).any fun exec => exec.sent = [.status "reset", .stdout [104]]) =
      true := by
    decide
  obtain ⟨first, firstReached, firstSent⟩ := exists_of_any late
  obtain ⟨second, secondReached, secondSent⟩ := exists_of_any broken
  exact ⟨⟨first, firstReached, firstSent⟩, second, secondReached,
    secondSent⟩

end Exec

end Barista.Guest
