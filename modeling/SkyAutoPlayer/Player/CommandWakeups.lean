import SkyAutoPlayer.DispatchWin32.HybridWait
import SkyAutoPlayer.Foundation.StateMachine
import SkyAutoPlayer.Player.Worker

/-!
# Commands and the waits of the worker

A command is stored in its control cell, and then its sender signals the event of the worker in two
steps: it sets the event and counts the signal. Each pass of the dispatch loop reads the control cells
and then does without a wait or waits. After an interrupted wait for a packet it takes the event once more.

Every step of a sender and every operation of the worker is one move, and they interleave freely. A call
remembers how many attempts to take the event there were when it set the event, and whether the worker has
read its cell since the command was stored. What a pass does between its reads and its wait is left to the
moves, which may start the next pass, begin any wait, or end the loop.
-/

namespace SkyAutoPlayer.Player

open Foundation DispatchWin32

/-- How far a sender is with its command. -/
inductive CallPoint where
  | idle
  | stored
  | set (takes : ℕ)
  | completed (takes : ℕ)
  deriving DecidableEq, Repr

/-- The attempts to take the event before a sender set it. -/
def CallPoint.takes : CallPoint → Option ℕ
  | .set takes | .completed takes => some takes
  | .idle | .stored => none

/-- A command with its sender. -/
structure CommandCall where
  point : CallPoint
  read : Bool
  deriving DecidableEq, Repr

/-- Where the dispatch loop stands. -/
inductive LoopPoint where
  | reading (left : List ControlCell)
  | waiting (request : WaitRequest) (drains : Bool) (point : WaitPoint)
  | returned (request : WaitRequest) (drains : Bool) (result : WaitResult)
  | draining
  | finished
  deriving DecidableEq, Repr

/-- The cells that a pass of the loop reads, in their order. -/
def controlReads (requireFocus : Bool) : List ControlCell :=
  [.supervisorExpired, .systemSuspendTerminal, .quitRequested, .skipRequested, .panicRequested] ++
    (if requireFocus then [.focusActive] else []) ++ [.desiredPause]

/-- The event, the last sample of the clock, the commands and the worker. -/
structure Wakeups (Call : Type) where
  event : OwnedEvent
  lastSample : ℕ
  calls : Call → CommandCall
  worker : LoopPoint

/-- What the worker does next. -/
inductive LoopMove where
  | read
  | leave
  | again
  | wait (request : WaitRequest) (drains : Bool)
  | answer (answer : WaitAnswer)
  | settle
  deriving DecidableEq, Repr

/-- What happens next. -/
inductive WakeMove (Call : Type) where
  | store (call : Call)
  | set (call : Call)
  | count (call : Call)
  | worker (move : LoopMove)

namespace Wakeups

variable {Call : Type} (cell : Call → ControlCell) (requireFocus : Bool)

/-- A command after the worker has read a control cell. -/
def afterRead (found stored : ControlCell) (command : CommandCall) : CommandCall :=
  if stored = found ∧ command.point ≠ .idle then { command with read := true } else command

/-- The worker reads a control cell, with what was stored in it. -/
def readCell (found : ControlCell) (state : Wakeups Call) : Wakeups Call :=
  { state with calls := fun call => afterRead found (cell call) (state.calls call) }

/-- An operation of the worker. -/
def workerStep (state : Wakeups Call) : LoopPoint → LoopMove → Option (Wakeups Call)
  | .reading (found :: left), .read =>
    some { state.readCell cell found with worker := .reading left }
  | .reading _, .leave => some { state with worker := .finished }
  | .reading [], .again => some { state with worker := .reading (controlReads requireFocus) }
  | .reading [], .wait request drains =>
    some { state with worker := .waiting request drains .sampleGeneration }
  | .waiting request drains point, .answer answer =>
    (waitStep request state.event state.lastSample point answer).map fun reply =>
      { state with
        event := reply.1, lastSample := reply.2.1
        worker := reply.2.2.elim (.waiting request drains) (.returned request drains) }
  | .returned _ drains result, .settle => some { state with worker :=
      match result.outcome with
      | .deadline => .reading (controlReads requireFocus)
      | .interrupted => if drains then .draining else .reading (controlReads requireFocus)
      | .failed => .finished }
  | .returned _ _ _, .leave => some { state with worker := .finished }
  | .draining, .read => some { state with
      event := state.event.tryTake, worker := .reading (controlReads requireFocus) }
  | _, _ => none

/-- A step of a sender or an operation of the worker. -/
def step [DecidableEq Call] (state : Wakeups Call) : WakeMove Call → Option (Wakeups Call)
  | .store call =>
    if (state.calls call).point = .idle then
      some { state with calls := Function.update state.calls call ⟨.stored, false⟩ }
    else none
  | .set call =>
    if (state.calls call).point = .stored then
      some { state with
        event := state.event.set
        calls := Function.update state.calls call
          { state.calls call with point := .set state.event.takeCount } }
    else none
  | .count call =>
    match (state.calls call).point with
    | .set takes => some { state with
        event := state.event.count
        calls := Function.update state.calls call
          { state.calls call with point := .completed takes } }
    | .idle | .stored | .completed _ => none
  | .worker move => state.workerStep cell requireFocus state.worker move

/-- The senders and the worker, from a state. -/
def machine [DecidableEq Call] (start : Wakeups Call) : Machine (Wakeups Call) (WakeMove Call) where
  initial := start
  step := step cell requireFocus

/-- The worker begins a pass, and no sender is ahead of it. -/
structure Starts (state : Wakeups Call) : Prop where
  worker : state.worker = .reading (controlReads requireFocus)
  takes : ∀ call takes, (state.calls call).point.takes = some takes → takes ≤ state.event.takeCount

/-- The worker sleeps in the kernel, and the event does not wake it. -/
def Blocked (state : Wakeups Call) : Prop :=
  ∃ request drains observed started,
    state.worker = .waiting request drains (.kernel observed started) ∧
      state.event.signalled = false

/-- While the worker is blocked, it has read every command whose signal has completed. -/
def CommandsRead (state : Wakeups Call) : Prop :=
  state.Blocked → ∀ call takes, cell call ∈ controlReads requireFocus →
    (state.calls call).point = .completed takes → (state.calls call).read = true

/-- A wait has returned with a sample that its outcome says. -/
def ResultSampled (state : Wakeups Call) : Prop :=
  ∀ request drains result, state.worker = .returned request drains result →
    result.Sampled request state.lastSample

/-- A signal has begun and completed since the last attempt of the entry section to take the event. -/
def LateSignal (state : Wakeups Call) : Prop :=
  ∃ request drains point, state.worker = .waiting request drains point ∧ point.afterTakes = true ∧
    ∃ call, (state.calls call).point = .completed state.event.takeCount

/-- A late signal is still there for the kernel wait, which ends with it unless its timer has ended it, and
the next poll of the generation sees it. -/
def SignalWakes [DecidableEq Call] (state : Wakeups Call) : Prop :=
  state.LateSignal → state.event.signalled = true ∧
    ∀ request drains observed started answer after,
      step cell requireFocus state (.worker (.answer answer)) = some after →
      (∀ iterations now,
        state.worker = .waiting request drains (.poll observed started iterations now) →
        iterations % 32 = 0 → after.worker = .waiting request drains (.woken started true)) ∧
      (state.worker = .waiting request drains (.kernel observed started) → answer ≠ .timer →
        after.worker = .waiting request drains (.woken started false) ∨
          after.worker = .returned request drains .failure)

/-- The worker does not sample the generation again after a late signal, and fewer than 2^64 signals are
counted after a sample of the generation. -/
def Covered (state : Wakeups Call) (move : WakeMove Call) : Prop :=
  match move, state.worker with
  | .worker _, .waiting _ _ .resample =>
    ∀ call, (state.calls call).point ≠ .completed state.event.takeCount
  | .count _, .waiting _ _ point =>
    ∀ observed ∈ point.observed, state.event.signals + 1 < observed + 2 ^ 64
  | _, _ => True

end Wakeups

end SkyAutoPlayer.Player
