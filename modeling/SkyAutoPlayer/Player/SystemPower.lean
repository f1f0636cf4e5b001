import SkyAutoPlayer.Foundation.Interleaving
import SkyAutoPlayer.Player.StartupWord

/-!
# System power notifications

The OS callback, the worker and the controlling thread share the startup word, the notification
state with its counters, and the session's interrupt event. A callback first acquires authority for
one even epoch; a lifecycle operation closes the epoch, waits until the callbacks in flight have
left, clears the old state, and opens the next epoch. Each program point below is one atomic
access.
-/

namespace SkyAutoPlayer.Player

open Foundation

/-- The notification state of one process endpoint. The lifecycle mutex holds its owner. -/
structure SystemPowerState (ι : Type) where
  state : BitVec 8
  startupState : BitVec 32
  callbackEpoch : ℕ
  callbacksInFlight : ℕ
  lifecycle : Option ι
  suspendBoundaryQpc : ℕ
  suspendCount : ℕ
  resumeCount : ℕ
  duplicateCount : ℕ
  interruptSignaled : Bool
  deriving DecidableEq

namespace SystemPowerState

variable {ι : Type}

/-- The operating system reported a suspension. -/
def osSuspended : BitVec 8 := slotBit 8 0

/-- A suspension was notified. -/
def suspendPending : BitVec 8 := slotBit 8 2

/-- A resumption was notified. -/
def resumePending : BitVec 8 := slotBit 8 3

/-- The attempts at the notification's compare-exchange. -/
def notifyCasAttempts : ℕ := 8

/-- Increment a wrapping 64-bit counter. -/
@[irreducible] def fetchIncrement (counter : ℕ) : ℕ := (counter + 1) % 2 ^ 64

/-- Decrement a wrapping 64-bit counter. -/
@[irreducible] def fetchDecrement (counter : ℕ) : ℕ :=
  if counter = 0 then 2 ^ 64 - 1 else counter - 1

/-- A power notification and the suspension's QPC sample. -/
structure Notification where
  suspended : Bool
  suspendBoundaryQpc : Option ℕ
  deriving DecidableEq, Repr

/-- The lifecycle operations. -/
inductive LifecycleKind where
  | resetForNewSession
  | deactivate
  deriving DecidableEq, Repr

/-- The operations on the endpoint. -/
inductive Op where
  | beginPreparing
  | publishReady
  | beginArming
  | publishArmed
  | cancelPrearm (reason : StartupAbortReason)
  | failStartup (reason : StartupAbortReason)
  | startupSnapshot
  | notify (notification : Notification)
  | lifecycle (kind : LifecycleKind)
  | downBlocked
  deriving DecidableEq, Repr

/-- The program points of a callback that holds its lease. -/
inductive AuthorizedPoint where
  | latch
  | load (attempt : ℕ)
  | storeBoundary (current : BitVec 8) (attempt : ℕ)
  | exchange (current : BitVec 8) (attempt : ℕ)
  | countDuplicate
  | countTransition
  | forceSuspended
  | signal (result : Bool)
  | leave (result : Bool)
  deriving DecidableEq, Repr

/-- The program points of a lifecycle operation. -/
inductive LifecyclePoint where
  | lock
  | loadEpoch
  | closeEpoch (closedEpoch : ℕ)
  | rundown (closedEpoch : ℕ)
  | clearState (closedEpoch : ℕ)
  | clearStartup (closedEpoch : ℕ)
  | clearBoundary (closedEpoch : ℕ)
  | clearSuspendCount (closedEpoch : ℕ)
  | clearResumeCount (closedEpoch : ℕ)
  | clearDuplicateCount (closedEpoch : ℕ)
  | drain (closedEpoch : ℕ)
  | publishEpoch (closedEpoch : ℕ)
  | unlock (succeeded : Bool)
  deriving DecidableEq, Repr

/-- The program points of all operations. -/
inductive Call where
  | move (source target : StartupPhase) (ready armed : Bool)
  | moveExchange (current next : BitVec 32)
  | cancel (reason : StartupAbortReason)
  | cancelExchange (reason : StartupAbortReason) (current cancelled : BitVec 32)
  | fail (reason : StartupAbortReason)
  | failExchange (reason : StartupAbortReason) (current failed : BitVec 32)
  | snapshot
  | enter (notification : Notification)
  | enterCount (notification : Notification) (capturedEpoch : ℕ)
  | enterValidate (notification : Notification) (capturedEpoch : ℕ)
  | backOut (capturedEpoch : ℕ)
  | authorized (notification : Notification) (capturedEpoch : ℕ) (point : AuthorizedPoint)
  | lifecycle (kind : LifecycleKind) (point : LifecyclePoint)
  | downBlocked
  deriving DecidableEq, Repr

/-- What an operation returns. -/
inductive Result where
  | moved (moved : Bool)
  | aborted (aborted : Bool)
  | snapshot (snapshot : StartupSnapshot)
  | notified (accepted : Bool)
  | lifecycle (succeeded : Bool)
  | blocked (blocked : Bool)
  deriving DecidableEq, Repr

/-- Where an operation begins. -/
def Op.start : Op → Call
  | .beginPreparing => .move .idle .preparing false false
  | .publishReady => .move .preparing .ready true false
  | .beginArming => .move .ready .arming true false
  | .publishArmed => .move .arming .armed true true
  | .cancelPrearm reason => .cancel reason
  | .failStartup reason => .fail reason
  | .startupSnapshot => .snapshot
  | .notify notification => .enter notification
  | .lifecycle kind => .lifecycle kind .lock
  | .downBlocked => .downBlocked

/-- A phase move after its load. -/
def moveLoaded (source target : StartupPhase) (ready armed : Bool) (current : BitVec 32) :
    Call ⊕ Result :=
  if decodePhase current ≠ source ∨ suspendTerminal current = true then .inr (.moved false)
  else .inl (.moveExchange current (replacementWord target .none ready armed current))

/-- A cancellation after its load. -/
def cancelLoaded (reason : StartupAbortReason) (current : BitVec 32) : Call ⊕ Result :=
  if suspendTerminal current = true ∧ reason ≠ .systemSuspend ∧
      reason.outranksSuspend = false then .inr (.aborted false)
  else if (decodePhase current).preArm = false then .inr (.aborted false)
  else .inl (.cancelExchange reason current (replacementWord .cancelled reason
    (readyPublished current) (armedPublished current) current))

/-- A failure after its load. -/
def failLoaded (reason : StartupAbortReason) (current : BitVec 32) : Call ⊕ Result :=
  if (decodePhase current).preArm = false then .inr (.aborted false)
  else .inl (.failExchange reason current (replacementWord .failed reason
    (readyPublished current) (armedPublished current) current))

/-- The notification state after a transition. -/
def notifiedState (suspended : Bool) (current : BitVec 8) : BitVec 8 :=
  if suspended then current ||| osSuspended ||| suspendPending
  else (current &&& ~~~osSuspended) ||| resumePending

/-- The next attempt, or the conservative suspension when the attempts are used up. -/
def nextAttempt (attempt : ℕ) : AuthorizedPoint :=
  if attempt + 1 < notifyCasAttempts then .load (attempt + 1) else .forceSuspended

/-- A notification after its load. -/
def notifyLoaded (suspended : Bool) (current : BitVec 8) (attempt : ℕ) : AuthorizedPoint :=
  if decide (current &&& osSuspended ≠ 0#8) = suspended then .countDuplicate
  else if suspended then .storeBoundary current attempt
  else .exchange current attempt

/-- One atomic step of a callback that holds its lease: the new state, and the next point or the
callback's result. -/
def authorizedStep (notification : Notification) (power : SystemPowerState ι) :
    AuthorizedPoint → SystemPowerState ι × (AuthorizedPoint ⊕ Bool)
  | .latch =>
    ({ power with startupState := power.startupState ||| startupSystemSuspendTerminal },
      .inl (.load 0))
  | .load attempt => (power, .inl (notifyLoaded notification.suspended power.state attempt))
  | .storeBoundary current attempt =>
    ({ power with suspendBoundaryQpc := notification.suspendBoundaryQpc.getD 0 },
      .inl (.exchange current attempt))
  | .exchange current attempt =>
    let exchanged := compareExchange power.state current
      (notifiedState notification.suspended current)
    ({ power with state := exchanged.1 },
      .inl (if exchanged.2 then .countTransition else nextAttempt attempt))
  | .countDuplicate =>
    ({ power with duplicateCount := fetchIncrement power.duplicateCount }, .inl (.leave false))
  | .countTransition =>
    (if notification.suspended then
      { power with suspendCount := fetchIncrement power.suspendCount }
    else { power with resumeCount := fetchIncrement power.resumeCount }, .inl (.signal true))
  | .forceSuspended =>
    ({ power with state := power.state ||| (osSuspended ||| suspendPending) },
      .inl (.signal false))
  | .signal result => ({ power with interruptSignaled := true }, .inl (.leave result))
  | .leave result =>
    ({ power with callbacksInFlight := fetchDecrement power.callbacksInFlight }, .inr result)

/-- The point after the notification state was cleared. -/
def afterState (kind : LifecycleKind) (closedEpoch : ℕ) : LifecyclePoint :=
  match kind with
  | .resetForNewSession => .clearStartup closedEpoch
  | .deactivate => .clearBoundary closedEpoch

/-- The point after the suspension's boundary was cleared. -/
def afterBoundary (kind : LifecycleKind) (closedEpoch : ℕ) : LifecyclePoint :=
  match kind with
  | .resetForNewSession => .clearSuspendCount closedEpoch
  | .deactivate => .drain closedEpoch

/-- The point after the old signal was drained. -/
def afterDrain (kind : LifecycleKind) (closedEpoch : ℕ) : LifecyclePoint :=
  match kind with
  | .resetForNewSession => .publishEpoch closedEpoch
  | .deactivate => .unlock true

/-- One atomic step of a lifecycle operation, absent while the mutex is held by another. -/
def lifecycleStep (thread : ι) (kind : LifecycleKind) (power : SystemPowerState ι) :
    LifecyclePoint → Option (SystemPowerState ι × (LifecyclePoint ⊕ Bool))
  | .lock =>
    if power.lifecycle.isSome then none
    else some ({ power with lifecycle := some thread }, .inl .loadEpoch)
  | .loadEpoch =>
    some (power, .inl (.closeEpoch
      (if power.callbackEpoch % 2 = 0 then power.callbackEpoch + 1 else power.callbackEpoch)))
  | .closeEpoch closedEpoch =>
    some ({ power with callbackEpoch := closedEpoch }, .inl (.rundown closedEpoch))
  | .rundown closedEpoch =>
    some (power, .inl
      (if power.callbacksInFlight ≠ 0 then .rundown closedEpoch else .clearState closedEpoch))
  | .clearState closedEpoch =>
    some ({ power with state := 0#8 }, .inl (afterState kind closedEpoch))
  | .clearStartup closedEpoch =>
    some ({ power with startupState := startupWord .idle .none false false },
      .inl (.clearBoundary closedEpoch))
  | .clearBoundary closedEpoch =>
    some ({ power with suspendBoundaryQpc := 0 }, .inl (afterBoundary kind closedEpoch))
  | .clearSuspendCount closedEpoch =>
    some ({ power with suspendCount := 0 }, .inl (.clearResumeCount closedEpoch))
  | .clearResumeCount closedEpoch =>
    some ({ power with resumeCount := 0 }, .inl (.clearDuplicateCount closedEpoch))
  | .clearDuplicateCount closedEpoch =>
    some ({ power with duplicateCount := 0 }, .inl (.drain closedEpoch))
  | .drain closedEpoch =>
    some ({ power with interruptSignaled := false }, .inl (afterDrain kind closedEpoch))
  | .publishEpoch closedEpoch =>
    -- an exhausted epoch leaves the endpoint closed
    if closedEpoch + 1 < 2 ^ 64 then
      some ({ power with callbackEpoch := closedEpoch + 1 }, .inl (.unlock true))
    else some (power, .inl (.unlock false))
  | .unlock succeeded => some ({ power with lifecycle := none }, .inr succeeded)

/-- A compare-exchange of the startup word. -/
def exchangeStartup (power : SystemPowerState ι) (current next : BitVec 32) :
    SystemPowerState ι × Bool :=
  let exchanged := compareExchange power.startupState current next
  ({ power with startupState := exchanged.1 }, exchanged.2)

/-- A compare-exchange of the startup word that may fail spuriously. -/
def exchangeStartupWeak (spurious : Bool) (power : SystemPowerState ι)
    (current next : BitVec 32) : SystemPowerState ι × Bool :=
  if spurious then (power, false) else exchangeStartup power current next

/-- One atomic step of an operation. The choice is whether a weak compare-exchange fails
spuriously. -/
def step (thread : ι) (spurious : Bool) (call : Call) (power : SystemPowerState ι) :
    Option (SystemPowerState ι × (Call ⊕ Result)) :=
  match call with
  | .move source target ready armed =>
    some (power, moveLoaded source target ready armed power.startupState)
  | .moveExchange current next =>
    let exchanged := exchangeStartup power current next
    some (exchanged.1, .inr (.moved exchanged.2))
  | .cancel reason =>
    some (power, if reason = .none then .inr (.aborted false)
      else cancelLoaded reason power.startupState)
  | .cancelExchange reason current cancelled =>
    let exchanged := exchangeStartupWeak spurious power current cancelled
    some (exchanged.1, if exchanged.2 then .inr (.aborted true) else .inl (.cancel reason))
  | .fail reason => some (power, failLoaded reason power.startupState)
  | .failExchange reason current failed =>
    let exchanged := exchangeStartupWeak spurious power current failed
    some (exchanged.1, if exchanged.2 then .inr (.aborted true) else .inl (.fail reason))
  | .snapshot => some (power, .inr (.snapshot (decodeStartupWord power.startupState)))
  | .enter notification =>
    some (power, if power.callbackEpoch % 2 ≠ 0 then .inr (.notified false)
      else .inl (.enterCount notification power.callbackEpoch))
  | .enterCount notification capturedEpoch =>
    some ({ power with callbacksInFlight := fetchIncrement power.callbacksInFlight },
      .inl (.enterValidate notification capturedEpoch))
  | .enterValidate notification capturedEpoch =>
    some (power, .inl (if power.callbackEpoch ≠ capturedEpoch then .backOut capturedEpoch
      else .authorized notification capturedEpoch
        (if notification.suspended then .latch else .load 0)))
  | .backOut _ =>
    some ({ power with callbacksInFlight := fetchDecrement power.callbacksInFlight },
      .inr (.notified false))
  | .authorized notification capturedEpoch point =>
    let stepped := authorizedStep notification power point
    some (stepped.1, match stepped.2 with
      | .inl next => .inl (.authorized notification capturedEpoch next)
      | .inr result => .inr (.notified result))
  | .lifecycle kind point =>
    (lifecycleStep thread kind power point).map fun stepped =>
      (stepped.1, match stepped.2 with
        | .inl next => .inl (.lifecycle kind next)
        | .inr succeeded => .inr (.lifecycle succeeded))
  | .downBlocked => some (power, .inr (.blocked (suspendTerminal power.startupState)))

/-- The calls on one endpoint. -/
def protocol (ι : Type) : Protocol ι Op Call Bool Result (SystemPowerState ι) where
  start := Op.start
  step := step

end SystemPowerState

end SkyAutoPlayer.Player
