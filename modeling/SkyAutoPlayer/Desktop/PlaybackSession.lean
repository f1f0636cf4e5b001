import SkyAutoPlayer.Desktop.ActivityCoordinator
import SkyAutoPlayer.Desktop.PlaybackRetirement
import SkyAutoPlayer.Foundation.CallPool

/-!
# Playback sessions and the physical input

A start reserves the physical input, creates a player, starts the supervisor and arms the player. The
supervisor waits for the end of the session, joins the worker and retires the session, which gives the
lease back or closes the coordinator. Start and supervisor never hold the lease at once, so a session
is one thread of control beside its worker, and every section under the lock of the coordinator is one
step.

The slot of the active session, which admits one start at a time, only excludes more. What is published
and the power resources do not touch the lease.
-/

namespace SkyAutoPlayer.Desktop

open Foundation

/-- The worker of a session. -/
inductive SessionWorker where
  | notStarted
  | running
  | exited
  | joined
  deriving DecidableEq, Repr

/-- What a start does after it has created a player. -/
inductive StartStage where
  | registerPlayer
  | publishStarting
  | startPresentation
  | attachPresentation
  | spawnSupervisor
  deriving DecidableEq, Repr

/-- Where a session stands. A creation that failed keeps its error until it is published. Once the
lease is taken out of the session, the retirement holds it. -/
inductive SessionPhase where
  | reserving
  | refused (error : ActivityReservationError)
  | creating
  | starting (stage : StartStage) (creation : Option String)
  | arming
  | confirming
  | supervising
  | joining (joinError : Option String)
  | retiring (retirement : TerminalRetirement)
  | quarantining (retirement : TerminalRetirement) (held : Bool)
  | quarantineDropping (retirement : TerminalRetirement) (quarantined : Bool)
  | requarantining (retirement : TerminalRetirement) (quarantined : Bool)
  | dropping (retirement : TerminalRetirement) (held : Bool)
  | released (retirement : TerminalRetirement) (verified : Bool)
  | unwinding
  | ended
  | abandoned
  deriving DecidableEq, Repr

/-- A session. -/
structure PlaybackRun where
  sessionId : String
  dryRun : Bool
  leased : Bool
  worker : SessionWorker
  phase : SessionPhase
  deriving DecidableEq, Repr

/-- What a step of a session cannot determine: whether the worker ends here or the thread dies, the
error of an operation, whether the supervisor is lost, and what the engine answers. -/
structure SessionChoice where
  workerExits : Bool
  panics : Bool
  failure : Option String
  supervisorLost : Bool
  terminal : Bool
  joined : Except String Bool
  status : EnginePollStatus
  snapshot : EngineSnapshot

/-- The code and the message of a creation that failed. -/
def physicalStartupFailure (error : String) : String × String :=
  if error.startsWith "suspend_resume_registration_failed" then
    ("system_power_notifications_unavailable",
      "Windows suspend and resume notifications could not be registered, so physical playback was " ++
        "stopped safely.")
  else if error = "no admissible visible Sky window was found" then
    ("target_not_found",
      "Sky window was not found. Open Sky and make sure its window is visible, then try again.")
  else if error.startsWith "target Sky process has higher integrity" then
    ("target_integrity_mismatch",
      "Sky is running with higher Windows integrity than Sky Auto Player. Run both apps at the same " ++
        "permission level, then try again.")
  else if error = "validated Sky window could not be focused" then
    ("target_focus_failed",
      "Sky's window could not be focused. Bring the Sky window to the foreground, then try again.")
  else
    ("native_worker_failed",
      "The native playback engine could not start. Try again; if it continues, restart Sky Auto " ++
        "Player.")

/-- The retirement of a session whose worker never started. -/
def unstartedRetirement (code message : String) : TerminalRetirement :=
  ⟨.noWorkerStarted, .notRequired, .failed code message⟩

/-- The retirement of a session that fails at a stage of its start. -/
def stageRetirement (error : String) : StartStage → TerminalRetirement
  | .registerPlayer => unstartedRetirement "native_event_registration_failed" error
  | .publishStarting => unstartedRetirement "playback_start_publication_failed"
      ("Playback could not publish its starting state: " ++ error)
  | .startPresentation => unstartedRetirement "playback_presentation_start_failed" error
  | .attachPresentation => unstartedRetirement "playback_presentation_attachment_failed"
      "playback presentation consumer was already attached"
  | .spawnSupervisor => unstartedRetirement "playback_supervisor_start_failed"
      ("failed to start native playback supervisor: " ++ error)

/-- The retirement of a session whose player could not be created. -/
def creationRetirement (error : String) : TerminalRetirement :=
  let failure := physicalStartupFailure error
  unstartedRetirement failure.1 failure.2

/-- The retirement of a session whose player could not be armed. -/
def armRetirement (error : String) : TerminalRetirement :=
  unstartedRetirement "native_worker_start_failed"
    ("Native playback worker did not start: " ++ error)

/-- What is published when the worker could not be joined at first. -/
def joinFailure (error : String) : PlaybackTerminalPublication :=
  .failed "native_worker_join_failed"
    ("Native worker termination could not be joined cleanly: " ++ error)

/-- What follows a stage that succeeds. -/
def nextStage (creation : Option String) : StartStage → SessionPhase
  | .registerPlayer => .starting .publishStarting creation
  | .publishStarting => .starting .startPresentation creation
  | .startPresentation =>
    match creation with
    | some error => .retiring (creationRetirement error)
    | none => .starting .attachPresentation none
  | .attachPresentation => .starting .spawnSupervisor creation
  | .spawnSupervisor => .arming

namespace PlaybackRun

/-- A start of a session. -/
def start (sessionId : String) (dryRun : Bool) : PlaybackRun :=
  ⟨sessionId, dryRun, false, .notStarted, .reserving⟩

/-- A session that owns the physical input, unless it is a dry run. -/
def physical (run : PlaybackRun) : Bool := !run.dryRun

/-- Reserve the physical input, unless the session is a dry run. -/
def reserve (run : PlaybackRun) (activity : ActivityState) : ActivityState × PlaybackRun :=
  if run.dryRun then (activity, { run with phase := .creating })
  else
    match activity.reservePlayback run.sessionId with
    | .ok after => (after, { run with leased := true, phase := .creating })
    | .error error => (activity, { run with phase := .refused error })

/-- Arm the player, which starts the worker as its last act. A session that is not physical has no
player. When the supervisor is gone, or the start dies, the session is supervised as one whose worker
may have started. -/
def arm (choice : SessionChoice) (run : PlaybackRun) : PlaybackRun :=
  if run.dryRun then { run with phase := .confirming }
  else
    match choice.failure with
    | none => { run with worker := .running, phase := .confirming }
    | some error =>
      if choice.panics || choice.supervisorLost then { run with phase := .supervising }
      else { run with phase := .retiring (armRetirement error) }

/-- Try to join the worker, and retire the session if that succeeds. A thread is joined only after it
has ended. -/
def join (choice : SessionChoice) (joinError : Option String) (run : PlaybackRun) :
    Option PlaybackRun :=
  if choice.joined = .ok true ∧ run.worker = .running then none
  else
    let failed := match choice.joined with
      | .error error => joinError.or (some error)
      | .ok _ => joinError
    match decidePlaybackHandoff choice.joined (some choice.status)
        (if run.dryRun then none else some choice.snapshot) run.physical with
    | .awaitQuiescence => some { run with phase := .joining failed }
    | .retire retirement =>
      some { run with
        worker := if run.worker = .exited then .joined else run.worker
        phase := .retiring { retirement with
          publication := (failed.map joinFailure).getD retirement.publication } }

/-- The next step of a session, beside its worker. -/
def stepPhase (choice : SessionChoice) (run : PlaybackRun) (activity : ActivityState) :
    Option (ActivityState × PlaybackRun) :=
  match run.phase with
  | .reserving => some (run.reserve activity)
  | .creating =>
    if choice.panics then some (activity, { run with phase := .unwinding })
    else if run.dryRun then some (activity, { run with phase := .starting .publishStarting none })
    else
      match choice.failure with
      | none => some (activity, { run with phase := .starting .registerPlayer none })
      | some error =>
        some (activity, { run with phase := .starting .publishStarting (some error) })
  | .starting stage creation =>
    if choice.panics then some (activity, { run with phase := .abandoned })
    else
      match choice.failure with
      | none => some (activity, { run with phase := nextStage creation stage })
      | some error => some (activity, { run with phase := .retiring (stageRetirement error stage) })
  | .arming => some (activity, run.arm choice)
  | .confirming => some (activity, { run with phase := .supervising })
  | .supervising =>
    if choice.panics then some (activity, { run with phase := .abandoned })
    else if choice.terminal then some (activity, { run with phase := .joining none })
    else some (activity, run)
  | .joining joinError =>
    if choice.panics then some (activity, { run with phase := .abandoned })
    else (run.join choice joinError).map fun next => (activity, next)
  | .retiring retirement =>
    some (activity, { run with
      leased := false
      phase :=
        if retirement.release.isUnverified then .quarantining retirement run.leased
        else .dropping retirement run.leased })
  | .quarantining retirement held =>
    if held then
      let quarantine := activity.quarantinePlayback run.sessionId
      some (quarantine.1, { run with phase := .quarantineDropping retirement quarantine.2 })
    else some (activity, { run with phase := .requarantining retirement false })
  | .quarantineDropping retirement quarantined =>
    some (activity.releasePlayback run.sessionId,
      { run with phase := .requarantining retirement quarantined })
  | .requarantining retirement quarantined =>
    let again := if run.physical then activity.quarantinePlayback run.sessionId else (activity, false)
    some (again.1, { run with
      phase := if quarantined || again.2 then .released retirement false else .retiring retirement })
  | .dropping retirement held =>
    some (if held then activity.releasePlayback run.sessionId else activity,
      { run with phase := .released retirement true })
  | .unwinding =>
    some (if run.leased then activity.releasePlayback run.sessionId else activity,
      { run with leased := false, phase := .ended })
  | .refused _ | .released _ _ | .ended | .abandoned => none

/-- The next step of a session or of its worker. -/
def step (choice : SessionChoice) (run : PlaybackRun) (activity : ActivityState) :
    Option (ActivityState × PlaybackRun) :=
  if choice.workerExits then
    if run.worker = .running then some (activity, { run with worker := .exited }) else none
  else run.stepPhase choice activity

/-- The lease of a session exists. -/
def leaseLive (run : PlaybackRun) : Bool :=
  run.leased || match run.phase with
    | .quarantining _ held | .dropping _ held => held
    | .quarantineDropping _ _ => true
    | _ => false

/-- The physical input was reserved for a session. -/
def granted (run : PlaybackRun) : Bool :=
  run.physical && match run.phase with
    | .reserving | .refused _ => false
    | _ => true

/-- How a session is retired, once that is decided. -/
def retirement? (run : PlaybackRun) : Option TerminalRetirement :=
  match run.phase with
  | .retiring retirement | .quarantining retirement _ | .quarantineDropping retirement _
  | .requarantining retirement _ | .dropping retirement _ | .released retirement _ => some retirement
  | _ => none

/-- A session is retired without the evidence that its keys were released. -/
def unverified (run : PlaybackRun) : Bool :=
  run.retirement?.any fun retirement => retirement.release.isUnverified

end PlaybackRun

/-- Where a calibration or an update stands with its lease. -/
inductive ReservationPhase where
  | reserving
  | refused (error : ActivityReservationError)
  | held
  | givenBack
  deriving DecidableEq, Repr

/-- A reservation that is made or refused, and given back at some time. -/
def ReservationPhase.step (reserve : ActivityState → Except ActivityReservationError ActivityState)
    (giveBack : ActivityState → ActivityState) (phase : ReservationPhase)
    (activity : ActivityState) : Option (ActivityState × ReservationPhase) :=
  match phase with
  | .reserving =>
    match reserve activity with
    | .ok after => some (after, .held)
    | .error error => some (activity, .refused error)
  | .held => some (giveBack activity, .givenBack)
  | .refused _ | .givenBack => none

/-- A call that meets the coordinator. -/
inductive ActivityCall where
  | playback (run : PlaybackRun)
  | calibration (phase : ReservationPhase)
  | update (phase : ReservationPhase)
  | shutdown (begun : Bool)
  deriving DecidableEq, Repr

/-- An operation that meets the coordinator. -/
inductive ActivityOp where
  | play (sessionId : String) (dryRun : Bool)
  | calibrate
  | update
  | shutdown

/-- The call of an operation. -/
def activityStart : ActivityOp → ActivityCall
  | .play sessionId dryRun => .playback (PlaybackRun.start sessionId dryRun)
  | .calibrate => .calibration .reserving
  | .update => .update .reserving
  | .shutdown => .shutdown false

/-- The next step of a call. -/
def activityStep (choice : SessionChoice) (call : ActivityCall) (activity : ActivityState) :
    Option (ActivityState × ActivityCall) :=
  match call with
  | .playback run => (run.step choice activity).map fun next => (next.1, .playback next.2)
  | .calibration phase =>
    (phase.step ActivityState.reserveCalibration ActivityState.releaseCalibration activity).map
      fun next => (next.1, .calibration next.2)
  | .update phase =>
    (phase.step ActivityState.reserveUpdate ActivityState.releaseUpdate activity).map
      fun next => (next.1, .update next.2)
  | .shutdown begun => if begun then none else some (activity.beginShutdown, .shutdown true)

/-- Any number of playbacks, calibrations, updates and shutdowns. -/
def activityProgram : CallProgram ActivityOp ActivityCall SessionChoice ActivityState :=
  ⟨activityStart, activityStep⟩

/-- The machine of the coordinator, at first free. -/
def activityMachine : Machine (CallPool ActivityState ActivityCall)
    (PoolAction ActivityOp SessionChoice) :=
  activityProgram.machine .initial

/-- A call holds a lease of the physical input. -/
def ActivityCall.leaseLive : ActivityCall → Bool
  | .playback run => run.leaseLive
  | .calibration phase | .update phase => phase = .held
  | .shutdown _ => false

/-- The physical input was reserved for a call. -/
def ActivityCall.granted : ActivityCall → Bool
  | .playback run => run.granted
  | .calibration phase | .update phase => phase = .held || phase = .givenBack
  | .shutdown _ => false

end SkyAutoPlayer.Desktop
