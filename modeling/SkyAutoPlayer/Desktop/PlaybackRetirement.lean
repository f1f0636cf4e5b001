import SkyAutoPlayer.AppCore.CatalogIndex
import SkyAutoPlayer.DispatchWin32.ReleaseScope

/-!
# How a playback ends

When its worker has been joined, a session is retired with the evidence that its keys were released
and with what is published about its end. Evidence that is missing counts as a release that could not
be verified.
-/

namespace SkyAutoPlayer.Desktop

open Foundation AppCore DispatchWin32

/-- What the engine says of its session. -/
inductive EnginePollStatus where
  | ready
  | preparing
  | preroll
  | playing
  | paused
  | finished
  | quit
  | skipped
  | systemSuspended
  | error
  | panicked
  | poisoned
  | invalid
  deriving DecidableEq, Repr

namespace EnginePollStatus

/-- The name of a status. -/
def asStr : EnginePollStatus → String
  | .ready => "ready"
  | .preparing => "preparing"
  | .preroll => "preroll"
  | .playing => "playing"
  | .paused => "paused"
  | .finished => "finished"
  | .quit => "quit"
  | .skipped => "skipped"
  | .systemSuspended => "system_suspended"
  | .error => "error"
  | .panicked => "panicked"
  | .poisoned => "poisoned"
  | .invalid => "invalid"

/-- The session has ended. -/
def isTerminal : EnginePollStatus → Bool
  | .finished | .quit | .skipped | .systemSuspended | .error | .panicked | .poisoned | .invalid => true
  | .ready | .preparing | .preroll | .playing | .paused => false

/-- The session has ended with a failure. -/
def isTerminalFailure : EnginePollStatus → Bool
  | .error | .panicked | .poisoned | .invalid => true
  | _ => false

end EnginePollStatus

/-- What a retirement reads of the state of the engine. -/
structure EngineSnapshot where
  startupArmed : Bool
  releaseOutcome : Option ReleaseAllOutcome
  finalReleaseObligationMask : BitVec 16
  terminalTriggerReason : Option String
  terminalError : Option String
  lastError : Option String
  failedReleaseCount : ℕ
  deriving DecidableEq

/-- The evidence that the keys of a session were released. -/
inductive TerminalReleaseEvidence where
  | notRequired
  | verified (obligationMask : BitVec 16)
  | unverified (obligationMask : BitVec 16) (detail : String)
  deriving DecidableEq, Repr

/-- The evidence says that the keys may still be held. -/
def TerminalReleaseEvidence.isUnverified : TerminalReleaseEvidence → Bool
  | .unverified _ _ => true
  | .notRequired | .verified _ => false

/-- Why no worker of a session can send any more. -/
inductive WorkerQuiescenceProof where
  | noWorkerStarted
  | workerJoined
  deriving DecidableEq, Repr

/-- What is published about the end of a session. -/
inductive PlaybackTerminalPublication where
  | finished (outcome message : String)
  | failed (code message : String)
  deriving DecidableEq, Repr

/-- How a session is retired. -/
structure TerminalRetirement where
  quiescence : WorkerQuiescenceProof
  release : TerminalReleaseEvidence
  publication : PlaybackTerminalPublication
  deriving DecidableEq, Repr

/-- What follows from an attempt to join the worker. -/
inductive PlaybackHandoffDecision where
  | awaitQuiescence
  | retire (retirement : TerminalRetirement)
  deriving DecidableEq, Repr

/-- A mask as text, in four hexadecimal digits. -/
def maskText (mask : BitVec 16) : String :=
  let value := mask.toNat
  "0x" ++ String.ofList [hexDigit (value / 4096), hexDigit (value / 256 % 16),
    hexDigit (value / 16 % 16), hexDigit (value % 16)]

/-- The evidence that a release outcome gives. -/
def terminalReleaseEvidence (physical : Bool) (releaseOutcome : Option ReleaseAllOutcome)
    (obligationMask : BitVec 16) : TerminalReleaseEvidence :=
  if physical = false then .notRequired
  else
    match releaseOutcome with
    | none => .unverified obligationMask
        ("terminal release outcome was unavailable; residual obligation mask=" ++
          maskText obligationMask)
    | some outcome =>
      if outcome.releasedSuccessfully = true ∧ outcome.stuckMask = 0 ∧
          outcome.verificationInconclusive = false ∧ obligationMask = 0 then
        .verified obligationMask
      else .unverified obligationMask
        ("terminal release was not verified (released_successfully=" ++
          toString outcome.releasedSuccessfully ++ ", stuck_mask=" ++ maskText outcome.stuckMask ++
          ", verification_inconclusive=" ++ toString outcome.verificationInconclusive ++
          ", residual obligation mask=" ++ maskText obligationMask ++ ")")

/-- The evidence of a session, none of which is needed when it ended before it was armed. -/
def terminalReleaseEvidenceAfterStartup (physical : Bool) (snapshot : EngineSnapshot) :
    TerminalReleaseEvidence :=
  if physical = true ∧ snapshot.startupArmed = false ∧ snapshot.releaseOutcome = none ∧
      snapshot.finalReleaseObligationMask = 0 ∧
      ∃ reason ∈ snapshot.terminalTriggerReason,
        reason ∈ ["quit", "skipped", "system_suspend", "panic_release_requested"] then
    .notRequired
  else terminalReleaseEvidence physical snapshot.releaseOutcome snapshot.finalReleaseObligationMask

/-- How a session that ended well ended. -/
def terminalSuccessOutcome : EnginePollStatus → String
  | .skipped => "skipped"
  | .quit => "quit"
  | .finished => "finished"
  | .systemSuspended => "system_suspend"
  | _ => "finished"

/-- What is shown of a session that ended well. -/
def terminalSuccessMessage : EnginePollStatus → String
  | .quit => "Playback stopped"
  | .skipped => "Playback skipped"
  | _ => "Playback finished"

/-- Texts, with a separator between them. -/
def joinTexts (separator : String) (texts : List String) : String :=
  String.join (texts.intersperse separator)

/-- What is published about the end of a session whose worker has ended. -/
def terminalPublicationAfterWorker (status : EnginePollStatus) (release : TerminalReleaseEvidence)
    (terminalError lastError terminalTrigger : Option String) (failedReleaseCount : ℕ) :
    PlaybackTerminalPublication :=
  let workerError := terminalError.or lastError
  let releaseError := match release with
    | .unverified _ detail => some detail
    | .notRequired | .verified _ => none
  let workerFailed := status.isTerminalFailure || terminalError.isSome || workerError.isSome
  if workerFailed || decide (0 < failedReleaseCount) || releaseError.isSome then
    let code :=
      if workerFailed then
        match status with
        | .panicked => "native_player_panicked"
        | .poisoned => "native_player_poisoned"
        | _ => "native_player_failed"
      else "terminal_release_unverified"
    let details := (workerError.map fun reason => "worker diagnostic: " ++ reason).toList ++
      (terminalTrigger.map fun trigger => "terminal trigger: " ++ trigger).toList ++
      releaseError.toList ++
      (if 0 < failedReleaseCount then
        [toString failedReleaseCount ++ " terminal release attempt(s) failed"] else [])
    let shown := if details.isEmpty then
        ["the native worker did not report a successful terminal result"] else details
    .failed code ("Native playback ended with worker outcome `" ++ status.asStr ++ "`; " ++
      joinTexts "; " shown)
  else
    match status with
    | .systemSuspended => .failed "system_suspend"
        ("Windows suspended or hibernated the system. This playback session has ended; " ++
          "start a new session after resume.")
    | .finished | .quit | .skipped =>
      .finished (terminalSuccessOutcome status) (terminalSuccessMessage status)
    | _ => .failed "native_player_terminal_unknown"
        ("Native playback worker ended without an authoritative terminal result (`" ++
          status.asStr ++ "`).")

/-- How a session whose worker was joined is retired. -/
def terminalRetirementAfterWorker (status : EnginePollStatus) (snapshot : EngineSnapshot)
    (physical : Bool) : TerminalRetirement :=
  let release := terminalReleaseEvidenceAfterStartup physical snapshot
  ⟨.workerJoined, release, terminalPublicationAfterWorker status release snapshot.terminalError
    snapshot.lastError snapshot.terminalTriggerReason snapshot.failedReleaseCount⟩

/-- What is published about the end of a session without a physical worker. -/
def dryRunPublication (status : EnginePollStatus) : PlaybackTerminalPublication :=
  match status with
  | .finished | .quit | .skipped =>
    .finished (terminalSuccessOutcome status) (terminalSuccessMessage status)
  | _ => .failed "native_player_failed"
      ("Non-physical playback ended with worker outcome `" ++ status.asStr ++ "`.")

/-- How a session is retired whose worker ended without an authoritative result. -/
def unknownRetirement (snapshot : Option EngineSnapshot) (physical : Bool) : TerminalRetirement where
  quiescence := .workerJoined
  release := match snapshot with
    | none => terminalReleaseEvidence physical none 0
    | some snapshot =>
      terminalReleaseEvidence physical snapshot.releaseOutcome snapshot.finalReleaseObligationMask
  publication := .failed "native_player_terminal_unknown"
    "The native worker stopped without an authoritative terminal result."

/-- How a session is retired whose worker was joined. -/
def joinedRetirement (status : Option EnginePollStatus) (snapshot : Option EngineSnapshot)
    (physical : Bool) : TerminalRetirement :=
  match status, snapshot with
  | some status, some snapshot =>
    if status.isTerminal = true then terminalRetirementAfterWorker status snapshot physical
    else unknownRetirement (some snapshot) physical
  | some status, none =>
    if physical = false ∧ status.isTerminal = true then
      ⟨.noWorkerStarted, .notRequired, dryRunPublication status⟩
    else unknownRetirement none physical
  | none, _ => unknownRetirement snapshot physical

/-- Whether a session is retired after an attempt to join its worker, and how. -/
def decidePlaybackHandoff (joined : Except String Bool) (status : Option EnginePollStatus)
    (snapshot : Option EngineSnapshot) (physical : Bool) : PlaybackHandoffDecision :=
  match joined with
  | .error _ | .ok false => .awaitQuiescence
  | .ok true => .retire (joinedRetirement status snapshot physical)

variable {joined : Except String Bool} {status : Option EnginePollStatus}
  {snapshot : Option EngineSnapshot} {physical : Bool} {retirement : TerminalRetirement}

/-- A session that is not physical needs no evidence. -/
theorem terminalReleaseEvidence_dry (outcome : Option ReleaseAllOutcome) (mask : BitVec 16) :
    terminalReleaseEvidence false outcome mask = .notRequired := if_pos rfl

/-- A session that is not physical needs no evidence when its worker ended unclearly. -/
theorem unknownRetirement_dry : (unknownRetirement snapshot false).release = .notRequired := by
  cases snapshot with
  | none => exact terminalReleaseEvidence_dry none 0
  | some snapshot =>
    exact terminalReleaseEvidence_dry snapshot.releaseOutcome snapshot.finalReleaseObligationMask

/-- A session that is not physical needs no evidence when its worker ended. -/
theorem terminalReleaseEvidenceAfterStartup_dry (snapshot : EngineSnapshot) :
    terminalReleaseEvidenceAfterStartup false snapshot = .notRequired := by
  unfold terminalReleaseEvidenceAfterStartup
  rw [if_neg fun h => absurd h.1 (by decide)]
  exact terminalReleaseEvidence_dry _ _

/-- Evidence is missing only for a physical session, and only a session that is not physical counts
as one whose worker never started. -/
theorem joinedRetirement_spec :
    ((joinedRetirement status snapshot physical).release.isUnverified = true → physical = true) ∧
      ((joinedRetirement status snapshot physical).quiescence = .noWorkerStarted →
        physical = false) := by
  cases physical with
  | true =>
    refine ⟨fun _ => rfl, fun hnone => ?_⟩
    have hjoined : (joinedRetirement status snapshot true).quiescence = .workerJoined := by
      unfold joinedRetirement
      split
      · split <;> rfl
      · exact congrArg _ (if_neg (by simp))
      · rfl
    rw [hjoined] at hnone
    cases hnone
  | false =>
    refine ⟨fun hunverified => ?_, fun _ => rfl⟩
    have hdry : (joinedRetirement status snapshot false).release = .notRequired := by
      unfold joinedRetirement
      split
      case h_1 _ snapshot =>
        split
        · exact terminalReleaseEvidenceAfterStartup_dry snapshot
        · exact unknownRetirement_dry
      case h_2 =>
        split
        · rfl
        · exact unknownRetirement_dry
      case h_3 => exact unknownRetirement_dry
    rw [hdry] at hunverified
    cases hunverified

/-- A session is retired only when its worker was joined. -/
theorem decidePlaybackHandoff_retire
    (h : decidePlaybackHandoff joined status snapshot physical = .retire retirement) :
    joined = .ok true ∧ retirement = joinedRetirement status snapshot physical := by
  unfold decidePlaybackHandoff at h
  split at h
  · cases h
  · cases h
  · exact ⟨rfl, (PlaybackHandoffDecision.retire.inj h).symm⟩

end SkyAutoPlayer.Desktop
