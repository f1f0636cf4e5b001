import SkyAutoPlayer.Foundation.Interleaving

/-!
# The session's target and its owner identity

Publishers announce a window under a fresh generation; the payload words stand between two stores
of the publication epoch, and a reader accepts a sample only between equal even epochs. The owner
identity is bound to one generation under the publishers' mutex, while its readers, the supervisor's
poll and the teardown go without it. Each program point below is one atomic access.
-/

namespace SkyAutoPlayer.Player

open Foundation

/-- Why an owner identity was invalidated. -/
inductive OwnerIdentityFailure where
  | none
  | processTerminated
  | ownerMismatch
  | windowUnavailable
  | processIdentityMismatch
  | queryUnavailable
  deriving DecidableEq, Repr

/-- What a reader learns of the owner identity. -/
inductive OwnerIdentityStatus where
  | notRequired
  | missing
  | stale
  | processTerminated
  | ownerMismatch
  | windowUnavailable
  | processIdentityMismatch
  | queryUnavailable
  | bound (ownerPid : ℕ)
  deriving DecidableEq, Repr

/-- The cells of the target. The publishers' mutex holds its owner. -/
structure SessionTarget (ι : Type) where
  targetHwnd : ℤ
  targetGeneration : ℕ
  publicationEpoch : ℕ
  ownerIdentityRequired : Bool
  ownerPid : ℕ
  ownerGeneration : ℕ
  ownerLive : Bool
  ownerFailure : OwnerIdentityFailure
  writer : Option ι
  deriving DecidableEq

namespace SessionTarget

variable {ι : Type}

/-- A target that no publisher has touched. -/
def new (ι : Type) (hwnd : ℤ) (generation : ℕ) (ownerIdentityRequired : Bool) :
    SessionTarget ι where
  targetHwnd := hwnd
  targetGeneration := generation
  publicationEpoch := 0
  ownerIdentityRequired
  ownerPid := 0
  ownerGeneration := 0
  ownerLive := false
  ownerFailure := .none
  writer := none

/-- The pair that stands published, absent while a publication is in progress. -/
def published (target : SessionTarget ι) : Option (ℤ × ℕ) :=
  if target.publicationEpoch % 2 = 0 then some (target.targetHwnd, target.targetGeneration)
  else none

/-- The program points of a stable load. -/
inductive LoadPoint where
  | epochStart
  | hwnd (firstEpoch : ℕ)
  | generation (firstEpoch : ℕ) (hwnd : ℤ)
  | epochEnd (firstEpoch : ℕ) (hwnd : ℤ) (generation : ℕ)
  deriving DecidableEq, Repr

/-- One read of a stable load. -/
def loadStableStep (target : SessionTarget ι) : LoadPoint → LoadPoint ⊕ Option (ℤ × ℕ)
  | .epochStart =>
    if target.publicationEpoch % 2 ≠ 0 then .inr none else .inl (.hwnd target.publicationEpoch)
  | .hwnd firstEpoch => .inl (.generation firstEpoch target.targetHwnd)
  | .generation firstEpoch hwnd => .inl (.epochEnd firstEpoch hwnd target.targetGeneration)
  | .epochEnd firstEpoch hwnd generation =>
    .inr (if firstEpoch = target.publicationEpoch ∧ target.publicationEpoch % 2 = 0 then
      some (hwnd, generation) else none)

/-- The program points of a status read. -/
inductive StatusPoint where
  | required
  | firstGeneration
  | ownerPid (firstGeneration : ℕ)
  | ownerLive (firstGeneration ownerPid : ℕ)
  | finalGeneration (firstGeneration ownerPid : ℕ) (ownerLive : Bool)
  | ownerFailure
  deriving DecidableEq, Repr

/-- The status of an identity that is not live. -/
def OwnerIdentityFailure.status : OwnerIdentityFailure → OwnerIdentityStatus
  | .none => .missing
  | .processTerminated => .processTerminated
  | .ownerMismatch => .ownerMismatch
  | .windowUnavailable => .windowUnavailable
  | .processIdentityMismatch => .processIdentityMismatch
  | .queryUnavailable => .queryUnavailable

/-- The verdict of a status read after its final generation. -/
def statusVerdict (expectedGeneration firstGeneration ownerPid : ℕ) (ownerLive : Bool)
    (finalGeneration : ℕ) : StatusPoint ⊕ OwnerIdentityStatus :=
  if firstGeneration ≠ finalGeneration then .inr .stale
  else if ownerPid = 0 then .inr .missing
  else if firstGeneration ≠ expectedGeneration then .inr .stale
  else if ownerLive = false then .inl .ownerFailure
  else .inr (.bound ownerPid)

/-- One read of a status. -/
def ownerIdentityStatusStep (expectedGeneration : ℕ) (target : SessionTarget ι) :
    StatusPoint → StatusPoint ⊕ OwnerIdentityStatus
  | .required =>
    if target.ownerIdentityRequired then .inl .firstGeneration else .inr .notRequired
  | .firstGeneration => .inl (.ownerPid target.ownerGeneration)
  | .ownerPid firstGeneration => .inl (.ownerLive firstGeneration target.ownerPid)
  | .ownerLive firstGeneration ownerPid =>
    .inl (.finalGeneration firstGeneration ownerPid target.ownerLive)
  | .finalGeneration firstGeneration ownerPid ownerLive =>
    statusVerdict expectedGeneration firstGeneration ownerPid ownerLive target.ownerGeneration
  | .ownerFailure => .inr (OwnerIdentityFailure.status target.ownerFailure)

/-- The program points of a publication. -/
inductive PublishPoint where
  | lock
  | compareHwnd
  | loadEpoch
  | poison
  | storeInProgress (stableEpoch : ℕ)
  | storeFailure (stableEpoch : ℕ)
  | storeLive (stableEpoch : ℕ)
  | storeHwnd (stableEpoch : ℕ)
  | addGeneration (stableEpoch : ℕ)
  | storeStable (stableEpoch : ℕ)
  | unlock (published : Bool)
  deriving DecidableEq, Repr

/-- One atomic step of a publication, absent while the mutex is held by another. -/
def publishStep (thread : ι) (hwnd : ℤ) (forceGeneration : Bool) (target : SessionTarget ι) :
    PublishPoint → Option (SessionTarget ι × (PublishPoint ⊕ Bool))
  | .lock =>
    if target.writer.isSome then none
    else some ({ target with writer := some thread },
      .inl (if forceGeneration then .loadEpoch else .compareHwnd))
  | .compareHwnd =>
    some (target, .inl (if target.targetHwnd = hwnd then .unlock false else .loadEpoch))
  | .loadEpoch =>
    -- the sequence is poisoned before the epoch or the generation could wrap
    some (target, .inl
      (if target.publicationEpoch % 2 ≠ 0 ∨ 2 ^ 64 - 1 - 3 < target.publicationEpoch then .poison
      else .storeInProgress target.publicationEpoch))
  | .poison => some ({ target with publicationEpoch := 2 ^ 64 - 1 }, .inl (.unlock false))
  | .storeInProgress stableEpoch =>
    some ({ target with publicationEpoch := stableEpoch + 1 }, .inl (.storeFailure stableEpoch))
  | .storeFailure stableEpoch =>
    some ({ target with ownerFailure := .none }, .inl (.storeLive stableEpoch))
  | .storeLive stableEpoch =>
    some ({ target with ownerLive := false }, .inl (.storeHwnd stableEpoch))
  | .storeHwnd stableEpoch =>
    some ({ target with targetHwnd := hwnd }, .inl (.addGeneration stableEpoch))
  | .addGeneration stableEpoch =>
    some ({ target with targetGeneration := (target.targetGeneration + 1) % 2 ^ 64 },
      .inl (.storeStable stableEpoch))
  | .storeStable stableEpoch =>
    some ({ target with publicationEpoch := stableEpoch + 2 }, .inl (.unlock true))
  | .unlock published => some ({ target with writer := none }, .inr published)

/-- The program points of an owner binding. -/
inductive BindPoint where
  | lock
  | compareEpoch
  | compareHwnd
  | compareGeneration
  | comparePid
  | compareOwnerGeneration
  | storeRequired
  | storeFailure
  | storeUnlive
  | storePid
  | storeGeneration
  | storeLive
  | unlock (bound : Bool)
  deriving DecidableEq, Repr

/-- One atomic step of an owner binding, absent while the mutex is held by another. -/
def bindOwnerIdentityStep (thread : ι) (hwnd : ℤ) (generation ownerPid : ℕ)
    (target : SessionTarget ι) : BindPoint → Option (SessionTarget ι × (BindPoint ⊕ Bool))
  | .lock =>
    if hwnd = 0 ∨ ownerPid = 0 then some (target, .inr false)
    else if target.writer.isSome then none
    else some ({ target with writer := some thread }, .inl .compareEpoch)
  | .compareEpoch =>
    some (target, .inl (if target.publicationEpoch % 2 ≠ 0 then .unlock false else .compareHwnd))
  | .compareHwnd =>
    some (target, .inl (if target.targetHwnd ≠ hwnd then .unlock false else .compareGeneration))
  | .compareGeneration =>
    some (target, .inl
      (if target.targetGeneration ≠ generation then .unlock false else .comparePid))
  | .comparePid =>
    some (target, .inl (if target.ownerPid ≠ 0 then .compareOwnerGeneration else .storeRequired))
  | .compareOwnerGeneration =>
    some (target, .inl
      (if target.ownerGeneration = generation then .unlock false else .storeRequired))
  | .storeRequired => some ({ target with ownerIdentityRequired := true }, .inl .storeFailure)
  | .storeFailure => some ({ target with ownerFailure := .none }, .inl .storeUnlive)
  | .storeUnlive => some ({ target with ownerLive := false }, .inl .storePid)
  | .storePid => some ({ target with ownerPid }, .inl .storeGeneration)
  | .storeGeneration => some ({ target with ownerGeneration := generation }, .inl .storeLive)
  | .storeLive => some ({ target with ownerLive := true }, .inl (.unlock true))
  | .unlock bound => some ({ target with writer := none }, .inr bound)

/-- The program points of an invalidation. -/
inductive InvalidatePoint where
  | storeFailure (failure : OwnerIdentityFailure)
  | storeLive
  deriving DecidableEq, Repr

/-- One store of an invalidation. -/
def invalidateOwnerIdentityStep (target : SessionTarget ι) :
    InvalidatePoint → SessionTarget ι × (InvalidatePoint ⊕ Unit)
  | .storeFailure failure => ({ target with ownerFailure := failure }, .inl .storeLive)
  | .storeLive => ({ target with ownerLive := false }, .inr ())

end SessionTarget

/-- A retained process object with the window and the process that it identifies. -/
structure WindowIdentityAuthority where
  hwnd : ℤ
  ownerPid : ℕ
  deriving DecidableEq, Repr

/-- What a query of the retained process object finds. -/
inductive WindowIdentityContinuity where
  | continuous
  | processTerminated
  | ownerMismatch
  | windowUnavailable
  | processIdentityMismatch
  | queryUnavailable
  deriving DecidableEq, Repr

/-- The failure with which a lost continuity invalidates the owner. -/
def WindowIdentityContinuity.failure : WindowIdentityContinuity → Option OwnerIdentityFailure
  | .continuous => Option.none
  | .processTerminated => some .processTerminated
  | .ownerMismatch => some .ownerMismatch
  | .windowUnavailable => some .windowUnavailable
  | .processIdentityMismatch => some .processIdentityMismatch
  | .queryUnavailable => some .queryUnavailable

/-- Why a window identity was not bound. -/
inductive BindWindowIdentityError where
  | targetUnavailable
  | hwndMismatch
  | identityChanged
  | notBound
  deriving DecidableEq, Repr

/-- The text of a binding error. -/
def BindWindowIdentityError.message : BindWindowIdentityError → String
  | .targetUnavailable => "target is unavailable while binding window identity"
  | .hwndMismatch => "window identity HWND does not match the published target"
  | .identityChanged => "window process identity changed during startup binding"
  | .notBound => "window identity could not bind to the current target generation"

/-- An authority with the generation that it was bound to. -/
abbrev RetainedAuthority := WindowIdentityAuthority × ℕ

/-- The session's target, and its retained authority behind the mutex of the control plane. -/
structure TargetSession (ι : Type) where
  target : SessionTarget ι
  identityLock : Option ι
  windowIdentityAuthority : Option RetainedAuthority
  deriving DecidableEq

namespace TargetSession

open SessionTarget

variable {ι : Type}

/-- The operations on the session's target. -/
inductive Op where
  | setTargetHwnd (hwnd : ℤ)
  | republishTargetGenerationForRevalidation (hwnd : ℤ)
  | bindWindowIdentityAuthority (authority : WindowIdentityAuthority)
  | pollWindowIdentityAuthority
  | closeWindowIdentityAuthority
  | ownerIdentityStatus (expectedGeneration : ℕ)
  | loadStable
  | isCurrent (hwnd : ℤ) (generation : ℕ)
  deriving DecidableEq, Repr

/-- What a stable load is for. -/
inductive LoadUse where
  | loadStable
  | isCurrent (hwnd : ℤ) (generation : ℕ)
  | bind (authority : WindowIdentityAuthority)
  | poll (retained : RetainedAuthority)
  deriving DecidableEq, Repr

/-- What a status read is for. -/
inductive StatusUse where
  | ownerIdentityStatus (expectedGeneration : ℕ)
  | poll
  deriving DecidableEq, Repr

/-- What an invalidation is for. -/
inductive InvalidateUse where
  | poll (retained : RetainedAuthority)
  | close (taken : Option RetainedAuthority)
  deriving DecidableEq, Repr

/-- The program points of all operations. -/
inductive Call where
  | publish (hwnd : ℤ) (forceGeneration : Bool) (point : PublishPoint)
  | load (use : LoadUse) (point : LoadPoint)
  | status (use : StatusUse) (point : StatusPoint)
  | invalidate (use : InvalidateUse) (point : InvalidatePoint)
  | bindLock (authority : WindowIdentityAuthority) (hwnd : ℤ) (generation : ℕ)
  | bindContinuity (authority : WindowIdentityAuthority) (hwnd : ℤ) (generation : ℕ)
  | bindOwner (authority : WindowIdentityAuthority) (hwnd : ℤ) (generation : ℕ) (point : BindPoint)
  | bindRetain (authority : WindowIdentityAuthority) (generation : ℕ)
  | bindUnlock (result : Except BindWindowIdentityError Unit)
  | pollLock
  | pollRetained
  | pollContinuity (retained : RetainedAuthority)
  | pollUnlock (answer : Bool) (invalidated : Option RetainedAuthority)
  | closeLock
  | closeTake
  | closeUnlock (taken : Option RetainedAuthority)

/-- What an operation returns. A poll is recorded with the authority that it invalidated, and a
close with the one that it took. -/
inductive Result where
  | published (published : Bool)
  | loaded (target : Option (ℤ × ℕ))
  | current (current : Bool)
  | status (status : OwnerIdentityStatus)
  | bound (result : Except BindWindowIdentityError Unit)
  | polled (answer : Bool) (invalidated : Option RetainedAuthority)
  | closed (taken : Option RetainedAuthority)

/-- Where an operation begins. -/
def Op.start : Op → Call
  | .setTargetHwnd hwnd => .publish hwnd false .lock
  | .republishTargetGenerationForRevalidation hwnd => .publish hwnd true .lock
  | .bindWindowIdentityAuthority authority => .load (.bind authority) .epochStart
  | .pollWindowIdentityAuthority => .pollLock
  | .closeWindowIdentityAuthority => .closeLock
  | .ownerIdentityStatus expectedGeneration =>
    .status (.ownerIdentityStatus expectedGeneration) .required
  | .loadStable => .load .loadStable .epochStart
  | .isCurrent hwnd generation => .load (.isCurrent hwnd generation) .epochStart

/-- The generation that a status read is for. -/
def StatusUse.expectedGeneration : StatusUse → ℕ
  | .ownerIdentityStatus expectedGeneration => expectedGeneration
  | .poll => 0

/-- What follows a stable load. -/
def loaded : LoadUse → Option (ℤ × ℕ) → Call ⊕ Result
  | .loadStable, target => .inr (.loaded target)
  | .isCurrent hwnd generation, target => .inr (.current (target = some (hwnd, generation)))
  | .bind _, none => .inr (.bound (.error .targetUnavailable))
  | .bind authority, some (hwnd, generation) =>
    if hwnd ≠ authority.hwnd ∨ authority.ownerPid = 0 then .inr (.bound (.error .hwndMismatch))
    else .inl (.bindLock authority hwnd generation)
  | .poll retained, none => .inl (.invalidate (.poll retained) (.storeFailure .processTerminated))
  | .poll retained, some target =>
    if target ≠ (retained.1.hwnd, retained.2) then .inl (.pollUnlock false none)
    else .inl (.pollContinuity retained)

/-- What follows a status read. -/
def StatusUse.read : StatusUse → OwnerIdentityStatus → Call ⊕ Result
  | .ownerIdentityStatus _, status => .inr (.status status)
  | .poll, status => .inl (.pollUnlock (status = .notRequired) none)

/-- What follows an invalidation. -/
def InvalidateUse.done : InvalidateUse → Call ⊕ Result
  | .poll retained => .inl (.pollUnlock false (some retained))
  | .close taken => .inr (.closed taken)

/-- What follows the poll's query of the process object. -/
def continuityPolled (retained : RetainedAuthority) (continuity : WindowIdentityContinuity) :
    Call :=
  match continuity.failure with
  | none => .pollUnlock true none
  | some failure => .invalidate (.poll retained) (.storeFailure failure)

/-- What follows the retained authority's read. -/
def retainedRead : Option RetainedAuthority → Call
  | none => .status .poll .required
  | some retained => .load (.poll retained) .epochStart

/-- What follows the owner binding. -/
def ownerBound (authority : WindowIdentityAuthority) (generation : ℕ) (bound : Bool) : Call :=
  if bound then .bindRetain authority generation else .bindUnlock (.error .notBound)

/-- One atomic step of an operation. The choice is what a query of the process object finds. -/
def step (thread : ι) (continuity : WindowIdentityContinuity) (call : Call)
    (session : TargetSession ι) : Option (TargetSession ι × (Call ⊕ Result)) :=
  match call with
  | .publish hwnd forceGeneration point =>
    (publishStep thread hwnd forceGeneration session.target point).map fun stepped =>
      ({ session with target := stepped.1 },
        stepped.2.map (.publish hwnd forceGeneration) .published)
  | .load use point =>
    some (session, (loadStableStep session.target point).elim (fun next => .inl (.load use next))
      (loaded use))
  | .status use point =>
    some (session, (ownerIdentityStatusStep use.expectedGeneration session.target point).elim
      (fun next => .inl (.status use next)) use.read)
  | .invalidate use point =>
    let stepped := invalidateOwnerIdentityStep session.target point
    some ({ session with target := stepped.1 },
      stepped.2.elim (fun next => .inl (.invalidate use next)) fun _ => use.done)
  | .bindLock authority hwnd generation =>
    if session.identityLock.isSome then none
    else some ({ session with identityLock := some thread },
      .inl (.bindContinuity authority hwnd generation))
  | .bindContinuity authority hwnd generation =>
    some (session, .inl (if continuity ≠ .continuous then .bindUnlock (.error .identityChanged)
      else .bindOwner authority hwnd generation .lock))
  | .bindOwner authority hwnd generation point =>
    (bindOwnerIdentityStep thread hwnd generation authority.ownerPid session.target point).map
      fun stepped => ({ session with target := stepped.1 },
        .inl (stepped.2.elim (.bindOwner authority hwnd generation)
          (ownerBound authority generation)))
  | .bindRetain authority generation =>
    some ({ session with windowIdentityAuthority := some (authority, generation) },
      .inl (.bindUnlock (.ok ())))
  | .bindUnlock result => some ({ session with identityLock := none }, .inr (.bound result))
  | .pollLock =>
    if session.identityLock.isSome then none
    else some ({ session with identityLock := some thread }, .inl .pollRetained)
  | .pollRetained => some (session, .inl (retainedRead session.windowIdentityAuthority))
  | .pollContinuity retained => some (session, .inl (continuityPolled retained continuity))
  | .pollUnlock answer invalidated =>
    some ({ session with identityLock := none }, .inr (.polled answer invalidated))
  | .closeLock =>
    if session.identityLock.isSome then none
    else some ({ session with identityLock := some thread }, .inl .closeTake)
  | .closeTake =>
    some ({ session with windowIdentityAuthority := none },
      .inl (.closeUnlock session.windowIdentityAuthority))
  | .closeUnlock taken =>
    -- the mutex is free again before the owner is invalidated
    some ({ session with identityLock := none },
      .inl (.invalidate (.close taken) (.storeFailure .processTerminated)))

/-- The calls on one session's target. -/
def protocol (ι : Type) :
    Protocol ι Op Call WindowIdentityContinuity Result (TargetSession ι) where
  start := Op.start
  step := step

/-- A session before any call. -/
def new (ι : Type) (hwnd : ℤ) (generation : ℕ) (ownerIdentityRequired : Bool) :
    TargetSession ι where
  target := SessionTarget.new ι hwnd generation ownerIdentityRequired
  identityLock := none
  windowIdentityAuthority := none

end TargetSession

end SkyAutoPlayer.Player
