import SkyAutoPlayer.Foundation.EpochRundown
import SkyAutoPlayer.Player.SystemPower

/-!
# Isolation of power callbacks

Seen through its epoch, its in-flight counter and the lifecycle mutex, the notification endpoint is
an epoch rundown. Hence a callback of a drained epoch changes nothing any more, and no callback
holds its lease when the next epoch is published.
-/

namespace SkyAutoPlayer.Player.SystemPowerState

open Foundation

variable {ι : Type}

/-- The epoch role of a lifecycle operation. -/
def LifecyclePoint.role : LifecyclePoint → EpochRole
  | .lock => .outside
  | .loadEpoch => .holding
  | .closeEpoch closedEpoch => .closing closedEpoch
  | .rundown closedEpoch => .draining closedEpoch
  | .clearState closedEpoch | .clearStartup closedEpoch | .clearBoundary closedEpoch
  | .clearSuspendCount closedEpoch | .clearResumeCount closedEpoch
  | .clearDuplicateCount closedEpoch | .drain closedEpoch | .publishEpoch closedEpoch =>
    .drained closedEpoch
  | .unlock _ => .releasing

/-- The epoch role of a program point. -/
def Call.role : Call → EpochRole
  | .enterCount _ capturedEpoch => .captured capturedEpoch
  | .enterValidate _ capturedEpoch | .backOut capturedEpoch => .counted capturedEpoch
  | .authorized _ capturedEpoch _ => .inside capturedEpoch
  | .lifecycle _ point => point.role
  | _ => .outside

/-- The epoch role of a thread. -/
def activeRole (active : Option (ActiveCall Op Call)) : EpochRole :=
  match active with
  | some active => active.call.role
  | none => .outside

/-- The endpoint as an epoch rundown. -/
def rundownOf (power : SystemPowerState ι) (role : ι → EpochRole) : EpochRundown ι :=
  ⟨power.callbackEpoch, power.callbacksInFlight, power.lifecycle, role⟩

/-- An execution as an epoch rundown. -/
def viewOf (execution : Execution ι Op Call Result (SystemPowerState ι)) : EpochRundown ι :=
  rundownOf execution.history.current fun thread => activeRole (execution.active thread)

/-- The epoch role after an outcome. -/
def outcomeRole (outcome : Call ⊕ Result) : EpochRole :=
  Sum.elim Call.role (fun _ => .outside) outcome

/-- A rundown step, or no change. -/
def StepsOrStays [DecidableEq ι] (before after : EpochRundown ι) : Prop :=
  before = after ∨ EpochRundown.Step (2 ^ 64) before after

/-- Operations begin outside the epoch. -/
theorem start_role (op : Op) : op.start.role = .outside := by cases op <;> rfl

variable [DecidableEq ι] {power : SystemPowerState ι} {role : ι → EpochRole} {thread : ι}

/-- A step that keeps the epoch, the counter, the mutex and the thread's role changes nothing. -/
theorem stays {next : SystemPowerState ι} {found : EpochRole} (hrole : role thread = found)
    (hepoch : next.callbackEpoch = power.callbackEpoch)
    (hflight : next.callbacksInFlight = power.callbacksInFlight)
    (hholder : next.lifecycle = power.lifecycle) :
    StepsOrStays (rundownOf power role) (rundownOf next (Function.update role thread found)) := by
  left
  rw [rundownOf, rundownOf, hepoch, hflight, hholder, ← hrole, Function.update_eq_self]

/-- Counting out is a rundown step. -/
theorem leaves (h : (role thread).inFlight = true) :
    StepsOrStays (rundownOf power role)
      (rundownOf { power with callbacksInFlight := fetchDecrement power.callbacksInFlight }
        (Function.update role thread .outside)) := by
  right
  have hleave := @EpochRundown.Step.leave _ _ (2 ^ 64) (rundownOf power role) thread h
  unfold fetchDecrement
  exact hleave

/-- Counting in is a rundown step. -/
theorem counts {epoch : ℕ} (h : role thread = .captured epoch) :
    StepsOrStays (rundownOf power role)
      (rundownOf { power with callbacksInFlight := fetchIncrement power.callbacksInFlight }
        (Function.update role thread (.counted epoch))) := by
  right
  have hcount := @EpochRundown.Step.count _ _ (2 ^ 64) (rundownOf power role) thread epoch h
  unfold fetchIncrement
  exact hcount

/-- A callback's step keeps its lease or leaves. -/
theorem authorized_simulates {notification : Notification} {capturedEpoch : ℕ}
    {point : AuthorizedPoint} (hrole : role thread = .inside capturedEpoch) :
    StepsOrStays (rundownOf power role)
      (rundownOf (authorizedStep notification power point).1 (Function.update role thread
        (Sum.elim (fun _ => .inside capturedEpoch) (fun _ => .outside)
          (authorizedStep notification power point).2))) := by
  cases point with
  | leave result =>
    exact leaves (by rw [hrole]; rfl)
  | countTransition => cases hsuspended : notification.suspended <;>
      simp only [authorizedStep, hsuspended] <;> exact stays hrole rfl rfl rfl
  | _ => exact stays hrole rfl rfl rfl

/-- A lifecycle operation's step is a closer's step. -/
theorem lifecycle_simulates {kind : LifecycleKind} {point : LifecyclePoint}
    {next : SystemPowerState ι} {outcome : LifecyclePoint ⊕ Bool}
    (hrole : role thread = point.role)
    (hstep : lifecycleStep thread kind power point = some (next, outcome)) :
    StepsOrStays (rundownOf power role) (rundownOf next (Function.update role thread
      (Sum.elim LifecyclePoint.role (fun _ => .outside) outcome))) := by
  cases point with
  | lock =>
    rw [lifecycleStep] at hstep
    split at hstep
    · cases hstep
    · rename_i hfree
      obtain ⟨rfl, rfl⟩ := Prod.mk.inj (Option.some.inj hstep)
      right
      have hnone : power.lifecycle = none := by simpa using hfree
      exact .lock thread hrole hnone
  | loadEpoch =>
    obtain ⟨rfl, rfl⟩ := Prod.mk.inj (Option.some.inj hstep)
    right
    exact .load thread hrole
  | closeEpoch closedEpoch =>
    obtain ⟨rfl, rfl⟩ := Prod.mk.inj (Option.some.inj hstep)
    right
    exact .close thread closedEpoch hrole
  | rundown closedEpoch =>
    obtain ⟨rfl, rfl⟩ := Prod.mk.inj (Option.some.inj hstep)
    by_cases hempty : power.callbacksInFlight = 0
    · rw [if_neg (not_not.mpr hempty)]
      right
      exact .drain thread closedEpoch hrole hempty
    · rw [if_pos hempty]
      exact stays hrole rfl rfl rfl
  | publishEpoch closedEpoch =>
    rw [lifecycleStep] at hstep
    split at hstep
    · obtain ⟨rfl, rfl⟩ := Prod.mk.inj (Option.some.inj hstep)
      right
      exact .openNext thread closedEpoch hrole
    · obtain ⟨rfl, rfl⟩ := Prod.mk.inj (Option.some.inj hstep)
      right
      exact .finish thread closedEpoch hrole
  | unlock succeeded =>
    obtain ⟨rfl, rfl⟩ := Prod.mk.inj (Option.some.inj hstep)
    right
    exact .unlock thread hrole
  | drain closedEpoch =>
    obtain ⟨rfl, rfl⟩ := Prod.mk.inj (Option.some.inj hstep)
    cases kind with
    | resetForNewSession => exact stays hrole rfl rfl rfl
    | deactivate =>
      right
      exact .finish thread closedEpoch hrole
  | clearState closedEpoch =>
    obtain ⟨rfl, rfl⟩ := Prod.mk.inj (Option.some.inj hstep)
    cases kind <;> exact stays hrole rfl rfl rfl
  | clearBoundary closedEpoch =>
    obtain ⟨rfl, rfl⟩ := Prod.mk.inj (Option.some.inj hstep)
    cases kind <;> exact stays hrole rfl rfl rfl
  | clearStartup closedEpoch | clearSuspendCount closedEpoch | clearResumeCount closedEpoch
  | clearDuplicateCount closedEpoch =>
    obtain ⟨rfl, rfl⟩ := Prod.mk.inj (Option.some.inj hstep)
    exact stays hrole rfl rfl rfl

/-- Every step of a call is a rundown step of its thread, or changes nothing. -/
theorem step_simulates {spurious : Bool} {call : Call} {next : SystemPowerState ι}
    {outcome : Call ⊕ Result} (hrole : role thread = call.role)
    (hstep : step thread spurious call power = some (next, outcome)) :
    StepsOrStays (rundownOf power role)
      (rundownOf next (Function.update role thread (outcomeRole outcome))) := by
  cases call with
  | authorized notification capturedEpoch point =>
    obtain ⟨rfl, rfl⟩ := Prod.mk.inj (Option.some.inj hstep)
    have hsimulates := @authorized_simulates _ _ power role thread notification capturedEpoch point
      hrole
    cases hpoint : (authorizedStep notification power point).2 with
    | inl later =>
      rw [hpoint] at hsimulates
      exact hsimulates
    | inr result =>
      rw [hpoint] at hsimulates
      exact hsimulates
  | lifecycle kind point =>
    obtain ⟨⟨after, later⟩, hpoint, hafter⟩ := Option.map_eq_some_iff.mp hstep
    obtain ⟨rfl, rfl⟩ := Prod.mk.inj hafter
    have hsimulates := lifecycle_simulates hrole hpoint
    cases later with
    | inl later => exact hsimulates
    | inr result => exact hsimulates
  | enter notification =>
    obtain ⟨rfl, rfl⟩ := Prod.mk.inj (Option.some.inj hstep)
    by_cases hodd : power.callbackEpoch % 2 ≠ 0
    · rw [if_pos hodd]
      exact stays hrole rfl rfl rfl
    · rw [if_neg hodd]
      right
      exact .capture thread hrole (not_not.mp hodd)
  | enterCount notification capturedEpoch =>
    obtain ⟨rfl, rfl⟩ := Prod.mk.inj (Option.some.inj hstep)
    exact counts hrole
  | enterValidate notification capturedEpoch =>
    obtain ⟨rfl, rfl⟩ := Prod.mk.inj (Option.some.inj hstep)
    by_cases hsame : power.callbackEpoch ≠ capturedEpoch
    · rw [if_pos hsame]
      exact stays hrole rfl rfl rfl
    · rw [if_neg hsame]
      obtain rfl := not_not.mp hsame
      right
      exact .validate thread hrole
  | backOut capturedEpoch =>
    obtain ⟨rfl, rfl⟩ := Prod.mk.inj (Option.some.inj hstep)
    exact leaves (by rw [hrole]; rfl)
  | move source target ready armed =>
    obtain ⟨rfl, rfl⟩ := Prod.mk.inj (Option.some.inj hstep)
    unfold moveLoaded
    split <;> exact stays hrole rfl rfl rfl
  | moveExchange current replacement =>
    obtain ⟨rfl, rfl⟩ := Prod.mk.inj (Option.some.inj hstep)
    exact stays hrole rfl rfl rfl
  | cancel reason =>
    obtain ⟨rfl, rfl⟩ := Prod.mk.inj (Option.some.inj hstep)
    unfold cancelLoaded
    split_ifs <;> exact stays hrole rfl rfl rfl
  | cancelExchange reason current cancelled =>
    obtain ⟨rfl, rfl⟩ := Prod.mk.inj (Option.some.inj hstep)
    unfold exchangeStartupWeak
    split_ifs <;> exact stays hrole rfl rfl rfl
  | fail reason =>
    obtain ⟨rfl, rfl⟩ := Prod.mk.inj (Option.some.inj hstep)
    unfold failLoaded
    split_ifs <;> exact stays hrole rfl rfl rfl
  | failExchange reason current failed =>
    obtain ⟨rfl, rfl⟩ := Prod.mk.inj (Option.some.inj hstep)
    unfold exchangeStartupWeak
    split_ifs <;> exact stays hrole rfl rfl rfl
  | snapshot =>
    obtain ⟨rfl, rfl⟩ := Prod.mk.inj (Option.some.inj hstep)
    exact stays hrole rfl rfl rfl
  | downBlocked =>
    obtain ⟨rfl, rfl⟩ := Prod.mk.inj (Option.some.inj hstep)
    exact stays hrole rfl rfl rfl

variable {before after execution : Execution ι Op Call Result (SystemPowerState ι)}

/-- The roles after one thread's call changes. -/
theorem activeRole_update (active : ι → Option (ActiveCall Op Call)) (thread : ι)
    (call : Option (ActiveCall Op Call)) :
    (fun other => activeRole (Function.update active thread call other)) =
      Function.update (fun other => activeRole (active other)) thread (activeRole call) := by
  funext other
  by_cases hother : other = thread
  · subst hother
    rw [Function.update_self, Function.update_self]
  · rw [Function.update_of_ne hother, Function.update_of_ne hother]

/-- Every move is a rundown step, or changes nothing. -/
theorem move_simulates {move : Move ι Op Bool}
    (h : (protocol ι).move before move = some after) :
    StepsOrStays (viewOf before) (viewOf after) := by
  cases move with
  | invoke thread op =>
    obtain ⟨hidle, rfl⟩ := Protocol.move_invoke h
    left
    rw [viewOf, viewOf, Execution.invoke, activeRole_update]
    have hrole : activeRole (before.active thread) = activeRole (some ⟨op, before.history.now,
        (protocol ι).start op⟩) := by
      rw [hidle]
      exact (start_role op).symm
    rw [← hrole, Function.update_eq_self]
  | advance thread choice =>
    obtain ⟨active, ⟨next, outcome⟩, hactive, hstep, rfl⟩ := Protocol.move_advance h
    have hrole : (fun other => activeRole (before.active other)) thread = active.call.role :=
      congrArg activeRole hactive
    have hsimulates := @step_simulates ι _ before.history.current
      (fun other => activeRole (before.active other)) thread choice active.call next outcome
      hrole hstep
    cases outcome with
    | inl call =>
      rw [viewOf, viewOf, Execution.record, activeRole_update]
      exact hsimulates
    | inr result =>
      rw [viewOf, viewOf, Execution.record, activeRole_update]
      exact hsimulates

variable [Fintype ι]

omit [DecidableEq ι] in
/-- An endpoint without callbacks or lifecycle operations is sound. -/
theorem initial_sound (hflight : power.callbacksInFlight = 0) :
    (viewOf (Execution.initial power : Execution ι Op Call Result _)).Sound where
  count := by
    have hnone : EpochRundown.flying (fun _ : ι => EpochRole.outside) = ∅ := by
      ext thread
      simp [EpochRundown.mem_flying, EpochRole.inFlight]
    change power.callbacksInFlight = (EpochRundown.flying (fun _ : ι => EpochRole.outside)).card
    rw [hnone, hflight]
    rfl
  holder _ h := by cases h
  even _ _ h := by rcases h with h | h | h <;> cases h
  inside _ _ h := by cases h
  closing _ _ h := by cases h
  closed _ _ h := by rcases h with h | h <;> cases h
  drained _ _ h := by cases h

/-- A run keeps the rundown sound, and an epoch drained. -/
theorem run_simulates (hthreads : Fintype.card ι < 2 ^ 64) {moves : List (Move ι Op Bool)}
    (hrun : (protocol ι).run execution moves = some after) (h : (viewOf execution).Sound) :
    (viewOf after).Sound ∧
      ∀ closed, (viewOf execution).Drained closed → (viewOf after).Drained closed := by
  have hinvariant := Protocol.run_invariant (P := fun reached => (viewOf reached).Sound ∧
    ∀ closed, (viewOf execution).Drained closed → (viewOf reached).Drained closed)
    (fun before move after _ hbefore hmove => ?_) hrun ⟨h, fun _ hdrained => hdrained⟩
  · exact hinvariant
  · obtain ⟨hsound, hdrained⟩ := hbefore
    rcases move_simulates hmove with hsame | hstep
    · rw [← hsame]
      exact ⟨hsound, hdrained⟩
    · exact ⟨hsound.step hthreads hstep, fun closed hclosed =>
        (hdrained closed hclosed).step hsound hstep⟩

omit [DecidableEq ι] [Fintype ι]

/-- The epoch that a callback captured. -/
def Call.capturedEpoch : Call → Option ℕ
  | .enterCount _ capturedEpoch | .enterValidate _ capturedEpoch | .backOut capturedEpoch
  | .authorized _ capturedEpoch _ => some capturedEpoch
  | _ => none

/-- What a callback may change besides its own admission: the suspend state, the startup word, the
boundary, the counters and the event. -/
structure SameNotification (before after : SystemPowerState ι) : Prop where
  state : after.state = before.state
  startupState : after.startupState = before.startupState
  suspendBoundaryQpc : after.suspendBoundaryQpc = before.suspendBoundaryQpc
  suspendCount : after.suspendCount = before.suspendCount
  resumeCount : after.resumeCount = before.resumeCount
  duplicateCount : after.duplicateCount = before.duplicateCount
  interruptSignaled : after.interruptSignaled = before.interruptSignaled

/-- A callback without its lease changes nothing but its own admission. -/
theorem step_same_of_outside {thread : ι} {spurious : Bool} {call : Call}
    {next : SystemPowerState ι} {outcome : Call ⊕ Result} {captured : ℕ}
    (hcaptured : call.capturedEpoch = some captured)
    (hlease : ∀ epoch, call.role ≠ .inside epoch)
    (hstep : step thread spurious call power = some (next, outcome)) :
    SameNotification power next := by
  cases call with
  | authorized notification epoch point => exact absurd rfl (hlease epoch)
  | enterCount notification epoch =>
    obtain ⟨rfl, rfl⟩ := Prod.mk.inj (Option.some.inj hstep)
    exact ⟨rfl, rfl, rfl, rfl, rfl, rfl, rfl⟩
  | enterValidate notification epoch =>
    obtain ⟨rfl, rfl⟩ := Prod.mk.inj (Option.some.inj hstep)
    exact ⟨rfl, rfl, rfl, rfl, rfl, rfl, rfl⟩
  | backOut epoch =>
    obtain ⟨rfl, rfl⟩ := Prod.mk.inj (Option.some.inj hstep)
    exact ⟨rfl, rfl, rfl, rfl, rfl, rfl, rfl⟩
  | _ => cases hcaptured

/-- In every run, no callback holds its lease when a lifecycle operation is past its rundown, and
after the rundown no callback that captured an earlier epoch changes the suspend state, the startup
word, the boundary, the counters or the event. -/
theorem callbacks_isolated [DecidableEq ι] [Fintype ι] (hthreads : Fintype.card ι < 2 ^ 64)
    {power : SystemPowerState ι} (hflight : power.callbacksInFlight = 0)
    {moves : List (Move ι Op Bool)} {execution : Execution ι Op Call Result (SystemPowerState ι)}
    (hrun : (protocol ι).run (Execution.initial power) moves = some execution) :
    (∀ thread active kind point closed, execution.active thread = some active →
      active.call = .lifecycle kind point → point.role = .drained closed →
      ∀ other callback notification captured authorized, execution.active other = some callback →
        callback.call ≠ .authorized notification captured authorized) ∧
    (∀ thread active kind closed choice drained, execution.active thread = some active →
      active.call = .lifecycle kind (.rundown closed) →
      execution.history.current.callbacksInFlight = 0 →
      (protocol ι).move execution (.advance thread choice) = some drained →
      ∀ laterMoves later, (protocol ι).run drained laterMoves = some later →
      ∀ other callback captured choice after, later.active other = some callback →
        callback.call.capturedEpoch = some captured → captured ≤ closed →
        (protocol ι).move later (.advance other choice) = some after →
        SameNotification later.history.current after.history.current) := by
  have hsound := (run_simulates hthreads hrun (initial_sound hflight)).1
  refine ⟨fun thread active kind point closed hactive hcall hrole other callback notification
    captured authorized hother hlease => ?_, fun thread active kind closed choice drained hactive
    hcall hempty hdrain laterMoves later hlater other callback captured spurious after hother
    hcaptured hle hmove => ?_⟩
  · have hdrained : (viewOf execution).role thread = .drained closed := by
      change activeRole (execution.active thread) = _
      rw [hactive, ← hrole]
      exact congrArg Call.role hcall
    refine hsound.drained thread closed hdrained other captured ?_
    change activeRole (execution.active other) = _
    rw [hother]
    exact congrArg Call.role hlease
  · have hdraining : (viewOf execution).role thread = .draining closed := by
      change activeRole (execution.active thread) = _
      rw [hactive]
      exact congrArg Call.role hcall
    have hmoves : (protocol ι).run execution [.advance thread choice] = some drained := by
      rw [Protocol.run, List.foldlM_cons, hdrain]
      rfl
    have hnext := run_simulates hthreads hmoves hsound
    have hdrained := (run_simulates hthreads hlater hnext.1).2 closed
      (hnext.2 closed (hsound.drained_of_empty hdraining hempty))
    obtain ⟨current, ⟨next, outcome⟩, hcurrent, hstep, rfl⟩ := Protocol.move_advance hmove
    obtain rfl : callback = current := Option.some.inj (hother.symm.trans hcurrent)
    have hsame := step_same_of_outside hcaptured (fun epoch hinside => ?_) hstep
    · cases outcome <;> exact hsame
    · -- a lease would be of a later epoch than the drained one
      have hrole : (viewOf later).role other = .inside epoch := by
        change activeRole (later.active other) = _
        rw [hother]
        exact hinside
      have hlt := hdrained.inside other epoch hrole
      have hsameEpoch : captured = epoch := by
        cases hcall : callback.call <;> rw [hcall] at hcaptured hinside <;>
          simp_all [Call.capturedEpoch, Call.role]
      omega

/-- The endpoint after the first session's epoch was published. -/
def publishedEndpoint : SystemPowerState (Fin 2) where
  state := 0#8
  startupState := startupWord .idle .none false false
  callbackEpoch := 2
  callbacksInFlight := 0
  lifecycle := none
  suspendBoundaryQpc := 0
  suspendCount := 0
  resumeCount := 0
  duplicateCount := 0
  interruptSignaled := false

/-- A callback captures the old epoch just before a reset closes it. -/
def stragglerMoves : List (Move (Fin 2) Op Bool) :=
  [.invoke 1 (.notify ⟨true, some 7⟩), .advance 1 false, .invoke 0 (.lifecycle .resetForNewSession),
    .advance 0 false, .advance 0 false, .advance 0 false]

/-- The straggler changes nothing of the new session. -/
theorem stragglerMoves_isolated : ∃ execution drained after,
    (protocol (Fin 2)).run (Execution.initial publishedEndpoint) stragglerMoves = some execution ∧
    (protocol (Fin 2)).move execution (.advance 0 false) = some drained ∧
    (protocol (Fin 2)).move drained (.advance 1 false) = some after ∧
    SameNotification drained.history.current after.history.current := by
  obtain ⟨execution, hrun⟩ := Option.isSome_iff_exists.mp (show ((protocol (Fin 2)).run
    (Execution.initial publishedEndpoint) stragglerMoves).isSome = true by decide +kernel)
  obtain ⟨drained, hdrain⟩ := Option.isSome_iff_exists.mp (show ((protocol (Fin 2)).move execution
    (.advance 0 false)).isSome = true by
      obtain rfl := Option.some.inj hrun
      decide +kernel)
  obtain ⟨after, hafter⟩ := Option.isSome_iff_exists.mp (show ((protocol (Fin 2)).move drained
    (.advance 1 false)).isSome = true by
      obtain rfl := Option.some.inj hrun
      obtain rfl := Option.some.inj hdrain
      decide +kernel)
  have hisolated := (callbacks_isolated (by decide) rfl hrun).2
  refine ⟨execution, drained, after, hrun, hdrain, hafter, ?_⟩
  obtain rfl := Option.some.inj hrun
  exact hisolated 0 _ _ 3 false drained rfl rfl rfl hdrain [] drained rfl 1 _ 2 false after
    (by obtain rfl := Option.some.inj hdrain; rfl) rfl (by decide) hafter

end SkyAutoPlayer.Player.SystemPowerState
