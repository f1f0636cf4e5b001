import SkyAutoPlayer.Player.CommandWakeups

/-!
# No command is slept through

A command that the worker has not read since it was stored still has its signal in the event, or the
worker is on its way to read the cell: a signal is consumed only where the wait is woken, and a wait that is
woken returns to a pass that reads every cell. Within a wait a signal that comes after the last attempt to
take the event stays in the event, and its count is above the sampled generation. The one way to lose the
second is to sample the generation again after such a signal.
-/

namespace SkyAutoPlayer.Player

open Foundation DispatchWin32

namespace Wakeups

variable {Call : Type} {cell : Call → ControlCell} {requireFocus : Bool}
  {start state after : Wakeups Call} {moves : List (WakeMove Call)} {move : WakeMove Call}

/-- The cells that the worker reads before it may wait again. -/
def readsAhead (requireFocus : Bool) : LoopPoint → List ControlCell
  | .reading left => left
  | .waiting _ _ (.woken _ _) | .returned _ _ _ | .draining | .finished => controlReads requireFocus
  | .waiting _ _ _ => []

/-- A command has its signal in the event or its cell is read in time, unless it is read already. -/
def SoundCall (requireFocus : Bool) (event : OwnedEvent) (ahead : List ControlCell)
    (stored : ControlCell) (command : CommandCall) : Prop :=
  ∀ takes, command.point.takes = some takes → takes ≤ event.takeCount ∧
    (stored ∈ controlReads requireFocus → command.read = false →
      event.signalled = true ∨ stored ∈ ahead)

/-- What the commands and the results of the waits can rely on. -/
structure Sound (cell : Call → ControlCell) (requireFocus : Bool) (state : Wakeups Call) : Prop where
  calls : ∀ call, SoundCall requireFocus state.event (readsAhead requireFocus state.worker) (cell call)
    (state.calls call)
  sampled : state.ResultSampled

/-- A command is sound if the event keeps its signal, the takes grow and no read ahead is dropped. -/
theorem SoundCall.mono {event later : OwnedEvent} {ahead further : List ControlCell}
    {stored : ControlCell} {command : CommandCall}
    (h : SoundCall requireFocus event ahead stored command) (htakes : event.takeCount ≤ later.takeCount)
    (hsignal : event.signalled = true →
      later.signalled = true ∨ ∀ cell ∈ controlReads requireFocus, cell ∈ further)
    (hahead : ∀ cell ∈ ahead, cell ∈ controlReads requireFocus → cell ∈ further) :
    SoundCall requireFocus later further stored command := by
  intro takes hcommand
  obtain ⟨hle, hunread⟩ := h takes hcommand
  refine ⟨Nat.le_trans hle htakes, ?_⟩
  intro hstored hread
  cases hunread hstored hread with
  | inl hset =>
    cases hsignal hset with
    | inl hkept => exact .inl hkept
    | inr hall => exact .inr (hall stored hstored)
  | inr hmem => exact .inr (hahead stored hmem hstored)

/-! ## The worker -/

/-- Before the next wait a woken worker reads every cell. -/
theorem readsAhead_settle (result : WaitResult) (drains : Bool) :
    readsAhead requireFocus
      (match result.outcome with
        | .deadline => .reading (controlReads requireFocus)
        | .interrupted => if drains then .draining else .reading (controlReads requireFocus)
        | .failed => .finished) = controlReads requireFocus := by
  cases result.outcome with
  | deadline => rfl
  | interrupted => cases drains <;> rfl
  | failed => rfl

/-- A worker that goes on to read every cell keeps the commands sound, whatever it takes. -/
theorem sound_ahead (h : Sound cell requireFocus state) {event : OwnedEvent} {sample : ℕ}
    {point : LoopPoint} (htakes : state.event.takeCount ≤ event.takeCount)
    (hahead : readsAhead requireFocus point = controlReads requireFocus)
    (hsampled : ∀ request drains result, point = .returned request drains result →
      result.Sampled request sample) :
    Sound cell requireFocus { state with event := event, lastSample := sample, worker := point } := by
  constructor
  case sampled => exact hsampled
  case calls =>
    intro call
    apply (h.calls call).mono htakes
    · intro _
      rw [hahead]
      exact .inr fun _ hmem => hmem
    · intro _ _ hmem
      rw [hahead]
      exact hmem

/-- A worker that reads a cell keeps the commands sound. -/
theorem sound_read {found : ControlCell} {left : List ControlCell} (h : Sound cell requireFocus state)
    (hworker : state.worker = .reading (found :: left)) :
    Sound cell requireFocus { state.readCell cell found with worker := .reading left } := by
  constructor
  case sampled =>
    intro request drains result hreturned
    cases hreturned
  case calls =>
    intro call takes hcall
    have hcalls := h.calls call takes
    rw [hworker] at hcalls
    simp only [readCell, afterRead] at hcall ⊢
    split at hcall
    case isTrue hread =>
      obtain ⟨hle, -⟩ := hcalls hcall
      refine ⟨hle, ?_⟩
      rw [if_pos hread]
      intro _ hunread
      cases hunread
    case isFalse hother =>
      obtain ⟨hle, hunread⟩ := hcalls hcall
      refine ⟨hle, ?_⟩
      rw [if_neg hother]
      intro hstored hfalse
      apply (hunread hstored hfalse).imp_right
      intro hmem
      have hne : cell call ≠ found := by
        intro heq
        apply hother ⟨heq, _⟩
        intro hidle
        rw [hidle] at hcall
        cases hcall
      exact List.mem_of_ne_of_mem hne hmem

/-- A wait keeps the commands sound. -/
theorem sound_wait {request : WaitRequest} {drains : Bool} {point : WaitPoint} {answer : WaitAnswer}
    {event : OwnedEvent} {sample : ℕ} {reply : WaitPoint ⊕ WaitResult} (h : Sound cell requireFocus state)
    (hworker : state.worker = .waiting request drains point)
    (hstep : waitStep request state.event state.lastSample point answer = some (event, sample, reply)) :
    Sound cell requireFocus { state with
      event := event, lastSample := sample
      worker := reply.elim (.waiting request drains) (.returned request drains) } := by
  have htakes := waitStep_takeCount hstep
  cases reply with
  | inr result =>
    apply sound_ahead h htakes rfl
    intro found drains result hreturned
    cases hreturned
    exact (waitStep_result hstep).1
  | inl next =>
    cases waitStep_signalled hstep with
    | inr hwoken =>
      obtain ⟨started, evidence, heq⟩ := hwoken
      rw [heq]
      apply sound_ahead h htakes rfl
      intro _ _ _ hreturned
      cases hreturned
    | inl hsignal =>
      constructor
      case sampled =>
        intro _ _ _ hreturned
        cases hreturned
      case calls =>
        intro call
        apply (h.calls call).mono htakes
        · intro hset
          rw [hsignal]
          exact .inl hset
        · intro stored hmem _
          have hnone : readsAhead requireFocus (.waiting request drains point) = [] := by
            cases point with
            | woken started evidence =>
              exact absurd rfl (ne_woken_of_continues hstep started evidence)
            | _ => rfl
          rw [hworker, hnone] at hmem
          cases hmem

/-- At the beginning of a pass every command is sound. -/
theorem sound_of_starts (h : Starts requireFocus state) : Sound cell requireFocus state := by
  constructor
  case sampled =>
    intro request drains result hreturned
    rw [h.worker] at hreturned
    cases hreturned
  case calls =>
    intro call takes hcall
    refine ⟨h.takes call takes hcall, ?_⟩
    intro hstored _
    rw [h.worker]
    exact .inr hstored

/-- Sound commands are read while the worker is blocked. -/
theorem commandsRead_of_sound (h : Sound cell requireFocus state) :
    CommandsRead cell requireFocus state := by
  intro hblocked call takes hstored hcall
  obtain ⟨request, drains, observed, started, hworker, hunset⟩ := hblocked
  have htakes : (state.calls call).point.takes = some takes := by
    rw [hcall]
    rfl
  by_contra hunread
  cases (h.calls call takes htakes).2 hstored (Bool.eq_false_of_not_eq_true hunread) with
  | inl hset =>
    rw [hset] at hunset
    cases hunset
  | inr hmem =>
    rw [hworker] at hmem
    cases hmem

/-! ## Late signals -/

/-- The wait has tried to take the event. -/
def tried : WaitPoint → Bool
  | .sampleGeneration | .firstTake _ | .woken _ _ => false
  | .sampleAgain _ | .secondTake | .resample | .check _ _ | .arm _ _ | .kernel _ _ | .spin _ _ _
  | .poll _ _ _ _ => true

/-- A wait that watches has tried. -/
theorem tried_of_watches {point : WaitPoint} (h : point.watches = true) : tried point = true := by
  cases point <;> simp_all [WaitPoint.watches, tried]

/-- A wait does not lose sight of the signals after its last attempt to take the event. -/
structure Watched (calls : Call → CommandCall) (event : OwnedEvent) (point : WaitPoint) : Prop where
  signalled : tried point = true →
    ∀ call, (calls call).point.takes = some event.takeCount → event.signalled = true
  counted : ∀ observed, point.observed = some observed →
    observed ≤ event.signals ∧ event.signals < observed + 2 ^ 64
  late : tried point = true → ∀ observed, point.observed = some observed →
    ∀ call, (calls call).point = .completed event.takeCount → observed < event.signals

/-- An operation of a wait after which it goes on keeps the signals in sight, if it does not sample the
generation again after a late signal. -/
theorem watched_wait {calls : Call → CommandCall} {request : WaitRequest} {event later : OwnedEvent}
    {lastSample sample : ℕ} {point next : WaitPoint} {answer : WaitAnswer}
    (htakes : ∀ call takes, (calls call).point.takes = some takes → takes ≤ event.takeCount)
    (hwatched : Watched calls event point)
    (hresample : point = .resample → ∀ call, (calls call).point ≠ .completed event.takeCount)
    (hstep : waitStep request event lastSample point answer = some (later, sample, .inl next)) :
    Watched calls later next := by
  have hnone : ∀ call, (calls call).point.takes ≠ some (event.takeCount + 1) := by
    intro call hcall
    have hle := htakes call _ hcall
    omega
  have hnew : ∀ call, (calls call).point ≠ .completed (event.takeCount + 1) := by
    intro call hcall
    apply hnone call
    rw [hcall]
    rfl
  obtain ⟨rfl, rfl, rfl⟩ | ⟨observed, rfl, rfl, rfl, -⟩ | ⟨observed, rfl, rfl, rfl⟩ |
    ⟨observed, rfl, rfl, rfl⟩ | ⟨rfl, rfl, rfl, -⟩ | ⟨rfl, rfl, rfl⟩ | ⟨hpoint, hnext, hobserved, rfl⟩ |
    ⟨started, evidence, rfl, -⟩ := waitStep_continues hstep
  -- the first sample, the first take and the sample after it
  · exact ⟨nofun, fun _ heq => Option.some.inj heq ▸ ⟨Nat.le_refl _, by omega⟩, nofun⟩
  · exact ⟨fun _ call hcall => absurd hcall (hnone call), hwatched.counted,
      fun _ _ _ call hcall => absurd hcall (hnew call)⟩
  · exact ⟨hwatched.signalled, hwatched.counted, hwatched.late⟩
  · exact ⟨hwatched.signalled, nofun, nofun⟩
  -- the second take and the sample after it
  · exact ⟨fun _ call hcall => absurd hcall (hnone call), nofun, nofun⟩
  · exact ⟨hwatched.signalled, fun _ heq => Option.some.inj heq ▸ ⟨Nat.le_refl _, by omega⟩,
      fun _ _ _ call hcall => absurd hcall (hresample rfl call)⟩
  -- the watch itself, and its end
  · have htried := tried_of_watches hpoint
    constructor
    case signalled => exact fun _ => hwatched.signalled htried
    case counted =>
      rw [hobserved]
      exact hwatched.counted
    case late =>
      intro _
      rw [hobserved]
      exact hwatched.late htried
  · exact ⟨nofun, nofun, nofun⟩

/-- The signals of the wait that is under way are in sight. -/
def InSight (state : Wakeups Call) : Prop :=
  ∀ request drains point, state.worker = .waiting request drains point →
    Watched state.calls state.event point

/-- A worker that does not wait has no signal to keep in sight. -/
theorem inSight_of_not_waiting {event : OwnedEvent} {sample : ℕ} {calls : Call → CommandCall}
    {worker : LoopPoint} (h : ∀ request drains point, worker ≠ .waiting request drains point) :
    InSight ⟨event, sample, calls, worker⟩ :=
  fun request drains point hworker => absurd hworker (h request drains point)

/-! ## The moves -/

variable [DecidableEq Call]

/-- An operation of the worker keeps the commands sound. -/
theorem sound_worker {own : LoopMove} (h : Sound cell requireFocus state)
    (hstep : step cell requireFocus state (.worker own) = some after) :
    Sound cell requireFocus after := by
  simp only [step] at hstep
  generalize hworker : state.worker = point at hstep
  unfold workerStep at hstep
  split at hstep
  case h_1 found left =>
    obtain rfl := Option.some.inj hstep
    exact sound_read h hworker
  case h_2 left =>
    obtain rfl := Option.some.inj hstep
    exact sound_ahead h (Nat.le_refl _) rfl nofun
  case h_3 =>
    obtain rfl := Option.some.inj hstep
    exact sound_ahead h (Nat.le_refl _) rfl nofun
  case h_4 request drains =>
    obtain rfl := Option.some.inj hstep
    constructor
    case sampled =>
      intro _ _ _ hreturned
      cases hreturned
    case calls =>
      intro call
      apply (h.calls call).mono (Nat.le_refl _) .inl
      intro stored hmem _
      rw [hworker] at hmem
      cases hmem
  case h_5 request drains point answer =>
    obtain ⟨reply, hreply, rfl⟩ := Option.map_eq_some_iff.mp hstep
    exact sound_wait h hworker hreply
  case h_6 request drains result =>
    obtain rfl := Option.some.inj hstep
    apply sound_ahead h (Nat.le_refl _) (readsAhead_settle result drains)
    intro _ _ _ hreturned
    cases houtcome : result.outcome <;> rw [houtcome] at hreturned
    case interrupted => cases drains <;> cases hreturned
    all_goals cases hreturned
  case h_7 =>
    obtain rfl := Option.some.inj hstep
    exact sound_ahead h (Nat.le_refl _) rfl nofun
  case h_8 =>
    obtain rfl := Option.some.inj hstep
    exact sound_ahead h (Nat.le_succ _) rfl nofun
  case h_9 => cases hstep

/-- A step of a sender keeps the commands sound. -/
theorem sound_sender {call : Call} {event : OwnedEvent} {command : CommandCall}
    (h : Sound cell requireFocus state) (htakes : state.event.takeCount = event.takeCount)
    (hsignal : state.event.signalled = true → event.signalled = true)
    (hcommand : SoundCall requireFocus event (readsAhead requireFocus state.worker) (cell call) command) :
    Sound cell requireFocus
      { state with event := event, calls := Function.update state.calls call command } := by
  constructor
  case sampled => exact h.sampled
  case calls =>
    intro other
    simp only [Function.update_apply]
    split
    case isTrue heq =>
      rw [heq]
      exact hcommand
    case isFalse =>
      exact (h.calls other).mono (Nat.le_of_eq htakes) (fun hset => .inl (hsignal hset))
        fun _ hmem _ => hmem

/-- A command is stored before its signal, which is there once the event is set. -/
theorem sound_call (h : Sound cell requireFocus state)
    (hstep : step cell requireFocus state move = some after) (hsender : ∀ own, move ≠ .worker own) :
    Sound cell requireFocus after := by
  cases move with
  | worker own => exact absurd rfl (hsender own)
  | store call =>
    simp only [step, Option.ite_none_right_eq_some, Option.some.injEq] at hstep
    obtain ⟨-, rfl⟩ := hstep
    apply sound_sender h
    · rfl
    · exact id
    · intro takes hidle
      cases hidle
  | set call =>
    simp only [step, Option.ite_none_right_eq_some, Option.some.injEq] at hstep
    obtain ⟨-, rfl⟩ := hstep
    apply sound_sender h
    · rfl
    · intro _
      rfl
    · intro takes hset
      obtain rfl := Option.some.inj hset
      exact ⟨Nat.le_refl _, fun _ _ => .inl rfl⟩
  | count call =>
    simp only [step] at hstep
    split at hstep
    case h_2 | h_3 | h_4 => cases hstep
    case h_1 takes hset =>
      obtain rfl := Option.some.inj hstep
      apply sound_sender h
      · rfl
      · exact id
      · have hbefore := h.calls call
        unfold SoundCall at hbefore ⊢
        rw [hset] at hbefore
        exact hbefore

/-- Every move keeps the commands sound. -/
theorem sound_step (h : Sound cell requireFocus state)
    (hstep : step cell requireFocus state move = some after) : Sound cell requireFocus after := by
  cases move with
  | worker own => exact sound_worker h hstep
  | store call => exact sound_call h hstep nofun
  | set call => exact sound_call h hstep nofun
  | count call => exact sound_call h hstep nofun

/-- A step of a sender keeps the signals in sight, if the generation does not come around. -/
theorem inSight_call (h : InSight state) (hcovered : Covered state move)
    (hstep : step cell requireFocus state move = some after) (hsender : ∀ own, move ≠ .worker own) :
    InSight after := by
  cases move with
  | worker own => exact absurd rfl (hsender own)
  | store call =>
    simp only [step, Option.ite_none_right_eq_some, Option.some.injEq] at hstep
    obtain ⟨-, rfl⟩ := hstep
    intro request drains point hworker
    have hwatched := h request drains point hworker
    constructor
    case signalled =>
      intro htried other
      simp only [Function.update_apply]
      split
      · intro hcall
        cases hcall
      · exact hwatched.signalled htried other
    case counted => exact hwatched.counted
    case late =>
      intro htried observed hobserved other
      simp only [Function.update_apply]
      split
      · intro hcall
        cases hcall
      · exact hwatched.late htried observed hobserved other
  | set call =>
    simp only [step, Option.ite_none_right_eq_some, Option.some.injEq] at hstep
    obtain ⟨-, rfl⟩ := hstep
    intro request drains point hworker
    have hwatched := h request drains point hworker
    constructor
    case signalled =>
      intro _ _ _
      rfl
    case counted => exact hwatched.counted
    case late =>
      intro htried observed hobserved other
      simp only [Function.update_apply]
      split
      · intro hcall
        cases hcall
      · exact hwatched.late htried observed hobserved other
  | count call =>
    simp only [step] at hstep
    split at hstep
    case h_2 | h_3 | h_4 => cases hstep
    case h_1 takes hset =>
      obtain rfl := Option.some.inj hstep
      intro request drains point hworker
      have hwatched := h request drains point hworker
      have hcount : ∀ observed, point.observed = some observed →
          state.event.signals + 1 < observed + 2 ^ 64 := by
        have hpoint : state.worker = .waiting request drains point := hworker
        unfold Covered at hcovered
        simp only [hpoint] at hcovered
        exact hcovered
      constructor
      case signalled =>
        intro htried other
        simp only [Function.update_apply]
        split
        case isTrue =>
          intro hcall
          apply hwatched.signalled htried call
          rw [hset]
          exact hcall
        case isFalse => exact hwatched.signalled htried other
      case counted =>
        intro observed hobserved
        have hle := (hwatched.counted observed hobserved).1
        exact ⟨Nat.le_succ_of_le hle, hcount observed hobserved⟩
      case late =>
        intro _ observed hobserved _ _
        exact Nat.lt_succ_of_le (hwatched.counted observed hobserved).1

/-- An operation of the worker keeps the signals in sight. -/
theorem inSight_worker {own : LoopMove} (hsound : Sound cell requireFocus state) (h : InSight state)
    (hcovered : Covered state (.worker own))
    (hstep : step cell requireFocus state (.worker own) = some after) : InSight after := by
  simp only [step] at hstep
  generalize hworker : state.worker = point at hstep
  unfold workerStep at hstep
  split at hstep
  case h_4 request drains =>
    obtain rfl := Option.some.inj hstep
    intro _ _ point hpoint
    cases hpoint
    exact ⟨nofun, nofun, nofun⟩
  case h_5 request drains point answer =>
    obtain ⟨⟨event, sample, reply⟩, hreply, rfl⟩ := Option.map_eq_some_iff.mp hstep
    cases reply with
    | inr result => exact inSight_of_not_waiting nofun
    | inl next =>
      intro _ _ _ hpoint
      cases hpoint
      apply watched_wait (fun call takes hcall => (hsound.calls call takes hcall).1)
        (h request drains point hworker) _ hreply
      intro heq
      unfold Covered at hcovered
      rw [heq] at hworker
      simp only [hworker] at hcovered
      exact hcovered
  case h_6 request drains result =>
    obtain rfl := Option.some.inj hstep
    apply inSight_of_not_waiting
    intro _ _ _ hpoint
    cases houtcome : result.outcome <;> rw [houtcome] at hpoint
    case interrupted => cases drains <;> cases hpoint
    all_goals cases hpoint
  case h_9 => cases hstep
  all_goals
    obtain rfl := Option.some.inj hstep
    exact inSight_of_not_waiting nofun

/-- A move that is covered keeps the signals in sight. -/
theorem inSight_step (hsound : Sound cell requireFocus state) (h : InSight state)
    (hcovered : Covered state move) (hstep : step cell requireFocus state move = some after) :
    InSight after := by
  cases move with
  | worker own => exact inSight_worker hsound h hcovered hstep
  | store call => exact inSight_call h hcovered hstep nofun
  | set call => exact inSight_call h hcovered hstep nofun
  | count call => exact inSight_call h hcovered hstep nofun

/-! ## Runs -/

/-- Signals in sight wake the worker. -/
theorem signalWakes_of_inSight (h : InSight state) : SignalWakes cell requireFocus state := by
  intro hlate
  obtain ⟨request, drains, point, hworker, hafter, call, hcall⟩ := hlate
  have hwatched := h request drains point hworker
  have htried : tried point = true := by
    unfold WaitPoint.afterTakes at hafter
    cases point <;> simp_all [WaitPoint.watches, tried]
  have htakes : (state.calls call).point.takes = some state.event.takeCount := by
    rw [hcall]
    rfl
  have hset := hwatched.signalled htried call htakes
  refine ⟨hset, ?_⟩
  intro found drained observed started answer after hstep
  simp only [step] at hstep
  constructor
  · intro iterations now hpoll hfirst
    rw [hpoll] at hworker hstep
    cases hworker
    have hgeneration : generation state.event.signals ≠ generation observed :=
      generation_ne (hwatched.late rfl observed rfl call hcall) (hwatched.counted observed rfl).2
    cases answer <;> simp only [workerStep, waitStep, Option.map_none, reduceCtorEq] at hstep
    case proceed =>
      obtain rfl := Option.some.inj hstep
      simp [hfirst, hgeneration]
  · intro hkernel htimer
    rw [hkernel] at hworker hstep
    cases hworker
    cases answer <;> simp only [workerStep, waitStep, Option.map_none, reduceCtorEq] at hstep
    case timer => exact absurd rfl htimer
    case event =>
      rw [if_pos hset] at hstep
      obtain rfl := Option.some.inj hstep
      exact .inl rfl
    case waitFails =>
      obtain rfl := Option.some.inj hstep
      exact .inr rfl

/-- A worker that is blocked has read every command whose signal has completed, and every wait returns with
a sample that its outcome says. In a run whose moves are all covered a late signal wakes the worker. -/
theorem no_lost_wakeup (cell : Call → ControlCell) (requireFocus : Bool) {start state : Wakeups Call}
    {moves : List (WakeMove Call)} (hstart : Starts requireFocus start)
    (hrun : (machine cell requireFocus start).run start moves = some state) :
    CommandsRead cell requireFocus state ∧ state.ResultSampled ∧
      ((machine cell requireFocus start).Meets Covered start moves →
        SignalWakes cell requireFocus state) := by
  have hsound : Sound cell requireFocus state :=
    Machine.run_preserves (fun _ _ _ hbefore hstep => sound_step hbefore hstep) hrun
      (sound_of_starts hstart)
  refine ⟨commandsRead_of_sound hsound, hsound.sampled, ?_⟩
  intro hmeets
  have hwatching : InSight start := by
    intro request drains point hworker
    rw [hstart.worker] at hworker
    cases hworker
  have hboth : Sound cell requireFocus state ∧ InSight state := by
    apply Machine.run_preserves_of_meets _ hrun hmeets ⟨sound_of_starts hstart, hwatching⟩
    intro before move after hcovered hbefore hstep
    exact ⟨sound_step hbefore.1 hstep, inSight_step hbefore.1 hbefore.2 hcovered hstep⟩
  exact signalWakes_of_inSight hboth.2

/-! ## Two senders -/

/-- A pause and the end of the session. -/
def sampleCell (quits : Bool) : ControlCell := if quits then .quitRequested else .desiredPause

/-- The worker begins, and nothing was sent. -/
def sampleStart : Wakeups Bool where
  event := ⟨false, 0, 0⟩
  lastSample := 0
  calls _ := ⟨.idle, false⟩
  worker := .reading (controlReads false)

/-- The worker reads every cell and begins a wait for a packet. -/
def beginWait : List (WakeMove Bool) :=
  List.replicate 6 (.worker .read) ++ [.worker (.wait ⟨1000, 500⟩ true)]

/-- The next operation of the wait. -/
def proceed : WakeMove Bool := .worker (.answer .proceed)

/-- A sender stores its command, sets the event and counts the signal. -/
def signal (call : Bool) : List (WakeMove Bool) := [.store call, .set call, .count call]

/-- The wait comes near its deadline and polls the generation for the first time. -/
def firstPoll : List (WakeMove Bool) :=
  [.worker (.answer (.clock 600)), .worker (.answer (.clock 601))]

/-- The command to quit comes once the wait watches. -/
def watchedRun : List (WakeMove Bool) :=
  beginWait ++ [proceed, proceed, proceed] ++ signal true ++ firstPoll

/-- The signal of the pause is consumed before it is counted. Its count lets the next wait sample the
generation again, after the command to quit. -/
def swallowedRun : List (WakeMove Bool) :=
  beginWait ++ [.store false, .set false, proceed, proceed, .worker (.answer (.clock 100)),
    .worker .settle, .worker .read] ++
  beginWait ++ [proceed, proceed, .count false, proceed, proceed] ++ signal true ++ [proceed] ++ firstPoll

/-- The worker begins at the top of the loop. -/
theorem sampleStart_starts : Starts false sampleStart := ⟨rfl, nofun⟩

instance (state : Wakeups Bool) (move : WakeMove Bool) : Decidable (Covered state move) := by
  unfold Covered
  split <;> infer_instance

/-- A command that comes once the wait watches wakes it. -/
theorem watched_signal_wakes : ∃ state,
    (machine sampleCell false sampleStart).run sampleStart watchedRun = some state ∧
      CommandsRead sampleCell false state ∧ state.ResultSampled ∧ SignalWakes sampleCell false state := by
  have hrun : ((machine sampleCell false sampleStart).run sampleStart watchedRun).isSome = true := by
    decide +kernel
  obtain ⟨state, hrun⟩ := Option.isSome_iff_exists.mp hrun
  have hmeets : (machine sampleCell false sampleStart).Meets Covered sampleStart watchedRun := by
    decide +kernel
  obtain ⟨hread, hsampled, hwakes⟩ := no_lost_wakeup sampleCell false sampleStart_starts hrun
  exact ⟨state, hrun, hread, hsampled, hwakes hmeets⟩

/-- A command that comes before the generation is sampled again is slept through. -/
theorem resampled_signal_swallowed : ¬∀ (cell : Bool → ControlCell) (requireFocus : Bool)
    (start state : Wakeups Bool) (moves : List (WakeMove Bool)), Starts requireFocus start →
    (machine cell requireFocus start).run start moves = some state →
    CommandsRead cell requireFocus state ∧ state.ResultSampled ∧
      SignalWakes cell requireFocus state := by
  intro h
  have hrun : ((machine sampleCell false sampleStart).run sampleStart swallowedRun).map
      (fun state => (state.worker, state.event, (state.calls true).point)) =
        some (.waiting ⟨1000, 500⟩ true (.poll 2 none 0 601), ⟨true, 2, 4⟩, .completed 4) := by
    decide +kernel
  obtain ⟨state, hrun, hstate⟩ := Option.map_eq_some_iff.mp hrun
  simp only [Prod.mk.injEq] at hstate
  obtain ⟨hworker, hevent, hcall⟩ := hstate
  have hlate : state.LateSignal :=
    ⟨_, _, _, hworker, rfl, true, by rw [hcall, hevent]⟩
  obtain ⟨-, -, hwakes⟩ := h sampleCell false sampleStart state swallowedRun sampleStart_starts hrun
  have hstep : step sampleCell false state proceed = some { state with
      worker := .waiting ⟨1000, 500⟩ true (.spin 2 (some 601) 1) } := by
    simp only [step, proceed, hworker, workerStep, waitStep, hevent]
    rfl
  have hwoken := ((hwakes hlate).2 _ _ _ _ _ _ hstep).1 0 601 hworker rfl
  cases hwoken

end Wakeups

end SkyAutoPlayer.Player
