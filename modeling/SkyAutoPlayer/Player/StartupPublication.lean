import SkyAutoPlayer.Player.SystemPower

/-!
# Safety of startup publication

Within one session the worker moves the startup word forward, the controlling thread cancels or
fails it, and power callbacks latch suspensions, all by compare-exchange loops on one word. No
interleaving leaves a terminal phase, withdraws evidence or loses a suspension.
-/

namespace SkyAutoPlayer.Player

open Foundation

/-- The phases that a session's startup never leaves. -/
def StartupPhase.terminal : StartupPhase → Bool
  | .armed | .cancelled | .failed => true
  | _ => false

/-- The evidence bits agree with the phase. -/
structure CoherentWord (word : BitVec 32) : Prop where
  valid : decodePhase word ≠ .invalid
  unready : decodePhase word = .idle ∨ decodePhase word = .preparing → readyPublished word = false
  unarmed : (decodePhase word).preArm = true → armedPublished word = false

/-- What a step of a session may do to the word. -/
structure Evolves (before after : BitVec 32) : Prop where
  terminal : (decodePhase before).terminal = true → decodePhase after = decodePhase before
  ready : readyPublished before = true → readyPublished after = true
  armed : armedPublished before = true → armedPublished after = true
  suspend : suspendTerminal before = true → suspendTerminal after = true

namespace Evolves

/-- Nothing changes. -/
theorem refl (word : BitVec 32) : Evolves word word := ⟨fun _ => rfl, id, id, id⟩

/-- Steps compose. -/
theorem trans {first second third : BitVec 32} (h : Evolves first second)
    (h' : Evolves second third) : Evolves first third where
  terminal hterminal := by
    have hsame := h.terminal hterminal
    exact (h'.terminal (hsame ▸ hterminal)).trans hsame
  ready hready := h'.ready (h.ready hready)
  armed harmed := h'.armed (h.armed harmed)
  suspend hsuspend := h'.suspend (h.suspend hsuspend)

end Evolves

/-- A suspension latch evolves a coherent word. -/
theorem latch_evolves {word : BitVec 32} (h : CoherentWord word) :
    Evolves word (word ||| startupSystemSuspendTerminal) ∧
      CoherentWord (word ||| startupSystemSuspendTerminal) := by
  obtain ⟨hvalid, hunready, hunarmed⟩ := h
  refine ⟨⟨?_, ?_, ?_, ?_⟩, ⟨?_, ?_, ?_⟩⟩ <;> simp_all

/-- The forward moves of a startup. -/
inductive ForwardMove : StartupPhase → StartupPhase → Bool → Bool → Prop where
  | prepare : ForwardMove .idle .preparing false false
  | ready : ForwardMove .preparing .ready true false
  | arm : ForwardMove .ready .arming true false
  | armed : ForwardMove .arming .armed true true

/-- A forward move evolves a coherent word in its source phase. -/
theorem forward_evolves {source target : StartupPhase} {ready armed : Bool} {word : BitVec 32}
    (h : CoherentWord word) (hmove : ForwardMove source target ready armed)
    (hsource : decodePhase word = source) :
    Evolves word (replacementWord target .none ready armed word) ∧
      CoherentWord (replacementWord target .none ready armed word) := by
  obtain ⟨-, hunready, hunarmed⟩ := h
  rw [hsource] at hunready hunarmed
  cases hmove with
  | prepare =>
    refine ⟨⟨?_, ?_, ?_, ?_⟩, ⟨?_, ?_, ?_⟩⟩ <;>
      simp_all [StartupPhase.terminal, StartupPhase.preArm]
  | ready =>
    refine ⟨⟨?_, ?_, ?_, ?_⟩, ⟨?_, ?_, ?_⟩⟩ <;>
      simp_all [StartupPhase.terminal, StartupPhase.preArm]
  | arm =>
    refine ⟨⟨?_, ?_, ?_, ?_⟩, ⟨?_, ?_, ?_⟩⟩ <;>
      simp_all [StartupPhase.terminal, StartupPhase.preArm]
  | armed =>
    refine ⟨⟨?_, ?_, ?_, ?_⟩, ⟨?_, ?_, ?_⟩⟩ <;>
      simp_all [StartupPhase.terminal, StartupPhase.preArm]

/-- An abort evolves a coherent word before the arm. -/
theorem abort_evolves {phase : StartupPhase} (reason : StartupAbortReason) {word : BitVec 32}
    (h : CoherentWord word) (hphase : phase = .cancelled ∨ phase = .failed)
    (hpreArm : (decodePhase word).preArm = true) :
    Evolves word (replacementWord phase reason (readyPublished word) (armedPublished word) word) ∧
      CoherentWord
        (replacementWord phase reason (readyPublished word) (armedPublished word) word) := by
  have hunarmed := h.unarmed hpreArm
  have hnot : (decodePhase word).terminal = false := by
    cases hcurrent : decodePhase word <;> simp_all [StartupPhase.terminal, StartupPhase.preArm]
  rcases hphase with rfl | rfl
  · refine ⟨⟨?_, ?_, ?_, ?_⟩, ⟨?_, ?_, ?_⟩⟩ <;> simp_all [StartupPhase.preArm]
  · refine ⟨⟨?_, ?_, ?_, ?_⟩, ⟨?_, ?_, ?_⟩⟩ <;> simp_all [StartupPhase.preArm]

namespace SystemPowerState

variable {ι : Type} {power next : SystemPowerState ι}

/-- What a call knows at its program point. -/
def Prepared (op : Op) (power : SystemPowerState ι) : Call → Prop
  | .move source target ready armed =>
    op.start = .move source target ready armed ∧ ForwardMove source target ready armed
  | .moveExchange current next => ∃ source target ready armed,
      op.start = .move source target ready armed ∧ ForwardMove source target ready armed ∧
        decodePhase current = source ∧ suspendTerminal current = false ∧
        next = replacementWord target .none ready armed current
  | .cancelExchange reason current cancelled => (decodePhase current).preArm = true ∧
      cancelled = replacementWord .cancelled reason (readyPublished current)
        (armedPublished current) current
  | .failExchange reason current failed => (decodePhase current).preArm = true ∧
      failed = replacementWord .failed reason (readyPublished current)
        (armedPublished current) current
  | .enter notification | .enterCount notification _ | .enterValidate notification _ =>
    op = .notify notification
  | .authorized notification _ point => op = .notify notification ∧
      (notification.suspended = true → point ≠ .latch → suspendTerminal power.startupState = true)
  | .lifecycle kind point => kind = .deactivate ∧ ∀ closed, point ≠ .clearStartup closed
  | .backOut _ => True
  | .cancel _ | .fail _ | .snapshot => True
  | .downBlocked => op = .downBlocked

/-- What a result shows about the states around the step that returns it. -/
def Shows (op : Op) (power next : SystemPowerState ι) : Result → Prop
  | .moved moved => moved = true → ∃ source target ready armed,
      op.start = .move source target ready armed ∧ decodePhase power.startupState = source ∧
        suspendTerminal power.startupState = false ∧ decodePhase next.startupState = target
  | .aborted aborted => aborted = true → decodePhase next.startupState = .cancelled ∨
      decodePhase next.startupState = .failed
  | .notified accepted => accepted = true → ∀ notification, op = .notify notification →
      notification.suspended = true → suspendTerminal next.startupState = true
  | .blocked blocked => blocked = suspendTerminal power.startupState
  | _ => True

/-- What one step shows. -/
def StepShows (op : Op) (power next : SystemPowerState ι) : Call ⊕ Result → Prop
  | .inl call => Prepared op next call
  | .inr result => Shows op power next result

/-- What a call knows survives the evolution of the word. -/
theorem Prepared.evolve {op : Op} {call : Call} (h : Prepared op power call)
    (hevolves : Evolves power.startupState next.startupState) : Prepared op next call := by
  cases call with
  | authorized notification captured point =>
    exact ⟨h.1, fun hsuspended hpoint => hevolves.suspend (h.2 hsuspended hpoint)⟩
  | _ => exact h

/-- A compare-exchange that evolves its expected word evolves the state. -/
theorem exchange_evolves {current replacement : BitVec 32}
    (hcoherent : CoherentWord power.startupState)
    (h : CoherentWord current → Evolves current replacement ∧ CoherentWord replacement) :
    Evolves power.startupState (exchangeStartup power current replacement).1.startupState ∧
      CoherentWord (exchangeStartup power current replacement).1.startupState ∧
      ((exchangeStartup power current replacement).2 = true →
        power.startupState = current ∧
          (exchangeStartup power current replacement).1.startupState = replacement) := by
  unfold exchangeStartup compareExchange
  dsimp only
  split
  · rename_i hsame
    rw [hsame] at hcoherent ⊢
    exact ⟨(h hcoherent).1, (h hcoherent).2, fun _ => ⟨rfl, rfl⟩⟩
  · exact ⟨Evolves.refl _, hcoherent, nofun⟩

/-- The same of a weak compare-exchange. -/
theorem exchangeWeak_evolves (spurious : Bool) {current replacement : BitVec 32}
    (hcoherent : CoherentWord power.startupState)
    (h : CoherentWord current → Evolves current replacement ∧ CoherentWord replacement) :
    Evolves power.startupState
        (exchangeStartupWeak spurious power current replacement).1.startupState ∧
      CoherentWord (exchangeStartupWeak spurious power current replacement).1.startupState ∧
      ((exchangeStartupWeak spurious power current replacement).2 = true →
        (exchangeStartupWeak spurious power current replacement).1.startupState =
          replacement) := by
  unfold exchangeStartupWeak
  split
  · exact ⟨Evolves.refl _, hcoherent, nofun⟩
  · obtain ⟨hevolves, hnext, hexchanged⟩ := exchange_evolves hcoherent h
    exact ⟨hevolves, hnext, fun hok => (hexchanged hok).2⟩

/-- The step of a callback that holds its lease. -/
theorem authorized_shows {op : Op} {notification : Notification} {captured : ℕ}
    {point : AuthorizedPoint} (hcoherent : CoherentWord power.startupState)
    (h : Prepared op power (.authorized notification captured point)) :
    Evolves power.startupState (authorizedStep notification power point).1.startupState ∧
      CoherentWord (authorizedStep notification power point).1.startupState ∧
      match (authorizedStep notification power point).2 with
      | .inl later => Prepared op (authorizedStep notification power point).1
          (.authorized notification captured later)
      | .inr accepted => Shows op power (authorizedStep notification power point).1
          (.notified accepted) := by
  obtain ⟨hop, hlatched⟩ := h
  cases point with
  | latch =>
    obtain ⟨hevolves, hnext⟩ := latch_evolves hcoherent
    exact ⟨hevolves, hnext, hop, fun _ _ => latch_suspend power.startupState⟩
  | leave accepted =>
    refine ⟨Evolves.refl power.startupState, hcoherent, fun _ other hother hsuspended => ?_⟩
    obtain rfl : notification = other := Op.notify.inj (hop.symm.trans hother)
    exact hlatched hsuspended nofun
  | countTransition =>
    cases hsuspended : notification.suspended with
    | true =>
      simp only [authorizedStep, hsuspended, if_pos]
      exact ⟨Evolves.refl power.startupState, hcoherent, hop, fun h _ => hlatched h nofun⟩
    | false =>
      simp only [authorizedStep, hsuspended]
      exact ⟨Evolves.refl power.startupState, hcoherent, hop, fun h _ => hlatched h nofun⟩
  | _ => exact ⟨Evolves.refl power.startupState, hcoherent, hop, fun h _ => hlatched h nofun⟩

/-- The step of a lifecycle operation that is not a reset. -/
theorem lifecycle_shows {op : Op} {thread : ι} {kind : LifecycleKind} {point : LifecyclePoint}
    {outcome : LifecyclePoint ⊕ Bool} (h : Prepared op power (.lifecycle kind point))
    (hstep : lifecycleStep thread kind power point = some (next, outcome)) :
    next.startupState = power.startupState ∧
      ∀ later, outcome = .inl later → Prepared op next (.lifecycle kind later) := by
  obtain ⟨rfl, hpoint⟩ := h
  cases point with
  | lock =>
    rw [lifecycleStep] at hstep
    split at hstep
    · cases hstep
    · obtain ⟨rfl, rfl⟩ := Prod.mk.inj (Option.some.inj hstep)
      refine ⟨rfl, fun later hlater => ⟨rfl, fun closed => ?_⟩⟩
      cases hlater
      exact nofun
  | clearStartup closed => exact absurd rfl (hpoint closed)
  | publishEpoch closed =>
    rw [lifecycleStep] at hstep
    split at hstep
    · obtain ⟨rfl, rfl⟩ := Prod.mk.inj (Option.some.inj hstep)
      refine ⟨rfl, fun later hlater => ⟨rfl, fun closed => ?_⟩⟩
      cases hlater
      exact nofun
    · obtain ⟨rfl, rfl⟩ := Prod.mk.inj (Option.some.inj hstep)
      refine ⟨rfl, fun later hlater => ⟨rfl, fun closed => ?_⟩⟩
      cases hlater
      exact nofun
  | rundown closed =>
    obtain ⟨rfl, rfl⟩ := Prod.mk.inj (Option.some.inj hstep)
    refine ⟨rfl, fun later hlater => ⟨rfl, fun other => ?_⟩⟩
    obtain rfl := Sum.inl.inj hlater
    split <;> exact nofun
  | _ =>
    obtain ⟨rfl, rfl⟩ := Prod.mk.inj (Option.some.inj hstep)
    refine ⟨rfl, fun later hlater => ⟨rfl, fun closed => ?_⟩⟩
    cases hlater
    try exact nofun

/-- One step of a call evolves a coherent word and shows what it must. -/
theorem step_evolves {op : Op} {thread : ι} {spurious : Bool} {call : Call}
    {outcome : Call ⊕ Result} (hcoherent : CoherentWord power.startupState)
    (h : Prepared op power call)
    (hstep : step thread spurious call power = some (next, outcome)) :
    Evolves power.startupState next.startupState ∧ CoherentWord next.startupState ∧
      StepShows op power next outcome := by
  cases call with
  | move source target ready armed =>
    obtain ⟨rfl, rfl⟩ := Prod.mk.inj (Option.some.inj hstep)
    refine ⟨Evolves.refl power.startupState, hcoherent, ?_⟩
    unfold moveLoaded
    split
    · exact nofun
    · rename_i hguard
      rw [not_or, not_not, Bool.not_eq_true] at hguard
      exact ⟨source, target, ready, armed, h.1, h.2, hguard.1, hguard.2, rfl⟩
  | moveExchange current replacement =>
    obtain ⟨source, target, ready, armed, hop, hmove, hsource, hlive, rfl⟩ := h
    obtain ⟨rfl, rfl⟩ := Prod.mk.inj (Option.some.inj hstep)
    obtain ⟨hevolves, hnext, hexchanged⟩ := exchange_evolves hcoherent
      fun hcurrent => forward_evolves hcurrent hmove hsource
    refine ⟨hevolves, hnext, fun hok => ⟨source, target, ready, armed, hop, ?_⟩⟩
    obtain ⟨hbefore, hafter⟩ := hexchanged hok
    rw [hbefore, hafter]
    exact ⟨hsource, hlive, replacement_phase _ _ _ _ _⟩
  | cancel reason =>
    obtain ⟨rfl, rfl⟩ := Prod.mk.inj (Option.some.inj hstep)
    refine ⟨Evolves.refl power.startupState, hcoherent, ?_⟩
    unfold cancelLoaded
    split_ifs with hnone hsuspend hphase
    · exact nofun
    · exact nofun
    · exact nofun
    · exact ⟨(Bool.not_eq_false _).mp hphase, rfl⟩
  | cancelExchange reason current cancelled =>
    obtain ⟨hpreArm, rfl⟩ := h
    obtain ⟨rfl, rfl⟩ := Prod.mk.inj (Option.some.inj hstep)
    obtain ⟨hevolves, hnext, hexchanged⟩ := exchangeWeak_evolves spurious hcoherent
      fun hcurrent => abort_evolves reason hcurrent (Or.inl rfl) hpreArm
    refine ⟨hevolves, hnext, ?_⟩
    split
    · rename_i hok
      refine fun _ => Or.inl ?_
      rw [hexchanged hok, replacement_phase]
    · trivial
  | fail reason =>
    obtain ⟨rfl, rfl⟩ := Prod.mk.inj (Option.some.inj hstep)
    refine ⟨Evolves.refl power.startupState, hcoherent, ?_⟩
    unfold failLoaded
    split_ifs with hphase
    · exact nofun
    · exact ⟨(Bool.not_eq_false _).mp hphase, rfl⟩
  | failExchange reason current failed =>
    obtain ⟨hpreArm, rfl⟩ := h
    obtain ⟨rfl, rfl⟩ := Prod.mk.inj (Option.some.inj hstep)
    obtain ⟨hevolves, hnext, hexchanged⟩ := exchangeWeak_evolves spurious hcoherent
      fun hcurrent => abort_evolves reason hcurrent (Or.inr rfl) hpreArm
    refine ⟨hevolves, hnext, ?_⟩
    split
    · rename_i hok
      refine fun _ => Or.inr ?_
      rw [hexchanged hok, replacement_phase]
    · trivial
  | authorized notification captured point =>
    obtain ⟨rfl, rfl⟩ := Prod.mk.inj (Option.some.inj hstep)
    obtain ⟨hevolves, hnext, hshows⟩ := authorized_shows hcoherent h
    refine ⟨hevolves, hnext, ?_⟩
    cases hlater : (authorizedStep notification power point).2 with
    | inl later =>
      rw [hlater] at hshows
      exact hshows
    | inr accepted =>
      rw [hlater] at hshows
      exact hshows
  | lifecycle kind point =>
    obtain ⟨⟨after, later⟩, hpoint, hafter⟩ := Option.map_eq_some_iff.mp hstep
    obtain ⟨rfl, rfl⟩ := Prod.mk.inj hafter
    obtain ⟨hsame, hprepared⟩ := lifecycle_shows h hpoint
    dsimp only
    rw [hsame]
    refine ⟨Evolves.refl power.startupState, hcoherent, ?_⟩
    cases later with
    | inl later => exact hprepared later rfl
    | inr succeeded => trivial
  | enter notification =>
    obtain ⟨rfl, rfl⟩ := Prod.mk.inj (Option.some.inj hstep)
    refine ⟨Evolves.refl power.startupState, hcoherent, ?_⟩
    split
    · exact nofun
    · exact h
  | enterCount notification captured =>
    obtain ⟨rfl, rfl⟩ := Prod.mk.inj (Option.some.inj hstep)
    exact ⟨Evolves.refl power.startupState, hcoherent, h⟩
  | enterValidate notification captured =>
    obtain ⟨rfl, rfl⟩ := Prod.mk.inj (Option.some.inj hstep)
    refine ⟨Evolves.refl power.startupState, hcoherent, ?_⟩
    split
    · trivial
    · refine ⟨h, fun hsuspended hpoint => absurd ?_ hpoint⟩
      rw [if_pos hsuspended]
  | backOut captured =>
    obtain ⟨rfl, rfl⟩ := Prod.mk.inj (Option.some.inj hstep)
    exact ⟨Evolves.refl power.startupState, hcoherent, nofun⟩
  | snapshot =>
    obtain ⟨rfl, rfl⟩ := Prod.mk.inj (Option.some.inj hstep)
    exact ⟨Evolves.refl power.startupState, hcoherent, trivial⟩
  | downBlocked =>
    obtain ⟨rfl, rfl⟩ := Prod.mk.inj (Option.some.inj hstep)
    exact ⟨Evolves.refl power.startupState, hcoherent, rfl⟩

/-- The operations of one session. -/
def OfSession (op : Op) : Prop := op ≠ .lifecycle .resetForNewSession

/-- A completed call's result shows what it must about the instants around its last step. -/
def Returned (call : CompletedCall ι Op Result) (history : History (SystemPowerState ι)) : Prop :=
  ∃ instant power next, call.startedAt ≤ instant ∧ instant + 1 = call.finishedAt ∧
    history.states[instant]? = some power ∧ history.states[call.finishedAt]? = some next ∧
    Shows call.op power next call.result

/-- The assertions about a session's startup. -/
def assertions (ι : Type) : Assertions ι Op Call Result (SystemPowerState ι) where
  shared history := CoherentWord history.current.startupState ∧
    history.states.IsChain fun before after => Evolves before.startupState after.startupState
  active _ active history := Prepared active.op history.current active.call
  guarantee _ history state := Evolves history.current.startupState state.startupState
  completed := Returned

/-- The operations of a session begin prepared. -/
theorem start_prepared {op : Op} (h : OfSession op) : Prepared op power op.start := by
  cases op with
  | beginPreparing => exact ⟨rfl, .prepare⟩
  | publishReady => exact ⟨rfl, .ready⟩
  | beginArming => exact ⟨rfl, .arm⟩
  | publishArmed => exact ⟨rfl, .armed⟩
  | lifecycle kind =>
    cases kind with
    | resetForNewSession => exact absurd rfl h
    | deactivate => exact ⟨rfl, nofun⟩
  | cancelPrearm reason => trivial
  | failStartup reason => trivial
  | startupSnapshot => trivial
  | notify notification => exact rfl
  | downBlocked => exact rfl

/-- The calls of a session keep the assertions. -/
theorem relyGuarantee (ι : Type) [DecidableEq ι] :
    RelyGuarantee (protocol ι) OfSession (assertions ι) where
  invoke _ _ _ hop _ := start_prepared hop
  step thread spurious active history state outcome hshared hbegan hactive hstep := by
    obtain ⟨hevolves, hcoherent, hshows⟩ := step_evolves hshared.1 hactive hstep
    refine ⟨hevolves, ⟨hcoherent, History.isChain_push hshared.2 hevolves⟩, ?_⟩
    cases outcome with
    | inl call => exact hshows
    | inr result =>
      refine ⟨history.now, history.current, state, hbegan, ?_, ?_, History.states_now, hshows⟩
      · exact History.now_push.symm
      · exact History.states_push_of_some History.states_now
  stable _ _ _ _ _ _ _ hactive hguarantee := Prepared.evolve hactive hguarantee
  keeps _ _ _ _ _ hreturned _ := by
    obtain ⟨instant, power, next, hbegan, hended, hpower, hnext, hshows⟩ := hreturned
    exact ⟨instant, power, next, hbegan, hended, History.states_push_of_some hpower,
      History.states_push_of_some hnext, hshows⟩

/-- The idle word is coherent. -/
theorem idle_coherent : CoherentWord (startupWord .idle .none false false) :=
  ⟨by decide, fun _ => by decide, fun _ => by decide⟩

/-- In every interleaving within one session: terminal phases, evidence and suspensions stay;
publishing the arm succeeds only before every abort and every suspension latch; an abort that
succeeds leaves its terminal phase; and after an accepted suspension every admission test is
blocked. -/
theorem startup_publication_safety [DecidableEq ι] {power : SystemPowerState ι}
    (hstart : power.startupState = startupWord .idle .none false false)
    {moves : List (Move ι Op Bool)} (hsession : ∀ move ∈ moves, move.Invokes OfSession)
    {execution : Execution ι Op Call Result (SystemPowerState ι)}
    (hrun : (protocol ι).run (Execution.initial power) moves = some execution) :
    (∀ (first last : ℕ) (before after : SystemPowerState ι), first ≤ last →
      execution.history.states[first]? = some before →
      execution.history.states[last]? = some after →
      Evolves before.startupState after.startupState) ∧
    (∀ call ∈ execution.completed, call.op = .publishArmed → call.result = .moved true →
      ∃ instant next, call.startedAt ≤ instant ∧ instant + 1 = call.finishedAt ∧
        execution.history.states[call.finishedAt]? = some next ∧
        decodePhase next.startupState = .armed ∧
        ∀ (earlier : ℕ) (state : SystemPowerState ι), earlier ≤ instant →
          execution.history.states[earlier]? = some state →
          (decodePhase state.startupState).terminal = false ∧
            suspendTerminal state.startupState = false) ∧
    (∀ call ∈ execution.completed, call.result = .aborted true →
      ∃ next, execution.history.states[call.finishedAt]? = some next ∧
        (decodePhase next.startupState = .cancelled ∨
          decodePhase next.startupState = .failed)) ∧
    (∀ call ∈ execution.completed, ∀ notification, call.op = .notify notification →
      notification.suspended = true → call.result = .notified true →
      ∀ test ∈ execution.completed, ∀ blocked, test.result = .blocked blocked →
        call.finishedAt ≤ test.startedAt → blocked = true) := by
  have hcoherent : CoherentWord power.startupState := hstart ▸ idle_coherent
  have hold := (relyGuarantee ι).run ⟨hcoherent, List.isChain_singleton _⟩ hsession hrun
  have hevolves : ∀ (first last : ℕ) (before after : SystemPowerState ι), first ≤ last →
      execution.history.states[first]? = some before →
      execution.history.states[last]? = some after →
      Evolves before.startupState after.startupState := fun first last before after hle hbefore
    hafter => History.rel_of_isChain
      (R := fun before after : SystemPowerState ι =>
        Evolves before.startupState after.startupState)
      (fun _ => Evolves.refl _) (fun _ _ _ => Evolves.trans) hold.shared.2 hle hbefore hafter
  refine ⟨hevolves, fun call hcall hop hresult => ?_, fun call hcall hresult => ?_,
    fun call hcall notification hop hsuspended hresult test htest blocked hblocked hle => ?_⟩
  · obtain ⟨instant, before, next, hbegan, hended, hbefore, hnext, hshows⟩ :=
      hold.completed call hcall
    rw [hresult] at hshows
    obtain ⟨source, target, ready, armed, hmove, hsource, hlive, htarget⟩ := hshows rfl
    rw [hop] at hmove
    obtain ⟨rfl, rfl, rfl, rfl⟩ := Call.move.inj hmove
    refine ⟨instant, next, hbegan, hended, hnext, htarget, fun earlier state hearlier hstate => ?_⟩
    have hsteps := hevolves earlier instant state before hearlier hstate hbefore
    constructor
    · -- a terminal phase would still stand when the arm was published
      by_contra hterminal
      have hsame := hsteps.terminal ((Bool.not_eq_false _).mp hterminal)
      rw [hsource] at hsame
      rw [← hsame] at hterminal
      exact hterminal rfl
    · by_contra hlatched
      have hstill := hsteps.suspend ((Bool.not_eq_false _).mp hlatched)
      rw [hlive] at hstill
      cases hstill
  · obtain ⟨_, _, next, -, -, -, hnext, hshows⟩ := hold.completed call hcall
    rw [hresult] at hshows
    exact ⟨next, hnext, hshows rfl⟩
  · obtain ⟨_, _, latched, -, -, -, hlatched, hshows⟩ := hold.completed call hcall
    obtain ⟨instant, before, _, hbegan, -, hbefore, -, htested⟩ := hold.completed test htest
    rw [hresult] at hshows
    rw [hblocked] at htested
    have hsteps := hevolves call.finishedAt instant latched before (hle.trans hbegan) hlatched
      hbefore
    exact htested.trans (hsteps.suspend (hshows rfl notification hop hsuspended))

/-- An endpoint at the start of a session. -/
def idleEndpoint : SystemPowerState ℕ :=
  ⟨0#8, startupWord .idle .none false false, 0, 0, none, 0, 0, 0, 0, false⟩

/-- A suspension that latches while the worker is about to publish its readiness, a resumption, and
an admission test. -/
def suspendedStartup : List (Move ℕ Op Bool) :=
  [.invoke 0 .beginPreparing, .advance 0 false, .advance 0 false, .invoke 0 .publishReady,
    .advance 0 false, .invoke 1 (.notify ⟨true, some 7⟩)] ++
  List.replicate 10 (.advance 1 false) ++ [.advance 0 false] ++
  [.invoke 1 (.notify ⟨false, none⟩)] ++ List.replicate 8 (.advance 1 false) ++
  [.invoke 2 .downBlocked, .advance 2 false]

/-- The suspended startup is safe, and stays blocked after the resumption. -/
theorem suspendedStartup_safe : ∃ execution,
    (protocol ℕ).run (Execution.initial idleEndpoint) suspendedStartup = some execution ∧
    ∀ call ∈ execution.completed, ∀ notification, call.op = .notify notification →
      notification.suspended = true → call.result = .notified true →
      ∀ test ∈ execution.completed, ∀ blocked, test.result = .blocked blocked →
        call.finishedAt ≤ test.startedAt → blocked = true := by
  have hrun : ((protocol ℕ).run (Execution.initial idleEndpoint) suspendedStartup).any
      (fun execution => decide (execution.completed.map (·.result) =
        [.moved true, .notified true, .moved false, .notified true, .blocked true])) = true := by
    decide +kernel
  obtain ⟨execution, hexecution⟩ : ∃ execution,
      (protocol ℕ).run (Execution.initial idleEndpoint) suspendedStartup = some execution := by
    cases hresult : (protocol ℕ).run (Execution.initial idleEndpoint) suspendedStartup with
    | none =>
      rw [hresult] at hrun
      cases hrun
    | some execution => exact ⟨execution, rfl⟩
  have hsession : ∀ move ∈ suspendedStartup, move.Invokes OfSession := by
    simp [suspendedStartup, Move.Invokes, OfSession]
  exact ⟨execution, hexecution, (startup_publication_safety rfl hsession hexecution).2.2.2⟩

end SystemPowerState

end SkyAutoPlayer.Player
