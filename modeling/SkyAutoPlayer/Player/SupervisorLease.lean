import SkyAutoPlayer.Foundation.Interleaving
import SkyAutoPlayer.Foundation.SlotMask

/-!
# The supervisor lease

One word holds the last accepted progress stamp and, in its high bit, the expiry latch. Publishers,
watchdog checks, latches and the final Down proof race on it by loads and compare-exchanges. In
every interleaving a latched expiry stays, accepted stamps never skip the timeout, and a Down is
proved fresh only by a stamp that was live during its own call.
-/

namespace SkyAutoPlayer.Player

open Foundation

/-- The outcome of a Down's age proof. -/
inductive SupervisorLeaseAdmission where
  | fresh
  | expired
  | unproven
  deriving DecidableEq, Repr

/-- An age proof with its atomic work. -/
structure SupervisorLeaseAgeProof where
  admission : SupervisorLeaseAdmission
  stateLoads : ℕ
  compareExchanges : ℕ
  deriving DecidableEq, Repr

namespace SupervisorLeaseState

/-- The expiry latch. -/
def expiredBit : BitVec 64 := slotBit 64 63

/-- The progress stamp. -/
def ticksMask : BitVec 64 := ~~~expiredBit

/-- The word of a new or reset lease. -/
def resetWord (progress : BitVec 64) : BitVec 64 :=
  if progress &&& expiredBit = 0#64 then progress else progress ||| expiredBit

/-- Whether expiry is latched in a word. -/
def isExpired (state : BitVec 64) : Prop := state &&& expiredBit ≠ 0#64
deriving Decidable

/-- The last accepted progress stamp of a word. -/
def lastProgressTicks (state : BitVec 64) : ℕ := (state &&& ticksMask).toNat

/-- The operations on a lease. -/
inductive Op where
  | publishProgress (now : BitVec 64)
  | checkExpired (now : BitVec 64)
  | proveDownAge (now : BitVec 64)
  | latchExpired
  deriving DecidableEq, Repr

/-- The program points of the operations: their entry or loop head, and each later atomic step. -/
inductive Call where
  | publish (now : BitVec 64)
  | publishExpire (now state : BitVec 64)
  | publishAccept (now state : BitVec 64)
  | check (now : BitVec 64)
  | checkExpire (now state : BitVec 64)
  | prove (now : BitVec 64)
  | proveExpire (now state : BitVec 64)
  | proveReload (now : BitVec 64)
  | latch
  deriving DecidableEq, Repr

/-- What an operation returns. -/
inductive Result where
  | published (accepted : Bool)
  | checked (expired : Bool)
  | proved (proof : SupervisorLeaseAgeProof)
  | latched
  deriving DecidableEq, Repr

/-- Where an operation begins. -/
def Op.start : Op → Call
  | .publishProgress now => .publish now
  | .checkExpired now => .check now
  | .proveDownAge now => .prove now
  | .latchExpired => .latch

/-- A publication after its load. -/
def publishLoaded (timeout : ℕ) (now state : BitVec 64) : Call ⊕ Result :=
  let previous := state &&& ticksMask
  if isExpired state then .inr (.published false)
  else if previous ≠ 0#64 ∧ previous ≤ now ∧ timeout < (now - previous).toNat then
    .inl (.publishExpire now state)
  else if now < previous then .inr (.published true)
  else .inl (.publishAccept now state)

/-- A watchdog check after its load. -/
def checkLoaded (timeout : ℕ) (now state : BitVec 64) : Call ⊕ Result :=
  let previous := state &&& ticksMask
  if isExpired state then .inr (.checked true)
  else if previous = 0#64 ∨ now < previous ∨ (now - previous).toNat ≤ timeout then
    .inr (.checked false)
  else .inl (.checkExpire now state)

/-- A Down proof after its first load. -/
def proveLoaded (timeout : ℕ) (now state : BitVec 64) : Call ⊕ Result :=
  let previous := state &&& ticksMask
  if isExpired state then .inr (.proved ⟨.expired, 1, 0⟩)
  else if previous = 0#64 then .inr (.proved ⟨.unproven, 1, 0⟩)
  else if now < previous ∨ (now - previous).toNat ≤ timeout then .inr (.proved ⟨.fresh, 1, 0⟩)
  else .inl (.proveExpire now state)

/-- A Down proof after the reload that follows a lost compare-exchange. -/
def proveReloaded (timeout : ℕ) (now replacement : BitVec 64) : SupervisorLeaseAgeProof :=
  let progress := replacement &&& ticksMask
  if isExpired replacement then ⟨.expired, 2, 1⟩
  else if progress = 0#64 then ⟨.unproven, 2, 1⟩
  else if now < progress ∨ (now - progress).toNat ≤ timeout then ⟨.fresh, 2, 1⟩
  else ⟨.unproven, 2, 1⟩

/-- One atomic step of an operation. A lost compare-exchange returns to the loop head, whose first
two tests depend on the arguments only. -/
def step (timeout : ℕ) (call : Call) (state : BitVec 64) : BitVec 64 × (Call ⊕ Result) :=
  match call with
  | .publish now =>
    if timeout = 0 then (state, .inr (.published (decide ¬isExpired state)))
    else if isExpired now then (state ||| expiredBit, .inr (.published false))
    else (state, publishLoaded timeout now state)
  | .publishExpire now expected =>
    let exchanged := compareExchange state expected (expected ||| expiredBit)
    (exchanged.1, if exchanged.2 then .inr (.published false) else .inl (.publish now))
  | .publishAccept now expected =>
    let exchanged := compareExchange state expected now
    (exchanged.1, if exchanged.2 then .inr (.published true) else .inl (.publish now))
  | .check now =>
    if timeout = 0 then (state, .inr (.checked false))
    else if isExpired now then (state ||| expiredBit, .inr (.checked true))
    else (state, checkLoaded timeout now state)
  | .checkExpire now expected =>
    let exchanged := compareExchange state expected (expected ||| expiredBit)
    (exchanged.1, if exchanged.2 then .inr (.checked true) else .inl (.check now))
  | .prove now =>
    if timeout = 0 then (state, .inr (.proved ⟨.fresh, 0, 0⟩))
    else (state, proveLoaded timeout now state)
  | .proveExpire now expected =>
    let exchanged := compareExchange state expected (expected ||| expiredBit)
    (exchanged.1,
      if exchanged.2 then .inr (.proved ⟨.expired, 1, 1⟩) else .inl (.proveReload now))
  | .proveReload now => (state, .inr (.proved (proveReloaded timeout now state)))
  | .latch => (state ||| expiredBit, .inr .latched)

/-- The calls on one lease with a timeout. -/
def protocol (ι : Type) (timeout : ℕ) : Protocol ι Op Call Unit Result (BitVec 64) where
  start := Op.start
  step _ _ call state := some (step timeout call state)

variable {ι : Type} {timeout : ℕ} {state expected now : BitVec 64}

/-- Expiry is the high bit. -/
theorem isExpired_iff : isExpired state ↔ state.getLsbD 63 = true := and_slotBit_ne_zero

/-- A latch expires. -/
theorem isExpired_latch (state : BitVec 64) : isExpired (state ||| expiredBit) := by
  rw [isExpired_iff, BitVec.getLsbD_or, expiredBit, getLsbD_slotBit]
  simp

/-- A latch keeps the stamp. -/
theorem lastProgressTicks_latch (state : BitVec 64) :
    lastProgressTicks (state ||| expiredBit) = lastProgressTicks state := by
  refine congrArg BitVec.toNat (BitVec.eq_of_getLsbD_eq fun bit hbit => ?_)
  simp only [ticksMask, BitVec.getLsbD_and, BitVec.getLsbD_or, BitVec.getLsbD_not, hbit,
    decide_true, Bool.true_and]
  cases state.getLsbD bit <;> cases expiredBit.getLsbD bit <;> rfl

/-- Without a latch the word is its stamp. -/
theorem lastProgressTicks_of_live (h : ¬isExpired state) :
    lastProgressTicks state = state.toNat := by
  rw [isExpired_iff, Bool.not_eq_true] at h
  refine congrArg BitVec.toNat (BitVec.eq_of_getLsbD_eq fun bit hbit => ?_)
  simp only [ticksMask, expiredBit, BitVec.getLsbD_and, BitVec.getLsbD_not, getLsbD_slotBit, hbit,
    decide_true, Bool.true_and]
  by_cases hhigh : bit = 63
  · rw [hhigh, h]
    rfl
  · simp [hhigh]

/-- A word shows a Down fresh when it is live and its stamp is at most a timeout old. -/
def ShowsFresh (timeout : ℕ) (now state : BitVec 64) : Prop :=
  ¬isExpired state ∧ lastProgressTicks state ≠ 0 ∧
    (now.toNat < lastProgressTicks state ∨ now.toNat - lastProgressTicks state ≤ timeout)

/-- Consecutive stamps do not decrease and are at most a timeout apart. -/
def Renews (timeout previous next : ℕ) : Prop := previous ≤ next ∧ next - previous ≤ timeout

/-- What one atomic step may do: latched expiry stays, and a nonzero stamp is only renewed. -/
structure Advances (timeout : ℕ) (state next : BitVec 64) : Prop where
  sticky : isExpired state → isExpired next
  renews : lastProgressTicks state ≠ 0 →
    Renews timeout (lastProgressTicks state) (lastProgressTicks next)

/-- Nothing changes. -/
theorem Advances.refl (state : BitVec 64) : Advances timeout state state where
  sticky := id
  renews _ := ⟨le_rfl, by omega⟩

/-- Expiry is latched. -/
theorem Advances.latch (state : BitVec 64) : Advances timeout state (state ||| expiredBit) where
  sticky _ := isExpired_latch state
  renews _ := by
    rw [lastProgressTicks_latch]
    exact ⟨le_rfl, by omega⟩

/-- A comparison with the stamp is one of numbers. -/
theorem fresh_iff : (now < state &&& ticksMask ∨ (now - (state &&& ticksMask)).toNat ≤ timeout) ↔
    (now.toNat < lastProgressTicks state ∨ now.toNat - lastProgressTicks state ≤ timeout) := by
  rw [BitVec.lt_def]
  rcases Nat.lt_or_ge now.toNat (lastProgressTicks state) with hlt | hge
  · exact iff_of_true (Or.inl hlt) (Or.inl hlt)
  · have hsub : (now - (state &&& ticksMask)).toNat = now.toNat - lastProgressTicks state :=
      BitVec.toNat_sub_of_le (BitVec.le_def.mpr hge)
    rw [hsub]
    rfl

/-- What a call knows at its program point: its operation, and why its compare-exchange may
succeed. -/
def Prepared (timeout : ℕ) (op : Op) : Call → Prop
  | .publishAccept now expected => ¬isExpired expected ∧ ¬isExpired now ∧
      (lastProgressTicks expected ≠ 0 → Renews timeout (lastProgressTicks expected) now.toNat)
  | .prove now | .proveExpire now _ | .proveReload now => op = .proveDownAge now
  | _ => True

/-- What a returned call shows about the instants of its run. -/
def Returned (timeout : ℕ) (call : CompletedCall ι Op Result) (history : History (BitVec 64)) :
    Prop :=
  ((call.result = .checked true ∨ call.result = .latched) →
    ∃ state, history.states[call.finishedAt]? = some state ∧ isExpired state) ∧
  ∀ proof, call.result = .proved proof → proof.admission = .fresh →
    ∃ now, call.op = .proveDownAge now ∧
      history.Between call.startedAt call.finishedAt (ShowsFresh timeout now)

/-- The lease's assertions. -/
def assertions (ι : Type) (timeout : ℕ) : Assertions ι Op Call Result (BitVec 64) where
  shared history := history.states.IsChain (Advances timeout)
  active _ active _ := Prepared timeout active.op active.call
  guarantee _ history state := Advances timeout history.current state
  completed call history := Returned timeout call history

/-- A compare-exchange advances when its exchange does. -/
theorem compareExchange_advances {desired : BitVec 64}
    (h : Advances timeout expected desired) :
    Advances timeout state (compareExchange state expected desired).1 := by
  unfold compareExchange
  split
  · rename_i hsame
    exact hsame ▸ h
  · exact Advances.refl state

/-- A loaded publication is prepared. -/
theorem publishLoaded_prepared {op : Op} (hnow : ¬isExpired now) {call : Call}
    (h : publishLoaded timeout now state = .inl call) : Prepared timeout op call := by
  unfold publishLoaded at h
  split at h
  · cases h
  rename_i hlive
  dsimp only at h
  split at h
  · cases h
    trivial
  rename_i hrecent
  split at h
  · cases h
  rename_i hle
  cases h
  refine ⟨hlive, hnow, fun hnonzero => ?_⟩
  have hge : lastProgressTicks state ≤ now.toNat := by
    rw [BitVec.lt_def] at hle
    exact Nat.not_lt.mp hle
  have hsub : (now - (state &&& ticksMask)).toNat = now.toNat - lastProgressTicks state :=
    BitVec.toNat_sub_of_le (BitVec.le_def.mpr hge)
  refine ⟨hge, ?_⟩
  by_contra hlate
  refine hrecent ⟨fun hzero => hnonzero ?_, BitVec.le_def.mpr hge, ?_⟩
  · rw [lastProgressTicks, hzero]
    rfl
  · rw [hsub]
    omega

/-- A step only advances the lease. -/
theorem step_advances {op : Op} {call : Call} (h : Prepared timeout op call) :
    Advances timeout state (step timeout call state).1 := by
  cases call with
  | publish now =>
    simp only [step]
    split_ifs
    · exact Advances.refl state
    · exact Advances.latch state
    · exact Advances.refl state
  | publishExpire now expected => exact compareExchange_advances (Advances.latch expected)
  | publishAccept now expected =>
    obtain ⟨hlive, hnow, hrenews⟩ := h
    exact compareExchange_advances
      { sticky := fun hexpired => absurd hexpired hlive
        renews := by rwa [lastProgressTicks_of_live hnow] }
  | check now =>
    simp only [step]
    split_ifs
    · exact Advances.refl state
    · exact Advances.latch state
    · exact Advances.refl state
  | checkExpire now expected => exact compareExchange_advances (Advances.latch expected)
  | prove now =>
    simp only [step]
    split_ifs <;> exact Advances.refl state
  | proveExpire now expected => exact compareExchange_advances (Advances.latch expected)
  | proveReload now => exact Advances.refl state
  | latch => exact Advances.latch state

/-- What a result shows about the states around the step that returns it. -/
def Shows (timeout : ℕ) (op : Op) (state next : BitVec 64) : Result → Prop
  | .checked expired => expired = true → isExpired next
  | .latched => isExpired next
  | .proved proof => proof.admission = .fresh →
      ∃ now, op = .proveDownAge now ∧ ShowsFresh timeout now state
  | .published _ => True

/-- A step prepares its call's next point, or its result shows what it must. -/
def StepShows (timeout : ℕ) (op : Op) (state next : BitVec 64) : Call ⊕ Result → Prop
  | .inl call => Prepared timeout op call
  | .inr result => Shows timeout op state next result

/-- A loaded publication shows nothing. -/
theorem publishLoaded_shows {op : Op} (hnow : ¬isExpired now) {next : BitVec 64} :
    StepShows timeout op state next (publishLoaded timeout now state) := by
  cases hloaded : publishLoaded timeout now state with
  | inl call => exact publishLoaded_prepared hnow hloaded
  | inr result =>
    unfold publishLoaded at hloaded
    split at hloaded
    · cases hloaded
      trivial
    · dsimp only at hloaded
      split at hloaded
      · cases hloaded
      · split at hloaded
        · cases hloaded
          trivial
        · cases hloaded

/-- A loaded check reports only a latched expiry. -/
theorem checkLoaded_shows {op : Op} :
    StepShows timeout op state state (checkLoaded timeout now state) := by
  unfold checkLoaded
  split
  · rename_i hexpired
    exact fun _ => hexpired
  · dsimp only
    split
    · exact nofun
    · trivial

/-- A live nonzero stamp that passes the age test shows the Down fresh. -/
theorem showsFresh_of_test (hlive : ¬isExpired state) (hnonzero : state &&& ticksMask ≠ 0#64)
    (hage : now < state &&& ticksMask ∨ (now - (state &&& ticksMask)).toNat ≤ timeout) :
    ShowsFresh timeout now state := by
  refine ⟨hlive, fun hzero => hnonzero ?_, fresh_iff.mp hage⟩
  exact BitVec.eq_of_toNat_eq hzero

/-- A Down proof after its load is fresh only by what it loaded. -/
theorem proveLoaded_shows {op : Op} (hop : op = .proveDownAge now) :
    StepShows timeout op state state (proveLoaded timeout now state) := by
  unfold proveLoaded
  split
  · exact nofun
  rename_i hlive
  dsimp only
  split
  · exact nofun
  rename_i hnonzero
  split
  · rename_i hage
    exact fun _ => ⟨now, hop, showsFresh_of_test hlive hnonzero hage⟩
  · exact hop

/-- A Down proof after its reload is fresh only by what it reloaded. -/
theorem proveReloaded_shows {op : Op} (hop : op = .proveDownAge now) :
    Shows timeout op state state (.proved (proveReloaded timeout now state)) := by
  unfold proveReloaded
  split
  · exact nofun
  rename_i hlive
  dsimp only
  split
  · exact nofun
  rename_i hnonzero
  split
  · rename_i hage
    exact fun _ => ⟨now, hop, showsFresh_of_test hlive hnonzero hage⟩
  · exact nofun

/-- A compare-exchange that latches expiry leaves it latched when it succeeds. -/
theorem compareExchange_latch (h : (compareExchange state expected (expected ||| expiredBit)).2 =
    true) : isExpired (compareExchange state expected (expected ||| expiredBit)).1 := by
  unfold compareExchange at h ⊢
  split
  · exact isExpired_latch expected
  · rename_i hother
    rw [if_neg hother] at h
    cases h

/-- One step of a prepared call. -/
theorem step_shows (htimeout : 0 < timeout) {op : Op} {call : Call}
    (h : Prepared timeout op call) :
    StepShows timeout op state (step timeout call state).1 (step timeout call state).2 := by
  have hpositive : timeout ≠ 0 := by omega
  cases call with
  | publish now =>
    simp only [step, if_neg hpositive]
    by_cases hnow : isExpired now
    · rw [if_pos hnow]
      trivial
    · rw [if_neg hnow]
      exact publishLoaded_shows hnow
  | publishExpire now expected =>
    simp only [step]
    split <;> trivial
  | publishAccept now expected =>
    simp only [step]
    split <;> trivial
  | check now =>
    simp only [step, if_neg hpositive]
    by_cases hnow : isExpired now
    · rw [if_pos hnow]
      exact fun _ => isExpired_latch state
    · rw [if_neg hnow]
      exact checkLoaded_shows
  | checkExpire now expected =>
    simp only [step]
    split
    · rename_i hexchanged
      exact fun _ => compareExchange_latch hexchanged
    · trivial
  | prove now =>
    simp only [step, if_neg hpositive]
    exact proveLoaded_shows h
  | proveExpire now expected =>
    simp only [step]
    split
    · exact nofun
    · exact h
  | proveReload now => exact proveReloaded_shows h
  | latch => exact isExpired_latch state

/-- The lease's calls keep its assertions. -/
theorem relyGuarantee (ι : Type) [DecidableEq ι] (htimeout : 0 < timeout) :
    RelyGuarantee (protocol ι timeout) (fun _ => True) (assertions ι timeout) where
  invoke _ op _ _ _ := by cases op <;> first | exact rfl | trivial
  step thread _ active history state outcome hshared hbegan hactive hstep := by
    have houtcome : step timeout active.call history.current = (state, outcome) :=
      Option.some.inj hstep
    have hadvances := @step_advances timeout history.current _ _ hactive
    have hshows := @step_shows timeout history.current htimeout _ _ hactive
    rw [houtcome] at hadvances hshows
    refine ⟨hadvances, History.isChain_push hshared hadvances, ?_⟩
    cases outcome with
    | inl call => exact hshows
    | inr result =>
      refine ⟨fun hended => ⟨state, History.states_now, ?_⟩, fun proof hproof hfresh => ?_⟩
      · rcases hended with hresult | hresult
        · obtain rfl : result = .checked true := hresult
          exact hshows rfl
        · obtain rfl : result = .latched := hresult
          exact hshows
      · obtain rfl : result = .proved proof := hproof
        obtain ⟨now, hop, hnow⟩ := hshows hfresh
        refine ⟨now, hop, ?_⟩
        rw [History.now_push]
        exact (History.between_now hbegan hnow).push
  stable _ _ _ _ _ _ _ hactive _ := hactive
  keeps call _ history state _ hcall _ := by
    refine ⟨fun hended => ?_, fun proof hproof hfresh => ?_⟩
    · obtain ⟨last, hlast, hexpired⟩ := hcall.1 hended
      exact ⟨last, History.states_push_of_some hlast, hexpired⟩
    · obtain ⟨now, hop, hbetween⟩ := hcall.2 proof hproof hfresh
      exact ⟨now, hop, hbetween.push⟩

/-- The nonzero elements of a list where nonzero elements are only renewed are a chain. -/
theorem isChain_filter_nonzero {stamps : List ℕ}
    (h : stamps.IsChain (fun previous next => previous ≠ 0 → Renews timeout previous next)) :
    (stamps.filter (· ≠ 0)).IsChain (Renews timeout) := by
  induction stamps with
  | nil => exact List.isChain_nil
  | cons head rest ih =>
    have hrest := ih h.tail
    by_cases hzero : head = 0
    · rw [List.filter_cons_of_neg (by simp [hzero])]
      exact hrest
    rw [List.filter_cons_of_pos (by simp [hzero])]
    refine List.isChain_cons.mpr ⟨fun next hnext => ?_, hrest⟩
    cases rest with
    | nil => exact absurd hnext (by simp)
    | cons second others =>
      have hrenews := (List.isChain_cons_cons.mp h).1 hzero
      have hsecond : second ≠ 0 := by
        have hle := hrenews.1
        omega
      rw [List.filter_cons_of_pos (by simp [hsecond])] at hnext
      obtain rfl : second = next := by simpa using hnext
      exact hrenews

/-- In every interleaving on one lease: a latched expiry stays, the nonzero stamps are only
renewed within the timeout, a Down is proved fresh only by a state of its own call, and never when
the call began after a check reported expiry or a latch completed. -/
theorem lease_safety [DecidableEq ι] (htimeout : 0 < timeout) {progress : BitVec 64}
    {moves : List (Move ι Op Unit)} {execution : Execution ι Op Call Result (BitVec 64)}
    (hrun : (protocol ι timeout).run (Execution.initial (resetWord progress)) moves =
      some execution) :
    (∀ (first last : ℕ) (before after : BitVec 64), first ≤ last →
      execution.history.states[first]? = some before →
      execution.history.states[last]? = some after → isExpired before → isExpired after) ∧
    ((execution.history.states.map lastProgressTicks).filter (· ≠ 0)).IsChain
      (Renews timeout) ∧
    (∀ call ∈ execution.completed, ∀ now proof, call.op = .proveDownAge now →
      call.result = .proved proof → proof.admission = .fresh →
      execution.history.Between call.startedAt call.finishedAt (ShowsFresh timeout now)) ∧
    (∀ ended ∈ execution.completed, ended.result = .checked true ∨ ended.result = .latched →
      ∀ later ∈ execution.completed, ended.finishedAt ≤ later.startedAt →
      ∀ proof, later.result = .proved proof → proof.admission ≠ .fresh) := by
  have hold := (relyGuarantee ι htimeout).run (List.isChain_singleton _)
    (fun move _ => by cases move <;> trivial) hrun
  have hchain : execution.history.states.IsChain (Advances timeout) := hold.shared
  have hsticky : ∀ (first last : ℕ) (before after : BitVec 64), first ≤ last →
      execution.history.states[first]? = some before →
      execution.history.states[last]? = some after → isExpired before → isExpired after :=
    fun first last before after hle hbefore hafter => History.rel_of_isChain
      (R := fun before after => isExpired before → isExpired after) (fun _ => id)
      (fun _ _ _ hab hbc ha => hbc (hab ha)) (hchain.imp fun _ _ h => h.sticky) hle hbefore hafter
  refine ⟨hsticky, ?_, fun call hcall now proof hop hproof hfresh => ?_,
    fun ended hended hresult later hlater hle proof hproof hfresh => ?_⟩
  · apply isChain_filter_nonzero
    rw [List.isChain_map]
    exact hchain.imp fun _ _ h => h.renews
  · obtain ⟨same, hsame, hbetween⟩ := (hold.completed call hcall).2 proof hproof hfresh
    obtain rfl : now = same := Op.proveDownAge.inj (hop.symm.trans hsame)
    exact hbetween
  · obtain ⟨before, hbefore, hexpired⟩ := (hold.completed ended hended).1 hresult
    obtain ⟨-, -, instant, state, hfirst, -, hstate, hlive, -⟩ :=
      (hold.completed later hlater).2 proof hproof hfresh
    exact hlive (hsticky _ _ _ _ (hle.trans hfirst) hbefore hstate hexpired)

/-- A publication that loses its compare-exchange to a watchdog latch, and a late Down proof. -/
def lateRenewal : List (Move ℕ Op Unit) :=
  [.invoke 0 (.publishProgress 105#64), .advance 0 (), .invoke 1 (.checkExpired 200#64),
    .advance 1 (), .advance 1 (), .advance 0 (), .advance 0 (),
    .invoke 2 (.proveDownAge 105#64), .advance 2 ()]

/-- The run of the late renewal is safe. -/
theorem lateRenewal_safe : ∃ execution,
    (protocol ℕ 10).run (Execution.initial (resetWord 100#64)) lateRenewal = some execution ∧
    ∀ ended ∈ execution.completed, ended.result = .checked true ∨ ended.result = .latched →
      ∀ later ∈ execution.completed, ended.finishedAt ≤ later.startedAt →
      ∀ proof, later.result = .proved proof → proof.admission ≠ .fresh := by
  have hrun : ((protocol ℕ 10).run (Execution.initial (resetWord 100#64)) lateRenewal).isSome =
      true := by
    decide +kernel
  obtain ⟨execution, hexecution⟩ := Option.isSome_iff_exists.mp hrun
  exact ⟨execution, hexecution, (lease_safety (by decide) hexecution).2.2.2⟩

end SupervisorLeaseState

end SkyAutoPlayer.Player
