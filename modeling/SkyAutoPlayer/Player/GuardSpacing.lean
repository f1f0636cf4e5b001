import Mathlib.Order.Basic
import SkyAutoPlayer.Foundation.Guarded
import SkyAutoPlayer.Player.PhysicalTimingGuard

/-!
# Spacing of the sends a guard admits

The worker asks the guard for a packet's window, sends no earlier, and reports the completion.
Cleanups establish barriers and failures invalidate, in any order. Along every such run each key
keeps its hold and its release gap between barriers, each Down keeps the frame gap after every
barrier, and an invalidated guard answers no query.
-/

namespace SkyAutoPlayer.Player

open Foundation DispatchCore

/-- A physical packet with the samples around its send. -/
structure ObservedPacket where
  authoredTargetQpc : ℕ
  upMask : BitVec 16
  downMask : BitVec 16
  startedQpc : ℕ
  completedQpc : ℕ
  deriving DecidableEq, Repr

/-- What happens to a guard during a session. -/
inductive GuardEvent where
  | packet (packet : ObservedPacket)
  | cleanupBarrier (completedQpc : ℕ)
  | invalidation
  deriving DecidableEq, Repr

/-- A guard with the latest QPC sample. -/
structure GuardSession where
  guard : PhysicalTimingGuard
  latestQpc : ℕ

/-- The guard after an event, also when the guard's own operation fails. -/
def GuardSession.step (session : GuardSession) : GuardEvent → GuardSession
  | .packet packet =>
    { guard := ((PhysicalTimingGuard.observeSuccessfulPacket packet.completedQpc packet.upMask
        packet.downMask).run session.guard).state
      latestQpc := packet.completedQpc }
  | .cleanupBarrier completedQpc =>
    { guard := ((PhysicalTimingGuard.establishResumeDownBarrier completedQpc).run
        session.guard).state
      latestQpc := completedQpc }
  | .invalidation => { session with guard := session.guard.invalidate }

/-- Samples do not decrease, and a packet starts no earlier than the guard answered for it. -/
def GuardSession.Admits (session : GuardSession) : GuardEvent → Prop
  | .packet packet =>
    session.latestQpc ≤ packet.startedQpc ∧ packet.startedQpc ≤ packet.completedQpc ∧
      ∃ window, session.guard.query packet.authoredTargetQpc packet.upMask packet.downMask =
          .ok window ∧ window.packetNotBeforeQpc ≤ packet.startedQpc
  | .cleanupBarrier completedQpc => session.latestQpc ≤ completedQpc
  | .invalidation => True

/-- The session of a new guard. -/
def GuardSession.new (effectiveMinHoldTicks frameTicks startQpc : ℕ) : GuardSession :=
  ⟨PhysicalTimingGuard.new effectiveMinHoldTicks frameTicks, startQpc⟩

/-- A run of admitted events from a session. -/
abbrev GuardRun (session : GuardSession) (events : List GuardEvent) : Prop :=
  Guarded GuardSession.Admits GuardSession.step session events

/-- The session after some events. -/
abbrev GuardSession.after (session : GuardSession) (events : List GuardEvent) : GuardSession :=
  events.foldl GuardSession.step session

/-- Whether an event is a cleanup barrier. -/
def GuardEvent.isBarrier : GuardEvent → Bool
  | .cleanupBarrier _ => true
  | _ => false

/-- One event's effect on the packets since the last barrier. -/
def trackBarrier (packets : List ObservedPacket) : GuardEvent → List ObservedPacket
  | .packet packet => packets ++ [packet]
  | .cleanupBarrier _ => []
  | .invalidation => packets

/-- The packets since the last barrier. -/
def sinceBarrier (events : List GuardEvent) : List ObservedPacket := events.foldl trackBarrier []

/-- A packet keeps the hold and the release gap of every key it shares with a packet since the
last barrier, and its Downs keep the frame gap after every barrier. -/
structure Spaced (holdTicks frameTicks : ℕ) (before : List GuardEvent)
    (packet : ObservedPacket) : Prop where
  hold : ∀ pressed ∈ sinceBarrier before, ∀ slot ∈ slots pressed.downMask,
    slot ∈ slots packet.upMask → pressed.completedQpc + holdTicks ≤ packet.startedQpc
  gap : ∀ released ∈ sinceBarrier before, ∀ slot ∈ slots released.upMask,
    slot ∈ slots packet.downMask → released.completedQpc + frameTicks ≤ packet.startedQpc
  barrier : ∀ completedQpc, .cleanupBarrier completedQpc ∈ before → packet.downMask ≠ 0#16 →
    completedQpc + frameTicks ≤ packet.startedQpc

namespace PhysicalTimingGuard

/-- The guard after an accepted observation. -/
def observed (guard : PhysicalTimingGuard) (completedQpc : ℕ) (upMask downMask : BitVec 16) :
    PhysicalTimingGuard :=
  { guard with
    musicalUpNotBeforeQpc := (guard.musicalUpNotBeforeQpc.putAll none (slots upMask)).putAll
      (some (completedQpc + guard.effectiveMinHoldTicks)) (slots downMask)
    downNotBeforeQpc := (guard.downNotBeforeQpc.putAll
      (some (completedQpc + guard.frameTicks)) (slots upMask)).putAll none (slots downMask) }

/-- A floor is the sum, or the guard is invalidated. -/
theorem observedFloor_cases (mask : BitVec 16) (completed duration : ℕ)
    (guard : PhysicalTimingGuard) :
    (∃ floor, (observedFloor mask completed duration).run guard = .ok floor guard ∧
      ∀ table : SlotTable ℕ, table.putAll floor (slots mask) =
        table.putAll (some (completed + duration)) (slots mask)) ∨
    (observedFloor mask completed duration).run guard =
      .error .arithmeticOverflow guard.invalidate := by
  by_cases hmask : mask = 0#16
  · subst hmask
    exact Or.inl ⟨none, rfl, fun table => by simp [SlotTable.putAll]⟩
  · rw [observedFloor, if_pos hmask]
    cases hadd : checkedAddDuration completed duration with
    | ok floor =>
      obtain ⟨-, rfl⟩ := checkedAddDuration_eq_ok.mp hadd
      refine Or.inl ⟨some (completed + duration), ?_, fun _ => rfl⟩
      have hrun : (addOrInvalidate completed duration).run guard =
          .ok (completed + duration) guard := by
        simp [addOrInvalidate, EStateM.run, hadd]
      rw [EStateM.run_bind_of_ok hrun]
      rfl
    | error error =>
      refine Or.inr (EStateM.run_bind_of_error ?_)
      simp [addOrInvalidate, EStateM.run, hadd]

/-- An observation either records the packet, or leaves the guard, or invalidates it. -/
theorem observe_cases (guard : PhysicalTimingGuard) (completed : ℕ) (upMask downMask : BitVec 16) :
    (observeSuccessfulPacket completed upMask downMask).run guard =
        .ok () (guard.observed completed upMask downMask) ∨
      (∃ error, (observeSuccessfulPacket completed upMask downMask).run guard =
        .error error guard ∧ (guard.valid = false ∨ validatePacketMasks upMask downMask ≠ .ok ())) ∨
      (observeSuccessfulPacket completed upMask downMask).run guard =
        .error .arithmeticOverflow guard.invalidate := by
  have hget : (get : GuardM PhysicalTimingGuard).run guard = .ok guard guard := rfl
  unfold observeSuccessfulPacket
  rw [EStateM.run_bind_of_ok hget]
  cases hvalid : guard.ensureValid with
  | error error =>
    have hinvalid : guard.valid = false := by
      by_contra hne
      rw [ensureValid, failIf_of_not _ hne] at hvalid
      cases hvalid
    exact Or.inr (Or.inl ⟨error, EStateM.run_bind_of_error rfl, Or.inl hinvalid⟩)
  | ok done =>
    rw [EStateM.run_bind_of_ok (EStateM.ofExcept_ok_run done guard)]
    cases hmasks : validatePacketMasks upMask downMask with
    | error error =>
      exact Or.inr (Or.inl ⟨error, EStateM.run_bind_of_error rfl, Or.inr nofun⟩)
    | ok done =>
      rw [EStateM.run_bind_of_ok (EStateM.ofExcept_ok_run done guard), EStateM.run_bind_of_ok hget]
      rcases observedFloor_cases upMask completed guard.frameTicks guard with
        ⟨downFloor, hdown, hdownFill⟩ | hoverflow
      · rw [EStateM.run_bind_of_ok hdown, EStateM.run_bind_of_ok hget]
        rcases observedFloor_cases downMask completed guard.effectiveMinHoldTicks guard with
          ⟨upFloor, hup, hupFill⟩ | hoverflow
        · rw [EStateM.run_bind_of_ok hup]
          left
          simp only [observed, ← hdownFill, ← hupFill]
          rfl
        · exact Or.inr (Or.inr (EStateM.run_bind_of_error hoverflow))
      · exact Or.inr (Or.inr (EStateM.run_bind_of_error hoverflow))

/-- A barrier is established, or the guard is invalidated. -/
theorem establish_cases (guard : PhysicalTimingGuard) (completed : ℕ) :
    (establishResumeDownBarrier completed).run guard = .ok ()
        { guard with
          musicalUpNotBeforeQpc := SlotTable.empty
          downNotBeforeQpc := SlotTable.empty
          resumeDownNotBeforeQpc := some (completed + guard.frameTicks)
          valid := true } ∨
      (establishResumeDownBarrier completed).run guard =
        .error .arithmeticOverflow guard.invalidate := by
  have hget : (get : GuardM PhysicalTimingGuard).run guard = .ok guard guard := rfl
  unfold establishResumeDownBarrier
  rw [EStateM.run_bind_of_ok hget]
  cases hadd : checkedAddDuration completed guard.frameTicks with
  | ok floor =>
    obtain ⟨-, rfl⟩ := checkedAddDuration_eq_ok.mp hadd
    have hrun : (addOrInvalidate completed guard.frameTicks).run guard =
        .ok (completed + guard.frameTicks) guard := by
      simp [addOrInvalidate, EStateM.run, hadd]
    rw [EStateM.run_bind_of_ok hrun]
    exact Or.inl rfl
  | error error =>
    refine Or.inr (EStateM.run_bind_of_error ?_)
    simp [addOrInvalidate, EStateM.run, hadd]

/-- What an answered query says about the guard and the window. -/
theorem query_eq_ok {guard : PhysicalTimingGuard} {target : ℕ} {upMask downMask : BitVec 16}
    {window : PhysicalTimingWindow} (h : guard.query target upMask downMask = .ok window) :
    guard.valid = true ∧ validatePacketMasks upMask downMask = .ok () ∧
      window = guard.windowFor target upMask downMask := by
  simp only [query, Except.bind_eq_ok, Except.pure_eq_ok] at h
  obtain ⟨_, hvalid, _, hmasks, _, -, rfl⟩ := h
  rw [ensureValid, failIf_eq_ok] at hvalid
  exact ⟨(Bool.not_eq_false _).mp hvalid, hmasks, rfl⟩

/-- An invalidated guard answers no query. -/
theorem query_of_invalid {guard : PhysicalTimingGuard} (h : guard.valid = false) (target : ℕ)
    (upMask downMask : BitVec 16) :
    guard.query target upMask downMask = .error .invalidated := by
  simp only [query, ensureValid, failIf, h, if_pos]
  rfl

/-- Accepted masks share no slot. -/
theorem disjoint_of_masks {upMask downMask : BitVec 16} {slot : ℕ}
    (h : validatePacketMasks upMask downMask = .ok ()) (hup : slot ∈ slots upMask) :
    slot ∉ slots downMask := by
  rw [validatePacketMasks, failIf_eq_ok, not_or, not_not, not_not] at h
  intro hdown
  have hbit := congrArg (fun mask => mask.getLsbD slot) h.2
  rw [mem_slots] at hup hdown
  simp only [BitVec.getLsbD_and, hup, hdown, Bool.and_self, BitVec.getLsbD_zero,
    Bool.true_eq_false] at hbit

end PhysicalTimingGuard

/-- A bound is enforced on a slot: the slot's floor is no earlier, or the bound has passed. -/
def Enforced (floors : SlotTable ℕ) (latestQpc slot bound : ℕ) : Prop :=
  bound ≤ latestQpc ∨ ∃ floor, floors slot = some floor ∧ bound ≤ floor

/-- An enforced bound holds for a start no earlier than the latest sample and the mask's floor. -/
theorem Enforced.le_start {floors : SlotTable ℕ} {latestQpc slot bound target started : ℕ}
    {mask : BitVec 16} (h : Enforced floors latestQpc slot bound) (hslot : slot ∈ slots mask)
    (hlatest : latestQpc ≤ started)
    (hfloor : (PhysicalTimingGuard.floorForMask target mask floors).1 ≤ started) :
    bound ≤ started := by
  rcases h with hpassed | ⟨floor, hentry, hle⟩
  · exact hpassed.trans hlatest
  · have hmem := SlotTable.le_latest hslot hentry
    rw [PhysicalTimingGuard.floorForMask_fst] at hfloor
    omega

/-- An enforced bound stays enforced when the slot's floor stays and samples grow. -/
theorem Enforced.mono {floors floors' : SlotTable ℕ} {latestQpc latestQpc' slot bound : ℕ}
    (h : Enforced floors latestQpc slot bound) (hlatest : latestQpc ≤ latestQpc')
    (hsame : floors' slot = floors slot) : Enforced floors' latestQpc' slot bound := by
  rcases h with hpassed | ⟨floor, hentry, hle⟩
  · exact Or.inl (hpassed.trans hlatest)
  · exact Or.inr ⟨floor, hsame.trans hentry, hle⟩

/-- What the events of a run leave as evidence in its session. -/
structure Evidence (hold frame : ℕ) (events : List GuardEvent)
    (session : GuardSession) : Prop where
  holdTicks : session.guard.effectiveMinHoldTicks = hold
  frameTicks : session.guard.frameTicks = frame
  completed : ∀ packet ∈ sinceBarrier events, packet.completedQpc ≤ session.latestQpc
  cleaned : ∀ completedQpc, .cleanupBarrier completedQpc ∈ events →
    completedQpc ≤ session.latestQpc
  held : session.guard.valid = true → ∀ pressed ∈ sinceBarrier events,
    ∀ slot ∈ slots pressed.downMask, Enforced session.guard.musicalUpNotBeforeQpc
      session.latestQpc slot (pressed.completedQpc + hold)
  released : session.guard.valid = true → ∀ released ∈ sinceBarrier events,
    ∀ slot ∈ slots released.upMask, Enforced session.guard.downNotBeforeQpc
      session.latestQpc slot (released.completedQpc + frame)
  barrier : session.guard.valid = true → ∀ completedQpc, .cleanupBarrier completedQpc ∈ events →
    ∃ floor, session.guard.resumeDownNotBeforeQpc = some floor ∧ completedQpc + frame ≤ floor

namespace Evidence

variable {hold frame : ℕ} {events : List GuardEvent} {session : GuardSession}

/-- A new guard has the evidence of no events. -/
theorem new (hold frame startQpc : ℕ) :
    Evidence hold frame [] (GuardSession.new hold frame startQpc) where
  holdTicks := rfl
  frameTicks := rfl
  completed := nofun
  cleaned := nofun
  held _ := nofun
  released _ := nofun
  barrier _ := nofun

/-- An admitted packet is spaced from the packets and barriers before it. -/
theorem spaced (h : Evidence hold frame events session) {packet : ObservedPacket}
    (hadmits : session.Admits (.packet packet)) : Spaced hold frame events packet := by
  obtain ⟨hstarted, -, window, hquery, hwindow⟩ := hadmits
  obtain ⟨hvalid, -, rfl⟩ := PhysicalTimingGuard.query_eq_ok hquery
  have hup : (PhysicalTimingGuard.floorForMask packet.authoredTargetQpc packet.upMask
      session.guard.musicalUpNotBeforeQpc).1 ≤ packet.startedQpc :=
    (le_max_left _ _).trans hwindow
  have hdown : (PhysicalTimingGuard.raiseToBarrier packet.authoredTargetQpc packet.downMask
      session.guard.resumeDownNotBeforeQpc (PhysicalTimingGuard.floorForMask
        packet.authoredTargetQpc packet.downMask session.guard.downNotBeforeQpc)).1 ≤
      packet.startedQpc :=
    (le_max_right _ _).trans hwindow
  have htarget : packet.authoredTargetQpc ≤ (PhysicalTimingGuard.floorForMask
      packet.authoredTargetQpc packet.downMask session.guard.downNotBeforeQpc).1 := by
    rw [PhysicalTimingGuard.floorForMask_fst]
    exact le_max_left _ _
  rw [PhysicalTimingGuard.raiseToBarrier_fst htarget] at hdown
  exact
    { hold := fun pressed hpressed slot hslot hshared =>
        (h.held hvalid pressed hpressed slot hslot).le_start hshared hstarted hup
      gap := fun released hreleased slot hslot hshared =>
        (h.released hvalid released hreleased slot hslot).le_start hshared hstarted
          ((le_max_left _ _).trans hdown)
      barrier := fun completedQpc hmem hnonempty => by
        obtain ⟨floor, hfloor, hle⟩ := h.barrier hvalid completedQpc hmem
        have hraised := (le_max_right _ _).trans hdown
        rw [if_pos hnonempty, hfloor, Option.getD_some] at hraised
        exact hle.trans hraised }

/-- A session whose guard became invalid has the evidence of any event that is not a barrier. -/
theorem of_invalid (h : Evidence hold frame events session) {event : GuardEvent}
    {latestQpc : ℕ} (hlatest : session.latestQpc ≤ latestQpc)
    (hpackets : ∀ packet ∈ trackBarrier (sinceBarrier events) event,
      packet ∈ sinceBarrier events ∨ packet.completedQpc ≤ latestQpc)
    (hbarrier : ∀ completedQpc, event = .cleanupBarrier completedQpc → completedQpc ≤ latestQpc) :
    Evidence hold frame (events ++ [event])
      ⟨session.guard.invalidate, latestQpc⟩ where
  holdTicks := h.holdTicks
  frameTicks := h.frameTicks
  completed packet hpacket := by
    rw [sinceBarrier, List.foldl_append] at hpacket
    rcases hpackets packet hpacket with hmem | hle
    · exact (h.completed packet hmem).trans hlatest
    · exact hle
  cleaned completedQpc hmem := by
    rcases List.mem_append.mp hmem with hmem | hmem
    · exact (h.cleaned completedQpc hmem).trans hlatest
    · exact hbarrier completedQpc (List.mem_singleton.mp hmem).symm
  held := nofun
  released := nofun
  barrier := nofun

/-- A recorded packet extends the evidence. -/
theorem observed (h : Evidence hold frame events session) {packet : ObservedPacket}
    (hadmits : session.Admits (.packet packet)) :
    Evidence hold frame (events ++ [.packet packet])
      ⟨session.guard.observed packet.completedQpc packet.upMask packet.downMask,
        packet.completedQpc⟩ := by
  have hspaced := h.spaced hadmits
  obtain ⟨hstarted, hcompleted, window, hquery, -⟩ := hadmits
  obtain ⟨hvalid, hmasks, -⟩ := PhysicalTimingGuard.query_eq_ok hquery
  have hlatest : session.latestQpc ≤ packet.completedQpc := hstarted.trans hcompleted
  have hsince : ∀ other ∈ sinceBarrier (events ++ [.packet packet]),
      other ∈ sinceBarrier events ∨ other = packet := by
    intro other hother
    rw [sinceBarrier, List.foldl_append] at hother
    exact (List.mem_append.mp hother).imp_right List.mem_singleton.mp
  have hcleaned : ∀ completedQpc, .cleanupBarrier completedQpc ∈ events ++ [.packet packet] →
      .cleanupBarrier completedQpc ∈ events := by
    intro completedQpc hmem
    simpa using hmem
  refine
    { holdTicks := h.holdTicks
      frameTicks := h.frameTicks
      completed := fun other hother => ?_
      cleaned := fun completedQpc hmem => (h.cleaned _ (hcleaned _ hmem)).trans hlatest
      held := fun _ pressed hpressed slot hslot => ?_
      released := fun _ released hreleased slot hslot => ?_
      barrier := fun _ completedQpc hmem => h.barrier hvalid _ (hcleaned _ hmem) }
  · rcases hsince other hother with hmem | rfl
    · exact (h.completed other hmem).trans hlatest
    · exact le_rfl
  · simp only [PhysicalTimingGuard.observed, h.holdTicks]
    rcases hsince pressed hpressed with hmem | rfl
    · have hbefore := h.completed pressed hmem
      by_cases hdown : slot ∈ slots packet.downMask
      · exact Or.inr ⟨_, by rw [SlotTable.putAll_apply, if_pos hdown], by omega⟩
      by_cases hup : slot ∈ slots packet.upMask
      · exact Or.inl ((hspaced.hold pressed hmem slot hslot hup).trans hcompleted)
      · refine (h.held hvalid pressed hmem slot hslot).mono hlatest ?_
        rw [SlotTable.putAll_apply, if_neg hdown, SlotTable.putAll_apply, if_neg hup]
    · exact Or.inr ⟨_, by rw [SlotTable.putAll_apply, if_pos hslot], le_rfl⟩
  · simp only [PhysicalTimingGuard.observed, h.frameTicks]
    rcases hsince released hreleased with hmem | rfl
    · have hbefore := h.completed released hmem
      by_cases hdown : slot ∈ slots packet.downMask
      · exact Or.inl ((hspaced.gap released hmem slot hslot hdown).trans hcompleted)
      by_cases hup : slot ∈ slots packet.upMask
      · exact Or.inr ⟨_, by rw [SlotTable.putAll_apply, if_neg hdown, SlotTable.putAll_apply,
          if_pos hup], by omega⟩
      · refine (h.released hvalid released hmem slot hslot).mono hlatest ?_
        rw [SlotTable.putAll_apply, if_neg hdown, SlotTable.putAll_apply, if_neg hup]
    · have hdown := PhysicalTimingGuard.disjoint_of_masks hmasks hslot
      exact Or.inr ⟨_, by rw [SlotTable.putAll_apply, if_neg hdown, SlotTable.putAll_apply,
        if_pos hslot], le_rfl⟩

/-- An established barrier starts the evidence anew, after every earlier barrier. -/
theorem cleaned_up (h : Evidence hold frame events session) {completedQpc : ℕ}
    (hlatest : session.latestQpc ≤ completedQpc) :
    Evidence hold frame (events ++ [.cleanupBarrier completedQpc])
      ⟨{ session.guard with
          musicalUpNotBeforeQpc := SlotTable.empty
          downNotBeforeQpc := SlotTable.empty
          resumeDownNotBeforeQpc := some (completedQpc + session.guard.frameTicks)
          valid := true }, completedQpc⟩ := by
  have hsince : sinceBarrier (events ++ [.cleanupBarrier completedQpc]) = [] := by
    rw [sinceBarrier, List.foldl_append]
    rfl
  have hcleaned : ∀ earlier, .cleanupBarrier earlier ∈ events ++ [.cleanupBarrier completedQpc] →
      earlier ≤ completedQpc := by
    intro earlier hmem
    rcases List.mem_append.mp hmem with hmem | hmem
    · exact (h.cleaned earlier hmem).trans hlatest
    · obtain rfl : earlier = completedQpc := by simpa using hmem
      exact le_rfl
  exact
    { holdTicks := h.holdTicks
      frameTicks := h.frameTicks
      completed := by rw [hsince]; nofun
      cleaned := hcleaned
      held := by rw [hsince]; nofun
      released := by rw [hsince]; nofun
      barrier := fun _ earlier hmem => by
        refine ⟨_, rfl, ?_⟩
        rw [h.frameTicks]
        exact Nat.add_le_add_right (hcleaned earlier hmem) frame }

/-- An admitted event extends the evidence. -/
theorem step (h : Evidence hold frame events session) {event : GuardEvent}
    (hadmits : session.Admits event) :
    Evidence hold frame (events ++ [event]) (session.step event) := by
  cases event with
  | packet packet =>
    obtain ⟨hstarted, hcompleted, window, hquery, -⟩ := id hadmits
    obtain ⟨hvalid, hmasks, -⟩ := PhysicalTimingGuard.query_eq_ok hquery
    rcases session.guard.observe_cases packet.completedQpc packet.upMask packet.downMask with
      hrun | ⟨error, -, hrejected⟩ | hrun
    · rw [GuardSession.step, hrun]
      exact h.observed hadmits
    · -- the query already accepted the guard and the masks
      rcases hrejected with hinvalid | hmismatch
      · exact absurd hvalid (by simp [hinvalid])
      · exact absurd hmasks hmismatch
    · rw [GuardSession.step, hrun]
      refine h.of_invalid (hstarted.trans hcompleted) (fun other hother => ?_) nofun
      rcases List.mem_append.mp hother with hmem | hmem
      · exact Or.inl hmem
      · obtain rfl := List.mem_singleton.mp hmem
        exact Or.inr le_rfl
  | cleanupBarrier completedQpc =>
    rcases session.guard.establish_cases completedQpc with hrun | hrun
    · rw [GuardSession.step, hrun]
      exact h.cleaned_up hadmits
    · rw [GuardSession.step, hrun]
      refine h.of_invalid hadmits nofun fun completed heq => ?_
      obtain rfl := GuardEvent.cleanupBarrier.inj heq
      exact le_rfl
  | invalidation => exact h.of_invalid le_rfl (fun _ hmem => Or.inl hmem) nofun

/-- A run extends the evidence. -/
theorem run (h : Evidence hold frame events session) {later : List GuardEvent}
    (hrun : GuardRun session later) :
    Evidence hold frame (events ++ later) (session.after later) := by
  induction later generalizing events session with
  | nil =>
    rw [List.append_nil]
    exact h
  | cons event rest ih =>
    have hrest := ih (h.step hrun.1) hrun.2
    rwa [List.append_assoc, List.singleton_append] at hrest

end Evidence

/-- Without a barrier an invalid guard stays invalid. -/
theorem stays_invalid {session : GuardSession} (hinvalid : session.guard.valid = false)
    {events : List GuardEvent} (hbarrier : ∀ event ∈ events, event.isBarrier = false) :
    (session.after events).guard.valid = false := by
  induction events generalizing session with
  | nil => exact hinvalid
  | cons event rest ih =>
    refine ih ?_ fun later hlater => hbarrier later (List.mem_cons_of_mem _ hlater)
    cases event with
    | packet packet =>
      rcases session.guard.observe_cases packet.completedQpc packet.upMask packet.downMask with
        hrun | ⟨error, hrun, -⟩ | hrun
      · rw [GuardSession.step, hrun]
        exact hinvalid
      · rw [GuardSession.step, hrun]
        exact hinvalid
      · rw [GuardSession.step, hrun]
        rfl
    | cleanupBarrier completedQpc =>
      have hnot := hbarrier _ List.mem_cons_self
      cases hnot
    | invalidation => rfl

/-- In every run of a new guard the sends are spaced, an accepted observation changes no other
key's floor and no barrier, and an invalid guard answers no query until the next barrier. -/
theorem guard_run_spacing {hold frame startQpc : ℕ} {events : List GuardEvent}
    (hrun : GuardRun (GuardSession.new hold frame startQpc) events) :
    (∀ before packet after, events = before ++ .packet packet :: after →
      Spaced hold frame before packet) ∧
    (∀ completed upMask downMask current guard,
      current = ((GuardSession.new hold frame startQpc).after events).guard →
      (PhysicalTimingGuard.observeSuccessfulPacket completed upMask downMask).run current =
        .ok () guard →
      guard.resumeDownNotBeforeQpc = current.resumeDownNotBeforeQpc ∧
      ∀ slot ∉ slots upMask, slot ∉ slots downMask →
        guard.musicalUpNotBeforeQpc slot = current.musicalUpNotBeforeQpc slot ∧
        guard.downNotBeforeQpc slot = current.downNotBeforeQpc slot) ∧
    (∀ before after, events = before ++ after →
      ((GuardSession.new hold frame startQpc).after before).guard.valid = false →
      (∀ event ∈ after, event.isBarrier = false) → ∀ target upMask downMask,
        ((GuardSession.new hold frame startQpc).after events).guard.query target upMask downMask =
          .error .invalidated) := by
  refine ⟨fun before packet after hsplit => ?_,
    fun completed upMask downMask current guard _ hok => ?_,
    fun before after hsplit hinvalid hbarrier target upMask downMask => ?_⟩
  · rw [hsplit] at hrun
    obtain ⟨hbefore, hadmits, -⟩ := guarded_append.mp hrun
    exact ((Evidence.new hold frame startQpc).run hbefore).spaced hadmits
  · rcases current.observe_cases completed upMask downMask with hobserved | ⟨_, hkept, -⟩ | hlost
    · obtain rfl : current.observed completed upMask downMask = guard := by
        rw [hobserved] at hok
        exact (EStateM.Result.ok.inj hok).2
      refine ⟨rfl, fun slot hup hdown => ?_⟩
      simp only [PhysicalTimingGuard.observed, SlotTable.putAll_apply, if_neg hdown, if_neg hup,
        and_self]
    · rw [hkept] at hok
      cases hok
    · rw [hlost] at hok
      cases hok
  · rw [hsplit, GuardSession.after, List.foldl_append]
    exact PhysicalTimingGuard.query_of_invalid (stays_invalid hinvalid hbarrier) target upMask
      downMask

/-- A press, its release, a cleanup, an invalidation with a second cleanup, and the next press. -/
def resumedGuardEvents : List GuardEvent :=
  [.packet ⟨100, 0#16, 1#16, 100, 105⟩, .packet ⟨120, 1#16, 0#16, 135, 136⟩,
    .cleanupBarrier 140, .invalidation, .cleanupBarrier 150, .packet ⟨155, 0#16, 1#16, 162, 163⟩]

/-- The sends around the cleanups are spaced. -/
theorem resumedGuardEvents_spaced :
    Spaced 30 12 (resumedGuardEvents.take 5) ⟨155, 0#16, 1#16, 162, 163⟩ := by
  have hrun : GuardRun (GuardSession.new 30 12 0) resumedGuardEvents := by
    have hfirst : 136 ≤ 140 := by decide
    have hsecond : 140 ≤ 150 := by decide
    exact ⟨⟨by decide, by decide, _, rfl, by decide⟩, ⟨by decide, by decide, _, rfl, by decide⟩,
      hfirst, trivial, hsecond, ⟨by decide, by decide, _, rfl, by decide⟩, trivial⟩
  exact (guard_run_spacing hrun).1 (resumedGuardEvents.take 5) _ [] rfl

end SkyAutoPlayer.Player
