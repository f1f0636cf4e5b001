import SkyAutoPlayer.Desktop.SessionLease

/-!
# Only one owner of the physical input

Whoever holds a lease of the physical input is recorded by the coordinator, so no one else is admitted
before the lease is gone. A playback gives its lease back only when its worker was joined or never
started, and once a release could not be verified, or the program ends, no one is admitted any more.
-/

namespace SkyAutoPlayer.Desktop

open Foundation

/-- A reservation is made, refused or given back. -/
theorem ReservationPhase.step_cases {activity after : ActivityState} {phase next : ReservationPhase}
    {reserve : ActivityState → Except ActivityReservationError ActivityState}
    {giveBack : ActivityState → ActivityState}
    (h : phase.step reserve giveBack activity = some (after, next)) :
    (phase = .reserving ∧ reserve activity = .ok after ∧ next = .held) ∨
      (phase = .reserving ∧ after = activity ∧ ∃ error, next = .refused error) ∨
        (phase = .held ∧ after = giveBack activity ∧ next = .givenBack) := by
  unfold ReservationPhase.step at h
  cases phase with
  | reserving =>
    dsimp only at h
    split at h
    case h_1 granted hgranted =>
      obtain ⟨rfl, rfl⟩ := Prod.mk.inj (Option.some.inj h)
      exact .inl ⟨rfl, hgranted, rfl⟩
    case h_2 error _ =>
      obtain ⟨rfl, rfl⟩ := Prod.mk.inj (Option.some.inj h)
      exact .inr (.inl ⟨rfl, rfl, error, rfl⟩)
  | held =>
    obtain ⟨rfl, rfl⟩ := Prod.mk.inj (Option.some.inj h)
    exact .inr (.inr ⟨rfl, rfl, rfl⟩)
  | refused | givenBack => cases h

/-- A coordinator that is closed stays closed. -/
structure Remembers (activity after : ActivityState) : Prop where
  closing : activity.closing = true → after.closing = true
  quarantined :
    activity.physicalReleaseQuarantined = true → after.physicalReleaseQuarantined = true

/-- A step leaves the owners as they are, or no call beside the one that moves can be an owner. -/
inductive Frame (live : Bool) (activity after : ActivityState) : Prop where
  | same (h : after = { activity with closing := after.closing })
  | owner (h : live = true)
  | free (h : activity.Free)
  | quarantined (h : activity.physicalReleaseQuarantined = true)

namespace ActivityCall

/-- The coordinator has recorded a call as the owner. -/
def holds : ActivityCall → Bool
  | .playback run => run.recorded
  | .calibration phase | .update phase => phase = .held
  | .shutdown _ => false

/-- What the coordinator knows of a call. -/
def Placed (activity : ActivityState) : ActivityCall → Prop
  | .playback run => run.Placed activity
  | .calibration phase =>
    phase = .held → activity.calibrationActive = true ∧ activity.physicalReleaseQuarantined = false
  | .update phase =>
    phase = .held → activity.updateInstalling = true ∧ activity.physicalReleaseQuarantined = false
  | .shutdown begun => begun = true → activity.closing = true

/-- A call of a session that is retired without evidence. -/
def unverified : ActivityCall → Bool
  | .playback run => run.unverified
  | _ => false

/-- What a step of a call does to it and to the coordinator. -/
structure Moves (call next : ActivityCall) (activity after : ActivityState) : Prop where
  placed : next.Placed after
  remembers : Remembers activity after
  frame : Frame call.leaseLive activity after
  live : next.leaseLive = true → call.leaseLive = true ∨ activity.Free
  granted : next.granted = true → call.granted = true ∨ activity.Free
  unverified : call.unverified = true → next.unverified = true

variable {call next other : ActivityCall} {activity after : ActivityState} {choice : SessionChoice}

/-- A recorded owner has a lease. -/
theorem leaseLive_of_holds (h : call.holds = true) : call.leaseLive = true := by
  cases call with
  | playback run => exact PlaybackRun.leaseLive_of_recorded h
  | calibration phase => exact h
  | update phase => exact h
  | shutdown begun => exact h

/-- No call is recorded when the physical input is free, or the coordinator is closed for good. -/
theorem not_holds (hplaced : call.Placed activity)
    (h : activity.Free ∨ activity.physicalReleaseQuarantined = true) : call.holds = false := by
  refine Bool.eq_false_iff.mpr fun hholds => ?_
  cases call with
  | playback run =>
    obtain ⟨howner, hopen⟩ := hplaced.recorded hholds
    rcases h with hfree | hclosed
    · rw [hfree.playback] at howner
      cases howner
    · rw [hclosed] at hopen
      cases hopen
  | calibration phase =>
    obtain ⟨hactive, hopen⟩ := hplaced (of_decide_eq_true hholds)
    rcases h with hfree | hclosed
    · rw [hfree.calibration] at hactive
      cases hactive
    · rw [hclosed] at hopen
      cases hopen
  | update phase =>
    obtain ⟨hactive, hopen⟩ := hplaced (of_decide_eq_true hholds)
    rcases h with hfree | hclosed
    · rw [hfree.update] at hactive
      cases hactive
    · rw [hclosed] at hopen
      cases hopen
  | shutdown begun => cases hholds

/-- No call has a lease when the physical input is free. -/
theorem not_live_of_free (hplaced : call.Placed activity) (hfree : activity.Free) :
    call.leaseLive = false := by
  have hholds := not_holds hplaced (.inl hfree)
  cases call with
  | playback run =>
    refine Bool.eq_false_iff.mpr fun hlive => ?_
    rcases PlaybackRun.leaseLive_cases hlive with hrecorded | hclosed
    · exact Bool.eq_false_iff.mp hholds hrecorded
    · have hquarantined := hplaced.closedGood hclosed
      rw [hfree.quarantined] at hquarantined
      cases hquarantined
  | calibration phase => exact hholds
  | update phase => exact hholds
  | shutdown begun => exact hholds

/-- A call that is not recorded stays placed. -/
theorem Placed.of_not_holds (hplaced : call.Placed activity) (hholds : call.holds = false)
    (hremembers : Remembers activity after) : call.Placed after := by
  cases call with
  | playback run =>
    exact ⟨hplaced.coherent, fun h => absurd h (Bool.eq_false_iff.mp hholds),
      fun h => hremembers.quarantined (hplaced.closedGood h)⟩
  | calibration phase => exact fun h => absurd h (of_decide_eq_false hholds)
  | update phase => exact fun h => absurd h (of_decide_eq_false hholds)
  | shutdown begun => exact fun h => hremembers.closing (hplaced h)

/-- A call stays placed while the owners stay. -/
theorem Placed.of_same (hplaced : call.Placed activity) (hremembers : Remembers activity after)
    (hsame : after = { activity with closing := after.closing }) : call.Placed after := by
  cases call with
  | playback run =>
    refine ⟨hplaced.coherent, fun h => ?_, fun h => hremembers.quarantined (hplaced.closedGood h)⟩
    rw [hsame]
    exact hplaced.recorded h
  | calibration phase =>
    intro h
    rw [hsame]
    exact hplaced h
  | update phase =>
    intro h
    rw [hsame]
    exact hplaced h
  | shutdown begun => exact fun h => hremembers.closing (hplaced h)

/-- A call that does not move stays placed. -/
theorem Placed.of_frame (hplaced : other.Placed activity) (hremembers : Remembers activity after)
    (hframe : Frame call.leaseLive activity after)
    (hone : call.leaseLive = true → other.leaseLive = false) : other.Placed after := by
  cases hframe with
  | same h => exact hplaced.of_same hremembers h
  | owner h =>
    have hdead : other.holds = false :=
      Bool.eq_false_iff.mpr fun hholds =>
        Bool.eq_false_iff.mp (hone h) (leaseLive_of_holds hholds)
    exact hplaced.of_not_holds hdead hremembers
  | free h => exact hplaced.of_not_holds (not_holds hplaced (.inl h)) hremembers
  | quarantined h => exact hplaced.of_not_holds (not_holds hplaced (.inr h)) hremembers

/-- A step of a session moves its call. -/
theorem moves_playback {run moved : PlaybackRun} (hplaced : run.Placed activity)
    (hstep : run.step choice activity = some (after, moved)) :
    Moves (.playback run) (.playback moved) activity after := by
  obtain ⟨hcoherent, hid, hlease⟩ :=
    PlaybackRun.step_spec hplaced.coherent (fun h => (hplaced.recorded h).1) hstep
  suffices hmoved : moved.Placed after ∧ Remembers activity after ∧
      Frame run.leaseLive activity after from
    ⟨hmoved.1, hmoved.2.1, hmoved.2.2, PlaybackRun.leaseLive_step hstep,
      PlaybackRun.granted_step hstep, PlaybackRun.unverified_step hstep⟩
  cases hlease with
  | keeps hactivity hrecorded hclosed =>
    subst hactivity
    exact ⟨⟨hcoherent, fun h => hid ▸ hplaced.recorded (hrecorded ▸ h),
      fun h => hplaced.closedGood (hclosed ▸ h)⟩, ⟨id, id⟩, .same rfl⟩
  | takes hfree hactivity hrecorded hclosed =>
    subst hactivity
    exact ⟨⟨hcoherent, fun _ => ⟨congrArg some hid.symm, hfree.quarantined⟩,
      fun h => absurd h (Bool.eq_false_iff.mp hclosed)⟩, ⟨id, id⟩, .free hfree⟩
  | gives hlive hactivity hrecorded hclosed =>
    rw [ActivityState.releasePlayback_of_owner (hplaced.recorded hlive).1] at hactivity
    subst hactivity
    exact ⟨⟨hcoherent, fun h => absurd h (Bool.eq_false_iff.mp hrecorded),
      fun h => absurd h (Bool.eq_false_iff.mp hclosed)⟩, ⟨id, id⟩,
      .owner (PlaybackRun.leaseLive_of_recorded hlive)⟩
  | closes hlive hactivity hrecorded hclosed =>
    rw [ActivityState.quarantinePlayback_of_own fun owner howner =>
      Option.some.inj (howner.symm.trans (hplaced.recorded hlive).1)] at hactivity
    subst hactivity
    exact ⟨⟨hcoherent, fun h => absurd h (Bool.eq_false_iff.mp hrecorded), fun _ => rfl⟩,
      ⟨id, fun _ => rfl⟩, .owner (PlaybackRun.leaseLive_of_recorded hlive)⟩
  | drops hclosed hrecorded hactivity hnextRecorded hnextClosed =>
    have hquarantined := hplaced.closedGood hclosed
    have hremembers : Remembers activity after := by
      rcases hactivity with rfl | rfl
      · unfold ActivityState.releasePlayback
        split <;> exact ⟨id, id⟩
      · unfold ActivityState.quarantinePlayback
        split
        · exact ⟨id, id⟩
        · exact ⟨id, fun _ => rfl⟩
    exact ⟨⟨hcoherent, fun h => absurd h (Bool.eq_false_iff.mp hnextRecorded),
      fun _ => hremembers.quarantined hquarantined⟩, hremembers, .quarantined hquarantined⟩

/-- A step of a calibration moves its call. -/
theorem moves_calibration {phase moved : ReservationPhase}
    (hplaced : (ActivityCall.calibration phase).Placed activity)
    (hstep : phase.step ActivityState.reserveCalibration ActivityState.releaseCalibration activity =
      some (after, moved)) :
    Moves (.calibration phase) (.calibration moved) activity after := by
  rcases ReservationPhase.step_cases hstep with
    ⟨rfl, hgranted, rfl⟩ | ⟨rfl, rfl, error, rfl⟩ | ⟨rfl, rfl, rfl⟩
  · obtain ⟨hfree, rfl⟩ := ActivityState.reserveCalibration_eq_ok.mp hgranted
    exact ⟨fun _ => ⟨rfl, hfree.quarantined⟩, ⟨id, id⟩, .free hfree, fun _ => .inr hfree,
      fun _ => .inr hfree, id⟩
  · exact ⟨nofun, ⟨id, id⟩, .same rfl, nofun, nofun, id⟩
  · exact ⟨nofun, ⟨id, id⟩, .owner rfl, nofun, fun _ => .inl rfl, id⟩

/-- A step of an update moves its call. -/
theorem moves_update {phase moved : ReservationPhase}
    (hplaced : (ActivityCall.update phase).Placed activity)
    (hstep : phase.step ActivityState.reserveUpdate ActivityState.releaseUpdate activity =
      some (after, moved)) :
    Moves (.update phase) (.update moved) activity after := by
  rcases ReservationPhase.step_cases hstep with
    ⟨rfl, hgranted, rfl⟩ | ⟨rfl, rfl, error, rfl⟩ | ⟨rfl, rfl, rfl⟩
  · obtain ⟨hfree, rfl⟩ := ActivityState.reserveUpdate_eq_ok.mp hgranted
    exact ⟨fun _ => ⟨rfl, hfree.quarantined⟩, ⟨id, id⟩, .free hfree, fun _ => .inr hfree,
      fun _ => .inr hfree, id⟩
  · exact ⟨nofun, ⟨id, id⟩, .same rfl, nofun, nofun, id⟩
  · exact ⟨nofun, ⟨id, id⟩, .owner rfl, nofun, fun _ => .inl rfl, id⟩

/-- What a step of a call does to it and to the coordinator. -/
theorem moves_of_step (hplaced : call.Placed activity)
    (hstep : activityStep choice call activity = some (after, next)) :
    Moves call next activity after := by
  cases call with
  | playback run =>
    obtain ⟨⟨shared, moved⟩, hmoved, hpair⟩ := Option.map_eq_some_iff.mp hstep
    obtain ⟨rfl, rfl⟩ := Prod.mk.inj hpair
    exact moves_playback hplaced hmoved
  | calibration phase =>
    obtain ⟨⟨shared, moved⟩, hmoved, hpair⟩ := Option.map_eq_some_iff.mp hstep
    obtain ⟨rfl, rfl⟩ := Prod.mk.inj hpair
    exact moves_calibration hplaced hmoved
  | update phase =>
    obtain ⟨⟨shared, moved⟩, hmoved, hpair⟩ := Option.map_eq_some_iff.mp hstep
    obtain ⟨rfl, rfl⟩ := Prod.mk.inj hpair
    exact moves_update hplaced hmoved
  | shutdown begun =>
    unfold activityStep at hstep
    dsimp only at hstep
    split at hstep
    · cases hstep
    · obtain ⟨rfl, rfl⟩ := Prod.mk.inj (Option.some.inj hstep)
      exact ⟨fun _ => rfl, ⟨fun _ => rfl, id⟩, .same rfl, nofun, nofun, id⟩

/-- A call that begins is placed, and has no lease. -/
theorem placed_start (op : ActivityOp) :
    (activityStart op).Placed activity ∧ (activityStart op).leaseLive = false := by
  cases op with
  | play sessionId dryRun => exact ⟨⟨⟨rfl, rfl⟩, nofun, nofun⟩, rfl⟩
  | calibrate | update | shutdown => exact ⟨nofun, rfl⟩

/-- A call that begins is not admitted yet. -/
theorem not_granted_start (op : ActivityOp) : (activityStart op).granted = false := by
  cases op with
  | play sessionId dryRun => exact Bool.and_false _
  | calibrate | update | shutdown => rfl

end ActivityCall

/-- Every call is placed, and at most one has a lease. -/
structure Owned (activity : ActivityState) (calls : List ActivityCall) : Prop where
  placed : ∀ call ∈ calls, call.Placed activity
  one : calls.countP ActivityCall.leaseLive ≤ 1

variable {activity after : ActivityState} {calls : List ActivityCall} {index : ℕ}
  {call next : ActivityCall} {choice : SessionChoice}

/-- When the physical input is free, no call has a lease. -/
theorem Owned.countP_of_free (h : Owned activity calls) (hfree : activity.Free) :
    calls.countP ActivityCall.leaseLive = 0 :=
  List.countP_eq_zero.mpr fun call hcall =>
    Bool.eq_false_iff.mp (ActivityCall.not_live_of_free (h.placed call hcall) hfree)

/-- A step keeps one owner. -/
theorem Owned.step (h : Owned activity calls) (hcall : calls[index]? = some call)
    (hstep : activityStep choice call activity = some (after, next)) :
    Owned after (calls.set index next) := by
  have hmoves := ActivityCall.moves_of_step (h.placed call (List.mem_of_getElem? hcall)) hstep
  constructor
  · intro other hother
    obtain ⟨place, hplace⟩ := List.mem_iff_getElem?.mp hother
    by_cases hsame : index = place
    · rw [← hsame, List.getElem?_set_self (List.getElem?_eq_some_iff.mp hcall).1] at hplace
      rw [← Option.some.inj hplace]
      exact hmoves.placed
    · rw [List.getElem?_set_ne hsame] at hplace
      refine (h.placed other (List.mem_of_getElem? hplace)).of_frame hmoves.remembers hmoves.frame ?_
      intro hlive
      refine Bool.eq_false_iff.mpr fun hotherLive => hsame ?_
      exact eq_of_countP_le_one h.one hcall hlive hplace hotherLive
  · have hcount := @countP_set_add _ calls index call next ActivityCall.leaseLive hcall
    have hone := h.one
    cases hlive : next.leaseLive with
    | false =>
      rw [hlive, Bool.toNat_false] at hcount
      omega
    | true =>
      rw [hlive, Bool.toNat_true] at hcount
      rcases hmoves.live hlive with hheld | hfree
      · rw [hheld, Bool.toNat_true] at hcount
        omega
      · have hnone := h.countP_of_free hfree
        omega

/-- A call that begins keeps one owner. -/
theorem Owned.begin (h : Owned activity calls) (op : ActivityOp) :
    Owned activity (calls ++ [activityStart op]) := by
  obtain ⟨hplaced, hdead⟩ := @ActivityCall.placed_start activity op
  constructor
  · intro call hcall
    rcases List.mem_append.mp hcall with hold | hnew
    · exact h.placed call hold
    · rw [List.mem_singleton.mp hnew]
      exact hplaced
  · rw [List.countP_append, List.countP_singleton, hdead]
    exact h.one

/-- There is one owner in every reachable state. -/
theorem owned_invariant :
    activityMachine.Invariant fun pool => Owned pool.shared pool.calls :=
  CallProgram.invariant_of_steps
    ⟨fun _ hcall => absurd hcall List.not_mem_nil, Nat.zero_le 1⟩ (fun _ _ op h => h.begin op)
    fun _ _ _ _ _ _ _ h hcall hstep => h.step hcall hstep

/-- The program is closing, or a session was retired without the evidence that its keys were
released. -/
inductive Blocked (activity : ActivityState) (calls : List ActivityCall) : Prop where
  | closing (h : activity.closing = true)
  | quarantined (h : activity.physicalReleaseQuarantined = true)
  | unverified (call : ActivityCall) (hcall : call ∈ calls) (h : call.unverified = true)

/-- A coordinator that is blocked is not free. -/
theorem Owned.not_free_of_blocked (h : Owned activity calls) (hblocked : Blocked activity calls) :
    ¬activity.Free := by
  intro hfree
  cases hblocked with
  | closing hclosing =>
    rw [hfree.closing] at hclosing
    cases hclosing
  | quarantined hquarantined =>
    rw [hfree.quarantined] at hquarantined
    cases hquarantined
  | unverified call hcall hunverified =>
    have hplaced := h.placed call hcall
    cases call with
    | playback run =>
      rcases PlaybackRun.recorded_or_closedGood hplaced.coherent hunverified with hrecorded | hclosed
      · have howner := (hplaced.recorded hrecorded).1
        rw [hfree.playback] at howner
        cases howner
      · have hquarantined := hplaced.closedGood hclosed
        rw [hfree.quarantined] at hquarantined
        cases hquarantined
    | calibration | update | shutdown => cases hunverified

/-- A coordinator that is blocked stays blocked. -/
theorem Blocked.step (h : Blocked activity calls) (howned : Owned activity calls)
    (hcall : calls[index]? = some call)
    (hstep : activityStep choice call activity = some (after, next)) :
    Blocked after (calls.set index next) := by
  have hmoves := ActivityCall.moves_of_step (howned.placed call (List.mem_of_getElem? hcall)) hstep
  cases h with
  | closing hclosing => exact .closing (hmoves.remembers.closing hclosing)
  | quarantined hquarantined => exact .quarantined (hmoves.remembers.quarantined hquarantined)
  | unverified other hother hunverified =>
    obtain ⟨place, hplace⟩ := List.mem_iff_getElem?.mp hother
    have hlength := (List.getElem?_eq_some_iff.mp hcall).1
    by_cases hsame : index = place
    · have hmoved : other = call := Option.some.inj (hplace.symm.trans (hsame ▸ hcall))
      exact .unverified next (List.mem_of_getElem? (List.getElem?_set_self hlength))
        (hmoves.unverified (hmoved ▸ hunverified))
    · refine .unverified other (List.mem_of_getElem? (i := place) ?_) hunverified
      rw [List.getElem?_set_ne hsame]
      exact hplace

/-- A coordinator that is blocked stays blocked when a call begins. -/
theorem Blocked.begin (h : Blocked activity calls) (op : ActivityOp) :
    Blocked activity (calls ++ [activityStart op]) := by
  cases h with
  | closing hclosing => exact .closing hclosing
  | quarantined hquarantined => exact .quarantined hquarantined
  | unverified call hcall hunverified =>
    exact .unverified call (List.mem_append_left _ hcall) hunverified

/-- Every call that was admitted was so among some earlier calls. -/
def AdmittedBefore (earlier calls : List ActivityCall) : Prop :=
  ∀ (index : ℕ) (call : ActivityCall), calls[index]? = some call → call.granted = true →
    ∃ before : ActivityCall, earlier[index]? = some before ∧ before.granted = true

/-- Under a blocked coordinator, no call is admitted. -/
theorem AdmittedBefore.step {earlier : List ActivityCall} (h : AdmittedBefore earlier calls)
    (howned : Owned activity calls) (hblocked : Blocked activity calls)
    (hcall : calls[index]? = some call)
    (hstep : activityStep choice call activity = some (after, next)) :
    AdmittedBefore earlier (calls.set index next) := by
  have hmoves := ActivityCall.moves_of_step (howned.placed call (List.mem_of_getElem? hcall)) hstep
  intro place found hfound hgranted
  by_cases hsame : index = place
  · rw [← hsame, List.getElem?_set_self (List.getElem?_eq_some_iff.mp hcall).1] at hfound
    rw [← Option.some.inj hfound] at hgranted
    rcases hmoves.granted hgranted with hbefore | hfree
    · exact h place call (hsame ▸ hcall) hbefore
    · exact absurd hfree (howned.not_free_of_blocked hblocked)
  · rw [List.getElem?_set_ne hsame] at hfound
    exact h place found hfound hgranted

/-- A call that begins is not admitted yet. -/
theorem AdmittedBefore.begin {earlier : List ActivityCall} (h : AdmittedBefore earlier calls)
    (op : ActivityOp) : AdmittedBefore earlier (calls ++ [activityStart op]) := by
  intro place found hfound hgranted
  rw [List.getElem?_append] at hfound
  split at hfound
  · exact h place found hfound hgranted
  · have hnew : found = activityStart op :=
      List.mem_singleton.mp (List.mem_of_getElem? hfound)
    rw [hnew, ActivityCall.not_granted_start] at hgranted
    cases hgranted

/-- What the coordinator guarantees of the calls it meets. -/
structure Excludes (activity : ActivityState) (calls : List ActivityCall) : Prop where
  one : calls.countP ActivityCall.leaseLive ≤ 1
  playback : ∀ run, .playback run ∈ calls → run.leaseLive = true →
    (activity.physicalPlayback = some run.sessionId ∧
      activity.physicalReleaseQuarantined = false) ∨
    (activity.physicalReleaseQuarantined = true ∧ run.unverified = true)
  calibration : .calibration .held ∈ calls → activity.calibrationActive = true
  update : .update .held ∈ calls → activity.updateInstalling = true
  returned : ∀ run, .playback run ∈ calls → run.granted = true → run.leaseLive = false →
    run.worker = .notStarted ∨ run.worker = .joined

/-- One owner is what the coordinator guarantees. -/
theorem Owned.excludes (h : Owned activity calls) : Excludes activity calls where
  one := h.one
  playback run hrun hlive := by
    have hplaced : run.Placed activity := h.placed (.playback run) hrun
    rcases PlaybackRun.leaseLive_cases hlive with hrecorded | hclosed
    · exact .inl (hplaced.recorded hrecorded)
    · exact .inr ⟨hplaced.closedGood hclosed,
        PlaybackRun.unverified_of_closedGood hplaced.coherent hclosed⟩
  calibration hheld := (h.placed _ hheld rfl).1
  update hheld := (h.placed _ hheld rfl).1
  returned run hrun hgranted hgone := by
    have hplaced : run.Placed activity := h.placed (.playback run) hrun
    have hquiet := PlaybackRun.quiet_of_granted hplaced.coherent hgranted hgone
    cases hworker : run.worker with
    | notStarted => exact .inl rfl
    | joined => exact .inr rfl
    | running | exited =>
      rw [hworker] at hquiet
      exact hquiet.elim

/-- At most one playback, calibration or update has a lease of the physical input, and the coordinator
has recorded it. A playback gives its lease back only when its worker was joined or never started. Once
the program is closing, or a session is retired without the evidence that its keys were released, no
call is admitted any more. -/
theorem physical_activity_exclusion {pool : CallPool ActivityState ActivityCall}
    (hreachable : activityMachine.Reachable pool) :
    Excludes pool.shared pool.calls ∧
      (Blocked pool.shared pool.calls → ∀ actions after,
        activityMachine.run pool actions = some after → AdmittedBefore pool.calls after.calls) := by
  have howned := owned_invariant.holds hreachable
  refine ⟨howned.excludes, fun hblocked actions after hrun => ?_⟩
  suffices hpreserved : Owned after.shared after.calls ∧ Blocked after.shared after.calls ∧
      AdmittedBefore pool.calls after.calls from hpreserved.2.2
  refine Machine.run_preserves (P := fun reached => Owned reached.shared reached.calls ∧
    Blocked reached.shared reached.calls ∧ AdmittedBefore pool.calls reached.calls) ?_ hrun ?_
  · intro before action reached ⟨hone, hclosed, hadmitted⟩ hmade
    rcases CallProgram.poolStep_cases hmade with
      ⟨op, rfl, rfl⟩ | ⟨index, choice, call, shared, next, rfl, hcall, hcallStep, rfl⟩
    · exact ⟨hone.begin op, hclosed.begin op, hadmitted.begin op⟩
    · exact ⟨hone.step hcall hcallStep, hclosed.step hone hcall hcallStep,
        hadmitted.step hone hclosed hcall hcallStep⟩
  · exact ⟨howned, hblocked, fun _ call hcall hgranted => ⟨call, hcall, hgranted⟩⟩

/-- A session whose engine tells nothing of the release of its keys. -/
def silentChoice (workerExits : Bool) : SessionChoice where
  workerExits := workerExits
  panics := false
  failure := none
  supervisorLost := false
  terminal := true
  joined := .ok true
  status := .finished
  snapshot := ⟨true, none, 0, none, none, none, 0⟩

/-- A session plays to its end, and is about to be retired. -/
def playToEnd : List (PoolAction ActivityOp SessionChoice) :=
  .begin (.play "playback-1" false) :: (List.replicate 10 (.advance 0 (silentChoice false)) ++
    [.advance 0 (silentChoice true), .advance 0 (silentChoice false)])

/-- The session is retired, and another one asks for the physical input. -/
def retireThenPlay : List (PoolAction ActivityOp SessionChoice) :=
  List.replicate 4 (.advance 0 (silentChoice false)) ++
    [.begin (.play "playback-2" false), .advance 1 (silentChoice false)]

/-- After a session without evidence that its keys were released, the next one is refused. -/
theorem physical_activity_exclusion_scenario :
    ∃ pool after : CallPool ActivityState ActivityCall,
      Excludes pool.shared pool.calls ∧ AdmittedBefore pool.calls after.calls ∧
        pool.calls.map ActivityCall.granted = [true] ∧
          after.calls.map ActivityCall.granted = [true, false] := by
  have hcheck : (activityMachine.run activityMachine.initial playToEnd).any (fun pool =>
      pool.calls.any ActivityCall.unverified && (pool.calls.map ActivityCall.granted == [true] &&
        (activityMachine.run pool retireThenPlay).any fun after =>
          after.calls.map ActivityCall.granted == [true, false])) = true := by decide +kernel
  obtain ⟨pool, hpool, hrest⟩ := (Option.any_eq_true _ _).mp hcheck
  obtain ⟨hunverified, hgranted⟩ := Bool.and_eq_true_iff.mp hrest
  obtain ⟨hbefore, hafter⟩ := Bool.and_eq_true_iff.mp hgranted
  obtain ⟨after, hrun, hrefused⟩ := (Option.any_eq_true _ _).mp hafter
  obtain ⟨call, hcall, hverdict⟩ := List.any_eq_true.mp hunverified
  obtain ⟨hexcludes, hblocked⟩ := physical_activity_exclusion ⟨playToEnd, hpool⟩
  exact ⟨pool, after, hexcludes,
    hblocked (.unverified call hcall hverdict) retireThenPlay after hrun,
    eq_of_beq hbefore, eq_of_beq hrefused⟩

end SkyAutoPlayer.Desktop
