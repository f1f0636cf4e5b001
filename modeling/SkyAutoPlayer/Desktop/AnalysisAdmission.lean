import SkyAutoPlayer.Desktop.AnalysisCache

/-!
# The admission counters

A call stands on a footing: the flight it owns, whether it holds a permit or the admission lock,
and the flight it is about to cancel. Each step moves the counters along with the footing of its
call and the queue flags of the flights, so the counters are exact after every interleaving.
-/

namespace SkyAutoPlayer.Desktop

open Foundation

namespace OwnerPoint

/-- The points at which the owner holds a permit. -/
def holdsPermit : OwnerPoint → Bool
  | .permitCheck _ | .analyze | .currentRevision _ | .currentCheck _ _ | .currentCatalog _
  | .insert _ | .dropPermit _ | .unwind => true
  | _ => false

/-- The points at which the owner holds the admission lock. -/
def holdsAdmission : OwnerPoint → Bool
  | .admitCancelled | .admitCheck _ | .admitSelected | .loopCancelled | .loopCheck _ | .loopPromote
  | .loopTest | .loopRelease | .loopCancel => true
  | _ => false

/-- The points at which the owner is in the queue unless it was cancelled. -/
def waits : OwnerPoint → Bool
  | .waiting | .loopCancelled => true
  | _ => false

/-- What the owner knows of its flight: it is not queued yet, or still queued. -/
def Assumes (flight : AnalysisFlight) : OwnerPoint → Prop
  | .lock | .admitCancelled | .admitCheck _ | .admitSelected => flight.queued = false
  | .loopCheck _ | .loopPromote | .loopTest => flight.queued = true
  | _ => True

end OwnerPoint

namespace AnalysisCall

/-- The flight that a call owns. -/
def owned : AnalysisCall → Option ℕ
  | .owner _ index _ => some index
  | _ => none

/-- Whether a call holds a permit. -/
def holdsPermit : AnalysisCall → Bool
  | .owner _ _ point => point.holdsPermit
  | _ => false

/-- Whether a call holds the admission lock. -/
def holdsAdmission : AnalysisCall → Bool
  | .owner _ _ point => point.holdsAdmission
  | .viewportBump | .invalidateBump | .sweep _ _ => true
  | _ => false

/-- The flight that a sweep has taken from the queue and is about to cancel. -/
def cancelling : AnalysisCall → Option ℕ
  | .sweep _ (.cancel index _) => some index
  | _ => none

/-- The flight that a call waits with. -/
def waitsFor : AnalysisCall → Option ℕ
  | .owner _ index point => if point.waits then some index else none
  | _ => none

/-- What a call knows of its flight. -/
def Stands (heap : List AnalysisFlight) : AnalysisCall → Prop
  | .owner _ index point => ∃ flight, heap[index]? = some flight ∧ point.Assumes flight
  | _ => True

end AnalysisCall

/-- A flight that counts as a selected waiter. -/
def AnalysisFlight.selectedWaiter (flight : AnalysisFlight) : Bool :=
  flight.queued && flight.queuedAsSelected

/-- The queue counters count the flagged flights within the limit, and no subtraction saturated. -/
structure QueueCounted (runtime : AnalysisRuntime) : Prop where
  queued : runtime.admission.queued = runtime.heap.countP (·.queued)
  selected : runtime.admission.selectedWaiters = runtime.heap.countP (·.selectedWaiter)
  limit : runtime.admission.queued ≤ maxQueuedSongAnalyses
  exact : runtime.admission.saturated = false

/-- A waiting flight is queued, or has been cancelled, or is about to be. -/
def Waits (heap : List AnalysisFlight) (calls : List AnalysisCall) (index : ℕ) : Prop :=
  ∃ flight, heap[index]? = some flight ∧
    (flight.cancelled = true ∨ flight.queued = true ∨
      ∃ call ∈ calls, call.cancelling = some index)

/-- The invariant of the admission. -/
structure AdmissionInvariant (runtime : AnalysisRuntime) (calls : List AnalysisCall) : Prop where
  lock : calls.countP (·.holdsAdmission) = runtime.admissionLocked.toNat
  active : runtime.admission.active = calls.countP (·.holdsPermit)
  activeLimit : runtime.admission.active ≤ maxActiveSongAnalyses
  counted : QueueCounted runtime
  owners : ∀ (i j : ℕ) (first second : AnalysisCall) (index : ℕ), calls[i]? = some first →
    calls[j]? = some second → first.owned = some index → second.owned = some index → i = j
  stands : ∀ call ∈ calls, call.Stands runtime.heap
  waits : ∀ call ∈ calls, ∀ index, call.waitsFor = some index → Waits runtime.heap calls index

/-- What a step of a call may do to a flight: only the owner queues it, only the holder of the
admission lock takes it from the queue, and then it is the owner's or about to be cancelled. -/
structure FlightMoves (call next : AnalysisCall) (index : ℕ) (flight after : AnalysisFlight) :
    Prop where
  cancelled : flight.cancelled = true → after.cancelled = true
  queues : after.queued = true → flight.queued = true ∨ call.owned = some index
  unqueues : flight.queued = true → after.queued = true ∨
    call.holdsAdmission = true ∧ (call.owned = some index ∨ next.cancelling = some index)

/-- What a step does: the counters move with the footing of the call. -/
structure AdmissionMoves (call next : AnalysisCall) (runtime after : AnalysisRuntime) : Prop where
  lock : after.admissionLocked.toNat + call.holdsAdmission.toNat =
    runtime.admissionLocked.toNat + next.holdsAdmission.toNat
  active : after.admission.active + call.holdsPermit.toNat =
    runtime.admission.active + next.holdsPermit.toNat
  activeLimit : after.admission.active ≤ maxActiveSongAnalyses
  counted : QueueCounted after
  flights : ∀ index flight, runtime.heap[index]? = some flight →
    ∃ moved, after.heap[index]? = some moved ∧ FlightMoves call next index flight moved
  cancels : ∀ index, call.cancelling = some index → ∀ flight, after.heap[index]? = some flight →
    flight.cancelled = true
  owns : next.owned = call.owned ∨ next.owned = none ∨ next.owned = some runtime.heap.length
  stands : next.Stands after.heap
  waits : ∀ index, next.waitsFor = some index →
    (call.waitsFor = some index ∧ after.heap = runtime.heap) ∨
      ∃ flight, after.heap[index]? = some flight ∧ flight.queued = true

/-- A sweep that is about to cancel holds the admission lock. -/
theorem AnalysisCall.holdsAdmission_of_cancelling {call : AnalysisCall} {index : ℕ}
    (h : call.cancelling = some index) : call.holdsAdmission = true := by
  cases call with
  | sweep sweeper point => rfl
  | _ => cases h

namespace AdmissionInvariant

variable {runtime after : AnalysisRuntime} {calls : List AnalysisCall} {i : ℕ}
  {call next : AnalysisCall}

/-- A call that owns a flight stands on one of the heap. -/
theorem owned_lt (h : AdmissionInvariant runtime calls) (hmem : call ∈ calls) {index : ℕ}
    (howned : call.owned = some index) : index < runtime.heap.length := by
  have hstands := h.stands call hmem
  cases call with
  | owner request flight point =>
    obtain rfl : flight = index := Option.some.inj howned
    obtain ⟨found, hfound, -⟩ := hstands
    exact (List.getElem?_eq_some_iff.mp hfound).1
  | _ => cases howned

/-- At most one call holds the admission lock. -/
theorem eq_of_holdsAdmission (h : AdmissionInvariant runtime calls) {j : ℕ} {other : AnalysisCall}
    (hcall : calls[i]? = some call) (hholds : call.holdsAdmission = true)
    (hother : calls[j]? = some other) (hotherHolds : other.holdsAdmission = true) : i = j := by
  have hle : calls.countP (·.holdsAdmission) ≤ 1 := by
    rw [h.lock]
    exact Bool.toNat_le _
  exact eq_of_countP_le_one hle hcall hholds hother hotherHolds

/-- A move keeps the owners of the flights distinct. -/
theorem moves_owners (h : AdmissionInvariant runtime calls) (hcall : calls[i]? = some call)
    (hmoves : AdmissionMoves call next runtime after) (j k : ℕ) (first second : AnalysisCall)
    (index : ℕ) (hfirst : (calls.set i next)[j]? = some first)
    (hsecond : (calls.set i next)[k]? = some second) (hfirstOwned : first.owned = some index)
    (hsecondOwned : second.owned = some index) : j = k := by
  have hlength : i < calls.length := (List.getElem?_eq_some_iff.mp hcall).1
  -- the moved call owns what it owned, or a flight that nobody owned
  have hmoved : ∀ (m : ℕ) (other : AnalysisCall), m ≠ i → calls[m]? = some other →
      other.owned = some index → next.owned = some index → m = i := by
    intro m other hne hother hotherOwned hnext
    rcases hmoves.owns with hsame | hnone | hfresh
    · exact h.owners m i other call index hother hcall hotherOwned (hsame ▸ hnext)
    · rw [hnone] at hnext
      cases hnext
    · obtain rfl : runtime.heap.length = index := Option.some.inj (hfresh.symm.trans hnext)
      exact absurd (h.owned_lt (List.mem_of_getElem? hother) hotherOwned) (lt_irrefl _)
  by_cases hj : j = i
  · subst hj
    rw [List.getElem?_set_self hlength, Option.some.injEq] at hfirst
    subst hfirst
    by_cases hk : k = j
    · exact hk.symm
    · rw [List.getElem?_set_ne (Ne.symm hk)] at hsecond
      exact (hmoved k second hk hsecond hsecondOwned hfirstOwned).symm
  · rw [List.getElem?_set_ne (Ne.symm hj)] at hfirst
    by_cases hk : k = i
    · subst hk
      rw [List.getElem?_set_self hlength, Option.some.injEq] at hsecond
      subst hsecond
      exact hmoved j first hj hfirst hfirstOwned hsecondOwned
    · rw [List.getElem?_set_ne (Ne.symm hk)] at hsecond
      exact h.owners j k first second index hfirst hsecond hfirstOwned hsecondOwned

/-- A move of one call leaves what another call knows of its flight. -/
theorem moves_stands (h : AdmissionInvariant runtime calls) (hcall : calls[i]? = some call)
    (hmoves : AdmissionMoves call next runtime after) {j : ℕ} {other : AnalysisCall}
    (hne : j ≠ i) (hother : calls[j]? = some other) : other.Stands after.heap := by
  have hstands := h.stands other (List.mem_of_getElem? hother)
  cases other with
  | owner request index point =>
    obtain ⟨flight, hflight, hassumes⟩ := hstands
    obtain ⟨moved, hmoved, hmove⟩ := hmoves.flights index flight hflight
    have hforeign : call.owned ≠ some index := fun howned =>
      hne (h.owners j i _ call index hother hcall rfl howned)
    have hqueues : moved.queued = true → flight.queued = true :=
      fun hqueued => (hmove.queues hqueued).resolve_right hforeign
    -- another holder of the lock excludes that this one takes the flight from the queue
    have hkeeps : point.holdsAdmission = true → flight.queued = true → moved.queued = true := by
      intro hholds hqueued
      rcases hmove.unqueues hqueued with hkept | ⟨hcallHolds, -⟩
      · exact hkept
      · exact absurd (h.eq_of_holdsAdmission hother hholds hcall hcallHolds) hne
    have hunqueued : flight.queued = false → moved.queued = false := by
      intro hflag
      by_contra hqueued
      have := hqueues ((Bool.not_eq_false _).mp hqueued)
      exact absurd this (ne_true_of_eq_false hflag)
    refine ⟨moved, hmoved, ?_⟩
    cases point with
    | lock | admitCancelled | admitCheck _ | admitSelected => exact hunqueued hassumes
    | loopCheck _ | loopPromote | loopTest => exact hkeeps rfl hassumes
    | _ => trivial
  | _ => trivial

/-- A move keeps what is known of the waiting flights. -/
theorem moves_waits (hcall : calls[i]? = some call)
    (hmoves : AdmissionMoves call next runtime after) {index : ℕ}
    (hwaits : Waits runtime.heap calls index) (hforeign : call.owned = some index →
      after.heap = runtime.heap) : Waits after.heap (calls.set i next) index := by
  have hlength : i < calls.length := (List.getElem?_eq_some_iff.mp hcall).1
  obtain ⟨flight, hflight, hstate⟩ := hwaits
  obtain ⟨moved, hmoved, hmove⟩ := hmoves.flights index flight hflight
  have hsame : call.owned = some index → moved = flight := by
    intro howned
    rw [hforeign howned, hflight] at hmoved
    exact (Option.some.inj hmoved).symm
  refine ⟨moved, hmoved, ?_⟩
  rcases hstate with hcancelled | hqueued | ⟨other, hother, hcancels⟩
  · exact Or.inl (hmove.cancelled hcancelled)
  · rcases hmove.unqueues hqueued with hkept | ⟨-, howned | hnext⟩
    · exact Or.inr (Or.inl hkept)
    · rw [hsame howned]
      exact Or.inr (Or.inl hqueued)
    · exact Or.inr (Or.inr ⟨next, List.mem_set hlength next, hnext⟩)
  · obtain ⟨j, hj⟩ := List.getElem?_of_mem hother
    by_cases hji : j = i
    · subst hji
      obtain rfl := Option.some.inj (hj.symm.trans hcall)
      exact Or.inl (hmoves.cancels index hcancels moved hmoved)
    · refine Or.inr (Or.inr ⟨other, ?_, hcancels⟩)
      rw [← List.getElem?_set_ne (Ne.symm hji)] at hj
      exact List.mem_of_getElem? hj

/-- A move keeps the invariant. -/
theorem moves (h : AdmissionInvariant runtime calls) (hcall : calls[i]? = some call)
    (hmoves : AdmissionMoves call next runtime after) :
    AdmissionInvariant after (calls.set i next) where
  lock := by
    have hcount := @countP_set_add _ calls i call next (·.holdsAdmission) hcall
    have hlock := h.lock
    have hmove := hmoves.lock
    omega
  active := by
    have hcount := @countP_set_add _ calls i call next (·.holdsPermit) hcall
    have hactive := h.active
    have hmove := hmoves.active
    omega
  activeLimit := hmoves.activeLimit
  counted := hmoves.counted
  owners := h.moves_owners hcall hmoves
  stands other hmem := by
    obtain ⟨j, hj⟩ := List.getElem?_of_mem hmem
    by_cases hji : j = i
    · subst hji
      rw [List.getElem?_set_self (List.getElem?_eq_some_iff.mp hcall).1, Option.some.injEq] at hj
      exact hj ▸ hmoves.stands
    · rw [List.getElem?_set_ne (Ne.symm hji)] at hj
      exact h.moves_stands hcall hmoves hji hj
  waits other hmem index hwaitsFor := by
    obtain ⟨j, hj⟩ := List.getElem?_of_mem hmem
    by_cases hji : j = i
    · subst hji
      rw [List.getElem?_set_self (List.getElem?_eq_some_iff.mp hcall).1, Option.some.injEq] at hj
      subst hj
      rcases hmoves.waits index hwaitsFor with ⟨hwaited, hheap⟩ | ⟨flight, hflight, hqueued⟩
      · exact moves_waits hcall hmoves
          (h.waits call (List.mem_of_getElem? hcall) index hwaited) fun _ => hheap
      · exact ⟨flight, hflight, Or.inr (Or.inl hqueued)⟩
    · rw [List.getElem?_set_ne (Ne.symm hji)] at hj
      have howned : other.owned = some index := by
        cases other with
        | owner request flight point =>
          simp only [AnalysisCall.waitsFor, Option.ite_none_right_eq_some] at hwaitsFor
          exact hwaitsFor.2
        | _ => cases hwaitsFor
      refine moves_waits hcall hmoves
        (h.waits other (List.mem_of_getElem? hj) index hwaitsFor) fun hcallOwned => ?_
      exact absurd (h.owners j i other call index hj hcall howned hcallOwned) hji

end AdmissionInvariant

namespace QueueCounted

variable {runtime : AnalysisRuntime} {index : ℕ} {flight : AnalysisFlight}

/-- A change of a flight that leaves its queue flags keeps the counts. -/
theorem modifyFlight (h : QueueCounted runtime) {change : AnalysisFlight → AnalysisFlight}
    (hqueued : ∀ flight, (change flight).queued = flight.queued)
    (hselected : ∀ flight, (change flight).queuedAsSelected = flight.queuedAsSelected) :
    QueueCounted (runtime.modifyFlight index change) := by
  have hcount : ∀ test : AnalysisFlight → Bool, (∀ flight, test (change flight) = test flight) →
      (runtime.heap.modify index change).countP test = runtime.heap.countP test := by
    intro test htest
    rw [List.modify_eq_set_getElem?]
    cases hflight : runtime.heap[index]? with
    | none => rfl
    | some flight => exact countP_set_of_eq hflight (htest flight)
  refine ⟨?_, ?_, h.limit, h.exact⟩
  · exact h.queued.trans (hcount _ hqueued).symm
  · refine h.selected.trans (hcount _ fun flight => ?_).symm
    rw [AnalysisFlight.selectedWaiter, AnalysisFlight.selectedWaiter, hqueued, hselected]

/-- Counters that move with the flags of the flight that changed stay counts. -/
theorem set (h : QueueCounted runtime) (hflight : runtime.heap[index]? = some flight)
    {moved : AnalysisFlight} {after : AnalysisRuntime}
    (hheap : after.heap = runtime.heap.set index moved)
    (hqueued : after.admission.queued + flight.queued.toNat =
      runtime.admission.queued + moved.queued.toNat)
    (hselected : after.admission.selectedWaiters + flight.selectedWaiter.toNat =
      runtime.admission.selectedWaiters + moved.selectedWaiter.toNat)
    (hlimit : after.admission.queued ≤ maxQueuedSongAnalyses)
    (hexact : after.admission.saturated = false) : QueueCounted after := by
  refine ⟨?_, ?_, hlimit, hexact⟩
  · have hcount := @countP_set_add _ runtime.heap index flight moved (·.queued) hflight
    have hold := h.queued
    rw [hheap]
    omega
  · have hcount := @countP_set_add _ runtime.heap index flight moved (·.selectedWaiter) hflight
    have hold := h.selected
    rw [hheap]
    omega

/-- A queued flight is counted. -/
theorem queued_pos (h : QueueCounted runtime) (hflight : runtime.heap[index]? = some flight)
    (hqueued : flight.queued = true) : 0 < runtime.admission.queued := by
  rw [h.queued]
  exact @countP_pos_of_getElem? _ runtime.heap index flight (·.queued) hflight hqueued

/-- A queued flight that is marked as selected is counted as such. -/
theorem selected_pos (h : QueueCounted runtime) (hflight : runtime.heap[index]? = some flight)
    (hselected : flight.selectedWaiter = true) : 0 < runtime.admission.selectedWaiters := by
  rw [h.selected]
  exact @countP_pos_of_getElem? _ runtime.heap index flight (·.selectedWaiter) hflight hselected

/-- A flight that enters the queue is counted. -/
theorem enqueue (h : QueueCounted runtime) (hflight : runtime.heap[index]? = some flight)
    (hqueued : flight.queued = false)
    (hroom : runtime.admission.queued < maxQueuedSongAnalyses) {selected : Bool} :
    QueueCounted (runtime.enqueue index flight selected) := by
  refine h.set hflight rfl ?_ ?_ hroom h.exact
  · simp [AnalysisRuntime.enqueue, hqueued]
  · cases selected <;> simp [AnalysisRuntime.enqueue, AnalysisFlight.selectedWaiter, hqueued]

/-- A queued flight that is promoted is counted once. -/
theorem promote (h : QueueCounted runtime) (hflight : runtime.heap[index]? = some flight)
    (hqueued : flight.queued = true) : QueueCounted (runtime.promote index flight) := by
  refine h.set hflight rfl rfl ?_ h.limit h.exact
  cases hflag : flight.queuedAsSelected <;>
    simp [AnalysisRuntime.promote, AnalysisFlight.selectedWaiter, hqueued, hflag]

/-- A flight that leaves the queue is no longer counted, and no subtraction saturates. -/
theorem release (h : QueueCounted runtime) (hflight : runtime.heap[index]? = some flight)
    {alive : ℕ → Bool} : QueueCounted (runtime.releaseQueuedAnalysis alive index flight) := by
  cases hqueued : flight.queued with
  | false =>
    refine h.set hflight rfl ?_ ?_ ?_ ?_ <;>
      simp [AnalysisRuntime.releaseQueuedAnalysis, AnalysisFlight.selectedWaiter, hqueued, h.limit,
        h.exact]
  | true =>
    have hpositive := h.queued_pos hflight hqueued
    have hlimit := Nat.le_trans (Nat.sub_le _ 1) h.limit
    have hwaiter : flight.selectedWaiter = flight.queuedAsSelected := by
      rw [AnalysisFlight.selectedWaiter, hqueued, Bool.true_and]
    cases hflag : flight.queuedAsSelected with
    | false =>
      refine h.set hflight rfl ?_ ?_ ?_ ?_ <;>
        simp only [AnalysisRuntime.releaseQueuedAnalysis, AnalysisAdmissionState.leaveQueue, hqueued,
          hflag, hwaiter, h.exact, if_true, Bool.false_eq_true, if_false, Bool.toNat_true]
      · exact Nat.sub_add_cancel hpositive
      · rfl
      · exact hlimit
      · simpa using Nat.pos_iff_ne_zero.mp hpositive
    | true =>
      have hselected := h.selected_pos hflight (hwaiter.trans hflag)
      refine h.set hflight rfl ?_ ?_ ?_ ?_ <;>
        simp only [AnalysisRuntime.releaseQueuedAnalysis, AnalysisAdmissionState.leaveQueue, hqueued,
          hflag, hwaiter, h.exact, if_true, Bool.toNat_true]
      · exact Nat.sub_add_cancel hpositive
      · exact Nat.sub_add_cancel hselected
      · exact hlimit
      · simpa using ⟨Nat.pos_iff_ne_zero.mp hpositive, Nat.pos_iff_ne_zero.mp hselected⟩

end QueueCounted

/-- The counters of two admission states agree. -/
structure SameCounters (before after : AnalysisAdmissionState) : Prop where
  active : after.active = before.active
  queued : after.queued = before.queued
  selectedWaiters : after.selectedWaiters = before.selectedWaiters
  saturated : after.saturated = before.saturated

/-- Equal states have equal counters. -/
theorem SameCounters.refl (admission : AnalysisAdmissionState) : SameCounters admission admission :=
  ⟨rfl, rfl, rfl, rfl⟩

/-- The counts depend on the counters and the flights only. -/
theorem QueueCounted.same {runtime after : AnalysisRuntime} (h : QueueCounted runtime)
    (hheap : after.heap = runtime.heap)
    (hcounters : SameCounters runtime.admission after.admission) : QueueCounted after where
  queued := by rw [hcounters.queued, hheap, h.queued]
  selected := by rw [hcounters.selectedWaiters, hheap, h.selected]
  limit := by rw [hcounters.queued]; exact h.limit
  exact := by rw [hcounters.saturated, h.exact]

/-- A flight that nothing happens to. -/
theorem FlightMoves.refl {call next : AnalysisCall} {index : ℕ} {flight : AnalysisFlight} :
    FlightMoves call next index flight flight :=
  ⟨id, Or.inl, Or.inl⟩

/-- A change of one flight changes no other. -/
theorem FlightMoves.set {call next : AnalysisCall} {heap : List AnalysisFlight} {changed : ℕ}
    {flight moved : AnalysisFlight} (hflight : heap[changed]? = some flight)
    (hmove : FlightMoves call next changed flight moved) (index : ℕ) (other : AnalysisFlight)
    (hother : heap[index]? = some other) : ∃ after, (heap.set changed moved)[index]? = some after ∧
      FlightMoves call next index other after := by
  by_cases hsame : changed = index
  · subst hsame
    obtain rfl := Option.some.inj (hflight.symm.trans hother)
    exact ⟨moved, List.getElem?_set_self (List.getElem?_eq_some_iff.mp hflight).1, hmove⟩
  · exact ⟨other, (List.getElem?_set_ne hsame).trans hother, FlightMoves.refl⟩

namespace AdmissionInvariant

variable {runtime after : AnalysisRuntime} {calls : List AnalysisCall} {i : ℕ}
  {call next : AnalysisCall}

/-- While a call holds the admission lock it is taken. -/
theorem locked (h : AdmissionInvariant runtime calls) (hcall : calls[i]? = some call)
    (hholds : call.holdsAdmission = true) : runtime.admissionLocked = true := by
  have hpositive := @countP_pos_of_getElem? _ calls i call (·.holdsAdmission) hcall hholds
  rw [h.lock] at hpositive
  cases hlocked : runtime.admissionLocked with
  | true => rfl
  | false => simp [hlocked] at hpositive

/-- A step that changes no flight and no counter. -/
theorem quiet (h : AdmissionInvariant runtime calls) (hheap : after.heap = runtime.heap)
    (hcounters : SameCounters runtime.admission after.admission)
    (hlock : after.admissionLocked.toNat + call.holdsAdmission.toNat =
      runtime.admissionLocked.toNat + next.holdsAdmission.toNat)
    (hpermit : next.holdsPermit = call.holdsPermit) (hcancelling : call.cancelling = none)
    (howns : next.owned = call.owned ∨ next.owned = none) (hstands : next.Stands runtime.heap)
    (hwaits : ∀ index, next.waitsFor = some index → call.waitsFor = some index ∨
      ∃ flight, runtime.heap[index]? = some flight ∧ flight.queued = true) :
    AdmissionMoves call next runtime after where
  lock := hlock
  active := by rw [hcounters.active, hpermit]
  activeLimit := by rw [hcounters.active]; exact h.activeLimit
  counted := h.counted.same hheap hcounters
  flights index flight hflight := ⟨flight, hheap ▸ hflight, FlightMoves.refl⟩
  cancels index hsome := by
    rw [hcancelling] at hsome
    cases hsome
  owns := howns.imp_right Or.inl
  stands := hheap ▸ hstands
  waits index hnext := (hwaits index hnext).imp (fun hwaited => ⟨hwaited, hheap⟩)
    fun ⟨flight, hflight, hqueued⟩ => ⟨flight, hheap ▸ hflight, hqueued⟩

/-- A step of a call without a flight that changes no flight and no counter. -/
theorem quiet_free (h : AdmissionInvariant runtime calls) (hheap : after.heap = runtime.heap)
    (hcounters : SameCounters runtime.admission after.admission)
    (hlock : after.admissionLocked.toNat + call.holdsAdmission.toNat =
      runtime.admissionLocked.toNat + next.holdsAdmission.toNat)
    (hcall : call.holdsPermit = false ∧ call.cancelling = none)
    (hnext : next.holdsPermit = false ∧ next.owned = none ∧ next.waitsFor = none) :
    AdmissionMoves call next runtime after := by
  refine h.quiet hheap hcounters hlock (hnext.1.trans hcall.1.symm) hcall.2 (Or.inr hnext.2.1) ?_
    fun index hwaits => ?_
  · cases next with
    | owner request index point => cases hnext.2.1
    | _ => trivial
  · rw [hnext.2.2] at hwaits
    cases hwaits

/-- A step of an owner that changes no flight and no counter. -/
theorem quiet_owner (h : AdmissionInvariant runtime calls) {request : AnalysisRequest}
    {index : ℕ} {flight : AnalysisFlight} {point nextPoint : OwnerPoint}
    (hflight : runtime.heap[index]? = some flight) (hheap : after.heap = runtime.heap)
    (hcounters : SameCounters runtime.admission after.admission)
    (hlock : after.admissionLocked.toNat + point.holdsAdmission.toNat =
      runtime.admissionLocked.toNat + nextPoint.holdsAdmission.toNat)
    (hpermit : nextPoint.holdsPermit = point.holdsPermit) (hassumes : nextPoint.Assumes flight)
    (hwaits : nextPoint.waits = true → point.waits = true ∨ flight.queued = true) :
    AdmissionMoves (.owner request index point) (.owner request index nextPoint) runtime after := by
  refine h.quiet hheap hcounters hlock hpermit rfl (Or.inl rfl) ⟨flight, hflight, hassumes⟩
    fun waited hnext => ?_
  simp only [AnalysisCall.waitsFor, Option.ite_none_right_eq_some, Option.some.injEq] at hnext ⊢
  obtain ⟨hnextWaits, rfl⟩ := hnext
  exact (hwaits hnextWaits).imp (fun hpoint => ⟨hpoint, rfl⟩) fun hqueued => ⟨flight, hflight, hqueued⟩

/-- A step that changes one flight beside its queue flags. -/
theorem modify (h : AdmissionInvariant runtime calls) {changed : ℕ}
    {change : AnalysisFlight → AnalysisFlight}
    (hheap : after.heap = (runtime.modifyFlight changed change).heap)
    (hcounters : SameCounters runtime.admission after.admission)
    (hqueued : ∀ flight, (change flight).queued = flight.queued)
    (hselected : ∀ flight, (change flight).queuedAsSelected = flight.queuedAsSelected)
    (hcancelled : ∀ flight, flight.cancelled = true → (change flight).cancelled = true)
    (hlock : after.admissionLocked.toNat + call.holdsAdmission.toNat =
      runtime.admissionLocked.toNat + next.holdsAdmission.toNat)
    (hpermit : next.holdsPermit = call.holdsPermit)
    (hcancels : ∀ index, call.cancelling = some index →
      index = changed ∧ ∀ flight, (change flight).cancelled = true)
    (howns : next.owned = call.owned ∨ next.owned = none) (hstands : next.Stands after.heap)
    (hwaits : next.waitsFor = none) : AdmissionMoves call next runtime after where
  lock := hlock
  active := by rw [hcounters.active, hpermit]
  activeLimit := by rw [hcounters.active]; exact h.activeLimit
  counted := (@QueueCounted.modifyFlight runtime changed h.counted change hqueued hselected).same
    hheap hcounters
  flights index flight hflight := by
    rw [hheap]
    by_cases hsame : changed = index
    · refine ⟨change flight, ?_, hcancelled flight, fun hset => Or.inl ?_, fun hset => Or.inl ?_⟩
      · simp [AnalysisRuntime.modifyFlight, hsame, hflight]
      · exact (hqueued flight).symm.trans hset
      · exact (hqueued flight).trans hset
    · refine ⟨flight, ?_, FlightMoves.refl⟩
      simp [AnalysisRuntime.modifyFlight, hsame, hflight]
  cancels index hcancelling flight hflight := by
    obtain ⟨rfl, hchange⟩ := hcancels index hcancelling
    rw [hheap, AnalysisRuntime.modifyFlight, List.getElem?_modify_eq] at hflight
    obtain ⟨before, -, rfl⟩ := Option.map_eq_some_iff.mp hflight
    exact hchange before
  owns := howns.imp_right Or.inl
  stands := hstands
  waits index hnext := by
    rw [hwaits] at hnext
    cases hnext

/-- A step that takes a flight out of the queue. -/
theorem release (h : AdmissionInvariant runtime calls) {index : ℕ} {flight : AnalysisFlight}
    {alive : ℕ → Bool} (hflight : runtime.heap[index]? = some flight)
    (hheap : after.heap = (runtime.releaseQueuedAnalysis alive index flight).heap)
    (hcounters : ∀ active, SameCounters
      { (runtime.releaseQueuedAnalysis alive index flight).admission with active }
      { after.admission with active })
    (hactive : after.admission.active + call.holdsPermit.toNat =
      runtime.admission.active + next.holdsPermit.toNat)
    (hlimit : after.admission.active ≤ maxActiveSongAnalyses)
    (hlock : after.admissionLocked.toNat + call.holdsAdmission.toNat =
      runtime.admissionLocked.toNat + next.holdsAdmission.toNat)
    (hholds : call.holdsAdmission = true) (hcancelling : call.cancelling = none)
    (hunqueues : flight.queued = true → call.owned = some index ∨ next.cancelling = some index)
    (howns : next.owned = call.owned ∨ next.owned = none) (hstands : next.Stands after.heap)
    (hwaits : next.waitsFor = none) : AdmissionMoves call next runtime after where
  lock := hlock
  active := hactive
  activeLimit := hlimit
  counted := by
    have hreleased := @QueueCounted.release runtime index flight h.counted hflight alive
    have hsame := hcounters 0
    refine ⟨?_, ?_, ?_, ?_⟩
    · rw [hheap]
      exact hsame.queued.trans hreleased.queued
    · rw [hheap]
      exact hsame.selectedWaiters.trans hreleased.selected
    · exact hsame.queued.trans_le hreleased.limit
    · exact hsame.saturated.trans hreleased.exact
  flights := by
    rw [hheap]
    exact FlightMoves.set hflight
      ⟨id, nofun, fun hqueued => Or.inr ⟨hholds, hunqueues hqueued⟩⟩
  cancels other hsome := by
    rw [hcancelling] at hsome
    cases hsome
  owns := howns.imp_right Or.inl
  stands := hstands
  waits other hnext := by
    rw [hwaits] at hnext
    cases hnext

end AdmissionInvariant

/-- The admission lock is taken from free. -/
theorem lockAdmission_eq_some {runtime after : AnalysisRuntime}
    (h : runtime.lockAdmission = some after) :
    runtime.admissionLocked = false ∧ after = { runtime with admissionLocked := true } := by
  rw [AnalysisRuntime.lockAdmission] at h
  split at h
  · cases h
  · rename_i hfree
    exact ⟨Bool.eq_false_iff.mpr hfree, (Option.some.inj h).symm⟩

/-- A permit that is given out is one of at most so many. -/
theorem admits_active {admission : AnalysisAdmissionState} {selected : Bool}
    (h : admission.admits selected = true) : admission.active < maxActiveSongAnalyses := by
  simp only [AnalysisAdmissionState.admits, Bool.and_eq_true, decide_eq_true_eq] at h
  exact h.1

namespace AdmissionInvariant

variable {runtime after : AnalysisRuntime} {calls : List AnalysisCall} {i : ℕ}
  {request : AnalysisRequest} {index : ℕ} {flight : AnalysisFlight} {choice : AnalysisChoice}
  {sha256Hex : List UInt8 → String}

/-- Freeing the admission lock that a call holds. -/
theorem unlock (h : AdmissionInvariant runtime calls) {call : AnalysisCall}
    (hcall : calls[i]? = some call) (hholds : call.holdsAdmission = true) :
    false.toNat + true.toNat = runtime.admissionLocked.toNat + false.toNat := by
  rw [h.locked hcall hholds]
  rfl

/-- The flight that an owner stands on. -/
theorem assumes (h : AdmissionInvariant runtime calls) {point : OwnerPoint}
    (hcall : calls[i]? = some (.owner request index point))
    (hflight : runtime.heap[index]? = some flight) : point.Assumes flight := by
  obtain ⟨found, hfound, hassumes⟩ := h.stands _ (List.mem_of_getElem? hcall)
  obtain rfl := Option.some.inj (hflight.symm.trans hfound)
  exact hassumes

/-- An owner that holds the admission lock and was not cancelled is queued. -/
theorem queued_of_waits (h : AdmissionInvariant runtime calls)
    (hcall : calls[i]? = some (.owner request index .loopCancelled))
    (hflight : runtime.heap[index]? = some flight) (hcancelled : flight.cancelled = false) :
    flight.queued = true := by
  obtain ⟨found, hfound, hstate⟩ := h.waits _ (List.mem_of_getElem? hcall) index rfl
  obtain rfl := Option.some.inj (hflight.symm.trans hfound)
  rcases hstate with hset | hqueued | ⟨other, hother, hcancelling⟩
  · exact absurd hset (ne_true_of_eq_false hcancelled)
  · exact hqueued
  · obtain ⟨j, hj⟩ := List.getElem?_of_mem hother
    have hsame := h.eq_of_holdsAdmission hcall rfl hj
      (AnalysisCall.holdsAdmission_of_cancelling hcancelling)
    subst hsame
    obtain rfl := Option.some.inj (hcall.symm.trans hj)
    cases hcancelling

/-- Taking a flight out of the queue leaves the permits. -/
theorem releaseQueuedAnalysis_active {alive : ℕ → Bool} :
    (runtime.releaseQueuedAnalysis alive index flight).admission.active =
      runtime.admission.active := by
  cases hqueued : flight.queued <;>
    simp [AnalysisRuntime.releaseQueuedAnalysis, hqueued, AnalysisAdmissionState.leaveQueue]

/-- A step of an owner before it is queued or given a permit. -/
theorem admit_moves (h : AdmissionInvariant runtime calls)
    (hcall : calls[i]? = some (.owner request index .admitSelected))
    (hflight : runtime.heap[index]? = some flight) {next : OwnerPoint}
    (hstep : admissionStep sha256Hex choice request index flight runtime .admitSelected =
      some (after, next)) :
    AdmissionMoves (.owner request index .admitSelected) (.owner request index next) runtime after := by
  have hunlock := h.unlock hcall rfl
  have hqueued : flight.queued = false := h.assumes hcall hflight
  simp only [admissionStep] at hstep
  split at hstep
  · rename_i hadmits
    obtain ⟨rfl, rfl⟩ := Prod.mk.inj (Option.some.inj hstep)
    have hcounted : QueueCounted runtime.grant.unlockAdmission :=
      ⟨h.counted.queued, h.counted.selected, h.counted.limit, h.counted.exact⟩
    exact ⟨hunlock, rfl, admits_active hadmits, hcounted,
      fun _ other hother => ⟨other, hother, FlightMoves.refl⟩, nofun, Or.inl rfl,
      ⟨flight, hflight, trivial⟩, nofun⟩
  · split at hstep
    · obtain ⟨rfl, rfl⟩ := Prod.mk.inj (Option.some.inj hstep)
      exact h.quiet_owner hflight rfl (SameCounters.refl _) hunlock rfl trivial nofun
    · rename_i hroom
      obtain ⟨rfl, rfl⟩ := Prod.mk.inj (Option.some.inj hstep)
      have hlength := (List.getElem?_eq_some_iff.mp hflight).1
      have hset : (runtime.enqueue index flight flight.selectedPriority).heap[index]? =
          some { flight with queued := true, queuedAsSelected := flight.selectedPriority } :=
        List.getElem?_set_self hlength
      refine ⟨rfl, rfl, h.activeLimit, h.counted.enqueue hflight hqueued (Nat.not_le.mp hroom),
        FlightMoves.set hflight ⟨id, fun _ => Or.inr rfl, fun _ => Or.inl rfl⟩, nofun, Or.inl rfl,
        ⟨_, hset, trivial⟩, fun other hother => Or.inr ?_⟩
      obtain rfl : index = other := Option.some.inj hother
      exact ⟨_, hset, rfl⟩

/-- A step of an owner that tests, in the queue, whether it gets a permit. -/
theorem test_moves (h : AdmissionInvariant runtime calls)
    (hcall : calls[i]? = some (.owner request index .loopTest))
    (hflight : runtime.heap[index]? = some flight) {next : OwnerPoint}
    (hstep : admissionStep sha256Hex choice request index flight runtime .loopTest =
      some (after, next)) :
    AdmissionMoves (.owner request index .loopTest) (.owner request index next) runtime after := by
  have hunlock := h.unlock hcall rfl
  have hqueued : flight.queued = true := h.assumes hcall hflight
  simp only [admissionStep] at hstep
  split at hstep
  · rename_i hadmits
    obtain ⟨rfl, rfl⟩ := Prod.mk.inj (Option.some.inj hstep)
    have hgranted : (runtime.releaseQueuedAnalysis choice.alive index flight).admission.active + 1 =
        runtime.admission.active + 1 := by rw [releaseQueuedAnalysis_active]
    have hlength := (List.getElem?_eq_some_iff.mp hflight).1
    refine h.release hflight rfl (fun _ => ⟨rfl, rfl, rfl, rfl⟩) hgranted ?_ hunlock rfl rfl
      (fun _ => Or.inl rfl) (Or.inl rfl) ⟨_, List.getElem?_set_self hlength, trivial⟩ rfl
    exact hgranted.trans_le (admits_active hadmits)
  · obtain ⟨rfl, rfl⟩ := Prod.mk.inj (Option.some.inj hstep)
    exact h.quiet_owner hflight rfl (SameCounters.refl _) hunlock rfl trivial fun _ => Or.inr hqueued

/-- A step of an owner that leaves the queue without a permit. -/
theorem release_moves (h : AdmissionInvariant runtime calls)
    (hcall : calls[i]? = some (.owner request index .loopRelease))
    (hflight : runtime.heap[index]? = some flight) {next : OwnerPoint}
    (hstep : admissionStep sha256Hex choice request index flight runtime .loopRelease =
      some (after, next)) :
    AdmissionMoves (.owner request index .loopRelease) (.owner request index next) runtime after := by
  have hactive := @releaseQueuedAnalysis_active runtime index flight choice.alive
  have hlength := (List.getElem?_eq_some_iff.mp hflight).1
  have hlimit := hactive.trans_le h.activeLimit
  simp only [admissionStep] at hstep
  split at hstep
  · obtain ⟨rfl, rfl⟩ := Prod.mk.inj (Option.some.inj hstep)
    exact h.release hflight rfl (fun _ => ⟨rfl, rfl, rfl, rfl⟩) hactive hlimit rfl rfl rfl
      (fun _ => Or.inl rfl) (Or.inl rfl) ⟨_, List.getElem?_set_self hlength, trivial⟩ rfl
  · obtain ⟨rfl, rfl⟩ := Prod.mk.inj (Option.some.inj hstep)
    exact h.release hflight rfl (fun _ => ⟨rfl, rfl, rfl, rfl⟩) hactive hlimit
      (h.unlock hcall rfl) rfl rfl (fun _ => Or.inl rfl) (Or.inl rfl)
      ⟨_, List.getElem?_set_self hlength, trivial⟩ rfl

/-- A step that gives a permit back. -/
theorem drop_moves (h : AdmissionInvariant runtime calls) {call next : AnalysisCall}
    (hcall : calls[i]? = some call) (hpermit : call.holdsPermit = true)
    (hnextPermit : next.holdsPermit = false)
    (hlock : call.holdsAdmission = false ∧ next.holdsAdmission = false)
    (hcancelling : call.cancelling = none) (howns : next.owned = call.owned ∨ next.owned = none)
    (hstands : next.Stands runtime.heap) (hwaits : next.waitsFor = none) :
    AdmissionMoves call next runtime
      { runtime with admission := runtime.admission.dropPermit } := by
  have hpositive : 0 < runtime.admission.active := by
    rw [h.active]
    exact @countP_pos_of_getElem? _ calls i call (·.holdsPermit) hcall hpermit
  have hexact : (runtime.admission.dropPermit).saturated = false := by
    simp only [AnalysisAdmissionState.dropPermit, h.counted.exact, Bool.false_or,
      decide_eq_false_iff_not]
    exact Nat.pos_iff_ne_zero.mp hpositive
  refine ⟨?_, ?_, (Nat.sub_le _ 1).trans h.activeLimit,
    ⟨h.counted.queued, h.counted.selected, h.counted.limit, hexact⟩,
    fun _ other hother => ⟨other, hother, FlightMoves.refl⟩, ?_, howns.imp_right Or.inl, hstands, ?_⟩
  · rw [hlock.1, hlock.2]
  · rw [hpermit, hnextPermit]
    exact Nat.sub_add_cancel hpositive
  · intro other hsome
    rw [hcancelling] at hsome
    cases hsome
  · intro other hsome
    rw [hwaits] at hsome
    cases hsome

/-- A step of an owner up to the publication of its result. -/
theorem admission_moves (h : AdmissionInvariant runtime calls) {point next : OwnerPoint}
    (hcall : calls[i]? = some (.owner request index point))
    (hflight : runtime.heap[index]? = some flight)
    (hstep : admissionStep sha256Hex choice request index flight runtime point =
      some (after, next)) :
    AdmissionMoves (.owner request index point) (.owner request index next) runtime after := by
  have hassumes := h.assumes hcall hflight
  have hsame := SameCounters.refl runtime.admission
  have hlength := (List.getElem?_eq_some_iff.mp hflight).1
  cases point with
  | lock =>
    obtain ⟨locked, hlocked, hpair⟩ := Option.map_eq_some_iff.mp hstep
    obtain ⟨rfl, rfl⟩ := Prod.mk.inj hpair
    obtain ⟨hfree, rfl⟩ := lockAdmission_eq_some hlocked
    exact h.quiet_owner hflight rfl hsame (by rw [hfree]; rfl) rfl hassumes nofun
  | admitCancelled =>
    simp only [admissionStep] at hstep
    split at hstep
    · obtain ⟨rfl, rfl⟩ := Prod.mk.inj (Option.some.inj hstep)
      exact h.quiet_owner hflight rfl hsame (h.unlock hcall rfl) rfl trivial nofun
    · obtain ⟨rfl, rfl⟩ := Prod.mk.inj (Option.some.inj hstep)
      exact h.quiet_owner hflight rfl hsame rfl rfl hassumes nofun
  | admitCheck check =>
    simp only [admissionStep] at hstep
    split at hstep
    · obtain ⟨rfl, rfl⟩ := Prod.mk.inj (Option.some.inj hstep)
      exact h.quiet_owner hflight rfl hsame rfl rfl hassumes nofun
    · obtain ⟨rfl, rfl⟩ := Prod.mk.inj (Option.some.inj hstep)
      exact h.quiet_owner hflight rfl hsame (h.unlock hcall rfl) rfl trivial nofun
    · obtain ⟨rfl, rfl⟩ := Prod.mk.inj (Option.some.inj hstep)
      exact h.quiet_owner hflight rfl hsame rfl rfl hassumes nofun
  | admitSelected => exact h.admit_moves hcall hflight hstep
  | waiting =>
    obtain ⟨locked, hlocked, hpair⟩ := Option.map_eq_some_iff.mp hstep
    obtain ⟨rfl, rfl⟩ := Prod.mk.inj hpair
    obtain ⟨hfree, rfl⟩ := lockAdmission_eq_some hlocked
    exact h.quiet_owner hflight rfl hsame (by rw [hfree]; rfl) rfl trivial fun _ => Or.inl rfl
  | loopCancelled =>
    simp only [admissionStep] at hstep
    split at hstep
    · obtain ⟨rfl, rfl⟩ := Prod.mk.inj (Option.some.inj hstep)
      exact h.quiet_owner hflight rfl hsame rfl rfl trivial nofun
    · rename_i hcancelled
      obtain ⟨rfl, rfl⟩ := Prod.mk.inj (Option.some.inj hstep)
      have hqueued := h.queued_of_waits hcall hflight (Bool.eq_false_iff.mpr hcancelled)
      exact h.quiet_owner hflight rfl hsame rfl rfl hqueued nofun
  | loopCheck check =>
    simp only [admissionStep] at hstep
    split at hstep
    · obtain ⟨rfl, rfl⟩ := Prod.mk.inj (Option.some.inj hstep)
      exact h.quiet_owner hflight rfl hsame rfl rfl hassumes nofun
    · obtain ⟨rfl, rfl⟩ := Prod.mk.inj (Option.some.inj hstep)
      exact h.quiet_owner hflight rfl hsame rfl rfl trivial nofun
    · obtain ⟨rfl, rfl⟩ := Prod.mk.inj (Option.some.inj hstep)
      exact h.quiet_owner hflight rfl hsame rfl rfl hassumes nofun
  | loopPromote =>
    simp only [admissionStep] at hstep
    split at hstep
    · obtain ⟨rfl, rfl⟩ := Prod.mk.inj (Option.some.inj hstep)
      exact ⟨rfl, rfl, h.activeLimit, h.counted.promote hflight hassumes,
        FlightMoves.set hflight ⟨id, Or.inl, Or.inl⟩, nofun, Or.inl rfl,
        ⟨_, List.getElem?_set_self hlength, hassumes⟩, nofun⟩
    · obtain ⟨rfl, rfl⟩ := Prod.mk.inj (Option.some.inj hstep)
      exact h.quiet_owner hflight rfl hsame rfl rfl hassumes nofun
  | loopTest => exact h.test_moves hcall hflight hstep
  | loopRelease => exact h.release_moves hcall hflight hstep
  | loopCancel =>
    obtain ⟨rfl, rfl⟩ := Prod.mk.inj (Option.some.inj hstep)
    refine h.modify rfl hsame (fun _ => rfl) (fun _ => rfl) (fun _ _ => rfl) (h.unlock hcall rfl) rfl
      nofun (Or.inl rfl) ⟨{ flight with cancelled := true }, ?_, trivial⟩ rfl
    simp [AnalysisRuntime.modifyFlight, AnalysisRuntime.unlockAdmission, hflight]
  | permitCheck check =>
    simp only [admissionStep] at hstep
    split at hstep <;> obtain ⟨rfl, rfl⟩ := Prod.mk.inj (Option.some.inj hstep) <;>
      exact h.quiet_owner hflight rfl hsame rfl rfl trivial nofun
  | analyze =>
    simp only [admissionStep] at hstep
    split at hstep <;> obtain ⟨rfl, rfl⟩ := Prod.mk.inj (Option.some.inj hstep) <;>
      exact h.quiet_owner hflight rfl hsame rfl rfl trivial nofun
  | currentRevision analyzed =>
    simp only [admissionStep] at hstep
    split at hstep <;> obtain ⟨rfl, rfl⟩ := Prod.mk.inj (Option.some.inj hstep) <;>
      exact h.quiet_owner hflight rfl hsame rfl rfl trivial nofun
  | currentCheck analyzed check =>
    simp only [admissionStep] at hstep
    split at hstep <;> obtain ⟨rfl, rfl⟩ := Prod.mk.inj (Option.some.inj hstep) <;>
      exact h.quiet_owner hflight rfl hsame rfl rfl trivial nofun
  | currentCatalog analyzed =>
    simp only [admissionStep] at hstep
    split at hstep <;> obtain ⟨rfl, rfl⟩ := Prod.mk.inj (Option.some.inj hstep) <;>
      exact h.quiet_owner hflight rfl hsame rfl rfl trivial nofun
  | insert analysis =>
    simp only [admissionStep, Option.ite_none_left_eq_some, Option.some.injEq, Prod.mk.injEq] at hstep
    obtain ⟨-, rfl, rfl⟩ := hstep
    exact h.quiet_owner hflight rfl hsame rfl rfl trivial nofun
  | dropPermit result =>
    simp only [admissionStep, Option.ite_none_left_eq_some, Option.some.injEq, Prod.mk.injEq] at hstep
    obtain ⟨-, rfl, rfl⟩ := hstep
    exact h.drop_moves hcall rfl rfl ⟨rfl, rfl⟩ rfl (Or.inl rfl) ⟨flight, hflight, trivial⟩ rfl
  | publish result =>
    obtain ⟨rfl, rfl⟩ := Prod.mk.inj (Option.some.inj hstep)
    refine h.modify rfl hsame (fun _ => rfl) (fun _ => rfl) (fun _ => id) rfl rfl nofun (Or.inl rfl)
      ⟨{ flight with result := some result }, ?_, trivial⟩ rfl
    simp [AnalysisRuntime.modifyFlight, hflight]
  | unwind => cases hstep
  | retire result => cases hstep

/-- A step of the owner of a flight. -/
theorem owner_moves (h : AdmissionInvariant runtime calls) {point : OwnerPoint}
    {next : AnalysisCall} (hcall : calls[i]? = some (.owner request index point))
    (hflight : runtime.heap[index]? = some flight)
    (hstep : ownerStep sha256Hex choice request index flight runtime point = some (after, next)) :
    AdmissionMoves (.owner request index point) next runtime after := by
  unfold ownerStep at hstep
  split at hstep
  · simp only [Option.ite_none_left_eq_some, Option.some.injEq, Prod.mk.injEq] at hstep
    obtain ⟨-, rfl, rfl⟩ := hstep
    exact h.drop_moves hcall rfl rfl ⟨rfl, rfl⟩ rfl (Or.inr rfl) trivial rfl
  · simp only [Option.ite_none_left_eq_some, Option.some.injEq, Prod.mk.injEq] at hstep
    obtain ⟨-, rfl, rfl⟩ := hstep
    exact h.quiet rfl (SameCounters.refl _) rfl rfl rfl (Or.inr rfl) trivial nofun
  · obtain ⟨⟨made, nextPoint⟩, hmade, hpair⟩ := Option.map_eq_some_iff.mp hstep
    obtain ⟨rfl, rfl⟩ := Prod.mk.inj hpair
    exact h.admission_moves hcall hflight hmade

/-- A step of a sweep of the queue. -/
theorem sweep_moves (h : AdmissionInvariant runtime calls) {sweeper : Sweeper} {point : SweepPoint}
    {next : AnalysisCall} (hcall : calls[i]? = some (.sweep sweeper point))
    (hstep : sweepStep choice sweeper runtime point = some (after, next)) :
    AdmissionMoves (.sweep sweeper point) next runtime after := by
  have hunlock := h.unlock hcall rfl
  have hsame := SameCounters.refl runtime.admission
  unfold sweepStep at hstep
  split at hstep
  · split at hstep <;> obtain ⟨rfl, rfl⟩ := Prod.mk.inj (Option.some.inj hstep) <;>
      exact h.quiet_free rfl hsame hunlock ⟨rfl, rfl⟩ ⟨rfl, rfl, rfl⟩
  · split at hstep <;> obtain ⟨rfl, rfl⟩ := Prod.mk.inj (Option.some.inj hstep) <;>
      exact h.quiet_free rfl hsame rfl ⟨rfl, rfl⟩ ⟨rfl, rfl, rfl⟩
  · obtain ⟨flight, hflight, hrest⟩ := Option.bind_eq_some_iff.mp hstep
    split at hrest <;> obtain ⟨rfl, rfl⟩ := Prod.mk.inj (Option.some.inj hrest)
    · exact h.quiet_free rfl hsame rfl ⟨rfl, rfl⟩ ⟨rfl, rfl, rfl⟩
    · exact h.quiet_free rfl hsame rfl ⟨rfl, rfl⟩ ⟨rfl, rfl, rfl⟩
    · exact h.quiet_free rfl ⟨rfl, rfl, rfl, rfl⟩ rfl ⟨rfl, rfl⟩ ⟨rfl, rfl, rfl⟩
  · rename_i index pending
    obtain ⟨flight, hflight, hrest⟩ := Option.bind_eq_some_iff.mp hstep
    have hactive := @releaseQueuedAnalysis_active runtime index flight choice.alive
    have hlimit := hactive.trans_le h.activeLimit
    dsimp only at hrest
    split at hrest
    · obtain ⟨rfl, rfl⟩ := Prod.mk.inj (Option.some.inj hrest)
      exact h.release hflight rfl (fun _ => ⟨rfl, rfl, rfl, rfl⟩) hactive hlimit rfl rfl rfl
        (fun _ => Or.inr rfl) (Or.inl rfl) trivial rfl
    · rename_i hqueued
      obtain ⟨rfl, rfl⟩ := Prod.mk.inj (Option.some.inj hrest)
      exact h.release hflight rfl (fun _ => ⟨rfl, rfl, rfl, rfl⟩) hactive hlimit rfl rfl rfl
        (fun hset => absurd hset hqueued) (Or.inl rfl) trivial rfl
  · obtain ⟨rfl, rfl⟩ := Prod.mk.inj (Option.some.inj hstep)
    refine h.modify rfl hsame (fun _ => rfl) (fun _ => rfl) (fun _ _ => rfl) rfl rfl
      (fun other hother => ⟨?_, fun _ => rfl⟩) (Or.inl rfl) trivial rfl
    exact (Option.some.inj hother).symm

/-- A flight that begins is not queued, and belongs to its call. -/
theorem create_moves (h : AdmissionInvariant runtime calls) {call : AnalysisCall}
    (hfree : call.holdsPermit = false ∧ call.holdsAdmission = false ∧ call.cancelling = none)
    {cache : AnalysisCacheState} :
    AdmissionMoves call ({ runtime with cache }.createFlight request).2 runtime
      ({ runtime with cache }.createFlight request).1 where
  lock := by rw [hfree.2.1]; rfl
  active := by rw [hfree.1]; rfl
  activeLimit := h.activeLimit
  counted := by
    refine ⟨?_, ?_, h.counted.limit, h.counted.exact⟩
    · simpa [AnalysisRuntime.createFlight, AnalysisFlight.new] using h.counted.queued
    · simpa [AnalysisRuntime.createFlight, AnalysisFlight.new, AnalysisFlight.selectedWaiter]
        using h.counted.selected
  flights other flight hflight := by
    refine ⟨flight, ?_, FlightMoves.refl⟩
    exact (List.getElem?_append_left (List.getElem?_eq_some_iff.mp hflight).1).trans hflight
  cancels other hsome := by
    rw [hfree.2.2] at hsome
    cases hsome
  owns := Or.inr (Or.inr rfl)
  stands := ⟨AnalysisFlight.new request, List.getElem?_concat_length, rfl⟩
  waits := nofun

/-- A step of a call. -/
theorem call_moves (h : AdmissionInvariant runtime calls) {call next : AnalysisCall}
    (hcall : calls[i]? = some call)
    (hstep : analysisStep sha256Hex choice call runtime = some (after, next)) :
    AdmissionMoves call next runtime after := by
  have hsame := SameCounters.refl runtime.admission
  cases call with
  | lookup request =>
    simp only [analysisStep, Option.ite_none_left_eq_some] at hstep
    obtain ⟨-, hstep⟩ := hstep
    split at hstep
    · split at hstep <;> obtain ⟨rfl, rfl⟩ := Prod.mk.inj (Option.some.inj hstep) <;>
        exact h.quiet_free rfl hsame rfl ⟨rfl, rfl⟩ ⟨rfl, rfl, rfl⟩
    · obtain ⟨rfl, rfl⟩ := Prod.mk.inj (Option.some.inj hstep)
      exact h.quiet_free rfl hsame rfl ⟨rfl, rfl⟩ ⟨rfl, rfl, rfl⟩
  | removeStale request =>
    simp only [analysisStep, Option.ite_none_left_eq_some, Option.some.injEq, Prod.mk.injEq] at hstep
    obtain ⟨-, rfl, rfl⟩ := hstep
    exact h.quiet_free rfl hsame rfl ⟨rfl, rfl⟩ ⟨rfl, rfl, rfl⟩
  | join request =>
    simp only [analysisStep, Option.ite_none_left_eq_some, Option.some.injEq, joinStep] at hstep
    obtain ⟨-, hstep⟩ := hstep
    split at hstep
    · split at hstep
      · obtain ⟨rfl, rfl⟩ := Prod.mk.inj hstep
        exact h.quiet_free rfl hsame rfl ⟨rfl, rfl⟩ ⟨rfl, rfl, rfl⟩
      · split at hstep <;> obtain ⟨rfl, rfl⟩ := Prod.mk.inj hstep
        · exact h.quiet_free rfl hsame rfl ⟨rfl, rfl⟩ ⟨rfl, rfl, rfl⟩
        · exact h.create_moves ⟨rfl, rfl, rfl⟩
    · split at hstep <;> obtain ⟨rfl, rfl⟩ := Prod.mk.inj hstep
      · exact h.quiet_free rfl hsame rfl ⟨rfl, rfl⟩ ⟨rfl, rfl, rfl⟩
      · exact h.create_moves ⟨rfl, rfl, rfl⟩
  | joinCancelled request index =>
    obtain ⟨flight, hflight, hrest⟩ := Option.bind_eq_some_iff.mp hstep
    split at hrest <;> obtain ⟨rfl, rfl⟩ := Prod.mk.inj (Option.some.inj hrest)
    · exact h.create_moves ⟨rfl, rfl, rfl⟩
    · exact h.quiet_free rfl hsame rfl ⟨rfl, rfl⟩ ⟨rfl, rfl, rfl⟩
  | noteRequest request index =>
    have hnote : ∀ flight : AnalysisFlight,
        (flight.noteRequest request.viewportRevision).queued = flight.queued ∧
        (flight.noteRequest request.viewportRevision).queuedAsSelected = flight.queuedAsSelected ∧
        (flight.noteRequest request.viewportRevision).cancelled = flight.cancelled := by
      intro flight
      unfold AnalysisFlight.noteRequest
      split <;> exact ⟨rfl, rfl, rfl⟩
    simp only [analysisStep] at hstep
    split at hstep <;> obtain ⟨rfl, rfl⟩ := Prod.mk.inj (Option.some.inj hstep) <;>
      exact h.modify rfl hsame (fun flight => (hnote flight).1) (fun flight => (hnote flight).2.1)
        (fun flight hset => (hnote flight).2.2.trans hset) rfl rfl nofun (Or.inl rfl) trivial rfl
  | swapPriority request index =>
    obtain ⟨flight, hflight, hrest⟩ := Option.bind_eq_some_iff.mp hstep
    dsimp only at hrest
    split at hrest <;> obtain ⟨rfl, rfl⟩ := Prod.mk.inj (Option.some.inj hrest) <;>
      exact h.modify rfl hsame (fun _ => rfl) (fun _ => rfl) (fun _ => id) rfl rfl nofun
        (Or.inl rfl) trivial rfl
  | promote request index =>
    simp only [analysisStep, Option.ite_none_left_eq_some] at hstep
    obtain ⟨hfree, hstep⟩ := hstep
    obtain ⟨flight, hflight, hrest⟩ := Option.bind_eq_some_iff.mp hstep
    obtain ⟨rfl, rfl⟩ := Prod.mk.inj (Option.some.inj hrest)
    by_cases hqueued : flight.queued = true
    · have hcounted := h.counted.promote hflight hqueued
      rw [if_pos hqueued]
      exact ⟨rfl, rfl, h.activeLimit, ⟨hcounted.queued, hcounted.selected, hcounted.limit,
        hcounted.exact⟩, FlightMoves.set hflight ⟨id, Or.inl, Or.inl⟩, nofun, Or.inl rfl, trivial,
        nofun⟩
    · rw [if_neg hqueued]
      exact h.quiet_free rfl hsame rfl ⟨rfl, rfl⟩ ⟨rfl, rfl, rfl⟩
  | await request index =>
    obtain ⟨flight, hflight, hrest⟩ := Option.bind_eq_some_iff.mp hstep
    obtain ⟨result, hresult, hpair⟩ := Option.bind_eq_some_iff.mp hrest
    obtain ⟨rfl, rfl⟩ := Prod.mk.inj (Option.some.inj hpair)
    exact h.quiet_free rfl hsame rfl ⟨rfl, rfl⟩ ⟨rfl, rfl, rfl⟩
  | owner request index point =>
    obtain ⟨flight, hflight, hrest⟩ := Option.bind_eq_some_iff.mp hstep
    exact h.owner_moves hcall hflight hrest
  | viewportLock =>
    obtain ⟨locked, hlocked, hpair⟩ := Option.map_eq_some_iff.mp hstep
    obtain ⟨rfl, rfl⟩ := Prod.mk.inj hpair
    obtain ⟨hfree, rfl⟩ := lockAdmission_eq_some hlocked
    exact h.quiet_free rfl hsame (by rw [hfree]; rfl) ⟨rfl, rfl⟩ ⟨rfl, rfl, rfl⟩
  | viewportBump =>
    obtain ⟨rfl, rfl⟩ := Prod.mk.inj (Option.some.inj hstep)
    exact h.quiet_free rfl ⟨rfl, rfl, rfl, rfl⟩ rfl ⟨rfl, rfl⟩ ⟨rfl, rfl, rfl⟩
  | invalidateLock =>
    obtain ⟨locked, hlocked, hpair⟩ := Option.map_eq_some_iff.mp hstep
    obtain ⟨rfl, rfl⟩ := Prod.mk.inj hpair
    obtain ⟨hfree, rfl⟩ := lockAdmission_eq_some hlocked
    exact h.quiet_free rfl hsame (by rw [hfree]; rfl) ⟨rfl, rfl⟩ ⟨rfl, rfl, rfl⟩
  | invalidateBump =>
    obtain ⟨rfl, rfl⟩ := Prod.mk.inj (Option.some.inj hstep)
    exact h.quiet_free rfl ⟨rfl, rfl, rfl, rfl⟩ rfl ⟨rfl, rfl⟩ ⟨rfl, rfl, rfl⟩
  | sweep sweeper point => exact h.sweep_moves hcall hstep
  | clearEntries =>
    simp only [analysisStep, Option.ite_none_left_eq_some, Option.some.injEq, Prod.mk.injEq] at hstep
    obtain ⟨-, rfl, rfl⟩ := hstep
    exact h.quiet_free rfl hsame rfl ⟨rfl, rfl⟩ ⟨rfl, rfl, rfl⟩
  | returned _ | viewportBegun _ | invalidated | unwound => cases hstep

/-- A call that begins stands on nothing. -/
theorem begins (h : AdmissionInvariant runtime calls) (op : AnalysisOp) :
    AdmissionInvariant runtime (calls ++ [(analysisProgram sha256Hex).start op]) := by
  have hfree : ((analysisProgram sha256Hex).start op).holdsAdmission = false ∧
      ((analysisProgram sha256Hex).start op).holdsPermit = false ∧
      ((analysisProgram sha256Hex).start op).owned = none ∧
      ((analysisProgram sha256Hex).start op).waitsFor = none ∧
      ∀ heap, ((analysisProgram sha256Hex).start op).Stands heap := by
    cases op <;> exact ⟨rfl, rfl, rfl, rfl, fun _ => trivial⟩
  obtain ⟨hlock, hpermit, howned, hwaits, hstands⟩ := hfree
  refine ⟨?_, ?_, h.activeLimit, h.counted, ?_, ?_, ?_⟩
  · rw [List.countP_append, h.lock]
    simp [hlock]
  · rw [List.countP_append, h.active]
    simp [hpermit]
  · -- a new call owns nothing, so both owners are among the old calls
    have hold : ∀ (j : ℕ) (other : AnalysisCall) (flight : ℕ),
        (calls ++ [(analysisProgram sha256Hex).start op])[j]? = some other →
        other.owned = some flight → calls[j]? = some other := by
      intro j other flight hother hotherOwned
      rcases Nat.lt_or_ge j calls.length with hlt | hge
      · rwa [List.getElem?_append_left hlt] at hother
      · rw [List.getElem?_append_right hge, List.getElem?_singleton] at hother
        split at hother
        · rw [← Option.some.inj hother, howned] at hotherOwned
          cases hotherOwned
        · cases hother
    intro j k first second flight hfirst hsecond hfirstOwned hsecondOwned
    exact h.owners j k first second flight (hold j first flight hfirst hfirstOwned)
      (hold k second flight hsecond hsecondOwned) hfirstOwned hsecondOwned
  · intro other hmem
    rcases List.mem_append.mp hmem with hcalls | hnew
    · exact h.stands other hcalls
    · exact List.mem_singleton.mp hnew ▸ hstands _
  · intro other hmem flight hother
    rcases List.mem_append.mp hmem with hcalls | hnew
    · obtain ⟨found, hfound, hstate⟩ := h.waits other hcalls flight hother
      refine ⟨found, hfound, hstate.imp_right (Or.imp_right ?_)⟩
      rintro ⟨sweep, hsweep, hcancelling⟩
      exact ⟨sweep, List.mem_append_left _ hsweep, hcancelling⟩
    · rw [List.mem_singleton.mp hnew, hwaits] at hother
      cases hother

end AdmissionInvariant

/-- The admission's invariant holds in every interleaving. -/
theorem admission_invariant {sha256Hex : List UInt8 → String} :
    ((analysisProgram sha256Hex).machine .initial).Invariant
      fun pool => AdmissionInvariant pool.shared pool.calls := by
  refine CallProgram.invariant_of_steps ?_ (fun _ _ op h => h.begins op) ?_
  · refine ⟨rfl, rfl, Nat.zero_le _, ⟨rfl, rfl, Nat.zero_le _, rfl⟩, ?_, ?_, ?_⟩
    · intro i j first second index hfirst
      simp at hfirst
    · exact fun call hmem => absurd hmem List.not_mem_nil
    · exact fun call hmem => absurd hmem List.not_mem_nil
  · intro runtime calls i choice call after next h hcall hstep
    exact h.moves hcall (h.call_moves hcall hstep)

/-- In every interleaving of analysis requests, viewport requests and invalidations, the counters
count the outstanding permits, the queued flights and the selected ones among them, within their
limits, and no subtraction saturates. With an empty queue nothing but the permits in use stands in
the way of a visible analysis. -/
theorem admission_counters_exact {sha256Hex : List UInt8 → String}
    {pool : CallPool AnalysisRuntime AnalysisCall}
    (h : ((analysisProgram sha256Hex).machine .initial).Reachable pool) :
    pool.shared.admission.active = pool.calls.countP (·.holdsPermit) ∧
      pool.shared.admission.active ≤ maxActiveSongAnalyses ∧
      pool.shared.admission.queued = pool.shared.heap.countP (·.queued) ∧
      pool.shared.admission.queued ≤ maxQueuedSongAnalyses ∧
      pool.shared.admission.selectedWaiters =
        pool.shared.heap.countP (fun flight => flight.queued && flight.queuedAsSelected) ∧
      pool.shared.admission.saturated = false ∧
      ((∀ flight ∈ pool.shared.heap, flight.queued = false) →
        pool.shared.admission.selectedWaiters = 0 ∧ ∀ selected,
          pool.shared.admission.admits selected =
            decide (pool.shared.admission.active < maxActiveSongAnalyses)) := by
  have hinvariant := admission_invariant.holds h
  have hcounted := hinvariant.counted
  refine ⟨hinvariant.active, hinvariant.activeLimit, hcounted.queued, hcounted.limit,
    hcounted.selected, hcounted.exact, fun hempty => ?_⟩
  have hnone : pool.shared.admission.selectedWaiters = 0 := by
    rw [hcounted.selected, List.countP_eq_zero]
    intro flight hmem
    simp [AnalysisFlight.selectedWaiter, hempty flight hmem]
  refine ⟨hnone, fun selected => ?_⟩
  simp [AnalysisAdmissionState.admits, hnone]

/-- Three visible requests own flights, so that one of them waits, and a selected request joins the
waiting one. -/
def admissionScenario : List (PoolAction AnalysisOp AnalysisChoice) :=
  let request song priority : PoolAction AnalysisOp AnalysisChoice :=
    .begin (.analysisForRequest ⟨⟨song, 1, 0⟩, none, "txt", none, priority, true⟩)
  let advance call steps : List (PoolAction AnalysisOp AnalysisChoice) :=
    List.replicate steps (.advance call ⟨fun _ => true, none, true⟩)
  [request "a" .visible] ++ advance 0 7 ++ [request "b" .visible] ++ advance 1 7 ++
    [request "c" .visible] ++ advance 2 12 ++ [request "c" .selected] ++ advance 3 6

/-- The scenario reaches two permits and one selected waiter. -/
theorem admission_counters_exact_scenario :
    ∃ pool : CallPool AnalysisRuntime AnalysisCall, (pool.shared.admission.active = 2 ∧
        pool.shared.admission.queued = 1 ∧ pool.shared.admission.selectedWaiters = 1) ∧
      pool.shared.admission.active = pool.calls.countP (·.holdsPermit) ∧
      pool.shared.admission.active ≤ maxActiveSongAnalyses ∧
      pool.shared.admission.queued = pool.shared.heap.countP (·.queued) ∧
      pool.shared.admission.queued ≤ maxQueuedSongAnalyses ∧
      pool.shared.admission.selectedWaiters =
        pool.shared.heap.countP (fun flight => flight.queued && flight.queuedAsSelected) ∧
      pool.shared.admission.saturated = false ∧
      ((∀ flight ∈ pool.shared.heap, flight.queued = false) →
        pool.shared.admission.selectedWaiters = 0 ∧ ∀ selected,
          pool.shared.admission.admits selected =
            decide (pool.shared.admission.active < maxActiveSongAnalyses)) := by
  let machine := (analysisProgram fun _ => "").machine .initial
  have hcheck : (machine.run machine.initial admissionScenario).any
      (fun pool => pool.shared.admission.active = 2 ∧ pool.shared.admission.queued = 1 ∧
        pool.shared.admission.selectedWaiters = 1) = true := by decide +kernel
  obtain ⟨pool, hrun, hcounts⟩ := (Option.any_eq_true _ _).mp hcheck
  exact ⟨pool, of_decide_eq_true hcounts, admission_counters_exact ⟨admissionScenario, hrun⟩⟩

end SkyAutoPlayer.Desktop
