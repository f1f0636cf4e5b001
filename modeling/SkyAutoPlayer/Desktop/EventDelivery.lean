import Mathlib.Data.List.Perm.Basic
import SkyAutoPlayer.Desktop.NativeEventHub

/-!
# Delivery of native events

What publishing does to the buffer is one of four changes: the event is pushed, pushed after an
eviction, put in the place of the snapshot of its key, or discarded. Each keeps the order of the
lifecycle events and accounts for every snapshot, and the invariant of the hub follows for every
interleaving of its calls with the publisher thread.
-/

namespace SkyAutoPlayer.Desktop

open Foundation

/-- Additions to a counter add up. -/
theorem fetchAdd_mod {count amount : ℕ} :
    fetchAdd (count % 2 ^ 64) amount = (count + amount) % 2 ^ 64 := by
  rw [fetchAdd, Nat.mod_add_mod]

/-- The lifecycle events of a list. -/
def lifecycle (events : List UiEvent) : List UiEvent := events.filter UiEvent.isLifecycle

/-- The snapshots of a list. -/
def snapshots (events : List UiEvent) : List UiEvent := events.filter UiEvent.isSnapshot

/-- The keys of the snapshots of a list. -/
def snapshotKeys (events : List UiEvent) : List (ℕ × String) := events.filterMap snapshotKey

/-- Lifecycle events of consecutive parts. -/
@[simp] theorem lifecycle_append {first second : List UiEvent} :
    lifecycle (first ++ second) = lifecycle first ++ lifecycle second :=
  List.filter_append ..

/-- Snapshots of consecutive parts. -/
@[simp] theorem snapshots_append {first second : List UiEvent} :
    snapshots (first ++ second) = snapshots first ++ snapshots second :=
  List.filter_append ..

/-- Keys of consecutive parts. -/
@[simp] theorem snapshotKeys_append {first second : List UiEvent} :
    snapshotKeys (first ++ second) = snapshotKeys first ++ snapshotKeys second :=
  List.filterMap_append

/-- No event, no lifecycle event. -/
@[simp] theorem lifecycle_nil : lifecycle [] = [] := rfl

/-- No event, no snapshot. -/
@[simp] theorem snapshots_nil : snapshots [] = [] := rfl

/-- No event, no key. -/
@[simp] theorem snapshotKeys_nil : snapshotKeys [] = [] := rfl

variable {event old : UiEvent} {rest buffered after discarded : List UiEvent}

/-- The lifecycle events from the first event on. -/
theorem lifecycle_cons : lifecycle (event :: rest) = lifecycle [event] ++ lifecycle rest := by
  rw [← lifecycle_append, List.singleton_append]

/-- The snapshots from the first event on. -/
theorem snapshots_cons : snapshots (event :: rest) = snapshots [event] ++ snapshots rest := by
  rw [← snapshots_append, List.singleton_append]

/-- The keys from the first event on. -/
theorem snapshotKeys_cons :
    snapshotKeys (event :: rest) = snapshotKeys [event] ++ snapshotKeys rest := by
  rw [← snapshotKeys_append, List.singleton_append]

/-- A snapshot is no lifecycle event. -/
theorem lifecycle_of_isSnapshot (h : event.isSnapshot = true) : lifecycle [event] = [] := by
  simp [lifecycle, UiEvent.isLifecycle, h]

/-- A snapshot is one. -/
theorem snapshots_of_isSnapshot (h : event.isSnapshot = true) : snapshots [event] = [event] := by
  simp [snapshots, h]

/-- A snapshot has a key. -/
theorem isSnapshot_of_key {key : ℕ × String} (h : snapshotKey event = some key) :
    event.isSnapshot = true := by
  rw [UiEvent.isSnapshot, h]
  rfl

/-- The count of the buffered snapshots is that of its list of snapshots. -/
theorem countBufferedSnapshots_eq : countBufferedSnapshots buffered = (snapshots buffered).length :=
  List.countP_eq_length_filter

/-- No event of the list has the event's key. -/
def FreshKey (event : UiEvent) (events : List UiEvent) : Prop :=
  ∀ key, snapshotKey event = some key → key ∉ snapshotKeys events

/-- What an accepted event makes of the buffer, beside so many events in flight: the buffer after
it and what was discarded. -/
inductive Rebuffered (event : UiEvent) (inFlight : ℕ) :
    List UiEvent → List UiEvent → List UiEvent → Prop where
  | pushed {buffered : List UiEvent} (hroom : buffered.length + inFlight < maxNativeEvents)
      (hfresh : FreshKey event buffered) : Rebuffered event inFlight buffered (buffered ++ [event]) []
  | evicted {earlier later : List UiEvent} {old : UiEvent} (hold : old.isSnapshot = true)
      (hfresh : FreshKey event (earlier ++ old :: later)) :
      Rebuffered event inFlight (earlier ++ old :: later) (earlier ++ later ++ [event]) [old]
  | coalesced {earlier later : List UiEvent} {old : UiEvent} {key : ℕ × String}
      (hold : snapshotKey old = some key) (hevent : snapshotKey event = some key) :
      Rebuffered event inFlight (earlier ++ old :: later) (earlier ++ event :: later) [old]
  | dropped {buffered : List UiEvent} (hevent : event.isSnapshot = true) :
      Rebuffered event inFlight buffered buffered [event]

namespace Rebuffered

variable {inFlight : ℕ}

/-- The lifecycle events stay in order, and the event comes last. -/
theorem lifecycle_eq (h : Rebuffered event inFlight buffered after discarded) :
    lifecycle after = lifecycle buffered ++ lifecycle [event] := by
  cases h with
  | pushed => exact lifecycle_append
  | @evicted earlier later old hold =>
    rw [lifecycle_append, lifecycle_append, lifecycle_append, @lifecycle_cons old,
      lifecycle_of_isSnapshot hold, List.nil_append]
  | @coalesced earlier later old key hold hevent =>
    rw [lifecycle_append, lifecycle_append, @lifecycle_cons event later,
      @lifecycle_cons old, lifecycle_of_isSnapshot (isSnapshot_of_key hold),
      lifecycle_of_isSnapshot (isSnapshot_of_key hevent), List.append_nil]
  | dropped hevent => rw [lifecycle_of_isSnapshot hevent, List.append_nil]

/-- Every snapshot is still buffered or discarded. -/
theorem snapshots_perm (h : Rebuffered event inFlight buffered after discarded) :
    (snapshots buffered ++ snapshots [event]).Perm (snapshots after ++ discarded) := by
  cases h with
  | pushed => rw [snapshots_append, List.append_nil]
  | @evicted earlier later old hold =>
    rw [snapshots_append, snapshots_append, snapshots_append, @snapshots_cons old,
      snapshots_of_isSnapshot hold, List.perm_iff_count]
    intro snapshot
    simp only [List.count_append]
    omega
  | @coalesced earlier later old key hold hevent =>
    rw [snapshots_append, snapshots_append, @snapshots_cons event later,
      @snapshots_cons old, snapshots_of_isSnapshot (isSnapshot_of_key hold),
      snapshots_of_isSnapshot (isSnapshot_of_key hevent), List.perm_iff_count]
    intro snapshot
    simp only [List.count_append]
    omega
  | dropped hevent => rw [snapshots_of_isSnapshot hevent]

/-- The buffer stays within the capacity. -/
theorem length_le (h : Rebuffered event inFlight buffered after discarded)
    (hcapacity : buffered.length + inFlight ≤ maxNativeEvents) :
    after.length + inFlight ≤ maxNativeEvents := by
  cases h with
  | pushed hroom =>
    rw [List.length_append, List.length_singleton]
    omega
  | evicted =>
    simp only [List.length_append, List.length_cons, List.length_nil] at hcapacity ⊢
    omega
  | coalesced =>
    simp only [List.length_append, List.length_cons] at hcapacity ⊢
    exact hcapacity
  | dropped => exact hcapacity

/-- The keys in the buffer stay distinct. -/
theorem nodup_keys (h : Rebuffered event inFlight buffered after discarded)
    (hnodup : (snapshotKeys buffered).Nodup) : (snapshotKeys after).Nodup := by
  have hpush : ∀ {events : List UiEvent}, FreshKey event events → (snapshotKeys events).Nodup →
      (snapshotKeys (events ++ [event])).Nodup := by
    intro events hfresh hevents
    rw [snapshotKeys_append]
    cases hkey : snapshotKey event with
    | none => simpa [snapshotKeys, hkey] using hevents
    | some key =>
      have hsingle : snapshotKeys [event] = [key] := by simp [snapshotKeys, hkey]
      rw [hsingle]
      exact List.nodup_append.mpr ⟨hevents, List.pairwise_singleton _ key, fun other hother single hsingle =>
        fun hsame => hfresh key hkey (List.mem_singleton.mp hsingle ▸ hsame ▸ hother)⟩
  cases h with
  | pushed hroom hfresh => exact hpush hfresh hnodup
  | @evicted earlier later old hold hfresh =>
    have hsublist : (earlier ++ later).Sublist (earlier ++ old :: later) :=
      List.Sublist.append_left (List.sublist_cons_self old later) earlier
    have hkeys : (snapshotKeys (earlier ++ later)).Sublist (snapshotKeys (earlier ++ old :: later)) :=
      hsublist.filterMap snapshotKey
    exact hpush (fun key hkey hmem => hfresh key hkey (hkeys.subset hmem)) (hnodup.sublist hkeys)
  | @coalesced earlier later old key hold hevent =>
    have hsame : snapshotKeys (earlier ++ event :: later) =
        snapshotKeys (earlier ++ old :: later) := by
      rw [snapshotKeys_append, snapshotKeys_append]
      simp [snapshotKeys, hold, hevent]
    rw [hsame]
    exact hnodup
  | dropped => exact hnodup

end Rebuffered

/-- The first match splits the list. -/
theorem findIdx?_split {α : Type} {list : List α} {test : α → Bool} {index : ℕ}
    (h : list.findIdx? test = some index) :
    ∃ earlier found later, list = earlier ++ found :: later ∧ earlier.length = index ∧
      test found = true := by
  obtain ⟨hlength, htest, -⟩ := List.findIdx?_eq_some_iff_getElem.mp h
  refine ⟨list.take index, list[index], list.drop (index + 1), ?_, ?_, htest⟩
  · rw [List.getElem_cons_drop, List.take_append_drop]
  · exact List.length_take_of_le hlength.le

/-- Removing the oldest snapshot takes out a snapshot. -/
theorem removeOldestSnapshot_eq_some (h : removeOldestSnapshot buffered = some after) :
    ∃ earlier old later, buffered = earlier ++ old :: later ∧ old.isSnapshot = true ∧
      after = earlier ++ later := by
  obtain ⟨index, hindex, rfl⟩ := Option.map_eq_some_iff.mp h
  obtain ⟨earlier, old, later, rfl, rfl, hold⟩ := findIdx?_split hindex
  refine ⟨earlier, old, later, rfl, hold, ?_⟩
  rw [List.eraseIdx_append_of_length_le le_rfl, Nat.sub_self, List.eraseIdx_cons_zero]

/-- A replaced snapshot had the event's key. -/
theorem replaceSnapshot_eq_some (h : replaceSnapshot event buffered = some after) :
    ∃ earlier old later key, buffered = earlier ++ old :: later ∧ snapshotKey old = some key ∧
      snapshotKey event = some key ∧ after = earlier ++ event :: later := by
  obtain ⟨key, hkey, hrest⟩ := Option.bind_eq_some_iff.mp h
  obtain ⟨index, hindex, hset⟩ := Option.bind_eq_some_iff.mp hrest
  obtain ⟨earlier, old, later, rfl, rfl, hold⟩ := findIdx?_split hindex
  refine ⟨earlier, old, later, key, rfl, of_decide_eq_true hold, hkey, ?_⟩
  rw [← Option.some.inj hset, List.set_append_right _ _ le_rfl, Nat.sub_self, List.set_cons_zero]

/-- When no snapshot is replaced, the event's key is not buffered. -/
theorem freshKey_of_replaceSnapshot (h : replaceSnapshot event buffered = none) :
    FreshKey event buffered := by
  intro key hkey hmem
  obtain ⟨candidate, hcandidate, hsame⟩ := List.mem_filterMap.mp hmem
  have hfind : buffered.findIdx? (fun candidate => snapshotKey candidate = some key) = none := by
    rw [replaceSnapshot, hkey] at h
    cases hindex : buffered.findIdx? fun candidate => snapshotKey candidate = some key with
    | none => rfl
    | some index => simp [hindex] at h
  have hnone := List.findIdx?_eq_none_iff.mp hfind candidate hcandidate
  exact of_decide_eq_false hnone hsame

/-- A queue that refuses every event. -/
def NativeEventQueue.Shut (queue : NativeEventQueue) : Prop :=
  queue.poisoned = true ∨ queue.state.closed = true ∨ queue.state.deliveryFailure ≠ none

/-- An open queue accepts an event into its buffer, or refuses a lifecycle event and is shut. -/
theorem accept_cases {queue next : NativeEventQueue} {alive : Bool} {result : Except String Unit}
    {player : Option ℕ} (h : queue.accept event alive = (next, result, player)) :
    (∃ after discarded, Rebuffered event queue.state.inFlight.toNat queue.state.buffered after
        discarded ∧ result = .ok () ∧ next.state = { queue.state with buffered := after } ∧
        ∀ total, queue.snapshotDropped = total % 2 ^ 64 →
          next.snapshotDropped = (total + discarded.length) % 2 ^ 64) ∨
      ∃ error, result = .error error ∧ next.snapshotDropped = queue.snapshotDropped ∧
        next.state = { queue.state with deliveryFailure := some error } := by
  rw [NativeEventQueue.accept] at h
  cases hreplace : replaceSnapshot event queue.state.buffered with
  | some buffered =>
    simp only [hreplace, Prod.mk.injEq] at h
    obtain ⟨rfl, rfl, -⟩ := h
    obtain ⟨earlier, old, later, key, hbuffered, hold, hevent, rfl⟩ :=
      replaceSnapshot_eq_some hreplace
    refine Or.inl ⟨_, [old], hbuffered ▸ .coalesced hold hevent, rfl, rfl, fun total htotal => ?_⟩
    simp only [htotal, fetchAdd_mod, List.length_singleton]
  | none =>
    have hfresh := freshKey_of_replaceSnapshot hreplace
    simp only [hreplace, NativeEventQueue.enqueue] at h
    split at h
    · rename_i hroom
      simp only [Prod.mk.injEq] at h
      obtain ⟨rfl, rfl, -⟩ := h
      exact Or.inl ⟨_, [], .pushed hroom hfresh, rfl, rfl, fun total htotal => htotal⟩
    · cases hremove : removeOldestSnapshot queue.state.buffered with
      | some remaining =>
        simp only [hremove, Prod.mk.injEq] at h
        obtain ⟨rfl, rfl, -⟩ := h
        obtain ⟨earlier, old, later, hbuffered, hold, rfl⟩ := removeOldestSnapshot_eq_some hremove
        rw [hbuffered] at hfresh
        refine Or.inl ⟨_, [old], hbuffered ▸ .evicted hold hfresh, rfl, rfl, fun total htotal => ?_⟩
        simp only [htotal, fetchAdd_mod, List.length_singleton]
      | none =>
        simp only [hremove] at h
        split at h
        · rename_i hsnapshot
          simp only [Prod.mk.injEq] at h
          obtain ⟨rfl, rfl, -⟩ := h
          refine Or.inl ⟨_, [event], .dropped hsnapshot, rfl, rfl, fun total htotal => ?_⟩
          simp only [htotal, fetchAdd_mod, List.length_singleton]
        · simp only [Prod.mk.injEq] at h
          obtain ⟨rfl, rfl, -⟩ := h
          exact Or.inr ⟨_, rfl, rfl, rfl⟩

/-- A queue that has kept its buffer, or dropped it for good. -/
structure Retains (queue next : NativeEventQueue) : Prop where
  inFlight : next.state.inFlight = queue.state.inFlight
  inFlightSnapshot : next.state.inFlightSnapshot = queue.state.inFlightSnapshot
  buffered : (next.state.buffered = queue.state.buffered ∧
      next.state.closed = queue.state.closed ∧ next.snapshotDropped = queue.snapshotDropped) ∨
    (next.state.buffered = [] ∧ next.state.closed = true ∧
      next.snapshotDropped =
        fetchAdd queue.snapshotDropped (countBufferedSnapshots queue.state.buffered))
  shut : queue.Shut → next.Shut

/-- Ending the delivery while nothing is known of the event in flight drops the buffer. -/
theorem retains_failDelivery {queue : NativeEventQueue} {reason : String} {alive : Bool} :
    Retains queue (queue.failDelivery reason false alive).1 where
  inFlight := Bool.and_true _
  inFlightSnapshot := Bool.and_true _
  buffered := Or.inr ⟨rfl, rfl, rfl⟩
  shut _ := Or.inr (Or.inl rfl)

/-- Closing drops the buffer. -/
theorem retains_close {queue : NativeEventQueue} {alive : Bool} :
    Retains queue (queue.close alive).1 where
  inFlight := rfl
  inFlightSnapshot := rfl
  buffered := Or.inr ⟨rfl, rfl, rfl⟩
  shut _ := Or.inr (Or.inl rfl)

/-- A publication is accepted by an open queue, or refused and, if the event was valid, never
followed by an accepted one. -/
theorem publish_cases {queue next : NativeEventQueue} {alive : Bool} {result : Except String Unit}
    {player : Option ℕ} (h : queue.publish event alive = (next, result, player)) :
    (¬queue.Shut ∧ result = .ok () ∧ ∃ after discarded,
        Rebuffered event queue.state.inFlight.toNat queue.state.buffered after discarded ∧
        next.state = { queue.state with buffered := after } ∧
        ∀ total, queue.snapshotDropped = total % 2 ^ 64 →
          next.snapshotDropped = (total + discarded.length) % 2 ^ 64) ∨
      (result.isOk = false ∧ Retains queue next ∧ (validateUiEvent event = .ok () → next.Shut)) := by
  have hkept : Retains queue queue := ⟨rfl, rfl, Or.inl ⟨rfl, rfl, rfl⟩, id⟩
  rw [NativeEventQueue.publish] at h
  cases hvalid : validateUiEvent event with
  | error reason =>
    simp only [hvalid, Prod.mk.injEq] at h
    obtain ⟨rfl, rfl, -⟩ := h
    exact Or.inr ⟨rfl, hkept, nofun⟩
  | ok done =>
    simp only [hvalid] at h
    split at h
    · simp only [Prod.mk.injEq] at h
      obtain ⟨rfl, rfl, -⟩ := h
      exact Or.inr ⟨rfl, retains_failDelivery, fun _ => Or.inr (Or.inl rfl)⟩
    · rename_i hpoisoned
      split at h
      · rename_i hclosed
        simp only [Prod.mk.injEq] at h
        obtain ⟨rfl, rfl, -⟩ := h
        have hshut : ∀ queue' : NativeEventQueue, queue'.state.closed = queue.state.closed →
            queue'.Shut := fun queue' hsame => Or.inr (Or.inl (hsame.trans hclosed))
        exact Or.inr ⟨rfl, ⟨rfl, rfl, Or.inl ⟨rfl, rfl, rfl⟩, fun _ => hshut _ rfl⟩,
          fun _ => hshut _ rfl⟩
      · rename_i hclosed
        cases hfailure : queue.state.deliveryFailure with
        | some error =>
          simp only [hfailure, Prod.mk.injEq] at h
          obtain ⟨rfl, rfl, -⟩ := h
          have hshut : queue.state.deliveryFailure ≠ none := by simp [hfailure]
          exact Or.inr ⟨rfl, ⟨rfl, rfl, Or.inl ⟨rfl, rfl, rfl⟩, fun _ => Or.inr (Or.inr hshut)⟩,
            fun _ => Or.inr (Or.inr hshut)⟩
        | none =>
          simp only [hfailure] at h
          rcases accept_cases h with ⟨after, discarded, hbuffer, rfl, hstate, hdropped⟩ |
            ⟨error, rfl, hdropped, hstate⟩
          · refine Or.inl ⟨?_, rfl, after, discarded, hbuffer, hstate, hdropped⟩
            rintro (h | h | h)
            · exact hpoisoned h
            · exact hclosed h
            · exact h hfailure
          · have hshut : next.Shut := Or.inr (Or.inr (by simp [hstate]))
            refine Or.inr ⟨rfl, ⟨?_, ?_, Or.inl ⟨?_, ?_, hdropped⟩, fun _ => hshut⟩,
              fun _ => hshut⟩ <;> rw [hstate]

/-- The event that the publisher has taken and not settled. -/
def Publisher.current : Publisher → Option UiEvent
  | .popped _ event => some event
  | .sending _ event => some event
  | .sent event => some event
  | .sendFailed event _ => some event
  | _ => none

/-- The event that was taken and not yet handed to the channel. -/
def Publisher.unhanded : Publisher → List UiEvent
  | .popped _ event => [event]
  | _ => []

/-- The event that was taken and neither delivered nor given up. -/
def Publisher.undelivered : Publisher → List UiEvent
  | .popped _ event => [event]
  | .sending _ event => [event]
  | .sendFailed event _ => [event]
  | _ => []

/-- Lifecycle events are where they were accepted: handed over, taken, buffered, or lost at the end
of an open queue's delivery. -/
def InOrder (accepted handed unhanded buffered : List UiEvent) (closed : Bool) : Prop :=
  ∃ lost, lifecycle accepted = lifecycle (handed ++ unhanded ++ buffered) ++ lost ∧
    (closed = false → lost = [])

/-- Accepted snapshots are located, or counted as dropped. -/
def Balanced (accepted located : List UiEvent) (dropped : ℕ) : Prop :=
  ∃ discarded, (snapshots accepted).Perm (snapshots located ++ discarded) ∧
    dropped = discarded.length % 2 ^ 64

/-- Located events that are counted as dropped are no longer located. -/
theorem Balanced.discard {accepted located events : List UiEvent} {dropped : ℕ}
    (h : Balanced accepted (located ++ events) dropped) :
    Balanced accepted located (fetchAdd dropped (snapshots events).length) := by
  obtain ⟨discarded, hperm, hdropped⟩ := h
  refine ⟨discarded ++ snapshots events, hperm.trans ?_, ?_⟩
  · rw [List.perm_iff_count]
    intro snapshot
    simp only [snapshots_append, List.count_append]
    omega
  · rw [hdropped, fetchAdd_mod, List.length_append]

/-- The oldest buffered event is next to be handed over. -/
theorem InOrder.take {accepted handed buffered : List UiEvent} {closed : Bool}
    (h : InOrder accepted handed [] (event :: buffered) closed) :
    InOrder accepted handed [event] buffered closed := by
  simpa [InOrder] using h

/-- The event that was taken is the next one handed over. -/
theorem InOrder.hand {accepted handed buffered : List UiEvent} {closed : Bool}
    (h : InOrder accepted handed [event] buffered closed) :
    InOrder accepted (handed ++ [event]) [] buffered closed := by
  simpa [InOrder] using h

/-- Giving up the event in flight counts it, if it is a snapshot. -/
theorem failDelivery_dropped {queue : NativeEventQueue} {reason : String} {alive : Bool} :
    (queue.failDelivery reason true alive).1.snapshotDropped =
      if queue.state.inFlightSnapshot then
        fetchAdd (queue.failDelivery reason false alive).1.snapshotDropped 1
      else (queue.failDelivery reason false alive).1.snapshotDropped := rfl

/-- Where the events of a queue and its publisher are. -/
structure Located (queue : NativeEventQueue) (thread : Publisher) (trace : EventTrace) : Prop where
  inFlight : queue.state.inFlight = thread.current.isSome
  inFlightSnapshot : queue.state.inFlightSnapshot = thread.current.any UiEvent.isSnapshot
  capacity : queue.state.buffered.length + queue.state.inFlight.toNat ≤ maxNativeEvents
  keys : (snapshotKeys queue.state.buffered).Nodup
  order : InOrder trace.accepted trace.handed thread.unhanded queue.state.buffered
    queue.state.closed
  balance : Balanced trace.accepted
    (trace.delivered ++ thread.undelivered ++ queue.state.buffered) queue.snapshotDropped

/-- A queue that keeps or drops its buffer keeps its events located. -/
theorem Located.retains {queue next : NativeEventQueue} {thread : Publisher} {trace : EventTrace}
    (h : Located queue thread trace) (hnext : Retains queue next) : Located next thread trace := by
  have hflight := hnext.inFlight.trans h.inFlight
  have hsnapshot := hnext.inFlightSnapshot.trans h.inFlightSnapshot
  have hcapacity := h.capacity
  rw [← hnext.inFlight] at hcapacity
  rcases hnext.buffered with ⟨hbuffered, hclosed, hdropped⟩ | ⟨hbuffered, hclosed, hdropped⟩
  · have horder := h.order
    have hbalance := h.balance
    rw [← hbuffered, ← hclosed] at horder
    rw [← hbuffered, ← hdropped] at hbalance
    exact ⟨hflight, hsnapshot, hbuffered ▸ hcapacity, hbuffered ▸ h.keys, horder, hbalance⟩
  · refine ⟨hflight, hsnapshot, ?_, ?_, ?_, ?_⟩
    · rw [hbuffered]
      exact le_trans (Nat.add_le_add_right (Nat.zero_le _) _) hcapacity
    · rw [hbuffered]
      exact List.nodup_nil
    · obtain ⟨lost, hlost, -⟩ := h.order
      refine ⟨lifecycle queue.state.buffered ++ lost, ?_, ?_⟩
      · rw [hlost, hbuffered, List.append_nil, lifecycle_append, List.append_assoc]
      · rw [hclosed]
        nofun
    · have hbalance := h.balance.discard
      rw [← countBufferedSnapshots_eq, ← hdropped] at hbalance
      rw [hbuffered, List.append_nil]
      exact hbalance

/-- A further publication is among the accepted ones when it succeeded. -/
theorem accepted_published {trace : EventTrace} {result : Except String Unit} {players : List ℕ} :
    EventTrace.accepted { trace with
      published := trace.published ++ [(event, result)], terminated := players } =
      trace.accepted ++ if result.isOk then [event] else [] := by
  cases result <;> simp [EventTrace.accepted, Except.isOk, Except.toBool]

/-- A publication keeps all events located. -/
theorem Located.publish {queue next : NativeEventQueue} {thread : Publisher} {trace : EventTrace}
    {alive : Bool} {result : Except String Unit} {player : Option ℕ} (players : List ℕ)
    (h : Located queue thread trace) (hmade : queue.publish event alive = (next, result, player)) :
    Located next thread { trace with
      published := trace.published ++ [(event, result)], terminated := players } := by
  rcases publish_cases hmade with ⟨hopen, rfl, after, discarded, hbuffer, hstate, hdropped⟩ |
    ⟨hrefused, hretains, -⟩
  · have haccepted : EventTrace.accepted { trace with
        published := trace.published ++ [(event, .ok ())], terminated := players } =
        trace.accepted ++ [event] := accepted_published
    obtain ⟨lost, hlost, hclosed⟩ := h.order
    obtain ⟨earlier, hperm, hcount⟩ := h.balance
    have hlive : queue.state.closed = false :=
      Bool.eq_false_iff.mpr fun hclosed => hopen (Or.inr (Or.inl hclosed))
    refine ⟨?_, ?_, ?_, ?_, ⟨[], ?_, fun _ => rfl⟩, ⟨earlier ++ discarded, ?_, ?_⟩⟩
    · rw [hstate]
      exact h.inFlight
    · rw [hstate]
      exact h.inFlightSnapshot
    · rw [hstate]
      exact hbuffer.length_le h.capacity
    · rw [hstate]
      exact hbuffer.nodup_keys h.keys
    · have hbuffered : next.state.buffered = after := by rw [hstate]
      simp only [haccepted, hbuffered, lifecycle_append, hlost, hclosed hlive,
        hbuffer.lifecycle_eq, List.append_nil, List.append_assoc]
    · have hsnapshots := hbuffer.snapshots_perm
      rw [List.perm_iff_count] at hperm hsnapshots ⊢
      intro snapshot
      have hold := hperm snapshot
      have hnew := hsnapshots snapshot
      rw [haccepted, hstate]
      simp only [snapshots_append, List.count_append] at hold hnew ⊢
      omega
    · rw [List.length_append]
      exact hdropped earlier.length hcount
  · have haccepted : EventTrace.accepted { trace with
        published := trace.published ++ [(event, result)], terminated := players } =
        trace.accepted := by
      rw [accepted_published, if_neg (ne_true_of_eq_false hrefused), List.append_nil]
    have hkept := h.retains hretains
    exact ⟨hkept.inFlight, hkept.inFlightSnapshot, hkept.capacity, hkept.keys,
      haccepted ▸ hkept.order, haccepted ▸ hkept.balance⟩

/-- A valid lifecycle event that was refused. -/
def RefusedLifecycle (publication : UiEvent × Except String Unit) : Prop :=
  validateUiEvent publication.1 = .ok () ∧ publication.1.isLifecycle = true ∧
    publication.2.isOk = false

/-- No publication succeeds after a valid lifecycle event was refused. -/
def Ended (published : List (UiEvent × Except String Unit)) : Prop :=
  published.Pairwise fun first later => RefusedLifecycle first → later.2.isOk = false

/-- The invariant of the hub. -/
structure Consistent (hub : NativeEventHub) : Prop where
  located : Located hub.queue hub.thread hub.trace
  ended : Ended hub.trace.published
  shut : (∃ publication ∈ hub.trace.published, RefusedLifecycle publication) → hub.queue.Shut
  publisher : hub.thread ≠ .absent → hub.publisher = true ∨ hub.queue.state.closed = true
  spawning : ∀ channel, hub.call = .subscribing channel → hub.publisher = false →
    hub.thread = .absent

/-- What was not lost stays closed. -/
theorem Retains.closed {queue next : NativeEventQueue} (h : Retains queue next)
    (hclosed : queue.state.closed = true) : next.state.closed = true := by
  rcases h.buffered with ⟨-, hsame, -⟩ | ⟨-, hnext, -⟩
  · exact hsame.trans hclosed
  · exact hnext

namespace Consistent

variable {hub : NativeEventHub}

/-- Another call state is consistent while no publisher is to be started. -/
theorem setCall (h : Consistent hub) {call : HubCall} (hcall : ∀ channel, call ≠ .subscribing channel) :
    Consistent { hub with call } :=
  ⟨h.located, h.ended, h.shut, h.publisher, fun channel hsame => absurd hsame (hcall channel)⟩

/-- A queue that keeps or drops its buffer stays consistent. -/
theorem retains (h : Consistent hub) {queue : NativeEventQueue} (players : List ℕ)
    (hqueue : Retains hub.queue queue) :
    Consistent { hub with queue, trace := { hub.trace with terminated := players } } where
  located := by
    have hkept := h.located.retains hqueue
    exact ⟨hkept.inFlight, hkept.inFlightSnapshot, hkept.capacity, hkept.keys, hkept.order,
      hkept.balance⟩
  ended := h.ended
  shut hrefused := hqueue.shut (h.shut hrefused)
  publisher hthread := (h.publisher hthread).imp_right hqueue.closed
  spawning := h.spawning

/-- A failed critical section stays consistent. -/
theorem fail (h : Consistent hub) {reason : String} {alive : Bool} :
    Consistent (hub.fail reason false alive) :=
  h.retains _ (@retains_failDelivery hub.queue reason alive)

/-- A publication stays consistent. -/
theorem publish (h : Consistent hub) {alive : Bool} : Consistent (hub.publish event alive) := by
  rcases hmade : hub.queue.publish event alive with ⟨next, result, player⟩
  have hlocated := h.located.publish (hub.trace.terminated ++ player.toList) hmade
  simp only [NativeEventHub.publish, hmade]
  have hrefuses : hub.queue.Shut → result.isOk = false := by
    intro hshut
    rcases publish_cases hmade with ⟨hopen, -⟩ | ⟨hrefused, -⟩
    · exact absurd hshut hopen
    · exact hrefused
  refine ⟨hlocated, ?_, ?_, ?_, h.spawning⟩
  · refine List.pairwise_append.mpr ⟨h.ended, List.pairwise_singleton _ _, ?_⟩
    intro first hfirst later hlater hlost
    rw [List.mem_singleton.mp hlater]
    exact hrefuses (h.shut ⟨first, hfirst, hlost⟩)
  · rintro ⟨publication, hmem, hlost⟩
    rcases publish_cases hmade with ⟨hopen, rfl, -⟩ | ⟨-, hretains, hshut⟩
    · rcases List.mem_append.mp hmem with hearlier | hnew
      · exact absurd (h.shut ⟨publication, hearlier, hlost⟩) hopen
      · rw [List.mem_singleton.mp hnew] at hlost
        exact absurd hlost.2.2 nofun
    · rcases List.mem_append.mp hmem with hearlier | hnew
      · exact hretains.shut (h.shut ⟨publication, hearlier, hlost⟩)
      · rw [List.mem_singleton.mp hnew] at hlost
        exact hshut hlost.1
  · intro hthread
    refine (h.publisher hthread).imp_right fun hclosed => ?_
    rcases publish_cases hmade with ⟨hopen, -⟩ | ⟨-, hretains, -⟩
    · exact absurd (Or.inr (Or.inl hclosed)) hopen
    · exact hretains.closed hclosed

/-- The first part of a subscription stays consistent. -/
theorem subscribe (h : Consistent hub) {channel : ℕ} {alive : Bool} :
    Consistent (hub.subscribe channel alive) := by
  unfold NativeEventHub.subscribe
  split
  · exact h.fail
  · split
    · exact h
    · rename_i hopen
      have hlive : hub.queue.state.closed = false := by
        simp only [Bool.or_eq_true, not_or, Bool.not_eq_true] at hopen
        exact hopen.1
      refine ⟨h.located, h.ended, h.shut, h.publisher, fun _ _ hpublisher => ?_⟩
      by_contra hthread
      rcases h.publisher hthread with hstarted | hclosed
      · exact absurd hstarted (ne_true_of_eq_false hpublisher)
      · exact absurd hclosed (ne_true_of_eq_false hlive)

/-- Starting the publisher stays consistent. -/
theorem spawnPublisher (h : Consistent hub) {channel : ℕ} {started : Except String Unit}
    {alive : Bool} (hcall : hub.call = .subscribing channel) :
    Consistent (hub.spawnPublisher channel started alive) := by
  unfold NativeEventHub.spawnPublisher
  split
  · exact h.setCall nofun
  · rename_i hpublisher
    have habsent := h.spawning channel hcall (Bool.eq_false_iff.mpr hpublisher)
    cases started with
    | error error => exact h.fail.setCall nofun
    | ok done =>
      have hlocated := h.located
      rw [habsent] at hlocated
      exact ⟨⟨hlocated.inFlight, hlocated.inFlightSnapshot, hlocated.capacity, hlocated.keys,
        hlocated.order, hlocated.balance⟩, h.ended, h.shut, fun _ => Or.inl rfl, nofun⟩

/-- The last part of a subscription stays consistent. -/
theorem setChannel (h : Consistent hub) {channel : ℕ} {alive : Bool} :
    Consistent (hub.setChannel channel alive) := by
  unfold NativeEventHub.setChannel
  split
  · exact h.fail.setCall nofun
  · split
    · exact h.setCall nofun
    · have hkept : Retains hub.queue
          { hub.queue with state := { hub.queue.state with channel := some channel } } :=
        ⟨rfl, rfl, Or.inl ⟨rfl, rfl, rfl⟩, id⟩
      exact (h.retains hub.trace.terminated hkept).setCall nofun

/-- Registering a player stays consistent. -/
theorem registerPlaybackPlayer (h : Consistent hub) {player : ℕ} {alive : Bool} :
    Consistent (hub.registerPlaybackPlayer player alive) := by
  unfold NativeEventHub.registerPlaybackPlayer
  split
  · exact h.retains hub.trace.terminated retains_failDelivery
  · split
    · exact h
    · exact h.retains hub.trace.terminated ⟨rfl, rfl, Or.inl ⟨rfl, rfl, rfl⟩, id⟩

/-- Closing stays consistent while no subscription is in progress. -/
theorem close (h : Consistent hub) {alive : Bool} (hcall : hub.call = .idle) :
    Consistent (hub.close alive) := by
  have hclosed := h.retains (hub.trace.terminated ++ (hub.queue.close alive).2.toList)
    (@retains_close hub.queue alive)
  refine ⟨hclosed.located, hclosed.ended, hclosed.shut, fun _ => Or.inr rfl, ?_⟩
  intro channel hsubscribing
  exact absurd (hcall.symm.trans hsubscribing) nofun

/-- A step of the publisher changes where the event in flight is. -/
theorem advance (h : Consistent hub) {queue : NativeEventQueue} {thread : Publisher}
    {trace : EventTrace} (hlocated : Located queue thread trace)
    (hpublished : trace.published = hub.trace.published)
    (hshut : hub.queue.Shut → queue.Shut)
    (hclosed : hub.queue.state.closed = true → queue.state.closed = true)
    (hthread : hub.thread ≠ .absent) :
    Consistent { hub with queue, thread, trace } where
  located := hlocated
  ended := hpublished ▸ h.ended
  shut hrefused := hshut (h.shut (hpublished ▸ hrefused))
  publisher _ := (h.publisher hthread).imp_right hclosed
  spawning channel hcall hpublisher := absurd (h.spawning channel hcall hpublisher) hthread

/-- The publisher's critical section before a send stays consistent. -/
theorem take (h : Consistent hub) {reason : String} (hcurrent : hub.thread = .locking ∨
    hub.thread = .waiting) : Consistent (hub.take reason) := by
  have hnothing : hub.thread.current = none ∧ hub.thread.unhanded = [] ∧
      hub.thread.undelivered = [] ∧ hub.thread ≠ .absent := by
    rcases hcurrent with hthread | hthread <;> rw [hthread] <;> exact ⟨rfl, rfl, rfl, nofun⟩
  obtain ⟨hcurrent, hunhanded, hundelivered, hthread⟩ := hnothing
  have hlocated := h.located
  have horder := hlocated.order
  have hbalance := hlocated.balance
  rw [hunhanded] at horder
  rw [hundelivered] at hbalance
  -- a thread that still has no event leaves everything where it is
  have hidle : ∀ thread : Publisher, thread.current = none → thread.unhanded = [] →
      thread.undelivered = [] → Located hub.queue thread hub.trace := by
    intro thread hcurrent' hunhanded' hundelivered'
    refine ⟨?_, ?_, hlocated.capacity, hlocated.keys, ?_, ?_⟩
    · rw [hcurrent', ← hcurrent]
      exact hlocated.inFlight
    · rw [hcurrent', ← hcurrent]
      exact hlocated.inFlightSnapshot
    · rw [hunhanded']
      exact horder
    · rw [hundelivered']
      exact hbalance
  unfold NativeEventHub.take
  dsimp only
  split
  · exact h.advance (hidle _ rfl rfl rfl) rfl id id hthread
  · split
    · split
      · have hfinished := hidle .finished rfl rfl rfl
        exact h.advance ⟨hfinished.inFlight, hfinished.inFlightSnapshot, hfinished.capacity,
          hfinished.keys, hfinished.order, hfinished.balance⟩ rfl id id hthread
      · exact h.advance (hidle _ rfl rfl rfl) rfl id id hthread
    · rename_i event rest channel hbuffered hchannel
      have hcapacity := hlocated.capacity
      have hkeys := hlocated.keys
      rw [hbuffered] at horder hbalance hcapacity hkeys
      refine h.advance ⟨rfl, rfl, ?_, ?_, ?_, ?_⟩ rfl id id hthread
      · simp only [List.length_cons, Bool.toNat_true] at hcapacity ⊢
        omega
      · rw [snapshotKeys_cons] at hkeys
        exact (List.nodup_append.mp hkeys).2.1
      · exact horder.take
      · rw [List.append_nil] at hbalance
        rw [Publisher.undelivered, List.append_assoc]
        exact hbalance
    · exact h.advance (hidle _ rfl rfl rfl) rfl id id hthread

/-- Handing the taken event to the channel stays consistent. -/
theorem hand (h : Consistent hub) {channel : ℕ} (hthread : hub.thread = .popped channel event) :
    Consistent { hub with
      thread := .sending channel event
      trace := { hub.trace with handed := hub.trace.handed ++ [event] } } := by
  have hlocated := h.located
  rw [hthread] at hlocated
  exact h.advance ⟨hlocated.inFlight, hlocated.inFlightSnapshot, hlocated.capacity, hlocated.keys,
    hlocated.order.hand, hlocated.balance⟩ rfl id id (by simp [hthread])

/-- A successful send stays consistent. -/
theorem sent (h : Consistent hub) {channel : ℕ} (hthread : hub.thread = .sending channel event) :
    Consistent { hub with
      thread := .sent event
      trace := { hub.trace with delivered := hub.trace.delivered ++ [event] } } := by
  have hlocated := h.located
  rw [hthread] at hlocated
  refine h.advance ⟨hlocated.inFlight, hlocated.inFlightSnapshot, hlocated.capacity, hlocated.keys,
    hlocated.order, ?_⟩ rfl id id (by simp [hthread])
  simp only [Publisher.undelivered, List.append_nil]
  exact hlocated.balance

/-- A failed send stays consistent. -/
theorem sendFailed (h : Consistent hub) {channel : ℕ} {reason : String}
    (hthread : hub.thread = .sending channel event) :
    Consistent { hub with thread := .sendFailed event reason } := by
  have hlocated := h.located
  rw [hthread] at hlocated
  exact h.advance ⟨hlocated.inFlight, hlocated.inFlightSnapshot, hlocated.capacity, hlocated.keys,
    hlocated.order, hlocated.balance⟩ rfl id id (by simp [hthread])

/-- Settling a delivered event stays consistent. -/
theorem settle (h : Consistent hub) (hthread : hub.thread = .sent event) :
    Consistent hub.settle := by
  have hlocated := h.located
  rw [hthread] at hlocated
  have hcapacity : hub.queue.state.buffered.length + false.toNat ≤ maxNativeEvents :=
    le_trans (Nat.le_add_right _ _) hlocated.capacity
  unfold NativeEventHub.settle
  split <;> exact h.advance ⟨rfl, rfl, hcapacity, hlocated.keys, hlocated.order,
    hlocated.balance⟩ rfl id id (by simp [hthread])

/-- The end of the delivery by the publisher stays consistent. -/
theorem failPublisher (h : Consistent hub) {reason : String} {alive : Bool}
    (hthread : (∃ event reason, hub.thread = .sendFailed event reason) ∨
      ∃ reason, hub.thread = .failing reason) :
    Consistent (hub.failPublisher reason alive) := by
  have habsent : hub.thread ≠ .absent := by
    rcases hthread with ⟨event, reason, hthread⟩ | ⟨reason, hthread⟩ <;> rw [hthread] <;> nofun
  have hunhanded : hub.thread.unhanded = [] := by
    rcases hthread with ⟨event, reason, hthread⟩ | ⟨reason, hthread⟩ <;> rw [hthread] <;> rfl
  have hlocated := h.located.retains (@retains_failDelivery hub.queue reason alive)
  have horder := hlocated.order
  rw [hunhanded] at horder
  have hbalance : Balanced hub.trace.accepted hub.trace.delivered
      (hub.queue.failDelivery reason true alive).1.snapshotDropped := by
    have hkept := hlocated.balance
    rw [show (hub.queue.failDelivery reason false alive).1.state.buffered = [] from rfl,
      List.append_nil] at hkept
    rw [failDelivery_dropped, h.located.inFlightSnapshot]
    rcases hthread with ⟨event, failure, hthread⟩ | ⟨failure, hthread⟩
    · have hcurrent : hub.thread.current = some event := by rw [hthread]; rfl
      have hundelivered : hub.thread.undelivered = [event] := by rw [hthread]; rfl
      rw [hundelivered] at hkept
      rw [hcurrent, Option.any_some]
      have hgiven := hkept.discard
      cases hkind : event.isSnapshot with
      | true =>
        rw [snapshots_of_isSnapshot hkind] at hgiven
        rw [if_pos rfl]
        exact hgiven
      | false =>
        obtain ⟨discarded, hperm, hdropped⟩ := hkept
        have hnone : snapshots [event] = [] := by simp [snapshots, hkind]
        rw [snapshots_append, hnone, List.append_nil] at hperm
        rw [if_neg Bool.false_ne_true]
        exact ⟨discarded, hperm, hdropped⟩
    · have hcurrent : hub.thread.current = none := by rw [hthread]; rfl
      have hundelivered : hub.thread.undelivered = [] := by rw [hthread]; rfl
      rw [hundelivered, List.append_nil] at hkept
      rw [hcurrent]
      exact hkept
  have hcapacity : 0 + (hub.queue.state.inFlight && !true).toNat ≤ maxNativeEvents := by
    rw [Bool.not_true, Bool.and_false]
    exact Nat.zero_le _
  refine h.advance ⟨Bool.and_false _, Bool.and_false _, hcapacity, List.nodup_nil, horder, ?_⟩ rfl
    (fun _ => Or.inr (Or.inl rfl)) (fun _ => rfl) habsent
  have hlocation : Balanced hub.trace.accepted (hub.trace.delivered ++ [] ++ [])
      (hub.queue.failDelivery reason true alive).1.snapshotDropped := by
    rw [List.append_nil, List.append_nil]
    exact hbalance
  exact hlocation

end Consistent

/-- The invariant holds initially and every action keeps it. -/
theorem consistent_invariant : NativeEventHub.machine.Invariant Consistent where
  initial := by
    have hlocated : Located NativeEventHub.initial.queue NativeEventHub.initial.thread
        NativeEventHub.initial.trace :=
      ⟨rfl, rfl, Nat.zero_le _, List.nodup_nil, ⟨[], rfl, fun _ => rfl⟩, [], List.Perm.nil,
        (Nat.zero_mod _).symm⟩
    exact ⟨hlocated, List.Pairwise.nil, fun ⟨_, hmem, _⟩ => absurd hmem List.not_mem_nil,
      fun habsent => absurd rfl habsent, nofun⟩
  step hub action after h hmade := by
    replace hmade : hub.step action = some after := hmade
    cases action with
    | publish event alive =>
      simp only [NativeEventHub.step, Option.ite_none_right_eq_some, Option.some.injEq] at hmade
      obtain ⟨-, rfl⟩ := hmade
      exact h.publish
    | subscribe channel alive =>
      simp only [NativeEventHub.step, Option.ite_none_right_eq_some, Option.some.injEq] at hmade
      obtain ⟨-, rfl⟩ := hmade
      exact h.subscribe
    | spawnPublisher started alive =>
      cases hcall : hub.call with
      | subscribing channel =>
        simp only [NativeEventHub.step, hcall, Option.some.injEq] at hmade
        subst hmade
        exact h.spawnPublisher hcall
      | _ => simp [NativeEventHub.step, hcall] at hmade
    | setChannel alive =>
      cases hcall : hub.call with
      | registering channel =>
        simp only [NativeEventHub.step, hcall, Option.some.injEq] at hmade
        subst hmade
        exact h.setChannel
      | _ => simp [NativeEventHub.step, hcall] at hmade
    | registerPlaybackPlayer player alive =>
      simp only [NativeEventHub.step, Option.ite_none_right_eq_some, Option.some.injEq] at hmade
      obtain ⟨-, rfl⟩ := hmade
      exact h.registerPlaybackPlayer
    | close alive =>
      simp only [NativeEventHub.step, Option.ite_none_right_eq_some, Option.some.injEq] at hmade
      obtain ⟨hcall, rfl⟩ := hmade
      exact h.close hcall
    | poison =>
      simp only [NativeEventHub.step, Option.some.injEq] at hmade
      have hkept : Retains hub.queue { hub.queue with poisoned := true } :=
        ⟨rfl, rfl, Or.inl ⟨rfl, rfl, rfl⟩, fun _ => Or.inl rfl⟩
      subst hmade
      exact h.retains hub.trace.terminated hkept
    | take =>
      cases hthread : hub.thread with
      | locking =>
        simp only [NativeEventHub.step, hthread, Option.some.injEq] at hmade
        subst hmade
        exact h.take (Or.inl hthread)
      | waiting =>
        simp only [NativeEventHub.step, hthread, Option.some.injEq] at hmade
        subst hmade
        exact h.take (Or.inr hthread)
      | _ => simp [NativeEventHub.step, hthread] at hmade
    | hand =>
      cases hthread : hub.thread with
      | popped channel event =>
        simp only [NativeEventHub.step, hthread, Option.some.injEq] at hmade
        subst hmade
        exact h.hand hthread
      | _ => simp [NativeEventHub.step, hthread] at hmade
    | sendReturns result =>
      cases hthread : hub.thread with
      | sending channel event =>
        cases result with
        | ok done =>
          simp only [NativeEventHub.step, hthread, Option.some.injEq] at hmade
          subst hmade
          exact h.sent hthread
        | error reason =>
          simp only [NativeEventHub.step, hthread, Option.some.injEq] at hmade
          subst hmade
          exact h.sendFailed hthread
      | _ => simp [NativeEventHub.step, hthread] at hmade
    | settle =>
      cases hthread : hub.thread with
      | sent event =>
        simp only [NativeEventHub.step, hthread, Option.some.injEq] at hmade
        subst hmade
        exact h.settle hthread
      | _ => simp [NativeEventHub.step, hthread] at hmade
    | failDelivery alive =>
      cases hthread : hub.thread with
      | sendFailed event reason =>
        simp only [NativeEventHub.step, hthread, Option.some.injEq] at hmade
        subst hmade
        exact h.failPublisher (Or.inl ⟨event, reason, hthread⟩)
      | failing reason =>
        simp only [NativeEventHub.step, hthread, Option.some.injEq] at hmade
        subst hmade
        exact h.failPublisher (Or.inr ⟨reason, hthread⟩)
      | _ => simp [NativeEventHub.step, hthread] at hmade

/-- In every interleaving, the lifecycle events handed to the channel are the first ones accepted,
in order; after a valid lifecycle event was refused nothing is accepted; the buffer is bounded and
holds one snapshot of each key; and every accepted snapshot is delivered, in flight, buffered or
counted as dropped. -/
theorem native_events_delivered {hub : NativeEventHub} (h : NativeEventHub.machine.Reachable hub) :
    lifecycle hub.trace.handed <+: lifecycle hub.trace.accepted ∧
      Ended hub.trace.published ∧
      hub.queue.state.buffered.length + hub.queue.state.inFlight.toNat ≤ maxNativeEvents ∧
      (snapshotKeys hub.queue.state.buffered).Nodup ∧
      Balanced hub.trace.accepted
        (hub.trace.delivered ++ hub.thread.undelivered ++ hub.queue.state.buffered)
        hub.queue.snapshotDropped := by
  have hconsistent := consistent_invariant.holds h
  have hlocated := hconsistent.located
  obtain ⟨lost, hlost, -⟩ := hlocated.order
  refine ⟨?_, hconsistent.ended, hlocated.capacity, hlocated.keys, hlocated.balance⟩
  rw [hlost, lifecycle_append, lifecycle_append, List.append_assoc, List.append_assoc]
  exact List.prefix_append _ _

/-- A lifecycle event and two snapshots of one key are published, the lifecycle event is delivered,
the channel fails on the snapshot, and a last event is refused. -/
def deliveryScenario : List HubAction :=
  let diagnostics seq : UiEvent := .diagnosticsSnapshot ⟨seq, none, none, none, none, none, none⟩
  [.publish (.catalogChanged ⟨1, 0⟩) true, .publish (diagnostics 1) true,
    .publish (diagnostics 2) true, .subscribe 0 true, .spawnPublisher (.ok ()) true,
    .setChannel true, .take, .hand, .sendReturns (.ok ()), .settle, .take, .hand,
    .sendReturns (.error "gone"), .failDelivery true, .publish (.catalogChanged ⟨2, 0⟩) true]

/-- The scenario hands over two events and drops two snapshots. -/
theorem native_events_delivered_scenario :
    ∃ hub : NativeEventHub, (hub.trace.handed.length = 2 ∧ hub.queue.snapshotDropped = 2 ∧
        hub.trace.accepted.length = 3) ∧
      lifecycle hub.trace.handed <+: lifecycle hub.trace.accepted ∧
      Ended hub.trace.published ∧
      hub.queue.state.buffered.length + hub.queue.state.inFlight.toNat ≤ maxNativeEvents ∧
      (snapshotKeys hub.queue.state.buffered).Nodup ∧
      Balanced hub.trace.accepted
        (hub.trace.delivered ++ hub.thread.undelivered ++ hub.queue.state.buffered)
        hub.queue.snapshotDropped := by
  have hcheck : (NativeEventHub.machine.run NativeEventHub.initial deliveryScenario).any
      (fun hub => hub.trace.handed.length = 2 ∧ hub.queue.snapshotDropped = 2 ∧
        hub.trace.accepted.length = 3) = true := by decide +kernel
  obtain ⟨hub, hrun, hcounts⟩ := (Option.any_eq_true _ _).mp hcheck
  exact ⟨hub, of_decide_eq_true hcounts, native_events_delivered ⟨deliveryScenario, hrun⟩⟩

end SkyAutoPlayer.Desktop
