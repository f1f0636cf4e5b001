import SkyAutoPlayer.Desktop.UiEvents
import SkyAutoPlayer.Foundation.StateMachine

/-!
# The native event hub

The hub buffers events for one publisher thread. Hub calls are exclusive of one another, and the
publisher takes an event under the queue's lock and sends it outside. Each action below is one
critical section or one channel call, with the poisoned lock as an action of its own, and a trace
keeps what was published, handed to the channel and delivered.
-/

namespace SkyAutoPlayer.Desktop

open Foundation

/-- The most events that are buffered and in flight. -/
def maxNativeEvents : ℕ := 128

/-- An atomic addition to a 64-bit counter. -/
def fetchAdd (counter amount : ℕ) : ℕ := (counter + amount) % 2 ^ 64

/-- What the queue's lock protects. -/
structure NativeEventHubState where
  buffered : List UiEvent
  channel : Option ℕ
  closed : Bool
  inFlight : Bool
  inFlightSnapshot : Bool
  deliveryFailure : Option String
  playbackPlayer : Option ℕ
  deriving DecidableEq

/-- The queue with its lock's poison flag and its atomic cells. -/
structure NativeEventQueue where
  state : NativeEventHubState
  poisoned : Bool
  publisherFinished : Bool
  deliveryFailure : Bool
  snapshotCoalesced : ℕ
  snapshotDropped : ℕ
  deriving DecidableEq

/-- The snapshots in the buffer. -/
def countBufferedSnapshots (buffered : List UiEvent) : ℕ := buffered.countP UiEvent.isSnapshot

/-- Remove the first snapshot of the buffer, absent when there is none. -/
def removeOldestSnapshot (buffered : List UiEvent) : Option (List UiEvent) :=
  (buffered.findIdx? UiEvent.isSnapshot).map buffered.eraseIdx

/-- Replace the buffered snapshot of the event's key, absent when there is none. -/
def replaceSnapshot (event : UiEvent) (buffered : List UiEvent) : Option (List UiEvent) := do
  let key ← snapshotKey event
  let index ← buffered.findIdx? fun candidate => snapshotKey candidate = some key
  pure (buffered.set index event)

/-- The registered player, when its session is still alive. -/
def NativeEventHubState.upgradePlayer (state : NativeEventHubState) (alive : Bool) : Option ℕ :=
  state.playbackPlayer.filter fun _ => alive

namespace NativeEventQueue

/-- End the delivery: the buffer is dropped, and a failed send gives up the event in flight. The
result is the player to terminate. -/
def failDelivery (reason : String) (inFlightSendFailed alive : Bool) (queue : NativeEventQueue) :
    NativeEventQueue × Option ℕ :=
  let state := queue.state
  let dropped := fetchAdd queue.snapshotDropped (countBufferedSnapshots state.buffered)
  ({ queue with
      deliveryFailure := true
      snapshotDropped :=
        if inFlightSendFailed && state.inFlightSnapshot then fetchAdd dropped 1 else dropped
      state := { state with
        deliveryFailure := state.deliveryFailure.or (some reason)
        closed := true
        inFlight := state.inFlight && !inFlightSendFailed
        inFlightSnapshot := state.inFlightSnapshot && !inFlightSendFailed
        channel := none
        buffered := [] } },
    state.upgradePlayer alive)

/-- Put an event behind the buffered ones, evicting the oldest snapshot when there is no room. -/
def enqueue (event : UiEvent) (alive : Bool) (queue : NativeEventQueue) :
    NativeEventQueue × Except String Unit × Option ℕ :=
  let state := queue.state
  if state.buffered.length + state.inFlight.toNat < maxNativeEvents then
    ({ queue with state := { state with buffered := state.buffered ++ [event] } }, .ok (), none)
  else
    match removeOldestSnapshot state.buffered with
    | some remaining =>
      ({ queue with
          snapshotDropped := fetchAdd queue.snapshotDropped 1
          state := { state with buffered := remaining ++ [event] } }, .ok (), none)
    | none =>
      if event.isSnapshot then
        -- a snapshot is best effort, so a full queue of lifecycle events only drops it
        ({ queue with snapshotDropped := fetchAdd queue.snapshotDropped 1 }, .ok (), none)
      else
        let error := "native event hub lifecycle buffer overflow"
        ({ queue with
            deliveryFailure := true
            state := { state with deliveryFailure := some error } },
          .error error, state.upgradePlayer alive)

/-- Accept an event on an open queue: a snapshot replaces the one of its key. -/
def accept (event : UiEvent) (alive : Bool) (queue : NativeEventQueue) :
    NativeEventQueue × Except String Unit × Option ℕ :=
  match replaceSnapshot event queue.state.buffered with
  | some buffered =>
    ({ queue with
        snapshotCoalesced := fetchAdd queue.snapshotCoalesced 1
        snapshotDropped := fetchAdd queue.snapshotDropped 1
        state := { queue.state with buffered } }, .ok (), none)
  | none => queue.enqueue event alive

/-- Publish an event: the queue after it, the result and the player to terminate. -/
def publish (event : UiEvent) (alive : Bool) (queue : NativeEventQueue) :
    NativeEventQueue × Except String Unit × Option ℕ :=
  match validateUiEvent event with
  | .error reason => (queue, .error reason, none)
  | .ok () =>
    if queue.poisoned then
      let (failed, player) := queue.failDelivery "native event queue lock poisoned" false alive
      (failed, .error "native event queue lock poisoned", player)
    else if queue.state.closed then
      let error := "native event hub is closed"
      ({ queue with
          deliveryFailure := true
          state := { queue.state with
            deliveryFailure := queue.state.deliveryFailure.or (some error) } },
        .error error, none)
    else
      match queue.state.deliveryFailure with
      | some error => ({ queue with deliveryFailure := true }, .error error, none)
      | none => queue.accept event alive

/-- Close the queue and drop its buffer. The result is the player to terminate. -/
def close (alive : Bool) (queue : NativeEventQueue) : NativeEventQueue × Option ℕ :=
  let state := queue.state
  let player := state.upgradePlayer alive
  ({ queue with
      deliveryFailure := queue.deliveryFailure || queue.poisoned || player.isSome
      snapshotDropped := fetchAdd queue.snapshotDropped (countBufferedSnapshots state.buffered)
      state := { state with closed := true, buffered := [], playbackPlayer := none } },
    player)

end NativeEventQueue

/-- Where the publisher thread is. -/
inductive Publisher where
  | absent
  | locking
  | waiting
  | popped (channel : ℕ) (event : UiEvent)
  | sending (channel : ℕ) (event : UiEvent)
  | sent (event : UiEvent)
  | sendFailed (event : UiEvent) (reason : String)
  | failing (reason : String)
  | finished
  deriving DecidableEq

/-- Where the current hub call is: only a subscription spans several critical sections. -/
inductive HubCall where
  | idle
  | subscribing (channel : ℕ)
  | registering (channel : ℕ)
  deriving DecidableEq

/-- What was published with which result, handed to the channel, delivered and terminated. -/
structure EventTrace where
  published : List (UiEvent × Except String Unit)
  handed : List UiEvent
  delivered : List UiEvent
  terminated : List ℕ

/-- The events whose publication returned success. -/
def EventTrace.accepted (trace : EventTrace) : List UiEvent :=
  (trace.published.filter fun publication => publication.2.isOk).map Prod.fst

/-- The hub, its publisher thread and the trace. -/
structure NativeEventHub where
  queue : NativeEventQueue
  publisher : Bool
  call : HubCall
  thread : Publisher
  trace : EventTrace

/-- One critical section of a hub call, one step of the publisher, or a poisoning of the lock. The
`alive` argument says whether the registered session can still be terminated. -/
inductive HubAction where
  | publish (event : UiEvent) (alive : Bool)
  | subscribe (channel : ℕ) (alive : Bool)
  | spawnPublisher (started : Except String Unit) (alive : Bool)
  | setChannel (alive : Bool)
  | registerPlaybackPlayer (player : ℕ) (alive : Bool)
  | close (alive : Bool)
  | poison
  | take
  | hand
  | sendReturns (result : Except String Unit)
  | settle
  | failDelivery (alive : Bool)

namespace NativeEventHub

/-- The hub before its first call. -/
def initial : NativeEventHub where
  queue := ⟨⟨[], none, false, false, false, none, none⟩, false, false, false, 0, 0⟩
  publisher := false
  call := .idle
  thread := .absent
  trace := ⟨[], [], [], []⟩

/-- A failed critical section: the delivery ends, and the player is terminated. -/
def fail (reason : String) (inFlightSendFailed alive : Bool) (hub : NativeEventHub) :
    NativeEventHub :=
  let (queue, player) := hub.queue.failDelivery reason inFlightSendFailed alive
  { hub with
    queue
    trace := { hub.trace with terminated := hub.trace.terminated ++ player.toList } }

/-- A publication from beginning to end. -/
def publish (event : UiEvent) (alive : Bool) (hub : NativeEventHub) : NativeEventHub :=
  let (queue, result, player) := hub.queue.publish event alive
  { hub with
    queue
    trace := { hub.trace with
      published := hub.trace.published ++ [(event, result)]
      terminated := hub.trace.terminated ++ player.toList } }

/-- The first critical section of a subscription. -/
def subscribe (channel : ℕ) (alive : Bool) (hub : NativeEventHub) : NativeEventHub :=
  if hub.queue.poisoned then
    hub.fail "native event queue lock poisoned during subscription" false alive
  else if hub.queue.state.closed || hub.queue.state.channel.isSome then hub
  else { hub with call := .subscribing channel }

/-- Start the publisher thread unless there is one. -/
def spawnPublisher (channel : ℕ) (started : Except String Unit) (alive : Bool)
    (hub : NativeEventHub) : NativeEventHub :=
  if hub.publisher then { hub with call := .registering channel }
  else
    match started with
    | .ok () => { hub with publisher := true, thread := .locking, call := .registering channel }
    | .error error =>
      { hub.fail ("could not start native UI event publisher: " ++ error) false alive with
        call := .idle }

/-- The last critical section of a subscription. -/
def setChannel (channel : ℕ) (alive : Bool) (hub : NativeEventHub) : NativeEventHub :=
  if hub.queue.poisoned then
    { hub.fail "native event queue lock poisoned while subscribing" false alive with call := .idle }
  else if hub.queue.state.closed then { hub with call := .idle }
  else
    { hub with
      call := .idle
      queue := { hub.queue with state := { hub.queue.state with channel := some channel } } }

/-- Register the player to terminate when the delivery fails. A poisoned lock terminates none. -/
def registerPlaybackPlayer (player : ℕ) (alive : Bool) (hub : NativeEventHub) : NativeEventHub :=
  if hub.queue.poisoned then
    { hub with
      queue := (hub.queue.failDelivery
        "native event queue lock poisoned while registering playback" false alive).1 }
  else if hub.queue.state.closed then hub
  else
    { hub with
      queue := { hub.queue with
        state := { hub.queue.state with playbackPlayer := some player } } }

/-- Close the hub and leave the publisher thread to itself. -/
def close (alive : Bool) (hub : NativeEventHub) : NativeEventHub :=
  let (queue, player) := hub.queue.close alive
  { hub with
    queue
    publisher := false
    trace := { hub.trace with terminated := hub.trace.terminated ++ player.toList } }

/-- The publisher's critical section before a send: it ends, takes the oldest event or waits. -/
def take (poisonedReason : String) (hub : NativeEventHub) : NativeEventHub :=
  let state := hub.queue.state
  if hub.queue.poisoned then { hub with thread := .failing poisonedReason }
  else
    match state.buffered, state.channel with
    | [], _ =>
      if state.closed then
        { hub with
          thread := .finished
          queue := { hub.queue with
            publisherFinished := true
            state := { state with channel := none } } }
      else { hub with thread := .waiting }
    | event :: rest, some channel =>
      { hub with
        thread := .popped channel event
        queue := { hub.queue with
          state := { state with
            buffered := rest
            inFlight := true
            inFlightSnapshot := event.isSnapshot } } }
    | _ :: _, none => { hub with thread := .waiting }

/-- The publisher's critical section after a successful send. -/
def settle (hub : NativeEventHub) : NativeEventHub :=
  { hub with
    thread :=
      if hub.queue.poisoned then
        .failing "native event queue lock poisoned after channel delivery"
      else .locking
    queue := { hub.queue with
      state := { hub.queue.state with inFlight := false, inFlightSnapshot := false } } }

/-- The publisher ends the delivery and itself. -/
def failPublisher (reason : String) (alive : Bool) (hub : NativeEventHub) : NativeEventHub :=
  let failed := hub.fail reason true alive
  { failed with
    thread := .finished
    queue := { failed.queue with publisherFinished := true } }

/-- What an action makes of the hub, absent where it is not enabled. -/
def step (hub : NativeEventHub) : HubAction → Option NativeEventHub
  | .publish event alive => if hub.call = .idle then some (hub.publish event alive) else none
  | .subscribe channel alive => if hub.call = .idle then some (hub.subscribe channel alive) else none
  | .spawnPublisher started alive =>
    match hub.call with
    | .subscribing channel => some (hub.spawnPublisher channel started alive)
    | _ => none
  | .setChannel alive =>
    match hub.call with
    | .registering channel => some (hub.setChannel channel alive)
    | _ => none
  | .registerPlaybackPlayer player alive =>
    if hub.call = .idle then some (hub.registerPlaybackPlayer player alive) else none
  | .close alive => if hub.call = .idle then some (hub.close alive) else none
  | .poison => some { hub with queue := { hub.queue with poisoned := true } }
  | .take =>
    match hub.thread with
    | .locking => some (hub.take "native event queue lock poisoned")
    | .waiting => some (hub.take "native event queue lock poisoned while waiting")
    | _ => none
  | .hand =>
    match hub.thread with
    | .popped channel event =>
      some { hub with
        thread := .sending channel event
        trace := { hub.trace with handed := hub.trace.handed ++ [event] } }
    | _ => none
  | .sendReturns result =>
    match hub.thread, result with
    | .sending _ event, .ok () =>
      some { hub with
        thread := .sent event
        trace := { hub.trace with delivered := hub.trace.delivered ++ [event] } }
    | .sending _ event, .error reason => some { hub with thread := .sendFailed event reason }
    | _, _ => none
  | .settle =>
    match hub.thread with
    | .sent _ => some hub.settle
    | _ => none
  | .failDelivery alive =>
    match hub.thread with
    | .sendFailed _ reason => some (hub.failPublisher reason alive)
    | .failing reason => some (hub.failPublisher reason alive)
    | _ => none

/-- The hub as a machine. -/
def machine : Machine NativeEventHub HubAction := ⟨initial, step⟩

end NativeEventHub

end SkyAutoPlayer.Desktop
