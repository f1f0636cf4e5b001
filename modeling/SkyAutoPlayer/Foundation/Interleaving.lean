import Mathlib.Algebra.Ring.Nat
import Mathlib.Data.List.Chain
import Mathlib.Logic.Function.Basic

/-!
# Interleaved calls over a shared state

A protocol gives every call a program of atomic steps over a shared state. A run is a list of
moves: a thread invokes an operation, or takes the next atomic step of its call. The history keeps
every shared state, and a completed call keeps the instants at which it began and ended, so
precedence between calls is an inequality of instants.

`RelyGuarantee` is the proof rule: an assertion about every call in progress that its own steps
advance and that survives whatever the other threads guarantee.
-/

namespace SkyAutoPlayer.Foundation

/-- An atomic compare-exchange: the new state and whether it succeeded. -/
def compareExchange {S : Type} [DecidableEq S] (state expected desired : S) : S × Bool :=
  if state = expected then (desired, true) else (state, false)

/-- The shared states of a run, oldest first, ending with the current one. -/
structure History (S : Type) where
  earlier : List S
  current : S

namespace History

variable {S : Type}

/-- The history of a single state. -/
def start (state : S) : History S := ⟨[], state⟩

/-- A step to a new state. -/
def push (history : History S) (state : S) : History S :=
  ⟨history.earlier ++ [history.current], state⟩

/-- All states, oldest first. -/
def states (history : History S) : List S := history.earlier ++ [history.current]

/-- The current instant. -/
def now (history : History S) : ℕ := history.earlier.length

/-- Some instant from `first` on and before `last` satisfies a property. -/
def Between (history : History S) (first last : ℕ) (P : S → Prop) : Prop :=
  ∃ instant state, first ≤ instant ∧ instant < last ∧ history.states[instant]? = some state ∧
    P state

variable {history : History S} {state : S} {P : S → Prop} {first last : ℕ}

/-- A step appends its state. -/
theorem states_push : (history.push state).states = history.states ++ [state] := rfl

/-- A step is one instant. -/
@[simp] theorem now_push : (history.push state).now = history.now + 1 := by
  simp [now, push]

/-- A step ends in its state. -/
@[simp] theorem current_push : (history.push state).current = state := rfl

/-- The states end at the current instant. -/
theorem length_states : history.states.length = history.now + 1 := by
  simp [states, now]

/-- The current state stands at the current instant. -/
theorem states_now : history.states[history.now]? = some history.current := by
  simp [states, now]

/-- A state of the past stays where it is. -/
theorem states_push_of_some {instant : ℕ} {past : S} (h : history.states[instant]? = some past) :
    (history.push state).states[instant]? = some past := by
  rw [states_push, List.getElem?_append_left (List.getElem?_eq_some_iff.mp h).1, h]

/-- A state after a step is a state before it or the new one. -/
theorem states_push_cases {instant : ℕ} {past : S}
    (h : (history.push state).states[instant]? = some past) :
    history.states[instant]? = some past ∨ instant = history.now + 1 ∧ past = state := by
  rw [states_push] at h
  rcases Nat.lt_or_ge instant history.states.length with hlt | hge
  · rw [List.getElem?_append_left hlt] at h
    exact Or.inl h
  · rw [List.getElem?_append_right hge, List.getElem?_singleton] at h
    split at h
    · rename_i hzero
      rw [length_states] at hge hzero
      exact Or.inr ⟨by omega, (Option.some.inj h).symm⟩
    · cases h

/-- The current state is one of the states. -/
theorem current_mem_states : history.current ∈ history.states :=
  List.mem_append_right _ (List.mem_singleton_self _)

/-- What holds of every state so far and of the new one holds of every state. -/
theorem forall_states_push (h : ∀ past ∈ history.states, P past) (hstate : P state) :
    ∀ past ∈ (history.push state).states, P past := by
  intro past hpast
  rw [states_push] at hpast
  rcases List.mem_append.mp hpast with hearlier | hnew
  · exact h past hearlier
  · exact List.mem_singleton.mp hnew ▸ hstate

/-- What held between two instants still did. -/
theorem Between.push (h : history.Between first last P) :
    (history.push state).Between first last P := by
  obtain ⟨instant, past, hfirst, hlast, hpast, hP⟩ := h
  exact ⟨instant, past, hfirst, hlast, states_push_of_some hpast, hP⟩

/-- What holds now holds between any earlier instant and the next one. -/
theorem between_now (hfirst : first ≤ history.now) (hP : P history.current) :
    history.Between first (history.now + 1) P :=
  ⟨history.now, history.current, hfirst, Nat.lt_succ_self _, states_now, hP⟩

/-- A chain of states extends by one related step. -/
theorem isChain_push {R : S → S → Prop} (h : history.states.IsChain R)
    (hstep : R history.current state) : (history.push state).states.IsChain R := by
  rw [states_push, states, List.append_assoc, List.singleton_append,
    List.isChain_append_cons_cons]
  exact ⟨h, hstep, List.isChain_singleton _⟩

/-- In a chain of a reflexive and transitive relation earlier states relate to later ones. -/
theorem rel_of_isChain {R : S → S → Prop} (hrefl : ∀ state, R state state)
    (htrans : ∀ a b c, R a b → R b c → R a c) (h : history.states.IsChain R)
    {first last : ℕ} {before after : S} (hle : first ≤ last)
    (hbefore : history.states[first]? = some before)
    (hafter : history.states[last]? = some after) : R before after := by
  have htransitive : IsTrans S R := ⟨htrans⟩
  have hpairwise := List.isChain_iff_pairwise.mp h
  rcases Nat.lt_or_eq_of_le hle with hlt | rfl
  · obtain ⟨hfirst, rfl⟩ := List.getElem?_eq_some_iff.mp hbefore
    obtain ⟨hlast, rfl⟩ := List.getElem?_eq_some_iff.mp hafter
    exact List.pairwise_iff_getElem.mp hpairwise first last hfirst hlast hlt
  · obtain rfl := Option.some.inj (hbefore.symm.trans hafter)
    exact hrefl before

/-- There is a state at every instant up to now. -/
theorem exists_state {instant : ℕ} (h : instant ≤ history.now) :
    ∃ past, history.states[instant]? = some past := by
  have hlength : instant < history.states.length := by
    rw [length_states]
    omega
  exact ⟨history.states[instant], List.getElem?_eq_getElem hlength⟩

/-- Every state stands at an instant up to now. -/
theorem instant_le_now {instant : ℕ} {past : S} (h : history.states[instant]? = some past) :
    instant ≤ history.now := by
  have hlength := (List.getElem?_eq_some_iff.mp h).1
  rw [length_states] at hlength
  omega

/-- A property that has come to hold has held since a last instant at which it did not. -/
theorem exists_last_change {initial past : S} (hlast : history.states[last]? = some past)
    (hP : P past) (hinitial : history.states[0]? = some initial) (hnot : ¬P initial) :
    ∃ instant before, instant < last ∧ history.states[instant]? = some before ∧ ¬P before ∧
      ∀ later next, instant < later → later ≤ last → history.states[later]? = some next →
        P next := by
  induction last generalizing past with
  | zero =>
    obtain rfl := Option.some.inj (hinitial.symm.trans hlast)
    exact absurd hP hnot
  | succ last ih =>
    obtain ⟨before, hbefore⟩ := exists_state (Nat.le_of_succ_le (instant_le_now hlast))
    by_cases hheld : P before
    · obtain ⟨instant, state, hlt, hstate, hstateNot, hafter⟩ := ih hbefore hheld
      refine ⟨instant, state, Nat.lt_succ_of_lt hlt, hstate, hstateNot, ?_⟩
      intro later next hinstant hlater hnext
      rcases Nat.lt_or_eq_of_le hlater with hearlier | rfl
      · exact hafter later next hinstant (Nat.le_of_lt_succ hearlier) hnext
      · exact Option.some.inj (hlast.symm.trans hnext) ▸ hP
    · refine ⟨last, before, Nat.lt_succ_self last, hbefore, hheld, ?_⟩
      intro later next hinstant hlater hnext
      obtain rfl : later = last + 1 := Nat.le_antisymm hlater hinstant
      exact Option.some.inj (hlast.symm.trans hnext) ▸ hP

end History

/-- The programs of the calls of a component: where each operation begins, and the atomic step at
every program point, absent while the step is blocked. A choice stands for what the step cannot
determine. -/
structure Protocol (ι Op Call Choice Result S : Type) where
  start : Op → Call
  step : ι → Choice → Call → S → Option (S × (Call ⊕ Result))

/-- A call in progress. -/
structure ActiveCall (Op Call : Type) where
  op : Op
  startedAt : ℕ
  call : Call

/-- A completed call with the instants between which it ran. -/
structure CompletedCall (ι Op Result : Type) where
  thread : ι
  op : Op
  startedAt : ℕ
  finishedAt : ℕ
  result : Result

/-- The state of a run. -/
structure Execution (ι Op Call Result S : Type) where
  history : History S
  active : ι → Option (ActiveCall Op Call)
  completed : List (CompletedCall ι Op Result)

/-- One scheduling decision. -/
inductive Move (ι Op Choice : Type) where
  | invoke (thread : ι) (op : Op)
  | advance (thread : ι) (choice : Choice)

/-- Whether a move only invokes operations of a kind. -/
def Move.Invokes {ι Op Choice : Type} (allowed : Op → Prop) : Move ι Op Choice → Prop
  | .invoke _ op => allowed op
  | .advance _ _ => True

variable {ι Op Call Choice Result S : Type} [DecidableEq ι]

namespace Execution

/-- No call has begun. -/
def initial (state : S) : Execution ι Op Call Result S := ⟨History.start state, fun _ => none, []⟩

/-- Record a thread's atomic step. -/
def record (execution : Execution ι Op Call Result S) (thread : ι) (active : ActiveCall Op Call) :
    S × (Call ⊕ Result) → Execution ι Op Call Result S
  | (state, .inl call) =>
    { execution with
      history := execution.history.push state
      active := Function.update execution.active thread (some { active with call }) }
  | (state, .inr result) =>
    { history := execution.history.push state
      active := Function.update execution.active thread none
      completed := execution.completed ++
        [⟨thread, active.op, active.startedAt, execution.history.now + 1, result⟩] }

/-- Begin a call on an idle thread. -/
def invoke (protocol : Protocol ι Op Call Choice Result S)
    (execution : Execution ι Op Call Result S) (thread : ι) (op : Op) :
    Execution ι Op Call Result S :=
  { execution with
    active := Function.update execution.active thread
      (some ⟨op, execution.history.now, protocol.start op⟩) }

end Execution

/-- At an instant a thread was running a call of an operation that it had begun before. -/
def Execution.Ran (execution : Execution ι Op Call Result S) (thread : ι) (op : Op)
    (startedAt instant : ℕ) : Prop :=
  startedAt ≤ instant ∧
    ((∃ active, execution.active thread = some active ∧ active.op = op ∧
        active.startedAt = startedAt) ∨
      ∃ call ∈ execution.completed, call.thread = thread ∧ call.op = op ∧
        call.startedAt = startedAt ∧ instant < call.finishedAt)

namespace Protocol

/-- One move of a run, absent when the thread is not free to make it. -/
def move (protocol : Protocol ι Op Call Choice Result S)
    (execution : Execution ι Op Call Result S) :
    Move ι Op Choice → Option (Execution ι Op Call Result S)
  | .invoke thread op =>
    match execution.active thread with
    | none => some (execution.invoke protocol thread op)
    | some _ => none
  | .advance thread choice =>
    match execution.active thread with
    | none => none
    | some active =>
      (protocol.step thread choice active.call execution.history.current).map
        (execution.record thread active)

/-- The execution after some moves. -/
def run (protocol : Protocol ι Op Call Choice Result S)
    (execution : Execution ι Op Call Result S) (moves : List (Move ι Op Choice)) :
    Option (Execution ι Op Call Result S) :=
  moves.foldlM protocol.move execution

variable {protocol : Protocol ι Op Call Choice Result S}
  {execution after : Execution ι Op Call Result S}

/-- An invocation starts a call on an idle thread. -/
theorem move_invoke {thread : ι} {op : Op} (h : protocol.move execution (.invoke thread op) =
    some after) : execution.active thread = none ∧ after = execution.invoke protocol thread op := by
  cases hactive : execution.active thread with
  | none =>
    simp only [move, hactive, Option.some.injEq] at h
    exact ⟨rfl, h.symm⟩
  | some active => simp [move, hactive] at h

/-- An advance is an atomic step of the thread's call. -/
theorem move_advance {thread : ι} {choice : Choice}
    (h : protocol.move execution (.advance thread choice) = some after) :
    ∃ active outcome, execution.active thread = some active ∧
      protocol.step thread choice active.call execution.history.current = some outcome ∧
      after = execution.record thread active outcome := by
  cases hactive : execution.active thread with
  | none => simp [move, hactive] at h
  | some active =>
    simp only [move, hactive, Option.map_eq_some_iff] at h
    obtain ⟨outcome, hstep, rfl⟩ := h
    exact ⟨active, outcome, rfl, hstep, rfl⟩

/-- A step extends the history by its state. -/
theorem history_record {thread : ι} {active : ActiveCall Op Call} {outcome : S × (Call ⊕ Result)} :
    (execution.record thread active outcome).history = execution.history.push outcome.1 := by
  obtain ⟨state, call | result⟩ := outcome <;> rfl

/-- What a thread was running it still was after a later call began. -/
theorem ran_invoke {thread other : ι} {op begun : Op} {startedAt instant : ℕ}
    (hidle : execution.active other = none) (h : execution.Ran thread op startedAt instant) :
    (execution.invoke protocol other begun).Ran thread op startedAt instant := by
  obtain ⟨hbegan, ⟨active, hactive, hop⟩ | hcompleted⟩ := h
  · refine ⟨hbegan, Or.inl ⟨active, ?_, hop⟩⟩
    have hother : thread ≠ other := fun hsame => by
      rw [hsame, hidle] at hactive
      cases hactive
    simp only [Execution.invoke, Function.update_of_ne hother]
    exact hactive
  · exact ⟨hbegan, Or.inr hcompleted⟩

/-- What a thread was running it still was after a later step. -/
theorem ran_record {thread other : ι} {current : ActiveCall Op Call}
    {outcome : S × (Call ⊕ Result)} {op : Op} {startedAt instant : ℕ}
    (hcurrent : execution.active other = some current) (hpast : instant ≤ execution.history.now)
    (h : execution.Ran thread op startedAt instant) :
    (execution.record other current outcome).Ran thread op startedAt instant := by
  obtain ⟨state, call | result⟩ := outcome
  · obtain ⟨hbegan, ⟨active, hactive, hop, hstarted⟩ | hcompleted⟩ := h
    · refine ⟨hbegan, Or.inl ?_⟩
      by_cases hother : thread = other
      · subst hother
        obtain rfl := Option.some.inj (hactive.symm.trans hcurrent)
        exact ⟨{ active with call }, Function.update_self .., hop, hstarted⟩
      · refine ⟨active, ?_, hop, hstarted⟩
        simp only [Execution.record, Function.update_of_ne hother]
        exact hactive
    · exact ⟨hbegan, Or.inr hcompleted⟩
  · obtain ⟨hbegan, ⟨active, hactive, hop, hstarted⟩ | ⟨done, hdone, hthread⟩⟩ := h
    · by_cases hother : thread = other
      · subst hother
        obtain rfl := Option.some.inj (hactive.symm.trans hcurrent)
        refine ⟨hbegan, Or.inr ⟨_, List.mem_append_right _ (List.mem_singleton_self _), rfl, hop,
          hstarted, Nat.lt_succ_of_le hpast⟩⟩
      · refine ⟨hbegan, Or.inl ⟨active, ?_, hop, hstarted⟩⟩
        simp only [Execution.record, Function.update_of_ne hother]
        exact hactive
    · exact ⟨hbegan, Or.inr ⟨done, List.mem_append_left _ hdone, hthread⟩⟩

/-- The thread that makes a step was running its call. -/
theorem ran_record_self {thread : ι} {active : ActiveCall Op Call} {outcome : S × (Call ⊕ Result)}
    (hbegan : active.startedAt ≤ execution.history.now) :
    (execution.record thread active outcome).Ran thread active.op active.startedAt
      execution.history.now := by
  obtain ⟨state, call | result⟩ := outcome
  · exact ⟨hbegan, Or.inl ⟨{ active with call }, Function.update_self .., rfl, rfl⟩⟩
  · exact ⟨hbegan, Or.inr ⟨_, List.mem_append_right _ (List.mem_singleton_self _), rfl, rfl, rfl,
      Nat.lt_succ_self _⟩⟩

/-- What every move preserves holds after a run. -/
theorem run_invariant {P : Execution ι Op Call Result S → Prop} {moves : List (Move ι Op Choice)}
    (hmove : ∀ before move after, move ∈ moves → P before →
      protocol.move before move = some after → P after)
    (hrun : protocol.run execution moves = some after)
    (h : P execution) : P after := by
  induction moves generalizing execution with
  | nil =>
    rw [run, List.foldlM_nil] at hrun
    obtain rfl := Option.some.inj hrun
    exact h
  | cons head rest ih =>
    rw [run, List.foldlM_cons] at hrun
    obtain ⟨middle, hfirst, hrest⟩ := Option.bind_eq_some_iff.mp hrun
    exact ih (fun before move after hmem => hmove before move after (List.mem_cons_of_mem _ hmem))
      hrest (hmove _ _ _ List.mem_cons_self h hfirst)

/-- A run starts in its initial state. -/
theorem run_starts {state : S} {moves : List (Move ι Op Choice)}
    (hrun : protocol.run (Execution.initial state) moves = some after) :
    after.history.states[0]? = some state := by
  refine run_invariant (P := fun reached => reached.history.states[0]? = some state)
    (fun before move later _ hbefore hmove => ?_) hrun rfl
  cases move with
  | invoke thread op =>
    obtain ⟨-, rfl⟩ := move_invoke hmove
    exact hbefore
  | advance thread choice =>
    obtain ⟨active, outcome, -, -, rfl⟩ := move_advance hmove
    rw [history_record]
    exact History.states_push_of_some hbefore

end Protocol

/-- Assertions about a protocol: about the history, about a call in progress, about what one step
of a thread does, and about a completed call. -/
structure Assertions (ι Op Call Result S : Type) where
  shared : History S → Prop
  active : ι → ActiveCall Op Call → History S → Prop
  guarantee : ι → History S → S → Prop
  completed : CompletedCall ι Op Result → History S → Prop

/-- What an outcome must establish for its thread. -/
def Assertions.Outcome (assertions : Assertions ι Op Call Result S) (thread : ι)
    (active : ActiveCall Op Call) (history : History S) : Call ⊕ Result → Prop
  | .inl call => assertions.active thread { active with call } history
  | .inr result =>
    assertions.completed ⟨thread, active.op, active.startedAt, history.now, result⟩ history

/-- The obligations under which the assertions hold throughout every run of allowed operations. -/
structure RelyGuarantee (protocol : Protocol ι Op Call Choice Result S) (allowed : Op → Prop)
    (assertions : Assertions ι Op Call Result S) : Prop where
  invoke : ∀ thread op history, allowed op → assertions.shared history →
    assertions.active thread ⟨op, history.now, protocol.start op⟩ history
  step : ∀ thread choice active history state outcome, assertions.shared history →
    active.startedAt ≤ history.now → assertions.active thread active history →
    protocol.step thread choice active.call history.current = some (state, outcome) →
    assertions.guarantee thread history state ∧ assertions.shared (history.push state) ∧
      assertions.Outcome thread active (history.push state) outcome
  stable : ∀ thread other active history state, thread ≠ other → assertions.shared history →
    assertions.active thread active history → assertions.guarantee other history state →
    assertions.active thread active (history.push state)
  keeps : ∀ call thread history state, assertions.shared history →
    assertions.completed call history → assertions.guarantee thread history state →
    assertions.completed call (history.push state)

/-- Two groups of assertions at once. -/
def Assertions.and (first second : Assertions ι Op Call Result S) : Assertions ι Op Call Result S where
  shared history := first.shared history ∧ second.shared history
  active thread active history :=
    first.active thread active history ∧ second.active thread active history
  guarantee thread history state :=
    first.guarantee thread history state ∧ second.guarantee thread history state
  completed call history := first.completed call history ∧ second.completed call history

/-- All assertions hold of an execution. -/
structure Assertions.Hold (assertions : Assertions ι Op Call Result S)
    (execution : Execution ι Op Call Result S) : Prop where
  shared : assertions.shared execution.history
  began : ∀ thread active, execution.active thread = some active →
    active.startedAt ≤ execution.history.now
  active : ∀ thread active, execution.active thread = some active →
    assertions.active thread active execution.history
  completed : ∀ call ∈ execution.completed, assertions.completed call execution.history

namespace RelyGuarantee

variable {protocol : Protocol ι Op Call Choice Result S} {allowed : Op → Prop}
  {assertions : Assertions ι Op Call Result S} {execution after : Execution ι Op Call Result S}

/-- One move keeps the assertions. -/
theorem move (h : RelyGuarantee protocol allowed assertions) (hold : assertions.Hold execution)
    {move : Move ι Op Choice} (hallowed : move.Invokes allowed) (hmove : protocol.move execution move = some after) :
    assertions.Hold after := by
  cases move with
  | invoke thread op =>
    obtain ⟨-, rfl⟩ := Protocol.move_invoke hmove
    have hactive : ∀ other active, (execution.invoke protocol thread op).active other =
        some active → active.startedAt ≤ execution.history.now ∧
          assertions.active other active execution.history := by
      intro other active hactive
      by_cases hother : other = thread
      · subst hother
        simp only [Execution.invoke, Function.update_self, Option.some.injEq] at hactive
        rw [← hactive]
        exact ⟨le_rfl, h.invoke other op execution.history hallowed hold.shared⟩
      · simp only [Execution.invoke, Function.update_of_ne hother] at hactive
        exact ⟨hold.began other active hactive, hold.active other active hactive⟩
    exact ⟨hold.shared, fun other active hother => (hactive other active hother).1,
      fun other active hother => (hactive other active hother).2, hold.completed⟩
  | advance thread choice =>
    obtain ⟨active, ⟨state, outcome⟩, hactive, hstep, rfl⟩ := Protocol.move_advance hmove
    have hbegan := hold.began thread active hactive
    obtain ⟨hguarantee, hshared, houtcome⟩ := h.step thread choice active execution.history state
      outcome hold.shared hbegan (hold.active thread active hactive) hstep
    -- the other threads keep their calls, and their assertions are stable
    have hothers : ∀ other, other ≠ thread → ∀ call, execution.active other = some call →
        call.startedAt ≤ (execution.history.push state).now ∧
          assertions.active other call (execution.history.push state) := by
      intro other hother call hcall
      refine ⟨?_, h.stable other thread call execution.history state hother hold.shared
        (hold.active other call hcall) hguarantee⟩
      rw [History.now_push]
      exact Nat.le_succ_of_le (hold.began other call hcall)
    have hkeeps : ∀ call ∈ execution.completed,
        assertions.completed call (execution.history.push state) :=
      fun call hcall => h.keeps call thread execution.history state hold.shared
        (hold.completed call hcall) hguarantee
    have hnow : (execution.history.push state).now = execution.history.now + 1 :=
      History.now_push
    cases outcome with
    | inl call =>
      have hcalls : ∀ other current,
          (execution.record thread active (state, .inl call)).active other = some current →
          current.startedAt ≤ (execution.history.push state).now ∧
            assertions.active other current (execution.history.push state) := by
        intro other current hcurrent
        by_cases hother : other = thread
        · subst hother
          simp only [Execution.record, Function.update_self, Option.some.injEq] at hcurrent
          rw [← hcurrent]
          exact ⟨hnow ▸ Nat.le_succ_of_le hbegan, houtcome⟩
        · simp only [Execution.record, Function.update_of_ne hother] at hcurrent
          exact hothers other hother current hcurrent
      exact ⟨hshared, fun other current hcurrent => (hcalls other current hcurrent).1,
        fun other current hcurrent => (hcalls other current hcurrent).2, hkeeps⟩
    | inr result =>
      have hcalls : ∀ other current,
          (execution.record thread active (state, .inr result)).active other = some current →
          current.startedAt ≤ (execution.history.push state).now ∧
            assertions.active other current (execution.history.push state) := by
        intro other current hcurrent
        by_cases hother : other = thread
        · subst hother
          simp [Execution.record] at hcurrent
        · simp only [Execution.record, Function.update_of_ne hother] at hcurrent
          exact hothers other hother current hcurrent
      refine ⟨hshared, fun other current hcurrent => (hcalls other current hcurrent).1,
        fun other current hcurrent => (hcalls other current hcurrent).2, fun call hcall => ?_⟩
      rcases List.mem_append.mp hcall with hmem | hmem
      · exact hkeeps call hmem
      · rw [List.mem_singleton.mp hmem, ← hnow]
        exact houtcome

omit [DecidableEq ι] in
/-- Further assertions may be proved on top of those that hold already. -/
theorem and {further : Assertions ι Op Call Result S}
    (h : RelyGuarantee protocol allowed assertions)
    (hinvoke : ∀ thread op history, allowed op → (assertions.and further).shared history →
      further.active thread ⟨op, history.now, protocol.start op⟩ history)
    (hstep : ∀ thread choice active history state outcome,
      (assertions.and further).shared history → active.startedAt ≤ history.now →
      (assertions.and further).active thread active history →
      protocol.step thread choice active.call history.current = some (state, outcome) →
      further.guarantee thread history state ∧ further.shared (history.push state) ∧
        further.Outcome thread active (history.push state) outcome)
    (hstable : ∀ thread other active history state, thread ≠ other →
      (assertions.and further).shared history →
      (assertions.and further).active thread active history →
      (assertions.and further).guarantee other history state →
      further.active thread active (history.push state))
    (hkeeps : ∀ call thread history state, (assertions.and further).shared history →
      (assertions.and further).completed call history →
      (assertions.and further).guarantee thread history state →
      further.completed call (history.push state)) :
    RelyGuarantee protocol allowed (assertions.and further) where
  invoke thread op history hop hshared :=
    ⟨h.invoke thread op history hop hshared.1, hinvoke thread op history hop hshared⟩
  step thread choice active history state outcome hshared hbegan hactive hmade := by
    have hfirst := h.step thread choice active history state outcome hshared.1 hbegan hactive.1 hmade
    have hsecond := hstep thread choice active history state outcome hshared hbegan hactive hmade
    refine ⟨⟨hfirst.1, hsecond.1⟩, ⟨hfirst.2.1, hsecond.2.1⟩, ?_⟩
    cases outcome with
    | inl call => exact ⟨hfirst.2.2, hsecond.2.2⟩
    | inr result => exact ⟨hfirst.2.2, hsecond.2.2⟩
  stable thread other active history state hother hshared hactive hguarantee :=
    ⟨h.stable thread other active history state hother hshared.1 hactive.1 hguarantee.1,
      hstable thread other active history state hother hshared hactive hguarantee⟩
  keeps call thread history state hshared hcompleted hguarantee :=
    ⟨h.keeps call thread history state hshared.1 hcompleted.1 hguarantee.1,
      hkeeps call thread history state hshared hcompleted hguarantee⟩

/-- The assertions hold throughout every run. -/
theorem run (h : RelyGuarantee protocol allowed assertions) {state : S}
    (hstart : assertions.shared (History.start state)) {moves : List (Move ι Op Choice)}
    (hallowed : ∀ move ∈ moves, move.Invokes allowed)
    (hrun : protocol.run (Execution.initial state) moves = some after) :
    assertions.Hold after := by
  refine Protocol.run_invariant (fun _ _ _ hmem hold hmove =>
    h.move hold (hallowed _ hmem) hmove) hrun ?_
  exact ⟨hstart, nofun, nofun, nofun⟩

/-- Every step of a run was made by a thread that was running a call, and shows what the step of
that call establishes. -/
theorem provenance (h : RelyGuarantee protocol allowed assertions)
    {R : ι → ActiveCall Op Call → S → S → Prop}
    (hshows : ∀ thread choice active history state outcome, assertions.shared history →
      active.startedAt ≤ history.now → assertions.active thread active history →
      protocol.step thread choice active.call history.current = some (state, outcome) →
      R thread active history.current state)
    {state : S} (hstart : assertions.shared (History.start state))
    {moves : List (Move ι Op Choice)} (hallowed : ∀ move ∈ moves, move.Invokes allowed)
    (hrun : protocol.run (Execution.initial state) moves = some after) :
    ∀ instant before next, after.history.states[instant]? = some before →
      after.history.states[instant + 1]? = some next →
      ∃ thread active, after.Ran thread active.op active.startedAt instant ∧
        R thread active before next := by
  refine (Protocol.run_invariant (P := fun reached => assertions.Hold reached ∧
    ∀ instant before next, reached.history.states[instant]? = some before →
      reached.history.states[instant + 1]? = some next →
      ∃ thread active, reached.Ran thread active.op active.startedAt instant ∧
        R thread active before next)
    (fun reached move later hmem hreached hmove => ?_) hrun ?_).2
  · obtain ⟨hold, hsteps⟩ := hreached
    refine ⟨h.move hold (hallowed move hmem) hmove, fun instant before next hbefore hnext => ?_⟩
    cases move with
    | invoke thread op =>
      obtain ⟨hidle, rfl⟩ := Protocol.move_invoke hmove
      obtain ⟨runner, active, hran, hshow⟩ := hsteps instant before next hbefore hnext
      exact ⟨runner, active, Protocol.ran_invoke hidle hran, hshow⟩
    | advance thread choice =>
      obtain ⟨active, ⟨made, outcome⟩, hactive, hstep, rfl⟩ := Protocol.move_advance hmove
      rw [Protocol.history_record] at hbefore hnext
      rcases History.states_push_cases hnext with hearlier | ⟨hnow, rfl⟩
      · have hpast := History.instant_le_now hearlier
        rcases History.states_push_cases hbefore with hstate | ⟨hlate, -⟩
        · obtain ⟨runner, call, hran, hshow⟩ := hsteps instant before next hstate hearlier
          exact ⟨runner, call, Protocol.ran_record hactive (Nat.le_of_succ_le hpast) hran, hshow⟩
        · omega
      · obtain rfl : instant = reached.history.now := Nat.succ.inj hnow
        rcases History.states_push_cases hbefore with hstate | ⟨hlate, -⟩
        · obtain rfl := Option.some.inj (History.states_now.symm.trans hstate)
          exact ⟨thread, active, Protocol.ran_record_self (hold.began thread active hactive),
            hshows thread choice active reached.history next outcome hold.shared
              (hold.began thread active hactive) (hold.active thread active hactive) hstep⟩
        · omega
  · refine ⟨⟨hstart, nofun, nofun, nofun⟩, fun instant before next hbefore hnext => ?_⟩
    have hnow := History.instant_le_now hnext
    exact absurd hnow (Nat.not_succ_le_zero instant)

end RelyGuarantee

end SkyAutoPlayer.Foundation
