import SkyAutoPlayer.Foundation.Dialogue
import SkyAutoPlayer.Foundation.ErrorState

/-!
# Procedures over an environment

A procedure is a dialogue with a state that survives its errors. Its weakest precondition under a
monitor is computed rule by rule; a part that asks only some questions and keeps a part of the
state is passed over in one step. A loop iterates a procedure until it stops.
-/

namespace SkyAutoPlayer.Foundation

variable {I : Interface} {α β γ ε σ κ : Type}

/-- A program with a state that survives its errors. -/
def Procedure (I : Interface) (ε σ α : Type) := σ → Dialogue I (EStateM.Result ε σ α)

namespace Procedure

/-- Do nothing. -/
protected def pure (value : α) : Procedure I ε σ α := fun state => .done (.ok value state)

/-- Continue after a success, stop after an error. -/
protected def bind (first : Procedure I ε σ α) (next : α → Procedure I ε σ β) :
    Procedure I ε σ β :=
  fun state => (first state).bind fun
    | .ok value after => next value after
    | .error error after => .done (.error error after)

instance : Monad (Procedure I ε σ) where
  pure := Procedure.pure
  bind := Procedure.bind

/-- Ask the environment. -/
def ask (question : I.Question) : Procedure I ε σ (I.Answer question) :=
  fun state => .ask question fun answer => .done (.ok answer state)

/-- The current state. -/
def current : Procedure I ε σ σ := fun state => .done (.ok state state)

/-- Change the state. -/
def update (change : σ → σ) : Procedure I ε σ Unit := fun state => .done (.ok () (change state))

/-- Stop with an error. -/
def fail (error : ε) : Procedure I ε σ α := fun state => .done (.error error state)

/-- Continue with the result of a stateless computation. -/
def ofExcept : Except ε α → Procedure I ε σ α
  | .ok value => .pure value
  | .error error => fail error

/-- Run a computation over a part of the state, and map its errors. -/
def zoom {ε' σ' : Type} (part : σ → σ') (put : σ → σ' → σ) (translate : ε' → ε)
    (computation : EStateM ε' σ' α) : Procedure I ε σ α :=
  fun state =>
    match computation.run (part state) with
    | .ok value after => .done (.ok value (put state after))
    | .error error after => .done (.error (translate error) (put state after))

/-- Translate the errors of a procedure. -/
def mapError {ε' : Type} (translate : ε → ε') (procedure : Procedure I ε σ α) :
    Procedure I ε' σ α :=
  fun state => (procedure state).bind fun
    | .ok value after => .done (.ok value after)
    | .error error after => .done (.error (translate error) after)

/-- Take an early result as the result. -/
def merge (procedure : Procedure I α σ α) : Procedure I ε σ α :=
  fun state => (procedure state).bind fun
    | .ok value after => .done (.ok value after)
    | .error value after => .done (.ok value after)

/-- Run a part of a procedure only under a condition. -/
def onlyIf (condition : Bool) (procedure : Procedure I ε σ Unit) : Procedure I ε σ Unit :=
  if condition then procedure else .pure ()

/-- The weakest precondition of a procedure's promises about its successes and its errors. -/
def wp (monitor : Monitor I γ) (procedure : Procedure I ε σ α) (success : α → σ → γ → Prop)
    (failure : ε → σ → γ → Prop) (state : σ) (ghost : γ) : Prop :=
  (procedure state).Safe monitor (fun ghost result =>
    match result with
    | .ok value after => success value after ghost
    | .error error after => failure error after ghost) ghost

section Rules

variable {monitor : Monitor I γ} {success : α → σ → γ → Prop} {failure : ε → σ → γ → Prop}
  {state : σ} {ghost : γ}

/-- A pure value meets the promise at once. -/
@[simp] theorem wp_pure {value : α} :
    wp monitor (pure value) success failure state ghost ↔ success value state ghost :=
  Iff.rfl

/-- A protected pure value meets the promise at once. -/
@[simp] theorem wp_done {value : α} :
    wp monitor (Procedure.pure value) success failure state ghost ↔ success value state ghost :=
  Iff.rfl

/-- A sequence promises what its second part promises after its first. -/
@[simp] theorem wp_bind {first : Procedure I ε σ β} {next : β → Procedure I ε σ α} :
    wp monitor (first >>= next) success failure state ghost ↔
      wp monitor first (fun value => wp monitor (next value) success failure) failure state
        ghost := by
  refine Dialogue.safe_bind.trans (iff_of_eq ?_)
  refine congrArg (fun post => Dialogue.Safe monitor post (first state) ghost) ?_
  funext ghost result
  cases result <;> rfl

/-- A question must be allowed, and every admitted answer must lead on. -/
@[simp] theorem wp_ask {question : I.Question} {success : I.Answer question → σ → γ → Prop} :
    wp (α := no_index (I.Answer question)) monitor (ask question) success failure state ghost ↔
      monitor.requires ghost question ∧ ∀ answer, monitor.admits ghost ⟨question, answer⟩ →
        success answer state (monitor.record ghost ⟨question, answer⟩) :=
  Iff.rfl

/-- Reading the state returns it. -/
@[simp] theorem wp_current {success : σ → σ → γ → Prop} :
    wp monitor current success failure state ghost ↔ success state state ghost :=
  Iff.rfl

/-- Changing the state continues from the changed state. -/
@[simp] theorem wp_update {change : σ → σ} {success : Unit → σ → γ → Prop} :
    wp monitor (update change) success failure state ghost ↔ success () (change state) ghost :=
  Iff.rfl

/-- An error must be promised. -/
@[simp] theorem wp_fail {error : ε} :
    wp monitor (fail error) success failure state ghost ↔ failure error state ghost :=
  Iff.rfl

/-- A branch promises what its taken side promises. -/
@[simp] theorem wp_ite {condition : Prop} [Decidable condition] {first second : Procedure I ε σ α} :
    wp monitor (if condition then first else second) success failure state ghost ↔
      (condition → wp monitor first success failure state ghost) ∧
        (¬condition → wp monitor second success failure state ghost) := by
  split <;> simp_all

/-- A conditional part promises only under its condition. -/
@[simp] theorem wp_onlyIf {condition : Bool} {procedure : Procedure I ε σ Unit}
    {success : Unit → σ → γ → Prop} :
    wp monitor (onlyIf condition procedure) success failure state ghost ↔
      (condition = true → wp monitor procedure success failure state ghost) ∧
        (condition = false → success () state ghost) := by
  cases condition <;> simp [onlyIf]

/-- A computation over a part promises for its result. -/
@[simp] theorem wp_zoom {ε' σ' : Type} {part : σ → σ'} {put : σ → σ' → σ} {translate : ε' → ε}
    {computation : EStateM ε' σ' α} :
    wp monitor (zoom part put translate computation) success failure state ghost ↔
      (∀ value after, computation.run (part state) = .ok value after →
        success value (put state after) ghost) ∧
      ∀ error after, computation.run (part state) = .error error after →
        failure (translate error) (put state after) ghost := by
  unfold wp zoom
  cases computation.run (part state) <;> simp [Dialogue.Safe]

/-- Translated errors are promised translated. -/
@[simp] theorem wp_mapError {ε' : Type} {translate : ε → ε'} {procedure : Procedure I ε σ α}
    {failure : ε' → σ → γ → Prop} :
    wp monitor (mapError translate procedure) success failure state ghost ↔
      wp monitor procedure success (fun error => failure (translate error)) state ghost := by
  refine Dialogue.safe_bind.trans (iff_of_eq ?_)
  refine congrArg (fun post => Dialogue.Safe monitor post (procedure state) ghost) ?_
  funext ghost result
  cases result <;> rfl

/-- An early result is promised like a result. -/
@[simp] theorem wp_merge {procedure : Procedure I α σ α} :
    wp monitor (merge procedure : Procedure I ε σ α) success failure state ghost ↔
      wp monitor procedure success success state ghost := by
  refine Dialogue.safe_bind.trans (iff_of_eq ?_)
  refine congrArg (fun post => Dialogue.Safe monitor post (procedure state) ghost) ?_
  funext ghost result
  cases result <;> rfl

/-- Weaker promises are kept as well. -/
theorem wp_mono {procedure : Procedure I ε σ α} {success' : α → σ → γ → Prop}
    {failure' : ε → σ → γ → Prop} (h : wp monitor procedure success failure state ghost)
    (hsuccess : ∀ value after ghost, success value after ghost → success' value after ghost)
    (hfailure : ∀ error after ghost, failure error after ghost → failure' error after ghost) :
    wp monitor procedure success' failure' state ghost := by
  refine Dialogue.Safe.mono h fun ghost result hresult => ?_
  cases result with
  | ok value after => exact hsuccess _ _ _ hresult
  | error error after => exact hfailure _ _ _ hresult

end Rules

section Within

/-- The monitor that only limits the questions. -/
def limit (allowed : I.Question → Prop) : Monitor I Unit where
  requires _ question := allowed question
  admits _ _ := True
  record ghost _ := ghost

/-- A procedure asks only allowed questions and keeps a part of the state wherever it stops. As a
class it is found for a program from its parts. -/
class Within (I : Interface) (allowed : I.Question → Prop) (kept : σ → κ)
    (procedure : Procedure I ε σ α) : Prop where
  keeps (state : σ) : wp (limit allowed) procedure (fun _ after _ => kept after = kept state)
    (fun _ after _ => kept after = kept state) state ()

/-- A property of state and ghost state that allowed questions and changes outside the kept part
leave alone. -/
structure Steady (monitor : Monitor I γ) (allowed : I.Question → Prop) (kept : σ → κ)
    (holds : σ → γ → Prop) : Prop where
  asks : ∀ ghost question, allowed question → monitor.requires ghost question
  hears : ∀ state ghost event, allowed event.question → monitor.admits ghost event →
    holds state ghost → holds state (monitor.record ghost event)
  keeps : ∀ state after ghost, kept after = kept state → holds state ghost → holds after ghost

variable {allowed : I.Question → Prop} {kept : σ → κ}

/-- A limited dialogue moves a monitor's ghost state only as its allowed questions do. -/
theorem safe_of_limit {monitor : Monitor I γ} {moved : γ → Prop} {post : γ → α → Prop}
    {holds : α → Prop} {dialogue : Dialogue I α} {ghost : γ}
    (h : dialogue.Safe (limit allowed) (fun _ result => holds result) ())
    (hasks : ∀ ghost question, allowed question → monitor.requires ghost question)
    (hhears : ∀ ghost event, allowed event.question → monitor.admits ghost event → moved ghost →
      moved (monitor.record ghost event))
    (hpost : ∀ ghost result, holds result → moved ghost → post ghost result)
    (hghost : moved ghost) : dialogue.Safe monitor post ghost := by
  induction dialogue generalizing ghost with
  | done result => exact hpost _ _ h hghost
  | ask question next ih =>
    refine ⟨hasks _ _ h.1, fun answer hadmits => ?_⟩
    exact ih answer (h.2 answer trivial) (hhears _ ⟨question, answer⟩ h.1 hadmits hghost)

/-- A limited part leaves a steady property as it was. -/
theorem Steady.wp {monitor : Monitor I γ} {holds : σ → γ → Prop}
    (steady : Steady monitor allowed kept holds) {procedure : Procedure I ε σ α}
    [within : Within I allowed kept procedure] {success : α → σ → γ → Prop}
    {failure : ε → σ → γ → Prop} {state : σ} {ghost : γ} (h : holds state ghost)
    (hsuccess : ∀ value after ghost, holds after ghost → success value after ghost)
    (hfailure : ∀ error after ghost, holds after ghost → failure error after ghost) :
    wp monitor procedure success failure state ghost := by
  have hlimit : (procedure state).Safe (limit allowed)
      (fun _ result => kept result.state = kept state) () := by
    refine Dialogue.Safe.mono (within.keeps state) fun _ result hresult => ?_
    cases result <;> exact hresult
  have hhears : ∀ ghost event, allowed event.question → monitor.admits ghost event →
      holds state ghost → holds state (monitor.record ghost event) := steady.hears state
  refine safe_of_limit hlimit steady.asks hhears (fun ghost result hresult hghost => ?_) h
  have hafter : holds result.state ghost := steady.keeps _ _ _ hresult hghost
  cases result with
  | ok value after => exact hsuccess _ _ _ hafter
  | error error after => exact hfailure _ _ _ hafter

/-- A sequence whose first part is limited promises what its second part promises. -/
theorem Steady.wp_bind {monitor : Monitor I γ} {holds : σ → γ → Prop}
    (steady : Steady monitor allowed kept holds) {first : Procedure I ε σ β}
    {next : β → Procedure I ε σ α} [Within I allowed kept first] {success : α → σ → γ → Prop}
    {failure : ε → σ → γ → Prop} {state : σ} {ghost : γ} (h : holds state ghost)
    (hfailure : ∀ error after ghost, holds after ghost → failure error after ghost)
    (hnext : ∀ value after ghost, holds after ghost →
      Procedure.wp monitor (next value) success failure after ghost) :
    Procedure.wp monitor (first >>= next) success failure state ghost :=
  Procedure.wp_bind.mpr (steady.wp h hnext hfailure)

/-- More questions and a smaller part are a wider limit. -/
theorem Within.mono {allowed' : I.Question → Prop} {κ' : Type} {kept' : σ → κ'}
    {procedure : Procedure I ε σ α} (h : Within I allowed kept procedure)
    (hallowed : ∀ question, allowed question → allowed' question)
    (hkept : ∀ state after, kept after = kept state → kept' after = kept' state) :
    Within I allowed' kept' procedure := by
  refine ⟨fun state => ?_⟩
  have hsteady : Steady (limit allowed') allowed kept fun after _ => kept after = kept state :=
    ⟨fun _ question => hallowed question, fun _ _ _ _ _ h => h, fun _ _ _ h h' => h.trans h'⟩
  exact hsteady.wp rfl (fun _ _ _ h => hkept _ _ h) fun _ _ _ h => hkept _ _ h

/-- Doing nothing stays within any limit. -/
instance within_pure (value : α) : Within I allowed kept (pure value : Procedure I ε σ α) :=
  ⟨fun _ => rfl⟩

/-- Doing nothing in the middle stays within any limit. -/
instance within_done (value : α) :
    Within I allowed kept (Procedure.pure value : Procedure I ε σ α) :=
  ⟨fun _ => rfl⟩

/-- Stopping stays within any limit. -/
instance within_fail (error : ε) : Within I allowed kept (fail error : Procedure I ε σ α) :=
  ⟨fun _ => rfl⟩

/-- Reading the state stays within any limit. -/
instance within_current : Within I allowed kept (current : Procedure I ε σ σ) :=
  ⟨fun _ => rfl⟩

/-- An allowed question stays within the limit. -/
theorem within_ask {question : I.Question} (h : allowed question) :
    Within I allowed kept (ask question : Procedure I ε σ _) :=
  ⟨fun _ => ⟨h, fun _ _ => rfl⟩⟩

/-- A change of the rest of the state stays within the limit. -/
theorem within_update {change : σ → σ} (h : ∀ state, kept (change state) = kept state) :
    Within I allowed kept (update change : Procedure I ε σ Unit) :=
  ⟨h⟩

/-- A sequence stays within the limit when both parts do. -/
theorem Within.bind {first : Procedure I ε σ α} {next : α → Procedure I ε σ β}
    (hfirst : Within I allowed kept first) (hnext : ∀ value, Within I allowed kept (next value)) :
    Within I allowed kept (first >>= next) := by
  refine ⟨fun state => Procedure.wp_bind.mpr ?_⟩
  refine wp_mono (hfirst.keeps state) (fun value middle _ hmiddle => ?_) fun _ _ _ hfailed => hfailed
  exact wp_mono ((hnext value).keeps middle) (fun _ _ _ h => h.trans hmiddle)
    fun _ _ _ h => h.trans hmiddle

/-- Sequences are found from their parts. -/
instance within_bind {first : Procedure I ε σ α} {next : α → Procedure I ε σ β}
    [hfirst : Within I allowed kept first] [hnext : ∀ value, Within I allowed kept (next value)] :
    Within I allowed kept (first >>= next) :=
  hfirst.bind hnext

/-- A branch stays within the limit when both sides do. -/
instance within_ite {condition : Prop} [Decidable condition] {first second : Procedure I ε σ α}
    [hfirst : Within I allowed kept first] [hsecond : Within I allowed kept second] :
    Within I allowed kept (if condition then first else second) := by
  split
  · exact hfirst
  · exact hsecond

/-- A conditional part stays within the limit when the part does. -/
instance within_onlyIf {condition : Bool} {procedure : Procedure I ε σ Unit}
    [h : Within I allowed kept procedure] : Within I allowed kept (onlyIf condition procedure) := by
  cases condition
  · exact within_done ()
  · exact h

/-- A stateless computation stays within any limit. -/
instance within_ofExcept (computation : Except ε α) :
    Within I allowed kept (ofExcept computation : Procedure I ε σ α) := by
  cases computation
  · exact within_fail _
  · exact within_done _

/-- Translating errors stays within the limit. -/
instance within_mapError {ε' : Type} {translate : ε → ε'} {procedure : Procedure I ε σ α}
    [h : Within I allowed kept procedure] : Within I allowed kept (mapError translate procedure) :=
  ⟨fun state => wp_mapError.mpr (h.keeps state)⟩

/-- Taking an early result stays within the limit. -/
instance within_merge {procedure : Procedure I α σ α} [h : Within I allowed kept procedure] :
    Within I allowed kept (merge procedure : Procedure I ε σ α) :=
  ⟨fun state => wp_merge.mpr (h.keeps state)⟩

end Within

section Keeps

/-- A procedure keeps a property, and stops with an error only as promised. As a class it is found
for a program from its parts. -/
class Keeps (monitor : Monitor I γ) (holds : σ → γ → Prop) (stops : ε → σ → γ → Prop)
    (procedure : Procedure I ε σ α) : Prop where
  keeps : ∀ state ghost, holds state ghost →
    wp monitor procedure (fun _ => holds) stops state ghost

variable {monitor : Monitor I γ} {holds : σ → γ → Prop} {stops : ε → σ → γ → Prop}

/-- A limited part keeps a steady property. -/
theorem Steady.keeps_of {allowed : I.Question → Prop} {kept : σ → κ}
    (steady : Steady monitor allowed kept holds) {procedure : Procedure I ε σ α}
    (within : Within I allowed kept procedure)
    (hstops : ∀ error after ghost, holds after ghost → stops error after ghost) :
    Keeps monitor holds stops procedure :=
  ⟨fun _ _ h => steady.wp h (fun _ _ _ h => h) hstops⟩

/-- Doing nothing keeps every property. -/
instance keeps_pure (value : α) :
    Keeps monitor holds stops (pure value : Procedure I ε σ α) :=
  ⟨fun _ _ h => h⟩

/-- A sequence keeps what both parts keep. -/
theorem Keeps.bind {first : Procedure I ε σ α} {next : α → Procedure I ε σ β}
    (hfirst : Keeps monitor holds stops first)
    (hnext : ∀ value, Keeps monitor holds stops (next value)) :
    Keeps monitor holds stops (first >>= next) := by
  refine ⟨fun state ghost h => wp_bind.mpr ?_⟩
  refine wp_mono (hfirst.keeps state ghost h) ?_ fun _ _ _ h => h
  exact fun value after ghost h => (hnext value).keeps after ghost h

/-- Sequences are found from their parts. -/
instance keeps_bind {first : Procedure I ε σ α} {next : α → Procedure I ε σ β}
    [hfirst : Keeps monitor holds stops first]
    [hnext : ∀ value, Keeps monitor holds stops (next value)] :
    Keeps monitor holds stops (first >>= next) :=
  hfirst.bind hnext

/-- A branch keeps what both sides keep. -/
instance keeps_ite {condition : Prop} [Decidable condition] {first second : Procedure I ε σ α}
    [hfirst : Keeps monitor holds stops first] [hsecond : Keeps monitor holds stops second] :
    Keeps monitor holds stops (if condition then first else second) := by
  split
  · exact hfirst
  · exact hsecond

/-- A conditional part keeps what the part keeps. -/
instance keeps_onlyIf {condition : Bool} {procedure : Procedure I ε σ Unit}
    [h : Keeps monitor holds stops procedure] :
    Keeps monitor holds stops (onlyIf condition procedure) := by
  cases condition
  · exact keeps_pure ()
  · exact h

end Keeps

end Procedure

/-- How an iteration of a loop ends early. -/
inductive LoopExit (ε : Type) where
  | next
  | stop (reason : ε)

/-- The state from which a loop goes on after an iteration, if it does. -/
def LoopExit.continues : EStateM.Result (LoopExit ε) σ Unit → Option σ
  | .ok _ after => some after
  | .error .next after => some after
  | .error (.stop _) _ => none

/-- An iteration after which the loop goes on keeps what it promises. -/
theorem LoopExit.holds_of_wp {monitor : Monitor I γ} {body : Procedure I (LoopExit ε) σ Unit}
    {holds : σ → γ → Prop} {state after : σ} {ghost : γ} {iteration : List (Exchange I)}
    {result : EStateM.Result (LoopExit ε) σ Unit}
    (h : Procedure.wp monitor body (fun _ => holds)
      (fun exit after ghost => exit = .next → holds after ghost) state ghost)
    (path : (body state).Path iteration result)
    (hadmits : Guarded monitor.admits monitor.record ghost iteration)
    (goesOn : LoopExit.continues result = some after) :
    holds after (iteration.foldl monitor.record ghost) := by
  have hresult := Dialogue.Safe.path h path hadmits
  cases result with
  | ok value after =>
    cases goesOn
    exact hresult
  | error exit after =>
    cases exit with
    | next =>
      cases goesOn
      exact hresult rfl
    | stop reason => cases goesOn

/-- Iterations of a loop one after the other, each meeting a condition on its start and its
exchanges, with all the exchanges in order. -/
inductive Iterations (body : Procedure I (LoopExit ε) σ Unit)
    (meets : σ → List (Exchange I) → Prop) : σ → List (Exchange I) → σ → Prop
  | start (state : σ) : Iterations body meets state [] state
  | step {start state after : σ} {events iteration : List (Exchange I)}
      {result : EStateM.Result (LoopExit ε) σ Unit}
      (before : Iterations body meets start events state) (path : (body state).Path iteration result)
      (meet : meets state iteration) (goesOn : LoopExit.continues result = some after) :
      Iterations body meets start (events ++ iteration) after

/-- What every iteration preserves holds after any number of them. -/
theorem Iterations.invariant {body : Procedure I (LoopExit ε) σ Unit}
    {meets : σ → List (Exchange I) → Prop} {admits : γ → Exchange I → Prop}
    {record : γ → Exchange I → γ} {holds : σ → γ → Prop}
    (hstep : ∀ state ghost iteration result after, holds state ghost → meets state iteration →
      (body state).Path iteration result → Guarded admits record ghost iteration →
      LoopExit.continues result = some after → holds after (iteration.foldl record ghost))
    {start state : σ} {events : List (Exchange I)} {ghost : γ}
    (run : Iterations body meets start events state) (hadmits : Guarded admits record ghost events)
    (h : holds start ghost) : holds state (events.foldl record ghost) := by
  induction run with
  | start => exact h
  | step before path meet goesOn ih =>
    obtain ⟨hbefore, hiteration⟩ := guarded_append.mp hadmits
    rw [List.foldl_append]
    exact hstep _ _ _ _ _ (ih hbefore) meet path hiteration goesOn

/-- What every iteration owes is met along any number of them. -/
theorem Iterations.obligations {body : Procedure I (LoopExit ε) σ Unit}
    {meets : σ → List (Exchange I) → Prop} {admits requires : γ → Exchange I → Prop}
    {record : γ → Exchange I → γ} {holds : σ → γ → Prop}
    (hstep : ∀ state ghost iteration result after, holds state ghost → meets state iteration →
      (body state).Path iteration result → Guarded admits record ghost iteration →
      LoopExit.continues result = some after → holds after (iteration.foldl record ghost))
    (howed : ∀ state ghost iteration, holds state ghost → meets state iteration →
      (body state).Begins iteration → Guarded admits record ghost iteration →
      Guarded requires record ghost iteration)
    {start state : σ} {events : List (Exchange I)} {ghost : γ}
    (run : Iterations body meets start events state) (hadmits : Guarded admits record ghost events)
    (h : holds start ghost) : Guarded requires record ghost events := by
  induction run with
  | start => trivial
  | step before path meet goesOn ih =>
    obtain ⟨hbefore, hiteration⟩ := guarded_append.mp hadmits
    have hstate := before.invariant hstep hbefore h
    exact guarded_append.mpr ⟨ih hbefore, howed _ _ _ hstate meet path.begins hiteration⟩

/-- Iterate a loop with a deterministic environment, as long as it goes on and passes a check. -/
def converseIterations {τ : Type} (body : Procedure I (LoopExit ε) σ Unit)
    (reply : τ → (question : I.Question) → I.Answer question × τ)
    (check : σ → List (Exchange I) → Bool) :
    ℕ → List (Exchange I) → σ → τ → Option (List (Exchange I) × σ × τ)
  | 0, events, state, environment => some (events, state, environment)
  | count + 1, events, state, environment =>
    let iteration := (body state).converse reply environment
    if check state iteration.1 then
      (LoopExit.continues iteration.2.1).bind fun after =>
        converseIterations body reply check count (events ++ iteration.1) after iteration.2.2
    else none

/-- Conversed iterations are iterations. -/
theorem Iterations.of_converse {τ : Type} {body : Procedure I (LoopExit ε) σ Unit}
    {reply : τ → (question : I.Question) → I.Answer question × τ}
    {check : σ → List (Exchange I) → Bool} {meets : σ → List (Exchange I) → Prop}
    (hcheck : ∀ state iteration, check state iteration = true → meets state iteration)
    {start : σ} {count : ℕ} {events : List (Exchange I)} {state : σ} {environment : τ}
    {run : List (Exchange I) × σ × τ} (before : Iterations body meets start events state)
    (h : converseIterations body reply check count events state environment = some run) :
    Iterations body meets start run.1 run.2.1 := by
  induction count generalizing events state environment with
  | zero =>
    cases h
    exact before
  | succ count ih =>
    rw [converseIterations] at h
    split at h
    · next hchecked =>
      obtain ⟨after, goesOn, hrest⟩ := Option.bind_eq_some_iff.mp h
      have hpath := Dialogue.path_converse reply (body state) environment
      exact ih (before.step hpath (hcheck _ _ hchecked) goesOn) hrest
    · cases h

end SkyAutoPlayer.Foundation
