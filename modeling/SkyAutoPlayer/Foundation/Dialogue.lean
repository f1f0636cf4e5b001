import SkyAutoPlayer.Foundation.Guarded

/-!
# Programs that question their environment

A worker that reads shared cells, clocks and devices is a tree: it asks a question, and its next
step depends on the answer. Every answer is possible, so a path of the tree is one behaviour of
the environment. A monitor follows a path with a ghost state; it may rely on what it admits of an
answer and owes what it requires of a question.
-/

namespace SkyAutoPlayer.Foundation

/-- What a program may ask, and the answers each question can have. -/
structure Interface where
  Question : Type
  Answer : Question → Type

/-- A question together with its answer. -/
structure Exchange (I : Interface) where
  question : I.Question
  answer : I.Answer question

/-- A program that asks questions until it is done. -/
inductive Dialogue (I : Interface) (α : Type) where
  | done (result : α)
  | ask (question : I.Question) (next : I.Answer question → Dialogue I α)

/-- A monitor's ghost state, its obligations before a question and its reliance on answers. -/
structure Monitor (I : Interface) (γ : Type) where
  requires : γ → I.Question → Prop
  admits : γ → Exchange I → Prop
  record : γ → Exchange I → γ

variable {I : Interface} {α β γ τ : Type}

namespace Dialogue

/-- Continue with the result of a dialogue. -/
def bind : Dialogue I α → (α → Dialogue I β) → Dialogue I β
  | .done result, next => next result
  | .ask question rest, next => .ask question fun answer => (rest answer).bind next

/-- The exchanges of a complete behaviour and its result. -/
inductive Path : Dialogue I α → List (Exchange I) → α → Prop
  | done (result : α) : Path (.done result) [] result
  | ask {question : I.Question} {next : I.Answer question → Dialogue I α}
      {answer : I.Answer question} {rest : List (Exchange I)} {result : α}
      (path : Path (next answer) rest result) :
      Path (.ask question next) (⟨question, answer⟩ :: rest) result

/-- The exchanges of a behaviour that may still go on. -/
inductive Begins : Dialogue I α → List (Exchange I) → Prop
  | start (dialogue : Dialogue I α) : Begins dialogue []
  | ask {question : I.Question} {next : I.Answer question → Dialogue I α}
      {answer : I.Answer question} {rest : List (Exchange I)} (begins : Begins (next answer) rest) :
      Begins (.ask question next) (⟨question, answer⟩ :: rest)

/-- Every behaviour that the monitor admits meets its obligations and ends as promised. -/
def Safe (monitor : Monitor I γ) (post : γ → α → Prop) : Dialogue I α → γ → Prop
  | .done result, ghost => post ghost result
  | .ask question next, ghost => monitor.requires ghost question ∧ ∀ answer,
      monitor.admits ghost ⟨question, answer⟩ →
        Safe monitor post (next answer) (monitor.record ghost ⟨question, answer⟩)

/-- The dialogue with a deterministic environment: its exchanges, result and final state. -/
def converse (reply : τ → (question : I.Question) → I.Answer question × τ) :
    Dialogue I α → τ → List (Exchange I) × α × τ
  | .done result, environment => ([], result, environment)
  | .ask question next, environment =>
    let (answer, environment) := reply environment question
    let (rest, result, environment) := (next answer).converse reply environment
    (⟨question, answer⟩ :: rest, result, environment)

/-- A conversation is a path. -/
theorem path_converse (reply : τ → (question : I.Question) → I.Answer question × τ)
    (dialogue : Dialogue I α) (environment : τ) :
    dialogue.Path (dialogue.converse reply environment).1
      (dialogue.converse reply environment).2.1 := by
  induction dialogue generalizing environment with
  | done result => exact .done result
  | ask question next ih => exact .ask (ih _ _)

/-- A complete path is a beginning. -/
theorem Path.begins {dialogue : Dialogue I α} {events : List (Exchange I)} {result : α}
    (path : dialogue.Path events result) : dialogue.Begins events := by
  induction path with
  | done result => exact .start _
  | ask _ ih => exact .ask ih

variable {monitor : Monitor I γ} {post post' : γ → α → Prop} {dialogue : Dialogue I α} {ghost : γ}

/-- A sequence is safe when its first part leads to a safe second part. -/
theorem safe_bind {next : α → Dialogue I β} {post : γ → β → Prop} :
    (dialogue.bind next).Safe monitor post ghost ↔
      dialogue.Safe monitor (fun ghost value => (next value).Safe monitor post ghost) ghost := by
  induction dialogue generalizing ghost with
  | done result => exact Iff.rfl
  | ask question rest ih =>
    exact and_congr_right' (forall_congr' fun answer => imp_congr_right fun _ => ih answer)

/-- A weaker promise is kept as well. -/
theorem Safe.mono (h : dialogue.Safe monitor post ghost)
    (hpost : ∀ ghost result, post ghost result → post' ghost result) :
    dialogue.Safe monitor post' ghost := by
  induction dialogue generalizing ghost with
  | done result => exact hpost _ _ h
  | ask question next ih => exact ⟨h.1, fun answer hadmits => ih answer (h.2 answer hadmits)⟩

/-- A safe dialogue keeps its promise on every admitted path. -/
theorem Safe.path {events : List (Exchange I)} {result : α}
    (h : dialogue.Safe monitor post ghost) (path : dialogue.Path events result)
    (hadmits : Guarded monitor.admits monitor.record ghost events) :
    post (events.foldl monitor.record ghost) result := by
  induction path generalizing ghost with
  | done result => exact h
  | ask _ ih => exact ih (h.2 _ hadmits.1) hadmits.2

/-- A safe dialogue meets the obligation of every question it reaches. -/
theorem Safe.begins {events : List (Exchange I)} (h : dialogue.Safe monitor post ghost)
    (begins : dialogue.Begins events)
    (hadmits : Guarded monitor.admits monitor.record ghost events) :
    Guarded (fun ghost event => monitor.requires ghost event.question) monitor.record ghost
      events := by
  induction begins generalizing ghost with
  | start => trivial
  | ask _ ih => exact ⟨h.1, ih (h.2 _ hadmits.1) hadmits.2⟩

end Dialogue

end SkyAutoPlayer.Foundation
