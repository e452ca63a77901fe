import Mathlib.Data.List.Basic

/-!
# Speeches

Whoever tells a waiter something learns whether the waiter was still there, and
may go on in one way or in another.  A `Speech` keeps both ways: after each
utterance it has a continuation for either answer.

A speech that takes no notice of the answers is a list of utterances and a
result (`Speech.perform`).  Such speeches are closed under all that speeches
are put together with, and the lemmas that say so are simp lemmas.  That an
operation takes no notice of its waiters is then an equation: what it says step
by step, with every answer at hand, is what it says when nobody answers.
-/

namespace CompilerRelay

/-- Something is said, and what follows may depend on whether it was heard.  In
the end there is a result. -/
inductive Speech (β α : Type) where
  | done (result : α)
  | utter (said : β) (next : Bool → Speech β α)

namespace Speech

variable {α β γ : Type}

def bind : Speech β α → (α → Speech β γ) → Speech β γ
  | done result, next => next result
  | utter said answered, next => utter said fun heard => (answered heard).bind next

instance : Monad (Speech β) where
  pure := done
  bind := bind

theorem bind_done (speech : Speech β α) : speech.bind done = speech := by
  induction speech with
  | done result => rfl
  | utter said next inductionHypothesis => exact congrArg (utter said) (funext inductionHypothesis)

theorem bind_bind {δ : Type} (speech : Speech β α) (next : α → Speech β γ)
    (last : γ → Speech β δ) :
    (speech.bind next).bind last = speech.bind fun result => (next result).bind last := by
  induction speech with
  | done result => rfl
  | utter said answered inductionHypothesis =>
      exact congrArg (utter said) (funext inductionHypothesis)

instance : LawfulMonad (Speech β) :=
  LawfulMonad.mk' (Speech β) bind_done (fun _ _ => rfl) bind_bind

/-- Say one thing and learn whether it was heard.  It is up to the operation
what to make of the answer; nothing keeps it from making much of it. -/
def tell (said : β) : Speech β Bool :=
  utter said done

/-- Say several things and go on in the same way whether they are heard or not. -/
def recite : List β → Speech β α → Speech β α
  | [], next => next
  | said :: rest, next => utter said fun _ => recite rest next

/-- Say several things. -/
@[simp] def say (utterances : List β) : Speech β Unit :=
  recite utterances (pure ())

/-- Say what an operation has to say, and yield what it yields.  In such a
speech nobody can tell whether anything was heard, because all is decided before
the first word. -/
@[simp] def perform (operated : α × List β) : Speech β α :=
  recite operated.2 (pure operated.1)

def rephrase (words : β → γ) : Speech β α → Speech γ α
  | done result => done result
  | utter said next => utter (words said) fun heard => (next heard).rephrase words

/-! ## Speeches that take no notice -/

@[simp] theorem recite_nil (next : Speech β α) : recite [] next = next := rfl

@[simp] theorem recite_recite (early late : List β) (next : Speech β α) :
    recite early (recite late next) = recite (early ++ late) next := by
  induction early with
  | nil => rfl
  | cons said rest inductionHypothesis =>
      exact congrArg (utter said) (funext fun _ => inductionHypothesis)

@[simp] theorem recite_bind (utterances : List β) (speech : Speech β α)
    (next : α → Speech β γ) :
    recite utterances speech >>= next = recite utterances (speech >>= next) := by
  induction utterances with
  | nil => rfl
  | cons said rest inductionHypothesis =>
      exact congrArg (utter said) (funext fun _ => inductionHypothesis)

@[simp] theorem map_recite (change : α → γ) (utterances : List β) (speech : Speech β α) :
    change <$> recite utterances speech = recite utterances (change <$> speech) :=
  recite_bind utterances speech (pure ∘ change)

/-- Whoever throws the answer away might as well not have asked. -/
@[simp] theorem tell_bind (said : β) (next : Speech β α) :
    (tell said >>= fun _ => next) = recite [said] next := rfl

@[simp] theorem rephrase_pure (words : β → γ) (result : α) :
    (pure result : Speech β α).rephrase words = pure result := rfl

@[simp] theorem rephrase_recite (words : β → γ) (utterances : List β) (speech : Speech β α) :
    (recite utterances speech).rephrase words =
      recite (utterances.map words) (speech.rephrase words) := by
  induction utterances with
  | nil => rfl
  | cons said rest inductionHypothesis =>
      exact congrArg (utter (words said)) (funext fun _ => inductionHypothesis)

end Speech
end CompilerRelay
