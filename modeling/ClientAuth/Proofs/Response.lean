import Mathlib.Data.List.Forall2
import ClientAuth.Configuration.Responder

/-! Batches of callbacks. A configuration answers a batch as it answers its callbacks, one after
the other, and the first failure ends the batch. -/

namespace ClientAuth

variable {m : Type → Type} [Monad m]

/-- Puts the rest of a batch to `handler`, unless what was put to it before has failed. -/
def Reply.goOn (reply : Reply) (handler : CallbackHandler m) (rest : List Callback) : m Reply :=
  match reply.failure with
  | some error => return ⟨reply.callbacks ++ rest, some error⟩
  | none => do
    let next ← handler rest
    return ⟨reply.callbacks ++ next.callbacks, next.failure⟩

/-- The handler answers every batch by `answer`, whatever way the batch is cut. -/
structure CallbackHandler.AnswersBy (handler : CallbackHandler m)
    (answer : Callback → m Configuration.Answered) : Prop where
  nil : handler [] = return ⟨[], none⟩
  singleton : ∀ callback, handler [callback] = do
    let (answered, failure) ← answer callback
    return ⟨[answered], failure⟩
  append : ∀ first rest,
    handler (first ++ rest) = handler first >>= fun reply => reply.goOn handler rest

theorem CallbackHandler.AnswersBy.eq {handler handler' : CallbackHandler m}
    {answer : Callback → m Configuration.Answered} (h : handler.AnswersBy answer)
    (h' : handler'.AnswersBy answer) : handler = handler' := by
  funext callbacks
  induction callbacks with
  | nil => rw [h.nil, h'.nil]
  | cons callback rest ih =>
    rw [← List.singleton_append, h.append, h'.append, h.singleton, h'.singleton]
    simp only [Reply.goOn, ih]

namespace Configuration

variable [LawfulMonad m] {co : Collaborators m} {c : Configuration}

theorem respond_singleton (callback : Callback) :
    c.respond co [callback] = do
      let (answered, failure) ← c.answer co callback
      return ⟨[answered], failure⟩ := by
  simp only [respond]
  congr 1
  funext answered
  match answered with
  | (_, some _) => rfl
  | (_, none) => simp

theorem respond_append (first rest : List Callback) :
    c.respond co (first ++ rest) =
      c.respond co first >>= fun reply => reply.goOn (c.respond co) rest := by
  induction first with
  | nil => simp [respond, Reply.goOn]
  | cons callback before ih =>
    simp only [List.cons_append, respond, bind_assoc]
    congr 1
    funext answered
    match answered with
    | (_, some _) => simp [Reply.goOn]
    | (answered, none) =>
      simp only [ih, bind_assoc, pure_bind]
      congr 1
      funext reply
      cases hf : reply.failure with
      | some error => simp [Reply.goOn, hf]
      | none => simp [Reply.goOn, hf]

/-- The answers of a configuration to batches are those to single callbacks, and no other handler has
them. -/
theorem answersBy_iff {handler : CallbackHandler m} :
    handler.AnswersBy (c.answer co) ↔ handler = c.respond co := by
  have hown : (c.respond co).AnswersBy (c.answer co) :=
    ⟨rfl, respond_singleton, respond_append⟩
  constructor
  · exact fun h => h.eq hown
  · rintro rfl
    exact hown

/-- The outcomes of a batch, in order up to the first failure. -/
def outcomes (co : Collaborators m) (c : Configuration) : List Callback → m (List Answered)
  | [] => return []
  | callback :: rest => do
    match ← c.answer co callback with
    | (answered, some error) => return [(answered, some error)]
    | (answered, none) => return (answered, none) :: (← c.outcomes co rest)

end Configuration

namespace Reply

open ClientAuth.Configuration (Answered)

/-- What becomes of a batch by the outcomes there were; callbacks that it did not get to stay. -/
def ofOutcomes (callbacks : List Callback) (outcomes : List Answered) : Reply :=
  ⟨outcomes.map Prod.fst ++ callbacks.drop outcomes.length, outcomes.findSome? Prod.snd⟩

variable {callback answered : Callback} {rest : List Callback} {outcomes : List Answered}

@[simp] theorem ofOutcomes_nil : ofOutcomes [] [] = ⟨[], none⟩ :=
  rfl

@[simp] theorem ofOutcomes_failed {error : CallbackError} :
    ofOutcomes (callback :: rest) [(answered, some error)] = ⟨answered :: rest, some error⟩ :=
  rfl

@[simp] theorem ofOutcomes_next :
    ofOutcomes (callback :: rest) ((answered, none) :: outcomes) =
      ⟨answered :: (ofOutcomes rest outcomes).callbacks, (ofOutcomes rest outcomes).failure⟩ :=
  rfl

end Reply

theorem Configuration.respond_eq_outcomes [LawfulMonad m] (co : Collaborators m) (c : Configuration)
    (callbacks : List Callback) :
    c.respond co callbacks = Reply.ofOutcomes callbacks <$> c.outcomes co callbacks := by
  induction callbacks with
  | nil => simp [respond, outcomes]
  | cons callback rest ih =>
    simp only [respond, outcomes, map_bind]
    congr 1
    funext outcome
    match outcome with
    | (_, some _) => simp
    | (_, none) => simp [ih]

/-- Outcomes of callbacks that are put in order, up to the first failure. -/
inductive Attempts (R : Callback → Configuration.Answered → Prop) :
    List Callback → List Configuration.Answered → Prop
  | nil : Attempts R [] []
  | failed {callback answered : Callback} {error : CallbackError} {rest : List Callback}
    (h : R callback (answered, some error)) :
    Attempts R (callback :: rest) [(answered, some error)]
  | next {callback answered : Callback} {rest : List Callback}
    {outcomes : List Configuration.Answered}
    (h : R callback (answered, none)) (hr : Attempts R rest outcomes) :
    Attempts R (callback :: rest) ((answered, none) :: outcomes)

/-- The reply to a batch tells of a success exactly if all its callbacks were answered, and else of
the first failure; that callback and those after it are as they were put. -/
structure Reply.Reflects (R : Callback → Configuration.Answered → Prop) (callbacks : List Callback)
    (outcomes : List Configuration.Answered) (reply : Reply) : Prop where
  succeeds_iff : reply.failure = none ↔
    List.Forall₂ (fun callback outcome => R callback outcome ∧ outcome.2 = none) callbacks outcomes
  answered : reply.failure = none → reply.callbacks = outcomes.map Prod.fst
  stopped : ∀ error, reply.failure = some error → ∃ before callback rest done,
    callbacks = before ++ callback :: rest ∧ outcomes = done ++ [(callback, some error)] ∧
      List.Forall₂ (fun callback outcome => R callback outcome ∧ outcome.2 = none) before done ∧
      R callback (callback, some error) ∧ reply.callbacks = done.map Prod.fst ++ callback :: rest

theorem Attempts.reflects {R : Callback → Configuration.Answered → Prop} {callbacks : List Callback}
    {outcomes : List Configuration.Answered} (h : Attempts R callbacks outcomes)
    (hR : ∀ callback answered error, R callback (answered, some error) → answered = callback) :
    (Reply.ofOutcomes callbacks outcomes).Reflects R callbacks outcomes := by
  induction h with
  | nil => exact ⟨by simp, by simp, by simp⟩
  | @failed callback answered error rest h =>
    obtain rfl := hR _ _ _ h
    refine ⟨by simp, by simp, ?_⟩
    intro error' he
    cases he
    exact ⟨[], answered, rest, [], rfl, rfl, .nil, h, rfl⟩
  | @next callback answered rest outcomes h hr ih =>
    refine ⟨by simp [ih.succeeds_iff, h], ?_, ?_⟩
    · intro hf
      exact congrArg (answered :: ·) (ih.answered hf)
    · intro error hf
      obtain ⟨before, stopped, after, done, rfl, rfl, hb, hs, hc⟩ := ih.stopped error hf
      exact ⟨callback :: before, stopped, after, (answered, none) :: done, rfl, rfl,
        .cons ⟨h, rfl⟩ hb, hs, congrArg (answered :: ·) hc⟩

end ClientAuth
