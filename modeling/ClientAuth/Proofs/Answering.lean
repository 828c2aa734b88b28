import ClientAuth.Proofs.Response
import ClientAuth.Proofs.StandingChoice

/-! How attempts to answer callbacks end. Where an attempt fails, the callback is left as it was put,
and a batch goes no further. Where one succeeds, the callback carries an answer; the exception is a
prompt for a realm when there is none to give. -/

namespace ClientAuth

open MonadAttach (CanReturn)

namespace Callback

/-- What is asked, without the answer. -/
def question : Callback → Callback
  | name callback => .name { callback with name := none }
  | password callback => .password { callback with password := none }
  | credential callback => .credential { callback with credential := none }
  | realm callback => .realm { callback with text := none }
  | choice callback => .choice { callback with selected := [] }

/-- Whether there is an answer to what is asked. A credential of another kind than the one asked for
is none. -/
def isAnswered : Callback → Bool
  | name callback => callback.name.isSome
  | password callback => callback.password.isSome
  | credential callback => callback.credential.any fun credential => credential.kind = callback.kind
  | realm callback => callback.text.isSome
  | choice callback => !callback.selected.isEmpty

end Callback

theorem CredentialCallback.eq_of_answer? {callback answered : CredentialCallback}
    {credential : Credential} (h : callback.answer? credential = some answered) :
    credential.kind = callback.kind ∧ answered = { callback with credential := some credential } := by
  unfold answer? at h
  split at h
  · next hk => exact ⟨hk, (Option.some.inj h).symm⟩
  · cases h

namespace Configuration

/-- Whether the callback asks for a realm and there is none to give: none is configured, none is
suggested, and none has been given before. -/
def lacksRealm (c : Configuration) : Callback → Bool
  | .realm callback => ((callback.text.or c.realm).or callback.suggestion).isNone
  | _ => false

theorem lacksRealm_iff {c : Configuration} {callback : Callback} :
    c.lacksRealm callback = true ↔ ∃ prompt, callback = .realm prompt ∧
      (prompt.text = none ∧ c.realm = none) ∧ prompt.suggestion = none := by
  cases callback <;> simp [lacksRealm]

theorem isAnswered_of_lacksRealm {c : Configuration} {callback : Callback}
    (h : c.lacksRealm callback = true) : callback.isAnswered = false := by
  obtain ⟨prompt, rfl, ⟨ht, -⟩, -⟩ := lacksRealm_iff.mp h
  simp [Callback.isAnswered, ht]

/-- How an attempt to answer the callback can end. -/
inductive Outcome (c : Configuration) (callback : Callback) : Answered → Prop
  | failed (error : CallbackError) : Outcome c callback (callback, some error)
  | answered {answered : Callback} (hq : answered.question = callback.question)
    (ha : answered.isAnswered = true) (hr : c.lacksRealm callback = false) :
    Outcome c callback (answered, none)
  | blank (hr : c.lacksRealm callback = true) : Outcome c callback (callback, none)

variable {m : Type → Type} [Monad m] {co : Collaborators m} {c : Configuration}

theorem outcome_answerName (env : Environment) (callback : NameCallback) :
    c.Outcome (.name callback) (c.answerName env callback) := by
  unfold answerName
  split
  · exact .answered rfl rfl rfl
  · exact .failed _

theorem outcome_answerRealm (callback : RealmCallback) :
    c.Outcome (.realm callback) (.realm (c.answerRealm callback), none) := by
  unfold answerRealm
  split
  · next name ht hs =>
    refine .answered rfl rfl ?_
    simp [lacksRealm, ht, hs]
  · next hn =>
    cases ht : callback.text with
    | some text => exact .answered rfl (by simp [Callback.isAnswered, ht]) (by simp [lacksRealm, ht])
    | none =>
      cases hs : c.realm.or callback.suggestion with
      | some name => exact absurd hs (hn name ht)
      | none => exact .blank (by simp [lacksRealm, ht, hs])

/-- A standing choice that declines leaves the callback as it is. -/
theorem outcome_answerChoice (hc : c.choiceOperation.Standing) (env : Environment)
    (callback : ChoiceCallback) : c.Outcome (.choice callback) (c.answerChoice env callback) := by
  unfold answerChoice
  rcases hc.apply_cases env callback with ha | ⟨index, ha⟩
  · rw [ha]
    dsimp only
    split
    · by_cases hs : callback.selected.isEmpty
      · rw [if_pos hs]
        exact .answered rfl rfl rfl
      · rw [if_neg hs]
        exact .answered rfl (by simpa [Callback.isAnswered] using hs) rfl
    · exact .failed _
  · rw [ha]
    exact .answered rfl rfl rfl

theorem answer_of_lacksRealm {callback : Callback} (h : c.lacksRealm callback = true) :
    c.answer co callback = return (callback, none) := by
  obtain ⟨prompt, rfl, ⟨ht, hr⟩, hs⟩ := lacksRealm_iff.mp h
  simp [answer, answerRealm, ht, hr, hs]

variable [LawfulMonad m] [MonadAttach m] [LawfulMonadAttach m]

theorem outcome_answerPassword {callback : PasswordCallback} {outcome : Answered}
    (h : CanReturn (c.answerPassword co callback) outcome) :
    c.Outcome (.password callback) outcome := by
  obtain ⟨acquired, -, hr⟩ := LawfulMonadAttach.canReturn_bind_imp' h
  obtain rfl := LawfulMonadAttach.eq_of_canReturn_pure hr
  split
  · exact .answered rfl rfl rfl
  · exact .failed _
  · exact .failed _

theorem outcome_answerCredential {callback : CredentialCallback} {outcome : Answered}
    (h : CanReturn (c.answerCredential co callback) outcome) :
    c.Outcome (.credential callback) outcome := by
  obtain ⟨acquired, -, hr⟩ := LawfulMonadAttach.canReturn_bind_imp' h
  obtain rfl := LawfulMonadAttach.eq_of_canReturn_pure hr
  split
  · next acquired =>
    split
    · next answered ha =>
      obtain ⟨credential, -, hk⟩ := Option.bind_eq_some_iff.mp ha
      obtain ⟨hkind, rfl⟩ := CredentialCallback.eq_of_answer? hk
      exact .answered rfl (by simp [Callback.isAnswered, hkind]) rfl
    · exact .failed _
  · exact .failed _

theorem outcome_answer (hc : c.choiceOperation.Standing) {callback : Callback} {outcome : Answered}
    (h : CanReturn (c.answer co callback) outcome) : c.Outcome callback outcome := by
  cases callback with
  | name callback =>
    obtain rfl := LawfulMonadAttach.eq_of_canReturn_pure h
    exact outcome_answerName _ callback
  | password callback => exact outcome_answerPassword h
  | credential callback => exact outcome_answerCredential h
  | realm callback =>
    obtain rfl := LawfulMonadAttach.eq_of_canReturn_pure h
    exact outcome_answerRealm callback
  | choice callback =>
    obtain rfl := LawfulMonadAttach.eq_of_canReturn_pure h
    exact outcome_answerChoice hc _ callback

theorem attempts_outcomes {callbacks : List Callback} {outcomes : List Answered}
    (h : CanReturn (c.outcomes co callbacks) outcomes) :
    Attempts (fun callback outcome => CanReturn (c.answer co callback) outcome) callbacks
      outcomes := by
  induction callbacks generalizing outcomes with
  | nil =>
    obtain rfl := LawfulMonadAttach.eq_of_canReturn_pure h
    exact .nil
  | cons callback rest ih =>
    obtain ⟨outcome, ho, hr⟩ := LawfulMonadAttach.canReturn_bind_imp' h
    match outcome with
    | (answered, some error) =>
      obtain rfl := LawfulMonadAttach.eq_of_canReturn_pure hr
      exact .failed ho
    | (answered, none) =>
      obtain ⟨outcomes, hrest, hr⟩ := LawfulMonadAttach.canReturn_bind_imp' hr
      obtain rfl := LawfulMonadAttach.eq_of_canReturn_pure hr
      exact .next ho (ih hrest)

end Configuration

open ClientAuth.Configuration

variable {m : Type → Type} [Monad m] [LawfulMonad m] [MonadAttach m] [LawfulMonadAttach m]

/-- An attempt that fails leaves the callback as it is, whatever answer it carries already, and a
batch ends with the first such attempt. -/
theorem untouched_of_failure (co : Collaborators m) {stock : Stock} (hs : stock.Reachable)
    {c : Configuration} (hc : c ∈ stock.made) :
    (∀ callback answered error, CanReturn (c.answer co callback) (answered, some error) →
      answered = callback) ∧
    ∀ callbacks,
      c.respond co callbacks = Reply.ofOutcomes callbacks <$> c.outcomes co callbacks ∧
      ∀ outcomes, CanReturn (c.outcomes co callbacks) outcomes →
        (Reply.ofOutcomes callbacks outcomes).Reflects
          (fun callback outcome => CanReturn (c.answer co callback) outcome) callbacks outcomes := by
  have hfailed : ∀ callback answered error,
      CanReturn (c.answer co callback) (answered, some error) → answered = callback := by
    intro callback answered error h
    cases outcome_answer (hs.standing hc) h with
    | failed => rfl
  refine ⟨hfailed, fun callbacks => ⟨respond_eq_outcomes co c callbacks, ?_⟩⟩
  intro outcomes h
  exact (attempts_outcomes h).reflects hfailed

theorem untouched_of_locked_store :
    let locked := fun kind => CredentialError.unavailable kind "locked"
    let co : Collaborators Id := { (Collaborators.inert : Collaborators Id) with
      storedCredential := fun _ _ kind => .error (locked kind) }
    let run := Stock.initial.follow .base
      [.useName "alice", .useCredentialStoreEntry default "entry"]
    let password : Callback := .password ⟨"password", some ⟨"old"⟩⟩
    let batch := [.name ⟨"user", none, some "old"⟩, password, .name (.ask "user")]
    run.1.Reachable ∧ run.2 ∈ run.1.made ∧
      (∀ answered error, (run.2.answer co password).run = (answered, some error) →
        answered = password) ∧
      ∃ reply : Reply, (run.2.respond co batch).run = reply ∧
        reply.failure = some (.credential (locked .password)) ∧
        reply.callbacks = [.name ⟨"user", none, some "alice"⟩, password, .name (.ask "user")] ∧
        reply.Reflects (fun callback outcome => (run.2.answer co callback).run = outcome) batch
          (run.2.outcomes co batch).run := by
  intro locked co run password batch
  have h := Stock.reachable_initial.follow Stock.mem_base
    [.useName "alice", .useCredentialStoreEntry default "entry"]
  obtain ⟨hfailed, hbatch⟩ := untouched_of_failure co h.1 h.2.1
  obtain ⟨hreply, hreflects⟩ := hbatch batch
  refine ⟨h.1, h.2.1, hfailed password, _, congrArg Id.run hreply, ?_, ?_, hreflects _ rfl⟩
  · decide +kernel
  · decide +kernel

/-- An attempt that succeeds leaves the question as it is and answers it, except where it asks for a
realm and there is none to give. -/
theorem isAnswered_of_success (co : Collaborators m) {stock : Stock} (hs : stock.Reachable)
    {c : Configuration} (hc : c ∈ stock.made) (callback : Callback) :
    (∀ answered, CanReturn (c.answer co callback) (answered, none) →
      answered.question = callback.question ∧
        answered.isAnswered = !c.lacksRealm callback) ∧
    (c.lacksRealm callback = true → c.answer co callback = return (callback, none)) := by
  refine ⟨?_, answer_of_lacksRealm⟩
  intro answered h
  cases outcome_answer (hs.standing hc) h with
  | answered hq ha hr => exact ⟨hq, by rw [ha, hr]; rfl⟩
  | blank hr => exact ⟨rfl, by rw [hr]; exact isAnswered_of_lacksRealm hr⟩

theorem isAnswered_of_choice :
    let co : Collaborators Id := { (Collaborators.inert : Collaborators Id) with
      acceptsPrompt := fun _ _ _ => true }
    let run := Stock.initial.follow .base [.useChoice default (some "north")]
    let choice : Callback := .choice ⟨.generic, "realm", ["south", "north"], 0, []⟩
    let prompt : Callback := .realm ⟨"realm", none, none⟩
    run.1.Reachable ∧ run.2 ∈ run.1.made ∧
      (∃ answered, (run.2.answer co choice).run = (answered, none) ∧
        answered.question = choice ∧ answered.isAnswered = true) ∧
      run.2.answer co prompt = pure (prompt, none) := by
  intro co run choice prompt
  have h := Stock.reachable_initial.follow Stock.mem_base [.useChoice default (some "north")]
  have hanswer : (run.2.answer co choice).run =
      (.choice ⟨.generic, "realm", ["south", "north"], 0, [1]⟩, none) := by
    decide +kernel
  obtain ⟨hquestion, hanswered⟩ := (isAnswered_of_success co h.1 h.2.1 choice).1 _ hanswer
  refine ⟨h.1, h.2.1, ⟨_, hanswer, hquestion, hanswered⟩, ?_⟩
  exact (isAnswered_of_success co h.1 h.2.1 prompt).2 (by decide +kernel)

/-- The base has no realm to give, and yet tells of success. -/
theorem not_isAnswered_of_base :
    let co : Collaborators Id := .inert
    let prompt : Callback := .realm ⟨"realm", none, none⟩
    Stock.initial.Reachable ∧ Configuration.base ∈ Stock.initial.made ∧
      (Configuration.base.answer co prompt).run = (prompt, none) ∧ prompt.isAnswered = false :=
  ⟨Stock.reachable_initial, Stock.mem_base, rfl, rfl⟩

end ClientAuth
