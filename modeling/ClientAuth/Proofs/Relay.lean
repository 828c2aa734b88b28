import ClientAuth.Proofs.Answering
import ClientAuth.Proofs.Lawful
import ClientAuth.Proofs.Reachability

/-! Configurations that ask one another for credentials. What is asked of the last one is answered by
the first, through as many as there are between them. The error of a callback becomes one of a
credential at each of them and then one of a callback again, so that none of it shows at the end. -/

namespace ClientAuth

variable {m : Type → Type} [Monad m] {α β : Type}

/-- The computation ends with this answer each time, whatever it does besides. -/
def Yields (action : m α) (a : α) : Prop :=
  (do let _ ← action; return a) = action

namespace Yields

variable [LawfulMonad m] {action : m α} {a : α} {b : β}

theorem pure (a : α) : Yields (Pure.pure a : m α) a :=
  pure_bind _ _

theorem bind_eq (h : Yields action a) (next : α → m β) :
    action >>= next = action >>= fun _ => next a := by
  calc
    action >>= next = (action >>= fun _ => Pure.pure a) >>= next := congrArg (· >>= next) h.symm
    _ = action >>= fun _ => next a := by simp only [bind_assoc, pure_bind]

theorem bind (h : Yields action a) {next : α → m β} (h' : Yields (next a) b) :
    Yields (action >>= next) b := by
  calc
    (action >>= next) >>= (fun _ => Pure.pure b)
      = action >>= fun _ => next a >>= fun _ => Pure.pure b := by rw [bind_assoc, h.bind_eq]
    _ = action >>= fun _ => next a := congrArg (action >>= ·) (funext fun _ => h')
    _ = action >>= next := (h.bind_eq next).symm

theorem map (h : Yields action a) (f : α → β) :
    Yields (do return f (← action)) (f a) :=
  h.bind (pure _)

end Yields

/-- Stores and handlers that answer the same way each time. -/
structure Collaborators.Steady (co : Collaborators m) : Prop where
  handler : ∀ handler callbacks, ∃ reply, Yields (co.handler handler callbacks) reply
  keyStoreEntry : ∀ store entry protection,
    ∃ acquired, Yields (co.keyStoreEntry store entry protection) acquired
  storedCredential : ∀ store entry kind,
    ∃ acquired, Yields (co.storedCredential store entry kind) acquired

namespace CallbackHandler

variable [LawfulMonad m] {handler : CallbackHandler m}

theorem yields_askOne {callback : Callback} {reply : Reply} (h : Yields (handler [callback]) reply)
    (answer : Callback → Option Credential) :
    Yields (handler.askOne callback answer) (match reply.failure, reply.callbacks with
      | none, [answered] => .ok (answer answered)
      | none, _ => .ok none
      | some (.unsupported _), _ => .ok none
      | some error, _ => .error (.callback error)) :=
  h.map _

/-- What comes of asking for a credential and then, where that got nothing, for a password. -/
def inTurn (kind : CredentialKind) (first second : Acquired) : Acquired :=
  match first with
  | .ok none => if kind = .password then second else .ok none
  | acquired => acquired

theorem inTurn_self (kind : CredentialKind) (acquired : Acquired) :
    inTurn kind acquired acquired = acquired := by
  match acquired with
  | .ok none => exact ite_self _
  | .ok (some _) => rfl
  | .error _ => rfl

theorem yields_ask {kind : CredentialKind} {first second : Acquired}
    (hf : Yields (handler.askOne (.credential (.ask kind)) givenCredential) first)
    (hs : kind = .password →
      Yields (handler.askOne (.password (.ask "Password: ")) givenPassword) second) :
    Yields (handler.ask kind) (inTurn kind first second) := by
  refine hf.bind ?_
  match first with
  | .ok none =>
    by_cases hk : kind = .password
    · simpa only [inTurn, if_pos hk] using hs hk
    · simpa only [inTurn, if_neg hk] using Yields.pure _
  | .ok (some credential) => exact .pure _
  | .error error => exact .pure _

end CallbackHandler

section Steady

variable [LawfulMonad m] {co : Collaborators m} {kind : CredentialKind}

theorem CredentialSource.exists_yields_acquire (hco : co.Steady) (kind : CredentialKind)
    (source : CredentialSource) : ∃ acquired, Yields (source.acquire co kind) acquired := by
  induction source with
  | held credentials => exact ⟨_, .pure _⟩
  | keyStore store entry protection =>
    obtain ⟨acquired, h⟩ := hco.keyStoreEntry store entry protection
    exact ⟨_, h.map _⟩
  | credentialStore store entry => exact hco.storedCredential store entry kind
  | callback handler =>
    obtain ⟨reply, hf⟩ := hco.handler handler [.credential (.ask kind)]
    obtain ⟨reply', hs⟩ := hco.handler handler [.password (.ask "Password: ")]
    exact ⟨_, CallbackHandler.yields_ask (CallbackHandler.yields_askOne hf _)
      fun _ => CallbackHandler.yields_askOne hs _⟩
  | layered first second ihf ihs =>
    obtain ⟨acquired, hf⟩ := ihf
    match acquired with
    | .ok Option.none =>
      obtain ⟨acquired, hs⟩ := ihs
      exact ⟨acquired, hf.bind hs⟩
    | .ok (some credential) => exact ⟨_, hf.bind (.pure _)⟩
    | .error error => exact ⟨_, hf.bind (.pure _)⟩
  | masked inner hidden ih =>
    by_cases hh : hidden = kind
    · exact ⟨.ok Option.none, by rw [acquire, if_pos hh]; exact .pure _⟩
    · rw [acquire, if_neg hh]
      exact ih

end Steady

/-- The kind of the credential that is asked for, if one is. -/
def Callback.wanted? : Callback → Option CredentialKind
  | password _ => some .password
  | credential callback => some callback.kind
  | _ => none

/-- The callback with the credential for an answer, if that is one. -/
def Callback.give? : Callback → Credential → Option Callback
  | password callback, .password given => some (.password (callback.answer given))
  | credential callback, given => (callback.answer? given).map .credential
  | _, _ => none

/-- An answer is any credential of the kind asked for. -/
theorem Callback.give?_eq_none_iff {callback : Callback} {kind : CredentialKind}
    (hw : callback.wanted? = some kind) {given : Credential} :
    callback.give? given = none ↔ given.kind ≠ kind := by
  cases callback with
  | password callback =>
    cases hw
    cases given <;> simp [give?, Credential.kind]
  | credential callback =>
    cases hw
    simp [give?, CredentialCallback.answer?]
  | _ => cases hw

namespace Configuration

/-- What becomes of a callback that asks for a credential, by what there is of the kind. -/
def outcomeOf (callback : Callback) : Except CallbackError (Option Credential) → Answered
  | .ok acquired =>
    match acquired.bind callback.give? with
    | some answered => (answered, none)
    | none => refused callback
  | .error error => (callback, some error)

/-- What a configuration acquires by asking another one that itself acquires this. -/
def relayed (kind : CredentialKind) :
    Except CallbackError (Option Credential) → Except CallbackError (Option Credential)
  | .ok none => .ok none
  | .ok (some given) => .ok (if given.kind = kind then some given else none)
  | .error (.unsupported _) => .ok none
  | .error error => .error error

theorem relayed_relayed (kind : CredentialKind)
    (acquired : Except CallbackError (Option Credential)) :
    relayed kind (relayed kind acquired) = relayed kind acquired := by
  match acquired with
  | .ok none => rfl
  | .ok (some given) => by_cases hk : given.kind = kind <;> simp [relayed, hk]
  | .error (.unsupported _) => rfl
  | .error (.failed _) => rfl
  | .error (.credential _) => rfl

section Answers

variable {co : Collaborators m} {c : Configuration} {callback : Callback} {kind : CredentialKind}

theorem answer_of_wanted (hw : callback.wanted? = some kind) :
    c.answer co callback = do return outcomeOf callback (← c.acquire co kind) := by
  cases callback with
  | password callback =>
    cases hw
    show c.answerPassword co callback = _
    unfold answerPassword
    congr 1
    funext acquired
    match acquired with
    | .ok none => rfl
    | .ok (some (.password _)) => rfl
    | .ok (some (.bearerToken _)) => rfl
    | .ok (some (.certificateChain _)) => rfl
    | .ok (some (.gssKerberos _)) => rfl
    | .error _ => rfl
  | credential callback =>
    cases hw
    show c.answerCredential co callback = _
    unfold answerCredential
    congr 1
    funext acquired
    match acquired with
    | .ok none => rfl
    | .ok (some given) =>
      cases hg : callback.answer? given <;> simp [outcomeOf, Callback.give?, hg]
    | .error _ => rfl
  | _ => cases hw

/-- Where there is nothing to give, the outcome is the same as for a credential of another kind. -/
theorem outcomeOf_relayed (hw : callback.wanted? = some kind)
    {acquired : Except CallbackError (Option Credential)}
    (hn : ∀ unknown, acquired ≠ .error (.unsupported unknown)) :
    outcomeOf callback (relayed kind acquired) = outcomeOf callback acquired := by
  match acquired with
  | .ok none => rfl
  | .ok (some given) =>
    by_cases hk : given.kind = kind
    · rw [relayed, if_pos hk]
    · rw [relayed, if_neg hk]
      simp only [outcomeOf, Option.bind_some, (Callback.give?_eq_none_iff hw).mpr hk,
        Option.bind_none]
  | .error (.unsupported unknown) => exact absurd rfl (hn unknown)
  | .error (.failed _) => rfl
  | .error (.credential _) => rfl

theorem eq_refused_of_unsupported {acquired : Except CallbackError (Option Credential)}
    (hn : ∀ unknown, acquired ≠ .error (.unsupported unknown)) {unknown : CallbackKind}
    (h : (outcomeOf callback acquired).2 = some (.unsupported unknown)) :
    outcomeOf callback acquired = refused callback := by
  cases acquired with
  | ok acquired =>
    simp only [outcomeOf] at h ⊢
    cases hg : acquired.bind callback.give? with
    | none => simp only
    | some answered => simp [hg] at h
  | error error => exact absurd (congrArg Except.error (Option.some.inj h)) (hn unknown)

end Answers

theorem givenCredential_of_give? {callback : CredentialCallback} {given : Credential}
    {answered : Callback} (h : (Callback.credential callback).give? given = some answered) :
    CallbackHandler.givenCredential answered = some given := by
  obtain ⟨answered, ha, rfl⟩ := Option.map_eq_some_iff.mp h
  rw [(CredentialCallback.eq_of_answer? ha).2]
  rfl

theorem givenPassword_of_give? {callback : PasswordCallback} {given : Credential}
    {answered : Callback} (h : (Callback.password callback).give? given = some answered) :
    CallbackHandler.givenPassword answered = some given := by
  cases given <;> cases h
  rfl

section Relay

variable [LawfulMonad m] {co : Collaborators m} {c : Configuration} {callback : Callback}
  {kind : CredentialKind} {acquired : Except CallbackError (Option Credential)}

theorem yields_answer (hw : callback.wanted? = some kind) (h : Yields (c.acquire co kind) acquired) :
    Yields (c.answer co callback) (outcomeOf callback acquired) := by
  rw [answer_of_wanted hw]
  exact h.map _

theorem respond_congr {co' : Collaborators m} (he : co.toEnvironment = co'.toEnvironment)
    (ha : c.acquire co = c.acquire co') : c.respond co = c.respond co' := by
  have hanswer : c.answer co = c.answer co' := by
    funext callback
    cases callback with
    | password callback => rw [answer_of_wanted rfl, answer_of_wanted rfl, ha]
    | credential callback => rw [answer_of_wanted rfl, answer_of_wanted rfl, ha]
    | _ => simp only [answer, he]
  exact answersBy_iff.mp (hanswer ▸ answersBy_iff.mpr rfl)

/-- A configuration that is asked for a credential gives it, or tells why it failed; that it has
none is no failure to the one that asks. -/
theorem yields_askOne_respond (hw : callback.wanted? = some kind)
    {read : Callback → Option Credential}
    (hr : ∀ given answered, callback.give? given = some answered → read answered = some given)
    (h : Yields (c.acquire co kind) acquired) :
    Yields (CallbackHandler.askOne (c.respond co) callback read)
      ((relayed kind acquired).mapError .callback) := by
  have hreply : Yields (c.respond co [callback])
      ⟨[(outcomeOf callback acquired).1], (outcomeOf callback acquired).2⟩ := by
    rw [respond_singleton]
    exact (yields_answer hw h).map _
  have hone := CallbackHandler.yields_askOne hreply read
  match acquired with
  | .ok none => exact hone
  | .ok (some given) =>
    cases hg : callback.give? given with
    | none =>
      rw [relayed, if_neg ((Callback.give?_eq_none_iff hw).mp hg)]
      simpa only [outcomeOf, Option.bind_some, hg, refused, Except.mapError] using hone
    | some answered =>
      have hk : given.kind = kind := by
        by_contra hne
        rw [(Callback.give?_eq_none_iff hw).mpr hne] at hg
        cases hg
      rw [relayed, if_pos hk]
      simpa only [outcomeOf, Option.bind_some, hg, hr given answered hg, Except.mapError] using hone
  | .error (.unsupported _) => exact hone
  | .error (.failed _) => exact hone
  | .error (.credential _) => exact hone

theorem yields_ask_respond (h : Yields (c.acquire co kind) acquired) :
    Yields (CallbackHandler.ask (c.respond co) kind)
      ((relayed kind acquired).mapError .callback) := by
  have hfirst : Yields (CallbackHandler.askOne (c.respond co) (.credential (.ask kind))
      CallbackHandler.givenCredential) ((relayed kind acquired).mapError .callback) :=
    yields_askOne_respond rfl (fun _ _ => givenCredential_of_give?) h
  -- a prompt for a password is answered out of the same credential, so asking again changes nothing
  have hsecond : kind = .password →
      Yields (CallbackHandler.askOne (c.respond co) (.password (.ask "Password: "))
        CallbackHandler.givenPassword) ((relayed kind acquired).mapError .callback) := by
    rintro rfl
    exact yields_askOne_respond rfl (fun _ _ => givenPassword_of_give?) h
  have hask := CallbackHandler.yields_ask hfirst hsecond
  rwa [CallbackHandler.inTurn_self] at hask

theorem credentialSource_useCredentialHandler (handler : Ref .callbackHandler) (next : Nat)
    (env : Environment) :
    ((base.useCredentialHandler handler).run next).1.credentialSource env = .callback handler := by
  rw [credentialSource, useCredentialHandler, Derivation.useCredentials_eq_editAll,
    settings_editAll lawful_base.settled]
  rfl

/-- To the one that asks, an error is what it was to the one that is asked. -/
theorem yields_acquire_relayed {handler : Ref .callbackHandler}
    (hh : co.handler handler = c.respond co) (h : Yields (c.acquire co kind) acquired) (next : Nat) :
    Yields (((base.useCredentialHandler handler).run next).1.acquire co kind)
      (relayed kind acquired) := by
  have hask := yields_ask_respond h
  rw [← hh] at hask
  have herror : ((relayed kind acquired).mapError CredentialError.callback).mapError
      CredentialError.asCallbackError = relayed kind acquired := by
    cases relayed kind acquired <;> rfl
  unfold acquire
  rw [credentialSource_useCredentialHandler, ← herror]
  exact hask.map _

end Relay

/-- There are `n` configurations up to `c`, each of which asks the one before it and the first of
which asks `origin`. -/
inductive Chained (co : Collaborators m) (origin : Configuration) : Nat → Configuration → Prop
  | origin : Chained co origin 0 origin
  | asking {n : Nat} {c : Configuration} (h : Chained co origin n c)
    {handler : Ref .callbackHandler} (hh : co.handler handler = c.respond co) (next : Nat) :
    Chained co origin (n + 1) ((base.useCredentialHandler handler).run next).1

/-- What the last of `n` more configurations makes of a callback, the first making this of it. -/
structure PassedOn (n : Nat) (callback : Callback) (first last : Answered) : Prop where
  answered : first.2 = none → last = first
  failed : ∀ error, first.2 = some error → (∀ kind, error ≠ .unsupported kind) → last = first
  unsupported : 1 ≤ n → ∀ kind, first.2 = some (.unsupported kind) →
    last = (callback, some (.unsupported callback.kind))

section Chain

variable [LawfulMonad m] {co : Collaborators m} {origin c : Configuration} {n : Nat}
  {callback : Callback} {kind : CredentialKind}
  {acquired : Except CallbackError (Option Credential)}

theorem Chained.yields_acquire (h : Chained co origin n c)
    (ho : Yields (origin.acquire co kind) acquired) :
    Yields (c.acquire co kind) (if n = 0 then acquired else relayed kind acquired) := by
  induction h with
  | origin => exact ho
  | @asking n c h handler hh next ih =>
    have hstep := yields_acquire_relayed hh ih next
    rw [if_neg (Nat.succ_ne_zero n)]
    -- relaying what has been relayed before changes nothing, so that `n` shows only by being zero
    by_cases hn : n = 0
    · rwa [if_pos hn] at hstep
    · rwa [if_neg hn, relayed_relayed] at hstep

theorem passedOn_outcomeOf (hw : callback.wanted? = some kind)
    (acquired : Except CallbackError (Option Credential)) :
    PassedOn n callback (outcomeOf callback acquired)
      (outcomeOf callback (if n = 0 then acquired else relayed kind acquired)) := by
  by_cases hn : n = 0
  · rw [if_pos hn]
    exact ⟨fun _ => rfl, fun _ _ _ => rfl, fun hle => absurd hle (by omega)⟩
  · rw [if_neg hn]
    by_cases hu : ∃ unknown, acquired = .error (.unsupported unknown)
    · obtain ⟨unknown, rfl⟩ := hu
      refine ⟨by simp [outcomeOf], ?_, fun _ _ _ => rfl⟩
      exact fun error he hne => absurd (Option.some.inj he).symm (hne unknown)
    · have hne : ∀ unknown, acquired ≠ .error (.unsupported unknown) := fun unknown he =>
        hu ⟨unknown, he⟩
      rw [outcomeOf_relayed hw hne]
      exact ⟨fun _ => rfl, fun _ _ _ => rfl, fun _ _ h => eq_refused_of_unsupported hne h⟩

end Chain

end Configuration

open ClientAuth.Configuration

/-- A callback that asks for a credential is answered by the last of many configurations that ask one
another as it is by the first. An error passes through unchanged, but where the first has no answer
the last tells of the callback that it was itself asked. -/
theorem passedOn_of_chained [LawfulMonad m] {co : Collaborators m} (hco : co.Steady)
    {origin c : Configuration} {n : Nat} (h : Chained co origin n c) {callback : Callback}
    (hw : callback.wanted?.isSome = true) :
    ∃ first last, Yields (origin.answer co callback) first ∧ Yields (c.answer co callback) last ∧
      PassedOn n callback first last := by
  obtain ⟨kind, hw⟩ := Option.isSome_iff_exists.mp hw
  obtain ⟨acquired, ha⟩ :=
    (origin.credentialSource co.toEnvironment).exists_yields_acquire hco kind
  have ho : Yields (origin.acquire co kind) (acquired.mapError CredentialError.asCallbackError) :=
    ha.map _
  exact ⟨_, _, yields_answer hw ho, yields_answer hw (h.yields_acquire ho), passedOn_outcomeOf hw _⟩

theorem passedOn_of_locked_store :
    let locked := fun kind => CredentialError.unavailable kind "locked"
    let stores : Collaborators Id := { (Collaborators.inert : Collaborators Id) with
      storedCredential := fun _ _ kind => .error (locked kind) }
    let origin := (Stock.initial.follow .base [.useCredentialStoreEntry default "entry"]).2
    let middle := ((base.useCredentialHandler ⟨⟨0⟩⟩).run 0).1
    let last := ((base.useCredentialHandler ⟨⟨1⟩⟩).run 0).1
    let below : Collaborators Id := { stores with handler := fun _ => origin.respond stores }
    let co : Collaborators Id := { stores with handler := fun handler =>
      if handler = ⟨⟨0⟩⟩ then (origin.respond stores) else (middle.respond below) }
    let prompt : Callback := .password (.ask "Password: ")
    co.Steady ∧ Chained co origin 2 last ∧ prompt.wanted?.isSome = true ∧
      (last.answer co prompt).run = (prompt, some (.credential (locked .password))) := by
  intro locked stores origin middle last below co prompt
  have hco : co.Steady := ⟨fun _ _ => ⟨_, rfl⟩, fun _ _ _ => ⟨_, rfl⟩, fun _ _ _ => ⟨_, rfl⟩⟩
  have hsource : origin.credentialSource stores.toEnvironment = .credentialStore default "entry" := by
    decide +kernel
  have horigin : origin.respond stores = origin.respond co := by
    refine respond_congr (show stores.toEnvironment = co.toEnvironment from rfl) ?_
    unfold acquire
    rw [show co.toEnvironment = stores.toEnvironment from rfl, hsource]
    rfl
  have hmiddle : middle.respond below = middle.respond co := by
    refine respond_congr (show below.toEnvironment = co.toEnvironment from rfl) ?_
    unfold acquire
    rw [credentialSource_useCredentialHandler]
    rfl
  have hchain : Chained co origin 2 last := (Chained.origin.asking horigin 0).asking hmiddle 0
  have hprompt : prompt.wanted?.isSome = true := rfl
  obtain ⟨first, outcome, hfirst, hlast, h⟩ := passedOn_of_chained hco hchain hprompt
  have hfailed : first = (prompt, some (.credential (locked .password))) := by
    refine Eq.trans hfirst ?_
    decide +kernel
  refine ⟨hco, hchain, hprompt, ?_⟩
  calc
    (last.answer co prompt).run = outcome := Eq.symm hlast
    _ = first := h.failed _ (congrArg Prod.snd hfailed) (by simp)
    _ = (prompt, some (.credential (locked .password))) := hfailed

end ClientAuth
