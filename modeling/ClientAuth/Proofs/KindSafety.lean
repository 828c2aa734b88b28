import Mathlib.Logic.Relation
import ClientAuth.Proofs.Hiding
import ClientAuth.Proofs.Relay

/-! A credential that is acquired is of the kind that was asked for. What a key store has of another
kind is dropped, and a callback for a credential does not take one of another kind, so that it holds
none, whatever a handler sets in it and however often. -/

namespace ClientAuth

open MonadAttach (CanReturn)

namespace Callback

/-- What one call of a setter makes of a callback. -/
inductive SetTo : Callback → Callback → Prop
  | name (callback : NameCallback) (name : String) :
    SetTo (.name callback) (.name (callback.answer name))
  | password (callback : PasswordCallback) (password : Password) :
    SetTo (.password callback) (.password (callback.answer password))
  | credential {callback answered : CredentialCallback} (given : Credential)
    (h : callback.answer? given = some answered) :
    SetTo (.credential callback) (.credential answered)
  | taken (callback : CredentialCallback) :
    SetTo (.credential callback) (.credential callback.take.2)
  | realm (callback : RealmCallback) (text : String) :
    SetTo (.realm callback) (.realm (callback.answer text))
  | choice (callback : ChoiceCallback) (index : Nat) :
    SetTo (.choice callback) (.choice (callback.select index))

/-- The callback asks for a credential of the kind, and holds none of another kind. -/
def AsksFor (kind : CredentialKind) : Callback → Prop
  | credential callback =>
    callback.kind = kind ∧ ∀ given, callback.credential = some given → given.kind = kind
  | _ => False

variable {callback callback' : Callback} {kind : CredentialKind} {given : Credential}

theorem SetTo.asksFor (h : SetTo callback callback') (ha : callback.AsksFor kind) :
    callback'.AsksFor kind := by
  cases h with
  | credential given h =>
    obtain ⟨hk, rfl⟩ := CredentialCallback.eq_of_answer? h
    refine ⟨ha.1, ?_⟩
    intro held hheld
    cases hheld
    exact hk.trans ha.1
  | taken callback => exact ⟨ha.1, nofun⟩
  | _ => exact ha.elim

theorem AsksFor.of_reflTransGen (h : Relation.ReflTransGen SetTo callback callback')
    (ha : callback.AsksFor kind) : callback'.AsksFor kind := by
  induction h with
  | refl => exact ha
  | tail _ hset ih => exact hset.asksFor ih

theorem AsksFor.kind_eq (ha : callback.AsksFor kind)
    (hg : CallbackHandler.givenCredential callback = some given) : given.kind = kind := by
  cases callback with
  | credential callback => exact ha.2 given hg
  | _ => exact ha.elim

theorem kind_eq_of_givenPassword (h : CallbackHandler.givenPassword callback = some given) :
    given.kind = .password := by
  cases callback with
  | password callback =>
    obtain ⟨password, -, rfl⟩ := Option.map_eq_some_iff.mp h
    rfl
  | _ => cases h

end Callback

section Handlers

variable {m : Type → Type} [Monad m] [MonadAttach m]

/-- The handler makes nothing of a callback but what setters do. -/
def CallbackHandler.OnlySets (handler : CallbackHandler m) : Prop :=
  ∀ callbacks reply, CanReturn (handler callbacks) reply →
    List.Forall₂ (Relation.ReflTransGen Callback.SetTo) callbacks reply.callbacks

/-- Stores that are asked for a kind give none of another, and handlers only set. Nothing is said of
key stores. -/
structure Collaborators.KindSafe (co : Collaborators m) : Prop where
  storedCredential : ∀ store entry kind credential,
    CanReturn (co.storedCredential store entry kind) (.ok (some credential)) →
      credential.kind = kind
  handler : ∀ handler, (co.handler handler).OnlySets

namespace CallbackHandler

variable [LawfulMonad m] [LawfulMonadAttach m] {handler : CallbackHandler m}
  {kind : CredentialKind} {given : Credential}

theorem exists_answered_of_askOne {callback : Callback} {read : Callback → Option Credential}
    (h : CanReturn (handler.askOne callback read) (.ok (some given))) :
    ∃ reply answered, CanReturn (handler [callback]) reply ∧ reply.callbacks = [answered] ∧
      read answered = some given := by
  obtain ⟨reply, hreply, hr⟩ := LawfulMonadAttach.canReturn_bind_imp' h
  have heq := LawfulMonadAttach.eq_of_canReturn_pure hr
  split at heq
  · next answered _ hone => exact ⟨reply, answered, hreply, hone, Except.ok.inj heq⟩
  all_goals cases heq

theorem canReturn_ask (h : CanReturn (handler.ask kind) (.ok (some given))) :
    CanReturn (handler.askOne (.credential (.ask kind)) givenCredential) (.ok (some given)) ∨
      kind = .password ∧
        CanReturn (handler.askOne (.password (.ask "Password: ")) givenPassword)
          (.ok (some given)) := by
  obtain ⟨acquired, hfirst, hr⟩ := LawfulMonadAttach.canReturn_bind_imp' h
  match acquired with
  | .ok none =>
    by_cases hk : kind = .password
    · exact .inr ⟨hk, by simpa only [if_pos hk] using hr⟩
    · rw [if_neg hk] at hr
      cases LawfulMonadAttach.eq_of_canReturn_pure hr
  | .ok (some credential) =>
    cases LawfulMonadAttach.eq_of_canReturn_pure hr
    exact .inl hfirst
  | .error error => cases LawfulMonadAttach.eq_of_canReturn_pure hr

/-- The second prompt is for a password only, and has room for nothing else. -/
theorem OnlySets.kind_of_ask (hsets : handler.OnlySets)
    (h : CanReturn (handler.ask kind) (.ok (some given))) : given.kind = kind := by
  rcases canReturn_ask h with hfirst | ⟨rfl, hsecond⟩
  · obtain ⟨reply, answered, hreply, hone, hgiven⟩ := exists_answered_of_askOne hfirst
    have hset := hsets _ _ hreply
    rw [hone] at hset
    obtain ⟨hset, -⟩ := List.forall₂_cons.mp hset
    exact (Callback.AsksFor.of_reflTransGen hset ⟨rfl, nofun⟩).kind_eq hgiven
  · obtain ⟨-, answered, -, -, hgiven⟩ := exists_answered_of_askOne hsecond
    exact Callback.kind_eq_of_givenPassword hgiven

end CallbackHandler

variable [LawfulMonad m] [LawfulMonadAttach m] {co : Collaborators m} {kind : CredentialKind}
  {given : Credential}

theorem CredentialSource.kind_of_acquire (hco : co.KindSafe) {source : CredentialSource}
    (h : CanReturn (source.acquire co kind) (.ok (some given))) : given.kind = kind := by
  induction source with
  | held credentials => exact CredentialSet.kind_of_get? (canReturn_held h)
  | keyStore store entry protection => exact (canReturn_keyStore h).1
  | credentialStore store entry => exact hco.storedCredential store entry kind given h
  | callback handler => exact (hco.handler handler).kind_of_ask h
  | layered first second ihf ihs =>
    rcases canReturn_layered h with hf | hs
    · exact ihf hf
    · exact ihs hs
  | masked inner hidden ih => exact ih (canReturn_masked h).2

namespace Configuration

variable {c : Configuration} {callback answered : Callback}

theorem canReturn_acquire (h : CanReturn (c.acquire co kind) (.ok (some given))) :
    CanReturn ((c.credentialSource co.toEnvironment).acquire co kind) (.ok (some given)) := by
  obtain ⟨acquired, hacquired, hr⟩ := LawfulMonadAttach.canReturn_bind_imp' h
  have heq := LawfulMonadAttach.eq_of_canReturn_pure hr
  cases acquired with
  | error error => cases heq
  | ok acquired =>
    cases heq
    exact hacquired

/-- An answer to a callback for a credential is a credential that was acquired for it. -/
theorem exists_acquired_of_answer (hw : callback.wanted? = some kind)
    (h : CanReturn (c.answer co callback) (answered, none)) :
    ∃ given, CanReturn (c.acquire co kind) (.ok (some given)) ∧
      callback.give? given = some answered := by
  rw [answer_of_wanted hw] at h
  obtain ⟨acquired, hacquired, hr⟩ := LawfulMonadAttach.canReturn_bind_imp' h
  have heq := LawfulMonadAttach.eq_of_canReturn_pure hr
  match acquired with
  | .ok none => cases heq
  | .ok (some given) =>
    cases hg : callback.give? given with
    | none => simp [outcomeOf, hg, refused] at heq
    | some answer =>
      simp only [outcomeOf, Option.bind_some, hg] at heq
      cases heq
      exact ⟨given, hacquired, hg⟩
  | .error error => cases heq

end Configuration

end Handlers

variable {m : Type → Type} [Monad m] [LawfulMonad m] [MonadAttach m] [LawfulMonadAttach m]

/-- Whatever is acquired is of the kind that was asked for. So it always serves as an answer, and no
callback for a password or a credential is answered with material of another kind. -/
theorem kind_of_acquired {co : Collaborators m} (hco : co.KindSafe) (kind : CredentialKind) :
    (∀ (source : CredentialSource) (given : Credential),
      CanReturn (source.acquire co kind) (.ok (some given)) → given.kind = kind) ∧
    ∀ (c : Configuration) (callback : Callback), callback.wanted? = some kind →
      (∀ given, CanReturn (c.acquire co kind) (.ok (some given)) →
        (callback.give? given).isSome = true) ∧
      ∀ answered, CanReturn (c.answer co callback) (answered, none) →
        ∃ given, CanReturn (c.acquire co kind) (.ok (some given)) ∧ given.kind = kind ∧
          callback.give? given = some answered := by
  have hacquired : ∀ (c : Configuration) given,
      CanReturn (c.acquire co kind) (.ok (some given)) → given.kind = kind := fun c given h =>
    CredentialSource.kind_of_acquire hco (Configuration.canReturn_acquire h)
  refine ⟨fun source given => CredentialSource.kind_of_acquire hco, ?_⟩
  intro c callback hw
  constructor
  · intro given h
    apply Option.isSome_iff_ne_none.mpr
    exact fun hnone => (Callback.give?_eq_none_iff hw).mp hnone (hacquired c given h)
  · intro answered h
    obtain ⟨given, hgiven, hgive⟩ := Configuration.exists_acquired_of_answer hw h
    exact ⟨given, hgiven, hacquired c given hgiven, hgive⟩

/-- The handler answers a prompt for a password only, and the key store has a token in its place. -/
theorem kind_of_acquired_prompt :
    let prompted : CallbackHandler Id := fun callbacks =>
      match callbacks with
      | [.password callback] => ⟨[.password (callback.answer ⟨"typed"⟩)], none⟩
      | callbacks => ⟨callbacks, some (.unsupported .credential)⟩
    let co : Collaborators Id := { (Collaborators.inert : Collaborators Id) with
      handler := fun _ => prompted
      keyStoreEntry := fun _ _ _ => .ok (some (.bearerToken ⟨"token"⟩)) }
    let c := (Stock.initial.follow .base
      [.useCredentialHandler default, .useKeyStoreEntry default "entry" none]).2
    let source : CredentialSource := .layered (.keyStore default "entry" none) (.callback default)
    let prompt : Callback := .password (.ask "password")
    let request : Callback := .credential (.ask .certificateChain)
    co.KindSafe ∧ c.credentialSource co.toEnvironment = source ∧
      prompt.wanted? = some .password ∧ request.wanted? = some .certificateChain ∧
      (∀ given, (source.acquire co .password).run = .ok (some given) → given.kind = .password) ∧
      (∃ answered, (c.answer co prompt).run = (answered, none) ∧
        ∃ given, (c.acquire co .password).run = .ok (some given) ∧ given.kind = .password ∧
          prompt.give? given = some answered) ∧
      ∀ answered, (c.answer co request).run = (answered, none) →
        ∃ given, (c.acquire co .certificateChain).run = .ok (some given) ∧
          given.kind = .certificateChain ∧ request.give? given = some answered := by
  intro prompted co c source prompt request
  have hkeep : ∀ callbacks : List Callback,
      List.Forall₂ (Relation.ReflTransGen Callback.SetTo) callbacks callbacks :=
    fun callbacks => List.forall₂_same.mpr fun _ _ => .refl
  have hco : co.KindSafe := by
    refine ⟨fun _ _ _ _ => nofun, ?_⟩
    intro _ callbacks reply hreply
    obtain rfl : prompted callbacks = reply := hreply
    unfold prompted
    split
    · exact .cons (.single (.password _ _)) .nil
    · exact hkeep _
  have hsource : c.credentialSource co.toEnvironment = source := by decide +kernel
  have hanswer : (c.answer co prompt).run = (.password ⟨"password", some ⟨"typed"⟩⟩, none) := by
    show (Configuration.answerPassword co c _).run = _
    unfold Configuration.answerPassword Configuration.acquire
    rw [hsource]
    rfl
  obtain ⟨hkind, hpassword⟩ := kind_of_acquired hco .password
  exact ⟨hco, hsource, rfl, rfl, hkind source,
    ⟨_, hanswer, (hpassword c prompt rfl).2 _ hanswer⟩,
    ((kind_of_acquired hco .certificateChain).2 c request rfl).2⟩

end ClientAuth
