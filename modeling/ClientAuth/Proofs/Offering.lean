import ClientAuth.Proofs.KindSafety
import ClientAuth.Proofs.Mechanisms

/-! What can be answered is offered. A source that gives a password or a certificate chain never denied
that it might, so that a mechanism which the callbacks would carry through is one that the settings
let pass. -/

namespace ClientAuth

open MonadAttach (CanReturn)

theorem Mechanism.credentialKinds_anonymous : credentialKinds anonymous = [] := by
  decide

namespace Configuration

theorem WellFormed.supportsMechanism_of_mayProvide {c : Configuration} (hc : c.WellFormed)
    {env : Environment} {kind : CredentialKind}
    (hp : (c.credentialSource env).mayProvide kind = true) {mechanism : String}
    (hk : kind ∈ Mechanism.credentialKinds mechanism) (hd : mechanism ∉ c.deniedMechanisms) :
    c.supportsMechanism env mechanism = true := by
  refine (hc.supportsMechanism_iff env mechanism).mpr ⟨?_, hd, ?_⟩
  · exact .inr (.inr (.inr (.inr (.inr ⟨kind, hk, hp⟩))))
  · rintro ⟨rfl, -⟩
    rw [Mechanism.credentialKinds_anonymous] at hk
    cases hk

variable {m : Type → Type} [Monad m] [LawfulMonad m] [MonadAttach m] [LawfulMonadAttach m]
  {co : Collaborators m} {c : Configuration} {kind : CredentialKind}

/-- The callback asks for what the mechanism needs, so whoever can answer it can use the mechanism. -/
theorem WellFormed.supportsMechanism_of_answer (hc : c.WellFormed)
    (hk : kind = .password ∨ kind = .certificateChain) {callback answered : Callback}
    (hw : callback.wanted? = some kind) (h : CanReturn (c.answer co callback) (answered, none))
    {mechanism : String} (hm : kind ∈ Mechanism.credentialKinds mechanism)
    (hd : mechanism ∉ c.deniedMechanisms) :
    c.supportsMechanism co.toEnvironment mechanism = true := by
  obtain ⟨given, hgiven, -⟩ := exists_acquired_of_answer hw h
  have hprovides := CredentialSource.mayProvide_of_acquire hk (canReturn_acquire hgiven)
  exact hc.supportsMechanism_of_mayProvide hprovides hm hd

end Configuration

variable {m : Type → Type} [Monad m] [LawfulMonad m] [MonadAttach m] [LawfulMonadAttach m]

/-- A configuration that answers a prompt for a password offers every mechanism that needs one, and
one that answers a request for a certificate chain offers to authenticate by it, unless the mechanism
is forbidden. -/
theorem supportsMechanism_of_answered (co : Collaborators m) {stock : Stock} (hs : stock.Reachable)
    {c : Configuration} (hc : c ∈ stock.made) :
    (∀ (prompt : PasswordCallback) (answered : Callback),
      CanReturn (c.answer co (.password prompt)) (answered, none) →
        ∀ mechanism, .password ∈ Mechanism.credentialKinds mechanism →
          mechanism ∉ c.deniedMechanisms →
            c.supportsMechanism co.toEnvironment mechanism = true) ∧
    ∀ (request : CredentialCallback) (answered : Callback), request.kind = .certificateChain →
      CanReturn (c.answer co (.credential request)) (answered, none) →
        Mechanism.external ∉ c.deniedMechanisms →
          c.supportsMechanism co.toEnvironment Mechanism.external = true := by
  have hwf := (hs.coherent.lawful c hc).wellFormed
  constructor
  · intro prompt answered h mechanism hm hd
    exact hwf.supportsMechanism_of_answer (.inl rfl) rfl h hm hd
  · intro request answered hk h hd
    have hw : (Callback.credential request).wanted? = some .certificateChain := congrArg some hk
    exact hwf.supportsMechanism_of_answer (.inr rfl) hw h (by decide) hd

/-- The certificate chain comes from a store whose passwords are hidden by the one that was set. -/
theorem supportsMechanism_of_answered_store :
    let chain : Credential := .certificateChain ⟨[1], [[2]]⟩
    let co : Collaborators Id := { (Collaborators.inert : Collaborators Id) with
      storedCredential := fun _ _ kind =>
        .ok (if kind = .certificateChain then some chain else none) }
    let run := Stock.initial.follow .base [.useCredentialStoreEntry default "entry",
      .usePassword (some ⟨"secret"⟩), .forbidMechanisms [Mechanism.plain]]
    let prompt : PasswordCallback := .ask "password"
    let request : CredentialCallback := .ask .certificateChain
    run.1.Reachable ∧ run.2 ∈ run.1.made ∧
      (run.2.answer co (.password prompt)).run = (.password (prompt.answer ⟨"secret"⟩), none) ∧
      run.2.supportsMechanism co.toEnvironment "SCRAM-SHA-512-PLUS" = true ∧
      request.kind = .certificateChain ∧
      (run.2.answer co (.credential request)).run =
        (.credential ⟨.certificateChain, some chain⟩, none) ∧
      run.2.supportsMechanism co.toEnvironment Mechanism.external = true := by
  intro chain co run prompt request
  have h := Stock.reachable_initial.follow Stock.mem_base [.useCredentialStoreEntry default "entry",
    .usePassword (some ⟨"secret"⟩), .forbidMechanisms [Mechanism.plain]]
  obtain ⟨hpassword, hchain⟩ := supportsMechanism_of_answered co h.1 h.2.1
  have hprompt : (run.2.answer co (.password prompt)).run =
      (.password (prompt.answer ⟨"secret"⟩), none) := by
    decide +kernel
  have hrequest : (run.2.answer co (.credential request)).run =
      (.credential ⟨.certificateChain, some chain⟩, none) := by
    decide +kernel
  exact ⟨h.1, h.2.1, hprompt,
    hpassword prompt _ hprompt "SCRAM-SHA-512-PLUS" (by decide +kernel) (by decide +kernel), rfl,
    hrequest, hchain request _ rfl hrequest (by decide +kernel)⟩

end ClientAuth
