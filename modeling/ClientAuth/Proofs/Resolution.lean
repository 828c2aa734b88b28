import ClientAuth.Proofs.Observation

/-! What depends on whom a security domain currently has. A configuration asks only for the identity
that it forwards itself; what any other domain resolves is nothing to its answers. -/

namespace ClientAuth

variable {m : Type → Type} [Monad m]

/-- The same collaborators, where the domains have these identities. -/
def Collaborators.resolving (co : Collaborators m)
    (resolve : Ref .securityDomain → AccessContext → Option SecurityIdentity) : Collaborators m :=
  { co with currentIdentity := resolve }

variable {co : Collaborators m}
  {resolve : Ref .securityDomain → AccessContext → Option SecurityIdentity}

omit [Monad m] in
theorem NameMapping.apply_resolving (mapping : NameMapping) (name : String) :
    mapping.apply (co.resolving resolve).toEnvironment name =
      mapping.apply co.toEnvironment name := by
  induction mapping generalizing name with
  | identity => rfl
  | custom mapping => rfl
  | composed id first next ihf ihn => rw [apply, apply, ihf, ihn]

omit [Monad m] in
theorem ChoiceOperation.apply_resolving (operation : ChoiceOperation) (callback : ChoiceCallback) :
    operation.apply (co.resolving resolve).toEnvironment callback =
      operation.apply co.toEnvironment callback := by
  induction operation generalizing callback with
  | never => rfl
  | custom operation => rfl
  | picking id test option => rfl
  | orElse id first fallback ihf ihb => simp only [apply, ihf, ihb]

theorem CredentialSource.acquire_resolving (source : CredentialSource) (kind : CredentialKind) :
    source.acquire (co.resolving resolve) kind = source.acquire co kind := by
  induction source with
  | layered first second ihf ihs => simp only [acquire, ihf, ihs]
  | masked inner hidden ih => rw [acquire, acquire, ih]
  | _ => rfl

theorem Setting.supports_congr {env env' : Environment} {setting : Setting}
    (h : ∀ forwarded, setting = .forward forwarded →
      forwarded.identity env = forwarded.identity env') (mechanism : String) :
    setting.supports env mechanism = setting.supports env' mechanism := by
  cases setting with
  | identity principal => cases principal <;> rfl
  | forward forwarded => simp only [supports, h forwarded rfl]
  | _ => rfl

namespace Configuration

variable {c : Configuration}

/-- All answers that could depend on what domains resolve are the same with the one collaborators as
with the other. -/
structure Unmoved (co co' : Collaborators m) (c : Configuration) : Prop where
  principal : c.principal co'.toEnvironment = c.principal co.toEnvironment
  credentialSource : c.credentialSource co'.toEnvironment = c.credentialSource co.toEnvironment
  supportsMechanism : ∀ mechanism, c.supportsMechanism co'.toEnvironment mechanism =
    c.supportsMechanism co.toEnvironment mechanism
  answer : ∀ callback, c.answer co' callback = c.answer co callback

theorem Unmoved.of_forwarded (h : ∀ forwarded, .forward forwarded ∈ c.settings →
    resolve forwarded.domain forwarded.context = forwarded.identity co.toEnvironment) :
    c.Unmoved co (co.resolving resolve) := by
  have hidentity : ∀ forwarded, .forward forwarded ∈ c.settings →
      forwarded.identity (co.resolving resolve).toEnvironment =
        forwarded.identity co.toEnvironment := h
  have hprincipal : c.principal (co.resolving resolve).toEnvironment =
      c.principal co.toEnvironment := by
    unfold Configuration.principal
    rw [← List.head?_filterMap, ← List.head?_filterMap]
    congr 2
    apply List.filterMap_congr
    intro setting hm
    cases setting with
    | forward forwarded => simp only [hidentity forwarded hm]
    | _ => rfl
  have hsource : c.credentialSource (co.resolving resolve).toEnvironment =
      c.credentialSource co.toEnvironment := by
    unfold Configuration.credentialSource
    congr 1
    apply List.filterMap_congr
    intro setting hm
    cases setting with
    | forward forwarded => simp only [source?, hidentity forwarded hm]
    | _ => rfl
  refine ⟨hprincipal, hsource, ?_, ?_⟩
  · intro mechanism
    have hsupports :
        c.settings.map (Setting.supports (co.resolving resolve).toEnvironment mechanism) =
          c.settings.map (Setting.supports co.toEnvironment mechanism) := by
      apply List.map_congr_left
      intro setting hm
      apply Setting.supports_congr
      rintro forwarded rfl
      exact hidentity forwarded hm
    have hany := congrArg (List.any · id) hsupports
    simp only [List.any_map, Function.id_comp] at hany
    rw [Configuration.supportsMechanism, Configuration.supportsMechanism, hany]
  · intro callback
    cases callback with
    | name callback =>
      simp only [Configuration.answer, answerName, hprincipal, NameMapping.apply_resolving]
    | password callback =>
      simp only [Configuration.answer, answerPassword, acquire, hsource,
        CredentialSource.acquire_resolving]
    | credential callback =>
      simp only [Configuration.answer, answerCredential, acquire, hsource,
        CredentialSource.acquire_resolving]
    | realm callback => rfl
    | choice callback =>
      simp only [Configuration.answer, answerChoice, ChoiceOperation.apply_resolving]

end Configuration

end ClientAuth
