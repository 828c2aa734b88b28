import ClientAuth.ForwardedIdentity
import ClientAuth.Negotiation.Factory
import ClientAuth.Provider.Registry

/-! How the objects outside the library behave. Configurations hold references to them only, so
what a configuration answers is a function of this behaviour. -/

namespace ClientAuth

/-- The part of the behaviour that is settled at any one moment and that nobody sees happen. -/
structure Environment where
  currentIdentity : Ref .securityDomain → AccessContext → Option SecurityIdentity
  mapName : Ref .nameMapping → String → String
  choose : Ref .choice → ChoiceCallback → Bool × ChoiceCallback
  acceptsPrompt : Ref .promptTest → ChoiceKind → String → Bool
  registry : RegistryRef → ProviderRegistry
  suppliedProviders : Ref .providerSupplier → List SecurityProvider
  createTrustManager : Ref .trustFactory → Except SecurityError (Ref .trustManager)

structure Collaborators (m : Type → Type) extends Environment where
  handler : Ref .callbackHandler → CallbackHandler m
  keyStoreEntry :
    Ref .keyStore → String → Option Password → m (Except CredentialError (Option Credential))
  storedCredential :
    Ref .credentialStore → String → CredentialKind → m (Except CredentialError (Option Credential))
  clientFactory : Ref .clientFactory → ClientFactory m
  supplyFactory : Ref .factorySupplier → m (Ref .clientFactory)

/-- Collaborators that have nothing to give and change nothing. -/
def Collaborators.inert {m : Type → Type} [Monad m] : Collaborators m where
  currentIdentity _ _ := none
  mapName _ name := name
  choose _ callback := (false, callback)
  acceptsPrompt _ _ _ := false
  registry _ := .empty
  suppliedProviders _ := []
  createTrustManager _ := .error .noTrustManager
  handler _ callbacks := return ⟨callbacks, none⟩
  keyStoreEntry _ _ _ := return .ok none
  storedCredential _ _ _ := return .ok none
  clientFactory _ := .inert
  supplyFactory _ := return default

instance {m : Type → Type} [Monad m] : Inhabited (Collaborators m) := ⟨.inert⟩

def ForwardedIdentity.identity (forwarded : ForwardedIdentity) (env : Environment) :
    Option SecurityIdentity :=
  env.currentIdentity forwarded.domain forwarded.context

end ClientAuth
