import ClientAuth.Callback.Choice
import ClientAuth.Credential.Source
import ClientAuth.NameMapping
import ClientAuth.ParameterSpec
import ClientAuth.Setting.Kind
import ClientAuth.Tls

/-! A setting overrides one piece of a configuration. -/

namespace ClientAuth

inductive FactorySupplier
  | fixed (id : Identity) (factory : Ref .clientFactory)
  | custom (supplier : Ref .factorySupplier)
  deriving DecidableEq, Hashable, Inhabited

def FactorySupplier.mintFixed (factory : Ref .clientFactory) : Mint FactorySupplier :=
  return fixed (← Mint.fresh) factory

def FactorySupplier.supply {m : Type → Type} [Monad m] (co : Collaborators m) :
    FactorySupplier → m (Ref .clientFactory)
  | fixed _ factory => return factory
  | custom supplier => co.supplyFactory supplier

inductive Setting
  | identity (principal : Principal)
  | authorizationName (name : String)
  | credentials (source : CredentialSource)
  | nameMapping (mapping : NameMapping)
  | host (name : String)
  | protocol (name : String)
  | port (number : Nat)
  | trustManager (factory : TrustManagerFactory)
  | keyManager (factory : KeyManagerFactory)
  | tlsProtocols (selector : ProtocolSelector)
  | tlsCipherSuites (selector : CipherSuiteSelector)
  | providers (supplier : ProviderSupplier)
  | clientFactory (supplier : FactorySupplier)
  | mechanismFilter (allowed denied : NameSet)
  | mechanismProperties (properties : PropertyMap)
  | parameterSpecs (specs : List ParameterSpec)
  | choice (operation : ChoiceOperation)
  | forward (forwarded : ForwardedIdentity)
  | realm (name : String)
  | callbackHandler (handler : Ref .callbackHandler)
  deriving DecidableEq, Hashable, Inhabited

namespace Setting

def kind : Setting → SettingKind
  | identity _ => .identity
  | authorizationName _ => .authorizationName
  | credentials _ => .credentials
  | nameMapping _ => .nameMapping
  | host _ => .host
  | protocol _ => .protocol
  | port _ => .port
  | trustManager _ => .trustManager
  | keyManager _ => .keyManager
  | tlsProtocols _ => .tlsProtocols
  | tlsCipherSuites _ => .tlsCipherSuites
  | providers _ => .providers
  | clientFactory _ => .clientFactory
  | mechanismFilter .. => .mechanismFilter
  | mechanismProperties _ => .mechanismProperties
  | parameterSpecs _ => .parameterSpecs
  | choice _ => .choice
  | forward _ => .forward
  | realm _ => .realm
  | callbackHandler _ => .callbackHandler

/-- Whether the setting answers as its absence would, so that comparing configurations can pass
over it. -/
def isDefault : Setting → Bool
  | credentials source => source.isNone
  | nameMapping mapping => mapping = .identity
  | trustManager factory => factory = .platform
  | tlsProtocols selector => selector = .standard
  | tlsCipherSuites selector => selector = .standard
  | providers supplier => supplier = .installed
  | choice operation => operation = .never
  | _ => false

end Setting

end ClientAuth
