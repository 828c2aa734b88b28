/-! The pieces of a configuration that a setting can override. -/

namespace ClientAuth

inductive SettingKind
  | identity
  | authorizationName
  | credentials
  | nameMapping
  | host
  | protocol
  | port
  | trustManager
  | keyManager
  | tlsProtocols
  | tlsCipherSuites
  | providers
  | clientFactory
  | mechanismFilter
  | mechanismProperties
  | parameterSpecs
  | choice
  | forward
  | realm
  | callbackHandler
  deriving DecidableEq, Hashable, Inhabited

namespace SettingKind

def all : List SettingKind :=
  [identity, authorizationName, credentials, nameMapping, host, protocol, port, trustManager,
    keyManager, tlsProtocols, tlsCipherSuites, providers, clientFactory, mechanismFilter,
    mechanismProperties, parameterSpecs, choice, forward, realm, callbackHandler]

theorem mem_all (kind : SettingKind) : kind ∈ all := by
  cases kind <;> decide

/-- Credentials stack; of every other kind only one setting is in effect. -/
def isMultiValued (kind : SettingKind) : Bool :=
  kind = credentials

/-- The kinds that a new setting takes the place of. A forwarded identity stands for identity and
credentials together, so it and they exclude each other. -/
def displaces : SettingKind → List SettingKind
  | identity => [identity, forward]
  | forward => [forward, identity, credentials]
  | credentials => [forward]
  | kind => [kind]

def name : SettingKind → String
  | identity => "identity"
  | authorizationName => "authorization-name"
  | credentials => "credentials"
  | nameMapping => "name-rewrite"
  | host => "host"
  | protocol => "protocol"
  | port => "port"
  | trustManager => "trust-manager"
  | keyManager => "key-manager"
  | tlsProtocols => "ssl-protocols"
  | tlsCipherSuites => "ssl-cipher-suites"
  | providers => "providers"
  | clientFactory => "sasl-client-factory"
  | mechanismFilter => "mechanism-filter"
  | mechanismProperties => "mechanism-properties"
  | parameterSpecs => "parameter-specs"
  | choice => "choice"
  | forward => "forward"
  | realm => "realm"
  | callbackHandler => "callback-handler"

def label : SettingKind → String
  | identity => "Identity"
  | authorizationName => "AuthorizationName"
  | credentials => "Credentials"
  | nameMapping => "NameRewrite"
  | host => "Host"
  | protocol => "Protocol"
  | port => "Port"
  | trustManager => "TrustManager"
  | keyManager => "KeyManager"
  | tlsProtocols => "SslProtocols"
  | tlsCipherSuites => "SslCipherSuites"
  | providers => "Providers"
  | clientFactory => "SaslClientFactory"
  | mechanismFilter => "MechanismFilter"
  | mechanismProperties => "MechanismProperties"
  | parameterSpecs => "ParameterSpecs"
  | choice => "Choice"
  | forward => "Forward"
  | realm => "Realm"
  | callbackHandler => "CallbackHandler"

end SettingKind

end ClientAuth
