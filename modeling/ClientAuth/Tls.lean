import ClientAuth.Provider.Supplier

/-! What a configuration selects for the TLS handshake. -/

namespace ClientAuth

structure ProtocolSelector where
  protocols : List String
  deriving DecidableEq, Hashable

def ProtocolSelector.standard : ProtocolSelector :=
  ⟨["TLSv1.3", "TLSv1.2"]⟩

/-- The order is the selector's own, not that of `supported`. -/
def ProtocolSelector.select (selector : ProtocolSelector) (supported : List String) :
    List String :=
  selector.protocols.filter (· ∈ supported)

structure CipherSuiteSelector where
  text : String
  deriving DecidableEq, Hashable

def CipherSuiteSelector.standard : CipherSuiteSelector :=
  ⟨"DEFAULT"⟩

instance : Inhabited ProtocolSelector := ⟨.standard⟩

instance : Inhabited CipherSuiteSelector := ⟨.standard⟩

inductive TrustManagerFactory
  | platform
  | fixed (id : Identity) (manager : Ref .trustManager)
  | custom (factory : Ref .trustFactory)
  deriving DecidableEq, Hashable, Inhabited

/-- The platform's trust manager is the first that an installed provider offers. -/
def TrustManagerFactory.create (env : Environment) :
    TrustManagerFactory → Except SecurityError (Ref .trustManager)
  | platform =>
    match (ProviderSupplier.installed.providers env).findSome? SecurityProvider.trustManager with
    | some manager => .ok manager
    | none => .error .noTrustManager
  | fixed _ manager => .ok manager
  | custom factory => env.createTrustManager factory

def TrustManagerFactory.mintFixed (manager : Ref .trustManager) : Mint TrustManagerFactory :=
  return fixed (← Mint.fresh) manager

structure KeyManagerFactory where
  id : Identity
  manager : Ref .keyManager
  deriving DecidableEq, Hashable, Inhabited

def KeyManagerFactory.mintFixed (manager : Ref .keyManager) : Mint KeyManagerFactory :=
  return ⟨← Mint.fresh, manager⟩

end ClientAuth
