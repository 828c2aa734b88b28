import ClientAuth.Configuration.Basic

/-! What a configuration selects for the TLS handshake. -/

namespace ClientAuth.Configuration

def trustManagerFactory (c : Configuration) : TrustManagerFactory :=
  (c.settings.findSome? fun
    | .trustManager factory => some factory
    | _ => none).getD .platform

def keyManagerFactory (c : Configuration) : Option KeyManagerFactory :=
  c.settings.findSome? fun
    | .keyManager factory => some factory
    | _ => none

def protocolSelector (c : Configuration) : ProtocolSelector :=
  (c.settings.findSome? fun
    | .tlsProtocols selector => some selector
    | _ => none).getD .standard

def cipherSuiteSelector (c : Configuration) : CipherSuiteSelector :=
  (c.settings.findSome? fun
    | .tlsCipherSuites selector => some selector
    | _ => none).getD .standard

/-- Without a trust manager of its own the configuration uses the platform's. -/
def useTrustManager (c : Configuration) : Option (Ref .trustManager) → Mint Configuration
  | some manager => do c.overlay (.trustManager (← TrustManagerFactory.mintFixed manager))
  | none => c.overlay (.trustManager .platform)

def useKeyManager (c : Configuration) : Option (Ref .keyManager) → Mint Configuration
  | some manager => do c.overlay (.keyManager (← KeyManagerFactory.mintFixed manager))
  | none => c.without .keyManager

def useProtocolSelector (c : Configuration) (selector : ProtocolSelector) :
    Mint Configuration :=
  c.overlay (.tlsProtocols selector)

def useCipherSuiteSelector (c : Configuration) (selector : CipherSuiteSelector) :
    Mint Configuration :=
  c.overlay (.tlsCipherSuites selector)

end ClientAuth.Configuration
