import ClientAuth.Credential.Set
import ClientAuth.Identity
import ClientAuth.Principal

/-! Identities that a security domain has established and a client passes on. A domain is asked
anew each time, always for the context that was current when the forwarding was set up. -/

namespace ClientAuth

structure SecurityIdentity where
  principal : Principal
  credentials : CredentialSet
  deriving DecidableEq, Hashable, Inhabited

structure AccessContext where
  thread : Nat
  deriving DecidableEq, Hashable, Inhabited

structure ForwardedIdentity where
  domain : Ref .securityDomain
  context : AccessContext
  deriving DecidableEq, Hashable, Inhabited

end ClientAuth
