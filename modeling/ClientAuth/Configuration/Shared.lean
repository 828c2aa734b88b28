import ClientAuth.Configuration.Handshake
import ClientAuth.Configuration.Mechanisms
import ClientAuth.Configuration.User

/-! The configuration that others usually start from. It is made once, before anything else, and
everyone shares it. -/

namespace ClientAuth.Configuration

/-- Anonymous, with the platform's trust manager, and without the mechanism that takes the TLS
client certificate for an identity. -/
def mintEmpty : Mint Configuration := do
  let anonymous ← base.useAnonymous
  let trusting ← anonymous.useTrustManager none
  trusting.forbidMechanisms [Mechanism.external]

def empty : Configuration :=
  (mintEmpty.run 0).1

/-- The first identity that `empty` leaves unused. -/
def firstFree : Nat :=
  (mintEmpty.run 0).2

end ClientAuth.Configuration
