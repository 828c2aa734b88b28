import ClientAuth.Error
import ClientAuth.PropertyMap

/-! Factories make a client for one of the mechanisms that a server offers. The questions that come up
on the way go to a handler, which answers callbacks in batches. -/

namespace ClientAuth

/-- The callbacks as a handler leaves them, and why it stopped if it failed. Answers given before
a failure stay in place. -/
structure Reply where
  callbacks : List Callback
  failure : Option CallbackError
  deriving DecidableEq, Inhabited

abbrev CallbackHandler (m : Type → Type) :=
  List Callback → m Reply

/-- The protocol and host that a client is made for. -/
structure Target where
  scheme : String
  host : Option String
  deriving DecidableEq, Inhabited

/-- `mechanisms` stands in the order that the server prefers. -/
structure ClientRequest where
  mechanisms : List String
  authorizationId : Option String
  protocol : String
  serverName : String
  properties : PropertyMap
  deriving DecidableEq, Inhabited

structure Client where
  mechanism : String
  deriving DecidableEq, Inhabited

/-- `create` answers `none` where the factory can run no requested mechanism; `mechanismNames`
lists those it can run with the given properties. -/
structure ClientFactory (m : Type → Type) where
  create : ClientRequest → CallbackHandler m → m (Except NegotiationError (Option Client))
  mechanismNames : PropertyMap → m (List String)

/-- A factory that can run no mechanism. -/
def ClientFactory.inert {m : Type → Type} [Monad m] : ClientFactory m where
  create _ _ := return .ok none
  mechanismNames _ := return []

end ClientAuth
