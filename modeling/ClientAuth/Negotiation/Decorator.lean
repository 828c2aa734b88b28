import ClientAuth.Negotiation.Factory

/-! Decorators change a request on its way to a factory and pass the factory's answer back as it
is. -/

namespace ClientAuth

inductive Decorator
  | filter (accepts : String → Bool)
  | properties (defaults : PropertyMap)
  | protocol (name : String)
  | serverName (name : String)

variable {m : Type → Type} [Monad m]

namespace ClientFactory

/-- Hides the mechanisms that are not accepted. Where none is left the factory is not asked. -/
def filtered (accepts : String → Bool) (factory : ClientFactory m) : ClientFactory m where
  create request handler :=
    let mechanisms := request.mechanisms.filter accepts
    if mechanisms.isEmpty then return .ok none
    else factory.create { request with mechanisms } handler
  mechanismNames properties := return (← factory.mechanismNames properties).filter accepts

/-- Adds properties; those of the request win. -/
def withProperties (defaults : PropertyMap) (factory : ClientFactory m) : ClientFactory m where
  create request handler :=
    factory.create { request with properties := defaults.putAll request.properties.entries }
      handler
  mechanismNames properties := factory.mechanismNames (defaults.putAll properties.entries)

def withProtocol (name : String) (factory : ClientFactory m) : ClientFactory m where
  create request handler := factory.create { request with protocol := name } handler
  mechanismNames := factory.mechanismNames

def withServerName (name : String) (factory : ClientFactory m) : ClientFactory m where
  create request handler := factory.create { request with serverName := name } handler
  mechanismNames := factory.mechanismNames

def decorated (factory : ClientFactory m) : Decorator → ClientFactory m
  | .filter accepts => factory.filtered accepts
  | .properties defaults => factory.withProperties defaults
  | .protocol name => factory.withProtocol name
  | .serverName name => factory.withServerName name

/-- The first decorator of the list is the outermost. -/
def decoratedBy (factory : ClientFactory m) (decorators : List Decorator) : ClientFactory m :=
  decorators.foldr (fun decorator factory => factory.decorated decorator) factory

end ClientFactory

end ClientAuth
