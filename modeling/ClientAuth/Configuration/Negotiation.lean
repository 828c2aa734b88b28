import ClientAuth.Configuration.Endpoint
import ClientAuth.Configuration.Mechanisms
import ClientAuth.Configuration.Providers
import ClientAuth.Configuration.Responder
import ClientAuth.Negotiation.Decorator
import ClientAuth.Negotiation.Discovery

/-! How a configuration makes a client. The factory at the bottom is found once per chain and kept;
what the configuration adds to requests is put around it each time. -/

namespace ClientAuth

inductive BaseFactory
  | supplied (factory : Ref .clientFactory)
  | discovered (supplier : ProviderSupplier)
  deriving DecidableEq, Inhabited

structure FactoryCache where
  found : List (Option Identity × BaseFactory)
  deriving Inhabited

namespace FactoryCache

def empty : FactoryCache :=
  ⟨[]⟩

def get? (cache : FactoryCache) (chain : Option Identity) : Option BaseFactory :=
  cache.found.lookup chain

def put (cache : FactoryCache) (chain : Option Identity) (factory : BaseFactory) :
    FactoryCache :=
  ⟨(chain, factory) :: cache.found⟩

end FactoryCache

variable {m : Type → Type} [Monad m]

def BaseFactory.clientFactory (co : Collaborators m) : BaseFactory → ClientFactory m
  | supplied factory => co.clientFactory factory
  | discovered supplier => supplier.discovery co

namespace Configuration

def findBaseFactory (co : Collaborators m) (c : Configuration) : m BaseFactory :=
  match c.factorySupplier with
  | some supplier => return .supplied (← supplier.supply co)
  | none => return .discovered c.providerSupplier

def baseFactory (co : Collaborators m) (c : Configuration) : StateT FactoryCache m BaseFactory := do
  match (← get).get? c.head? with
  | some factory => return factory
  | none =>
    let factory ← StateT.lift (c.findBaseFactory co)
    modify (·.put c.head? factory)
    return factory

/-- The filter is outermost, so a request without a usable mechanism goes no further. -/
def decorators (env : Environment) (c : Configuration) : List Decorator :=
  [.filter (c.supportsMechanism env)]
    ++ c.protocol.toList.map .protocol
    ++ c.host.toList.map .serverName
    ++ (if c.mechanismProperties.isEmpty then [] else [.properties c.mechanismProperties])

def request (c : Configuration) (target : Target) (offered : List String) : ClientRequest where
  mechanisms := offered
  authorizationId := c.authorizationName
  protocol := target.scheme
  serverName := target.host.getD ""
  properties := .empty

/-- `operator` may wrap or replace the factory at the bottom. The answer is `none` where no
offered mechanism can be used. -/
def createClient (co : Collaborators m) (c : Configuration) (target : Target)
    (offered : List String) (operator : BaseFactory → m (ClientFactory m)) :
    StateT FactoryCache m (Except NegotiationError (Option Client)) := do
  let factory ← operator (← c.baseFactory co)
  (factory.decoratedBy (c.decorators co.toEnvironment)).create (c.request target offered)
    (c.responder co)

end Configuration

end ClientAuth
