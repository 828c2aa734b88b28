import ClientAuth.Configuration.Negotiation
import ClientAuth.Proofs.Decoration

/-! What a factory is given where a configuration makes a client. All that the configuration puts
around the factory comes down to one request. -/

namespace ClientAuth

variable {m : Type → Type} [Monad m]

abbrev Delivery (m : Type → Type) :=
  Option (ClientRequest × CallbackHandler m)

/-- A factory that is given nothing is not asked. -/
def ClientFactory.receive (factory : ClientFactory m) :
    Delivery m → m (Except NegotiationError (Option Client))
  | some (request, handler) => factory.create request handler
  | none => return .ok none

namespace Decorator

variable {rest : List Decorator} {request : ClientRequest}

theorem rewrite_optional_protocol (name : Option String) :
    rewrite (name.toList.map .protocol ++ rest) request =
      rewrite rest { request with protocol := name.getD request.protocol } := by
  cases name with
  | none => rfl
  | some name => exact rewrite_protocol name

theorem rewrite_optional_serverName (name : Option String) :
    rewrite (name.toList.map .serverName ++ rest) request =
      rewrite rest { request with serverName := name.getD request.serverName } := by
  cases name with
  | none => rfl
  | some name => exact rewrite_serverName name

theorem rewrite_optional_properties (defaults : PropertyMap) (h : request.properties = .empty) :
    rewrite (if defaults.isEmpty then [] else [.properties defaults]) request =
      { request with properties := defaults } := by
  by_cases he : defaults.isEmpty = true
  · have hd : defaults = request.properties := by
      rw [h]
      obtain ⟨entries, hsorted⟩ := defaults
      cases List.isEmpty_iff.mp he
      rfl
    rw [if_pos he, hd]
    exact rewrite_nil
  · rw [if_neg he]
    show rewrite [] { request with properties := defaults.putAll request.properties.entries } = _
    rw [h]
    exact rewrite_nil

end Decorator

namespace Configuration

def delivered (c : Configuration) (target : Target) (mechanisms : List String) :
    ClientRequest where
  mechanisms := mechanisms
  authorizationId := c.authorizationName
  protocol := c.protocol.getD target.scheme
  serverName := c.host.getD (target.host.getD "")
  properties := c.mechanismProperties

def delivery (co : Collaborators m) (c : Configuration) (target : Target)
    (offered : List String) : Delivery m :=
  let mechanisms := c.filterMechanisms co.toEnvironment offered
  if mechanisms.isEmpty then none else some (c.delivered target mechanisms, c.responder co)

theorem rewrite_decorators (env : Environment) (c : Configuration) (target : Target)
    (offered : List String) :
    Decorator.rewrite (c.decorators env) (c.request target offered) =
      c.delivered target (c.filterMechanisms env offered) := by
  rw [decorators, List.append_assoc, List.append_assoc, List.singleton_append,
    Decorator.rewrite_filter, Decorator.rewrite_optional_protocol,
    Decorator.rewrite_optional_serverName, Decorator.rewrite_optional_properties _ rfl]
  rfl

theorem create_decorated (co : Collaborators m) (c : Configuration) (target : Target)
    (offered : List String) (factory : ClientFactory m) :
    (factory.decoratedBy (c.decorators co.toEnvironment)).create (c.request target offered)
        (c.responder co) = factory.receive (c.delivery co target offered) := by
  rw [ClientFactory.create_decoratedBy, rewrite_decorators]
  by_cases he : c.filterMechanisms co.toEnvironment offered = []
  · have hnone : c.delivery co target offered = none := if_pos (List.isEmpty_iff.mpr he)
    rw [hnone]
    exact if_pos ⟨List.cons_ne_nil _ _, he⟩
  · have hsome : c.delivery co target offered = some (c.delivered target
        (c.filterMechanisms co.toEnvironment offered), c.responder co) :=
      if_neg (mt List.isEmpty_iff.mp he)
    rw [hsome]
    exact if_neg fun h => he h.2

/-- Whatever the operator makes of the factory at the bottom, what it gives back is asked at most
once, for what the configuration delivers. -/
theorem createClient_eq (co : Collaborators m) (c : Configuration) (target : Target)
    (offered : List String) (operator : BaseFactory → m (ClientFactory m)) :
    c.createClient co target offered operator = (do
      let factory ← operator (← c.baseFactory co)
      factory.receive (c.delivery co target offered)) := by
  simp only [createClient, create_decorated]

end Configuration

end ClientAuth
