import ClientAuth.Provider.Supplier

/-! Searching the factories of providers, in provider order, for one that makes a client. -/

namespace ClientAuth

variable {m : Type → Type} [Monad m]

namespace ClientFactory

/-- The answer of the first factory that gives a client or fails. -/
def firstClient (request : ClientRequest) (handler : CallbackHandler m) :
    List (ClientFactory m) → m (Except NegotiationError (Option Client))
  | [] => return .ok none
  | factory :: rest => do
    match ← factory.create request handler with
    | .ok none => firstClient request handler rest
    | answer => return answer

def firstOccurrences (names : List String) : List String :=
  names.foldl (fun known name => if name ∈ known then known else known ++ [name]) []

def search (factories : List (ClientFactory m)) : ClientFactory m where
  create request handler := firstClient request handler factories
  mechanismNames properties := do
    return firstOccurrences (← factories.mapM (·.mechanismNames properties)).flatten

end ClientFactory

def SecurityProvider.allFactories (providers : List SecurityProvider) :
    List (Ref .clientFactory) :=
  providers.flatMap SecurityProvider.factories

/-- Asks the supplier anew at each use, so what is installed or removed meanwhile is seen. -/
def ProviderSupplier.discovery (co : Collaborators m) (supplier : ProviderSupplier) :
    ClientFactory m :=
  .search ((SecurityProvider.allFactories (supplier.providers co.toEnvironment)).map
    co.clientFactory)

end ClientAuth
