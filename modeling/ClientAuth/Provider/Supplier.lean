import ClientAuth.Collaborators

/-! Where the providers to search come from. A supplier that reads a registry sees what is
installed there at the time it is asked. -/

namespace ClientAuth

inductive ProviderSupplier
  | installed
  | ofRegistry (id : Identity) (registry : RegistryRef)
  | fixed (id : Identity) (providers : List SecurityProvider)
  | custom (supplier : Ref .providerSupplier)
  | chained (id : Identity) (first fallback : ProviderSupplier)
  deriving DecidableEq, Inhabited

instance decEqProviderSupplier : DecidableEq ProviderSupplier :=
  decEqShared instDecidableEqProviderSupplier

namespace ProviderSupplier

/-- An object is known by its identity, whatever it is composed of. -/
instance : Hashable ProviderSupplier where
  hash
    | installed => 0
    | ofRegistry id _ => hash id
    | fixed id _ => hash id
    | custom supplier => hash supplier
    | chained id _ _ => hash id

/-- `known` followed by those of `others` that bring a new name. -/
def appendNew (known others : List SecurityProvider) : List SecurityProvider :=
  others.foldl (fun known provider =>
    if known.any fun existing => existing.name = provider.name then known
    else known ++ [provider]) known

def providers (env : Environment) : ProviderSupplier → List SecurityProvider
  | installed => (env.registry .processWide).providers
  | ofRegistry _ registry => (env.registry registry).providers
  | fixed _ providers => providers
  | custom supplier => env.suppliedProviders supplier
  | chained _ first fallback => appendNew (first.providers env) (fallback.providers env)

def mintOfRegistry (registry : RegistryRef) : Mint ProviderSupplier :=
  return ofRegistry (← Mint.fresh) registry

def mintFixed (providers : List SecurityProvider) : Mint ProviderSupplier :=
  return fixed (← Mint.fresh) providers

def andThen (first fallback : ProviderSupplier) : Mint ProviderSupplier :=
  return chained (← Mint.fresh) first fallback

end ProviderSupplier

end ClientAuth
