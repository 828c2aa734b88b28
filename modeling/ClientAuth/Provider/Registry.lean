import ClientAuth.Identity

/-! Named bundles of mechanism factories and trust material, and the registries that hold them in
order of installation. -/

namespace ClientAuth

structure SecurityProvider where
  id : Identity
  name : String
  factories : List (Ref .clientFactory)
  trustManager : Option (Ref .trustManager)
  deriving DecidableEq, Hashable, Inhabited

inductive RegistryRef
  | processWide
  | own (id : Identity)
  deriving DecidableEq, Hashable, Inhabited

structure ProviderRegistry where
  providers : List SecurityProvider
  deriving DecidableEq, Inhabited

namespace ProviderRegistry

def empty : ProviderRegistry :=
  ⟨[]⟩

def has (registry : ProviderRegistry) (name : String) : Bool :=
  registry.providers.any fun provider => provider.name = name

/-- Whether the provider was added, and the registry afterwards: a name that is taken stays with
the provider that has it. -/
def install (registry : ProviderRegistry) (provider : SecurityProvider) :
    Bool × ProviderRegistry :=
  if registry.has provider.name then (false, registry)
  else (true, ⟨registry.providers ++ [provider]⟩)

/-- Whether a provider of that name was there, and the registry without it. -/
def remove (registry : ProviderRegistry) (name : String) : Bool × ProviderRegistry :=
  (registry.has name, ⟨registry.providers.filter fun provider => provider.name ≠ name⟩)

end ProviderRegistry

end ClientAuth
