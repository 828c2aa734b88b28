import ClientAuth.Configuration.Basic

/-! Where a configuration finds the factories that make its clients: among the providers, or in a
factory of its own. -/

namespace ClientAuth.Configuration

def providerSupplier (c : Configuration) : ProviderSupplier :=
  (c.settings.findSome? fun
    | .providers supplier => some supplier
    | _ => none).getD .installed

def factorySupplier (c : Configuration) : Option FactorySupplier :=
  c.settings.findSome? fun
    | .clientFactory supplier => some supplier
    | _ => none

def useDefaultProviders (c : Configuration) : Mint Configuration :=
  c.without .providers

def useProviders (c : Configuration) : Option ProviderSupplier → Mint Configuration
  | some supplier => c.overlay (.providers supplier)
  | none => c.useDefaultProviders

/-- Searches the registry before the providers already set up. -/
def useProvidersFromRegistry (c : Configuration) (registry : RegistryRef) :
    Mint Configuration := do
  let own ← ProviderSupplier.mintOfRegistry registry
  c.useProviders (some (← own.andThen c.providerSupplier))

def useFactorySupplier (c : Configuration) (supplier : FactorySupplier) :
    Mint Configuration :=
  c.overlay (.clientFactory supplier)

def useClientFactory (c : Configuration) (factory : Ref .clientFactory) :
    Mint Configuration := do
  c.useFactorySupplier (← FactorySupplier.mintFixed factory)

def useClientFactoryFromProviders (c : Configuration) : Mint Configuration :=
  c.without .clientFactory

end ClientAuth.Configuration
