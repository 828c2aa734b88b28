import ClientAuth.Configuration.Basic

/-! Who a configuration authenticates as: the principal, the name to act under, the mapping of the
name, and an identity forwarded from a security domain. -/

namespace ClientAuth.Configuration

def principal (env : Environment) (c : Configuration) : Principal :=
  (c.settings.findSome? fun
    | .identity principal => some principal
    | .forward forwarded =>
      some (((forwarded.identity env).map SecurityIdentity.principal).getD .anonymous)
    | _ => none).getD .anonymous

def authorizationName (c : Configuration) : Option String :=
  c.settings.findSome? fun
    | .authorizationName name => some name
    | _ => none

def nameMapping (c : Configuration) : NameMapping :=
  (c.settings.findSome? fun
    | .nameMapping mapping => some mapping
    | _ => none).getD .identity

def forwardedIdentity (c : Configuration) : Option ForwardedIdentity :=
  c.settings.findSome? fun
    | .forward forwarded => some forwarded
    | _ => none

def useAnonymous (c : Configuration) : Mint Configuration :=
  c.overlay (.identity .anonymous)

def usePrincipal (c : Configuration) (name : PrincipalName) : Mint Configuration :=
  c.overlay (.identity (.named name))

def useName (c : Configuration) (name : String) : Mint Configuration :=
  c.usePrincipal ⟨name⟩

def useAuthorizationName (c : Configuration) : Option String → Mint Configuration
  | some name => c.overlay (.authorizationName name)
  | none => c.without .authorizationName

/-- Maps the name on, after the mapping already set up. -/
def addNameMapping (c : Configuration) (mapping : NameMapping) : Mint Configuration := do
  c.overlay (.nameMapping (← c.nameMapping.andThen mapping))

def useNameMapping (c : Configuration) (mapping : NameMapping) : Mint Configuration :=
  c.overlay (.nameMapping mapping)

def useForwardedIdentity (c : Configuration) (domain : Ref .securityDomain)
    (context : AccessContext) : Mint Configuration :=
  c.overlay (.forward ⟨domain, context⟩)

end ClientAuth.Configuration
