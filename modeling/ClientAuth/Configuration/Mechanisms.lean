import ClientAuth.Configuration.Basic
import ClientAuth.Setting.Policy

/-! Which mechanisms a configuration would negotiate, and the properties and parameters it hands
to them. -/

namespace ClientAuth.Configuration

def mechanismFilter (c : Configuration) : NameSet × NameSet :=
  (c.settings.findSome? fun
    | .mechanismFilter allowed denied => some (allowed, denied)
    | _ => none).getD (.empty, .empty)

def allowedMechanisms (c : Configuration) : NameSet :=
  c.mechanismFilter.1

def deniedMechanisms (c : Configuration) : NameSet :=
  c.mechanismFilter.2

def mechanismProperties (c : Configuration) : PropertyMap :=
  (c.settings.findSome? fun
    | .mechanismProperties properties => some properties
    | _ => none).getD .empty

def parameterSpecs (c : Configuration) : List ParameterSpec :=
  (c.settings.findSome? fun
    | .parameterSpecs specs => some specs
    | _ => none).getD []

/-- A mechanism is negotiated if some setting can serve it and no setting forbids it. -/
def supportsMechanism (env : Environment) (c : Configuration) (mechanism : String) : Bool :=
  (c.settings.any (Setting.supports env mechanism) || mechanism = Mechanism.localUser)
    && c.settings.all (Setting.allows mechanism)

def filterMechanisms (env : Environment) (c : Configuration) (offered : List String) :
    List String :=
  offered.filter (c.supportsMechanism env)

def allowAllMechanisms (c : Configuration) : Mint Configuration :=
  c.without .mechanismFilter

/-- A filter that says nothing about any mechanism is dropped. -/
def useMechanismFilter (c : Configuration) (allowed denied : NameSet) : Mint Configuration :=
  if allowed.isEmpty && denied.isEmpty then c.allowAllMechanisms
  else c.overlay (.mechanismFilter allowed denied)

def allowMechanisms (c : Configuration) (mechanisms : List String) : Mint Configuration :=
  c.useMechanismFilter (c.allowedMechanisms.insertAll mechanisms)
    (c.deniedMechanisms.removeAll mechanisms)

def forbidMechanisms (c : Configuration) (mechanisms : List String) : Mint Configuration :=
  c.useMechanismFilter (c.allowedMechanisms.removeAll mechanisms)
    (c.deniedMechanisms.insertAll mechanisms)

/-- Replaces all properties; an empty list changes nothing. -/
def useMechanismProperties (c : Configuration) (properties : List (String × String)) :
    Mint Configuration :=
  if properties.isEmpty then return c
  else c.overlay (.mechanismProperties (.ofList properties))

def useParameterSpec (c : Configuration) (spec : ParameterSpec) : Mint Configuration :=
  c.overlay (.parameterSpecs (spec.addTo c.parameterSpecs))

end ClientAuth.Configuration
