import ClientAuth.Configuration.Basic

/-! The endpoint that a configuration presents to mechanisms in place of the one it connects
to. -/

namespace ClientAuth.Configuration

def host (c : Configuration) : Option String :=
  c.settings.findSome? fun
    | .host name => some name
    | _ => none

def protocol (c : Configuration) : Option String :=
  c.settings.findSome? fun
    | .protocol name => some name
    | _ => none

def port (c : Configuration) : Option Nat :=
  c.settings.findSome? fun
    | .port number => some number
    | _ => none

/-- An empty name removes the host. -/
def useHost (c : Configuration) (name : String) : Mint Configuration :=
  if name.isEmpty then c.without .host else c.overlay (.host name)

/-- An empty name removes the protocol. -/
def useProtocol (c : Configuration) (name : String) : Mint Configuration :=
  if name.isEmpty then c.without .protocol else c.overlay (.protocol name)

def usePort (c : Configuration) (number : Nat) :
    Except ConfigurationError (Mint Configuration) :=
  if 1 ≤ number ∧ number ≤ 65535 then .ok (c.overlay (.port number))
  else .error (.invalidPort number)

end ClientAuth.Configuration
