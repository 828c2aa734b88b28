import ClientAuth.Configuration.Basic

/-! What a configuration prepares for the prompts of a mechanism: standing choices, the realm, and
a handler that answers in its place. -/

namespace ClientAuth.Configuration

def choiceOperation (c : Configuration) : ChoiceOperation :=
  (c.settings.findSome? fun
    | .choice operation => some operation
    | _ => none).getD .never

def realm (c : Configuration) : Option String :=
  c.settings.findSome? fun
    | .realm name => some name
    | _ => none

def callbackHandler (c : Configuration) : Option (Ref .callbackHandler) :=
  c.settings.findSome? fun
    | .callbackHandler handler => some handler
    | _ => none

/-- Standing choices made earlier are tried first. -/
def useChoice (c : Configuration) (test : Ref .promptTest) (option : Option String) :
    Mint Configuration := do
  let operation ← ChoiceOperation.mintPicking test option
  c.overlay (.choice (← ChoiceOperation.mintOrElse c.choiceOperation operation))

def useRealm (c : Configuration) : Option String → Mint Configuration
  | some name => c.overlay (.realm name)
  | none => c.without .realm

def useCallbackHandler (c : Configuration) (handler : Ref .callbackHandler) :
    Mint Configuration :=
  c.overlay (.callbackHandler handler)

end ClientAuth.Configuration
