import ClientAuth.Collaborators
import ClientAuth.Credential.Source

/-! Acquiring a credential from its source. An answer is a credential, nothing, or the failure of
the store or handler that was asked. -/

namespace ClientAuth

variable {m : Type → Type} [Monad m]

abbrev Acquired := Except CredentialError (Option Credential)

namespace CallbackHandler

/-- Puts a single callback to the handler. A handler that does not support it has nothing to
give, and neither has one that leaves no single callback behind. -/
def askOne (handler : CallbackHandler m) (callback : Callback)
    (answer : Callback → Option Credential) : m Acquired := do
  let reply ← handler [callback]
  return match reply.failure, reply.callbacks with
    | none, [answered] => .ok (answer answered)
    | none, _ => .ok none
    | some (.unsupported _), _ => .ok none
    | some error, _ => .error (.callback error)

def givenCredential : Callback → Option Credential
  | .credential callback => callback.credential
  | _ => none

def givenPassword : Callback → Option Credential
  | .password callback => callback.password.map .password
  | _ => none

/-- Asks for a credential; where that gives nothing and a password is wanted, prompts for one. -/
def ask (handler : CallbackHandler m) (kind : CredentialKind) : m Acquired := do
  match ← askOne handler (.credential (.ask kind)) givenCredential with
  | .ok none =>
    if kind = .password then
      askOne handler (.password (.ask "Password: ")) givenPassword
    else return .ok none
  | acquired => return acquired

end CallbackHandler

def CredentialSource.acquire (co : Collaborators m) (kind : CredentialKind) :
    CredentialSource → m Acquired
  | held credentials => return .ok (credentials.get? kind)
  | keyStore store entry protection => do
    return (← co.keyStoreEntry store entry protection).map
      (Option.filter fun credential => credential.kind = kind)
  | credentialStore store entry => co.storedCredential store entry kind
  | callback handler => CallbackHandler.ask (co.handler handler) kind
  | layered first second => do
    match ← first.acquire co kind with
    | .ok Option.none => second.acquire co kind
    | acquired => return acquired
  | masked inner hidden =>
    if hidden = kind then return .ok Option.none
    else inner.acquire co kind

end ClientAuth
