import ClientAuth.Configuration.Credentials
import ClientAuth.Configuration.Prompts
import ClientAuth.Configuration.User
import ClientAuth.Credential.Acquire

/-! How a configuration answers the callbacks of a mechanism out of what it holds. -/

namespace ClientAuth.Configuration

variable {m : Type → Type} [Monad m]

/-- A callback after an attempt to answer it, and why the attempt failed if it did. -/
abbrev Answered := Callback × Option CallbackError

def refused (callback : Callback) : Answered :=
  (callback, some (.unsupported callback.kind))

def acquire (co : Collaborators m) (c : Configuration) (kind : CredentialKind) :
    m (Except CallbackError (Option Credential)) := do
  return (← (c.credentialSource co.toEnvironment).acquire co kind).mapError
    CredentialError.asCallbackError

def answerName (env : Environment) (c : Configuration) (callback : NameCallback) : Answered :=
  match (c.principal env).name? with
  | some name => (.name (callback.answer (c.nameMapping.apply env name)), none)
  | none => refused (.name callback)

def answerPassword (co : Collaborators m) (c : Configuration) (callback : PasswordCallback) :
    m Answered := do
  return match ← c.acquire co .password with
    | .ok (some (.password password)) => (.password (callback.answer password), none)
    | .ok _ => refused (.password callback)
    | .error error => (.password callback, some error)

def answerCredential (co : Collaborators m) (c : Configuration)
    (callback : CredentialCallback) : m Answered := do
  return match ← c.acquire co callback.kind with
    | .ok acquired =>
      match acquired.bind callback.answer? with
      | some answered => (.credential answered, none)
      | none => refused (.credential callback)
    | .error error => (.credential callback, some error)

/-- A realm already given stays; otherwise the configured realm is given, or else the suggested
one. Where there is none the callback stays blank, and it does not fail for that. -/
def answerRealm (c : Configuration) (callback : RealmCallback) : RealmCallback :=
  match callback.text, c.realm.or callback.suggestion with
  | none, some name => callback.answer name
  | _, _ => callback

/-- The option that a choice of realm falls back to. -/
def realmIndex (c : Configuration) (callback : ChoiceCallback) : Nat :=
  (c.realm.bind callback.options.idxOf?).getD callback.suggestion

/-- Standing choices come first. A choice of realm never fails, and an earlier selection in it
stays; any other choice is refused. -/
def answerChoice (env : Environment) (c : Configuration) (callback : ChoiceCallback) :
    Answered :=
  match c.choiceOperation.apply env callback with
  | (true, answered) => (.choice answered, none)
  | (false, left) =>
    match left.kind with
    | .realm =>
      (.choice (if left.selected.isEmpty then left.select (c.realmIndex left) else left), none)
    | .generic => (.choice left, some (.unsupported (Callback.choice callback).kind))

def answer (co : Collaborators m) (c : Configuration) : Callback → m Answered
  | .name callback => return c.answerName co.toEnvironment callback
  | .password callback => c.answerPassword co callback
  | .credential callback => c.answerCredential co callback
  | .realm callback => return (.realm (c.answerRealm callback), none)
  | .choice callback => return c.answerChoice co.toEnvironment callback

/-- Answers callbacks in order up to the first that fails. -/
def respond (co : Collaborators m) (c : Configuration) : CallbackHandler m
  | [] => return ⟨[], none⟩
  | callback :: rest => do
    match ← c.answer co callback with
    | (answered, some error) => return ⟨answered :: rest, some error⟩
    | (answered, none) =>
      let reply ← c.respond co rest
      return ⟨answered :: reply.callbacks, reply.failure⟩

/-- The configured handler, or the configuration's own answers where there is none. -/
def responder (co : Collaborators m) (c : Configuration) : CallbackHandler m :=
  match c.callbackHandler with
  | some handler => co.handler handler
  | none => c.respond co

end ClientAuth.Configuration
