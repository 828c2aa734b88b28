import ClientAuth.Credential.Basic

/-! The questions that a mechanism puts to a client while it negotiates, each with room for its
answer. -/

namespace ClientAuth

inductive CallbackKind
  | name
  | password
  | credential
  | realm
  | choice
  | realmChoice
  deriving DecidableEq, Hashable, Inhabited

namespace CallbackKind

def all : List CallbackKind :=
  [name, password, credential, realm, choice, realmChoice]

def label : CallbackKind → String
  | name => "Name"
  | password => "Password"
  | credential => "Credential"
  | realm => "Realm"
  | choice => "Choice"
  | realmChoice => "RealmChoice"

end CallbackKind

structure NameCallback where
  prompt : String
  suggestion : Option String
  name : Option String
  deriving DecidableEq, Inhabited

structure PasswordCallback where
  prompt : String
  password : Option Password
  deriving DecidableEq, Inhabited

structure CredentialCallback where
  kind : CredentialKind
  credential : Option Credential
  deriving DecidableEq, Inhabited

structure RealmCallback where
  prompt : String
  suggestion : Option String
  text : Option String
  deriving DecidableEq, Inhabited

inductive ChoiceKind
  | generic
  | realm
  deriving DecidableEq, Hashable, Inhabited

namespace ChoiceKind

def all : List ChoiceKind :=
  [generic, realm]

def label : ChoiceKind → String
  | generic => "Generic"
  | realm => "Realm"

end ChoiceKind

/-- A choice among options; `suggestion` and `selected` count them from zero and may lie outside
the list. -/
structure ChoiceCallback where
  kind : ChoiceKind
  prompt : String
  options : List String
  suggestion : Nat
  selected : List Nat
  deriving DecidableEq, Inhabited

inductive Callback
  | name (callback : NameCallback)
  | password (callback : PasswordCallback)
  | credential (callback : CredentialCallback)
  | realm (callback : RealmCallback)
  | choice (callback : ChoiceCallback)
  deriving DecidableEq, Inhabited

namespace NameCallback

def ask (prompt : String) : NameCallback :=
  ⟨prompt, none, none⟩

def answer (callback : NameCallback) (name : String) : NameCallback :=
  { callback with name := some name }

end NameCallback

namespace PasswordCallback

def ask (prompt : String) : PasswordCallback :=
  ⟨prompt, none⟩

def answer (callback : PasswordCallback) (password : Password) : PasswordCallback :=
  { callback with password := some password }

end PasswordCallback

namespace CredentialCallback

def ask (kind : CredentialKind) : CredentialCallback :=
  ⟨kind, none⟩

/-- Refuses a credential of another kind than the one asked for. -/
def answer? (callback : CredentialCallback) (credential : Credential) :
    Option CredentialCallback :=
  if credential.kind = callback.kind then
    some { callback with credential := some credential }
  else none

/-- The answer, and the callback left unanswered. -/
def take (callback : CredentialCallback) : Option Credential × CredentialCallback :=
  (callback.credential, { callback with credential := none })

end CredentialCallback

def RealmCallback.answer (callback : RealmCallback) (text : String) : RealmCallback :=
  { callback with text := some text }

def ChoiceCallback.select (callback : ChoiceCallback) (index : Nat) : ChoiceCallback :=
  { callback with selected := [index] }

def Callback.kind : Callback → CallbackKind
  | name _ => .name
  | password _ => .password
  | credential _ => .credential
  | realm _ => .realm
  | choice callback =>
    match callback.kind with
    | .generic => .choice
    | .realm => .realmChoice

end ClientAuth
