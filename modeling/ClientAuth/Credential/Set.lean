import ClientAuth.Credential.Basic

/-! Credentials held in memory, in the order in which their kinds were first added. The operations
never hold two credentials of one kind. -/

namespace ClientAuth

structure CredentialSet where
  entries : List Credential
  deriving DecidableEq, Hashable, Inhabited

namespace CredentialSet

def empty : CredentialSet :=
  ⟨[]⟩

def isEmpty (set : CredentialSet) : Bool :=
  set.entries.isEmpty

def get? (set : CredentialSet) (kind : CredentialKind) : Option Credential :=
  set.entries.find? fun credential => credential.kind = kind

def contains (set : CredentialSet) (kind : CredentialKind) : Bool :=
  (set.get? kind).isSome

/-- A credential of a kind already listed takes the place of the listed one. -/
def putEntry (credential : Credential) : List Credential → List Credential
  | [] => [credential]
  | head :: rest =>
    if head.kind = credential.kind then credential :: rest
    else head :: putEntry credential rest

def insert (set : CredentialSet) (credential : Credential) : CredentialSet :=
  ⟨putEntry credential set.entries⟩

def ofList (credentials : List Credential) : CredentialSet :=
  credentials.foldl insert empty

/-- The credentials of both sets; on a kind that both have, `set` wins. -/
def union (set other : CredentialSet) : CredentialSet :=
  ⟨set.entries ++ other.entries.filter fun credential => !set.contains credential.kind⟩

def erase (set : CredentialSet) (kind : CredentialKind) : CredentialSet :=
  ⟨set.entries.filter fun credential => credential.kind ≠ kind⟩

def kinds (set : CredentialSet) : List CredentialKind :=
  set.entries.map Credential.kind

end CredentialSet

end ClientAuth
