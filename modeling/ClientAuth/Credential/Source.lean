import ClientAuth.Credential.Set
import ClientAuth.Identity

/-! Where credentials come from: a tree over sets held in memory, stores and handlers. -/

namespace ClientAuth

inductive CredentialSource
  | held (credentials : CredentialSet)
  | keyStore (store : Ref .keyStore) (entry : String) (protection : Option Password)
  | credentialStore (store : Ref .credentialStore) (entry : String)
  | callback (handler : Ref .callbackHandler)
  | layered (first second : CredentialSource)
  | masked (inner : CredentialSource) (hidden : CredentialKind)
  deriving DecidableEq, Hashable

namespace CredentialSource

def none : CredentialSource :=
  held .empty

instance : Inhabited CredentialSource := ⟨none⟩

def isNone : CredentialSource → Bool
  | held credentials => credentials.isEmpty
  | _ => false

/-- Whether a credential of `kind` may be forthcoming. Sets in memory answer exactly; stores and
handlers can only be asked, so they count as having one. -/
def mayProvide (kind : CredentialKind) : CredentialSource → Bool
  | held credentials => credentials.contains kind
  | keyStore .. => kind = .certificateChain || kind = .password
  | credentialStore .. => true
  | callback _ => true
  | layered first second => first.mayProvide kind || second.mayProvide kind
  | masked inner hidden => hidden ≠ kind && inner.mayProvide kind

def kinds (source : CredentialSource) : List CredentialKind :=
  CredentialKind.all.filter fun kind => source.mayProvide kind

/-- `first`, and `second` where `first` has nothing. Sets in memory are joined into one, and a
source that is none is left out. -/
def orElse (first second : CredentialSource) : CredentialSource :=
  if second.isNone then first
  else if first.isNone then second
  else match first, second with
    | held mine, held others => held (mine.union others)
    | first, second => layered first second

/-- The source with credentials of `kind` hidden; one that has none to hide stays as it is. -/
def without (kind : CredentialKind) : CredentialSource → CredentialSource
  | held credentials => held (credentials.erase kind)
  | source => if source.mayProvide kind then masked source kind else source

end CredentialSource

end ClientAuth
