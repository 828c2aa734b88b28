/-! Single credentials and their kinds. -/

namespace ClientAuth

abbrev Bytes := List UInt8

inductive CredentialKind
  | password
  | bearerToken
  | certificateChain
  | gssKerberos
  deriving DecidableEq, Hashable, Inhabited

namespace CredentialKind

def all : List CredentialKind :=
  [password, bearerToken, certificateChain, gssKerberos]

def label : CredentialKind → String
  | password => "Password"
  | bearerToken => "BearerToken"
  | certificateChain => "X509CertificateChain"
  | gssKerberos => "GssKerberos"

end CredentialKind

structure Password where
  text : String
  deriving DecidableEq, Hashable, Inhabited

structure BearerToken where
  text : String
  deriving DecidableEq, Hashable, Inhabited

/-- An encoded private key and its encoded certificates, leaf first. -/
structure CertificateChain where
  privateKey : Bytes
  certificates : List Bytes
  deriving DecidableEq, Hashable, Inhabited

/-- Either half alone is of no use, so a chain that lacks one counts as empty. -/
def CertificateChain.isEmpty (chain : CertificateChain) : Bool :=
  chain.privateKey.isEmpty || chain.certificates.isEmpty

structure GssToken where
  bytes : Bytes
  deriving DecidableEq, Hashable, Inhabited

inductive Credential
  | password (password : Password)
  | bearerToken (token : BearerToken)
  | certificateChain (chain : CertificateChain)
  | gssKerberos (token : GssToken)
  deriving DecidableEq, Hashable, Inhabited

def Credential.kind : Credential → CredentialKind
  | password _ => .password
  | bearerToken _ => .bearerToken
  | certificateChain _ => .certificateChain
  | gssKerberos _ => .gssKerberos

end ClientAuth
