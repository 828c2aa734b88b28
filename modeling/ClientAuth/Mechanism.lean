import ClientAuth.Credential.Basic

/-! Names of authentication mechanisms, and the credentials that each can use. -/

namespace ClientAuth.Mechanism

def anonymous : String := "ANONYMOUS"

def plain : String := "PLAIN"

def external : String := "EXTERNAL"

def oauthBearer : String := "OAUTHBEARER"

def gssapi : String := "GSSAPI"

def gs2Krb5 : String := "GS2-KRB5"

def gs2Krb5Plus : String := "GS2-KRB5-PLUS"

def digestMd5 : String := "DIGEST-MD5"

def digestSha256 : String := "DIGEST-SHA-256"

def scramSha1 : String := "SCRAM-SHA-1"

def scramSha256 : String := "SCRAM-SHA-256"

def scramSha512 : String := "SCRAM-SHA-512"

def cramMd5 : String := "CRAM-MD5"

def otp : String := "OTP"

/-- For clients on the server's own host, who need nothing else. -/
def localUser : String := "JBOSS-LOCAL-USER"

def wellKnown : List String :=
  [anonymous, plain, external, oauthBearer, gssapi, gs2Krb5, gs2Krb5Plus, digestMd5,
    digestSha256, scramSha1, scramSha256, scramSha512, cramMd5, otp, localUser]

def inFamily (family mechanism : String) : Bool :=
  family.toList.isPrefixOf mechanism.toList

/-- Credential kinds any one of which lets a client attempt `mechanism`. Mechanisms that need no
credential, and unknown ones, have none. -/
def credentialKinds (mechanism : String) : List CredentialKind :=
  if mechanism = plain || mechanism = cramMd5 || mechanism = otp then [.password]
  else if mechanism = oauthBearer then [.bearerToken]
  else if mechanism = gssapi then [.gssKerberos]
  else if mechanism = external then [.certificateChain]
  else if inFamily "DIGEST-" mechanism || inFamily "SCRAM-" mechanism then [.password]
  else if inFamily gs2Krb5 mechanism then [.gssKerberos]
  else []

end ClientAuth.Mechanism
