import ClientAuth.Configuration.Basic

/-! The credentials of a configuration. Settings that add credentials stack, and the newest is
consulted first. -/

namespace ClientAuth.Configuration

def stackSources (sources : List CredentialSource) : CredentialSource :=
  sources.foldl CredentialSource.orElse .none

/-- What a setting of its own accord adds to the credentials; a forwarded identity adds nothing
here, since its credentials are resolved on use. -/
def ownSource? : Setting → Option CredentialSource
  | .credentials source => some source
  | _ => none

def source? (env : Environment) : Setting → Option CredentialSource
  | .credentials source => some source
  | .forward forwarded =>
    (forwarded.identity env).map fun identity => .held identity.credentials
  | _ => none

def credentialSource (env : Environment) (c : Configuration) : CredentialSource :=
  stackSources (c.settings.filterMap (source? env))

def configuredCredentials (c : Configuration) : CredentialSource :=
  stackSources (c.settings.filterMap ownSource?)

def useCredential (c : Configuration) (credential : Credential) : Mint Configuration :=
  c.overlay (.credentials (.held (CredentialSet.empty.insert credential)))

/-- Replaces all credentials; with none to put in their place they are only removed. -/
def useCredentials (c : Configuration) (source : Option CredentialSource) :
    Mint Configuration := do
  let cleared ← c.without .credentials
  match source with
  | some source =>
    if source.isNone then return cleared else cleared.overlay (.credentials source)
  | none => return cleared

/-- Replaces every password and keeps the other credentials. -/
def usePassword (c : Configuration) (password : Option Password) : Mint Configuration := do
  let cleared ← c.useCredentials (some (c.configuredCredentials.without .password))
  match password with
  | some password => cleared.useCredential (.password password)
  | none => return cleared

/-- Adds nothing where the key or the chain is missing. -/
def useCertificate (c : Configuration) (chain : CertificateChain) : Mint Configuration :=
  if chain.isEmpty then return c else c.useCredential (.certificateChain chain)

def useGssToken (c : Configuration) (token : GssToken) : Mint Configuration :=
  c.useCredential (.gssKerberos token)

def useBearerToken (c : Configuration) (token : BearerToken) : Mint Configuration :=
  c.useCredential (.bearerToken token)

def requireEntry (entry : String) : Except ConfigurationError Unit :=
  if entry.isEmpty then .error (.missingArgument "alias") else .ok ()

def useKeyStoreEntry (c : Configuration) (store : Ref .keyStore) (entry : String)
    (protection : Option Password) : Except ConfigurationError (Mint Configuration) := do
  requireEntry entry
  return c.overlay (.credentials (.keyStore store entry protection))

def useCredentialStoreEntry (c : Configuration) (store : Ref .credentialStore)
    (entry : String) : Except ConfigurationError (Mint Configuration) := do
  requireEntry entry
  return c.overlay (.credentials (.credentialStore store entry))

/-- Asks `handler` before the credentials already there. -/
def useCredentialHandler (c : Configuration) (handler : Ref .callbackHandler) :
    Mint Configuration :=
  c.useCredentials (some ((CredentialSource.callback handler).orElse c.configuredCredentials))

end ClientAuth.Configuration
