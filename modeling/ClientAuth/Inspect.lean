import ClientAuth.Configuration.Rendering
import ClientAuth.Credential.Source
import ClientAuth.Text.Quoted

/-! Values as text for whoever looks for a fault. Passwords, bearer tokens and private keys are not
shown, and of an opaque object only that it is one. -/

namespace ClientAuth

namespace Inspect

def call (name contents : String) : String :=
  name ++ "(" ++ contents ++ ")"

def bracketed (items : List String) : String :=
  "[" ++ ", ".intercalate items ++ "]"

def option (contents : Option String) : String :=
  match contents with
  | none => "None"
  | some contents => call "Some" contents

def fields (name : String) (parts : List (String × String)) : String :=
  name ++ " \x7b " ++ ", ".intercalate (parts.map fun part => part.1 ++ ": " ++ part.2) ++ " \x7d"

/-- An opaque object shows the mark of an address and no address. -/
def handle : String := "Handle(0x)"

end Inspect

open Inspect Text

def Password.inspect (_ : Password) : String :=
  "Password(<redacted>)"

def BearerToken.inspect (_ : BearerToken) : String :=
  "BearerToken(<redacted>)"

/-- Tells how many certificates there are and nothing else. -/
def CertificateChain.inspect (chain : CertificateChain) : String :=
  "X509CertificateChain \x7b certificates: " ++ toString chain.certificates.length ++ ", .. \x7d"

def GssToken.inspect (token : GssToken) : String :=
  call "GssCredential" (bracketed (token.bytes.map fun byte => toString byte.toNat))

def Credential.inspect (credential : Credential) : String :=
  call credential.kind.label <|
    match credential with
    | password secret => secret.inspect
    | bearerToken token => token.inspect
    | certificateChain chain => chain.inspect
    | gssKerberos token => token.inspect

def CredentialSet.inspect (credentials : CredentialSet) : String :=
  call "IdentityCredentials" (bracketed (credentials.entries.map Credential.inspect))

def CredentialSource.inspect : CredentialSource → String
  | held credentials => call "Identity" credentials.inspect
  | keyStore _ entry protection =>
    fields "KeyStore" [("store", handle), ("alias", quoted entry),
      ("protection", option (protection.map Password.inspect))]
  | credentialStore _ entry =>
    fields "CredentialStore" [("store", handle), ("alias", quoted entry)]
  | callback _ => call "Callback" handle
  | layered first second => call "Layered" (first.inspect ++ ", " ++ second.inspect)
  | masked inner hidden => call "Without" (inner.inspect ++ ", " ++ hidden.label)

def NameCallback.inspect (callback : NameCallback) : String :=
  fields "NameCallback" [("prompt", quoted callback.prompt),
    ("default_name", option (callback.suggestion.map quoted)),
    ("name", option (callback.name.map quoted))]

def PasswordCallback.inspect (callback : PasswordCallback) : String :=
  fields "PasswordCallback" [("prompt", quoted callback.prompt),
    ("password", option (callback.password.map Password.inspect))]

def CredentialCallback.inspect (callback : CredentialCallback) : String :=
  fields "CredentialCallback" [("kind", callback.kind.label),
    ("credential", option (callback.credential.map Credential.inspect))]

def RealmCallback.inspect (callback : RealmCallback) : String :=
  fields "RealmCallback" [("prompt", quoted callback.prompt),
    ("default_text", option (callback.suggestion.map quoted)),
    ("text", option (callback.text.map quoted))]

def ChoiceCallback.inspect (callback : ChoiceCallback) : String :=
  fields "ChoiceCallback" [("kind", callback.kind.label), ("prompt", quoted callback.prompt),
    ("choices", bracketed (callback.options.map quoted)),
    ("default_choice", toString callback.suggestion),
    ("selected", bracketed (callback.selected.map toString))]

def Callback.inspect : Callback → String
  | name callback => call "Name" callback.inspect
  | password callback => call "Password" callback.inspect
  | credential callback => call "Credential" callback.inspect
  | realm callback => call "Realm" callback.inspect
  | choice callback => call "Choice" callback.inspect

def Configuration.inspect (c : Configuration) : String :=
  call "AuthenticationConfiguration" c.render

/-- The responder that answers out of a configuration. -/
def Configuration.inspectResponder (c : Configuration) : String :=
  fields "DefaultCallbackHandler" [("configuration", c.inspect)]

def Ref.inspect {role : Role} (_ : Ref role) : String :=
  handle

def NameMapping.inspect (_ : NameMapping) : String :=
  call "NameRewriter" handle

def ChoiceOperation.inspect (_ : ChoiceOperation) : String :=
  call "ChoiceOperation" handle

def ProviderSupplier.inspect (_ : ProviderSupplier) : String :=
  call "ProviderSupplier" handle

def FactorySupplier.inspect (_ : FactorySupplier) : String :=
  call "SaslClientFactorySupplier" handle

def TrustManagerFactory.inspect (_ : TrustManagerFactory) : String :=
  call "SecurityFactory" handle

def ProviderRegistry.inspect (registry : ProviderRegistry) : String :=
  bracketed (registry.providers.map fun provider => quoted provider.name)

end ClientAuth
