import ClientAuth.Configuration.Basic

/-! A configuration as text: its settings from the oldest to the newest, each with its name and what
it overrides. Secrets and opaque objects are left out. -/

namespace ClientAuth

def CredentialSource.describe : CredentialSource → String
  | held credentials => "[" ++ " ".intercalate (credentials.kinds.map CredentialKind.label) ++ "]"
  | keyStore _ entry _ => "key-store:" ++ entry
  | credentialStore _ entry => "credential-store:" ++ entry
  | callback _ => "callback"
  | layered first second => first.describe ++ "+" ++ second.describe
  | masked inner hidden => inner.describe ++ "-" ++ hidden.label

namespace Setting

def customText : String := "<custom>"

def filterText (allowed denied : NameSet) : String :=
  "+[" ++ " ".intercalate allowed.names ++ "]-[" ++ " ".intercalate denied.names ++ "]"

def propertiesText (properties : PropertyMap) : String :=
  "\x7b" ++ " ".intercalate (properties.entries.map fun entry => entry.1 ++ ":" ++ entry.2)
    ++ "\x7d"

def valueText : Setting → String
  | identity principal => principal.render
  | authorizationName name => name
  | credentials source => source.describe
  | host name => name
  | protocol name => name
  | port number => toString number
  | realm name => name
  | tlsProtocols selector => ":".intercalate selector.protocols
  | tlsCipherSuites selector => selector.text
  | mechanismFilter allowed denied => filterText allowed denied
  | mechanismProperties properties => propertiesText properties
  | parameterSpecs specs => toString specs.length
  | trustManager factory => if factory = .platform then "default" else customText
  | providers supplier => if supplier = .installed then "installed" else customText
  | keyManager _ => customText
  | clientFactory _ => customText
  | nameMapping _ => customText
  | choice _ => customText
  | forward _ => customText
  | callbackHandler _ => customText

def render (setting : Setting) : String :=
  setting.kind.name ++ "=" ++ setting.valueText

end Setting

def Configuration.render (c : Configuration) : String :=
  ",".intercalate (c.settings.reverse.map Setting.render)

end ClientAuth
