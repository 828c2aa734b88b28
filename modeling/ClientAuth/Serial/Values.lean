import ClientAuth.ForwardedIdentity
import ClientAuth.Negotiation.Factory
import ClientAuth.ParameterSpec
import ClientAuth.Serial.Datum
import ClientAuth.Setting.Kind
import ClientAuth.Tls

/-! The plain data forms of principals, credentials, callbacks and what goes with them. -/

namespace ClientAuth

/-! ## Bytes as text, two lower-case hexadecimal digits each -/

namespace Hex

def digit (n : Nat) : Char :=
  Char.ofNat (if n < 10 then 48 + n else 87 + n)

def value? (c : Char) : Option Nat :=
  if '0' ≤ c ∧ c ≤ '9' then some (c.toNat - 48)
  else if 'a' ≤ c ∧ c ≤ 'f' then some (c.toNat - 87)
  else none

def encode (bytes : Bytes) : List Char :=
  bytes.flatMap fun byte => [digit (byte.toNat / 16), digit (byte.toNat % 16)]

def decode? : List Char → Option Bytes
  | [] => some []
  | [_] => none
  | high :: low :: rest => do
    return ((← value? high) * 16 + (← value? low)).toUInt8 :: (← decode? rest)

end Hex

/-! ## Instances -/

open Serial Datum

instance : Serial CredentialKind := ofLabels CredentialKind.all CredentialKind.label

instance : Serial CallbackKind := ofLabels CallbackKind.all CallbackKind.label

instance : Serial ChoiceKind := ofLabels ChoiceKind.all ChoiceKind.label

instance : Serial SettingKind := ofLabels SettingKind.all SettingKind.label

instance : Serial PrincipalName := via PrincipalName.text PrincipalName.mk

instance : Serial ProtocolSelector := via ProtocolSelector.protocols ProtocolSelector.mk

instance : Serial CipherSuiteSelector := via CipherSuiteSelector.text CipherSuiteSelector.mk

instance : Serial Password := via Password.text Password.mk

instance : Serial BearerToken := via BearerToken.text BearerToken.mk

instance : Serial Principal where
  toDatum
    | .anonymous => .text "Anonymous"
    | .named name => caseOf "Name" (toDatum name)
  ofDatum? datum :=
    match datum.case? with
    | some ("Anonymous", .null) => some .anonymous
    | some ("Name", name) => .named <$> ofDatum? name
    | _ => none

instance : Serial Bytes where
  toDatum bytes := .text (String.ofList (Hex.encode bytes))
  ofDatum?
    | .text hex => Hex.decode? hex.toList
    | _ => none

instance : Serial GssToken := via GssToken.bytes GssToken.mk

instance : Serial CertificateChain where
  toDatum chain :=
    record [("key", toDatum chain.privateKey), ("chain", toDatum chain.certificates)]
  ofDatum? datum := return ⟨← datum.get? "key", ← datum.get? "chain"⟩

instance : Serial Credential where
  toDatum
    | .password password => caseOf "password" (toDatum password)
    | .bearerToken token => caseOf "bearer" (toDatum token)
    | .certificateChain chain => caseOf "x509" (toDatum chain)
    | .gssKerberos token => caseOf "gss" (toDatum token)
  ofDatum? datum := do
    match ← datum.case? with
    | ("password", password) => Credential.password <$> ofDatum? password
    | ("bearer", token) => Credential.bearerToken <$> ofDatum? token
    | ("x509", chain) => Credential.certificateChain <$> ofDatum? chain
    | ("gss", token) => Credential.gssKerberos <$> ofDatum? token
    | _ => none

instance : Serial CredentialSet := via CredentialSet.entries CredentialSet.ofList

instance : Serial SecurityIdentity where
  toDatum identity :=
    record [("principal", toDatum identity.principal.name?),
      ("credentials", toDatum identity.credentials)]
  ofDatum? datum := do
    let name : Option PrincipalName ← datum.get? "principal"
    return ⟨(name.map Principal.named).getD .anonymous, ← datum.get? "credentials"⟩

/-- A value without contents is written as none. -/
instance : Serial ParameterSpec where
  toDatum spec := record (("type", .text spec.type) ::
    match spec.value with
    | .unit => []
    | .number value => [("value", .number value)]
    | .text value => [("value", .text value)])
  ofDatum? datum := do
    let type ← datum.get? "type"
    match datum.field "value" with
    | .null => return ⟨type, .unit⟩
    | .number (.ofNat value) => return ⟨type, .number value⟩
    | .text value => return ⟨type, .text value⟩
    | _ => none

/-- A selection is read as one index or none, and written as the list of indexes. -/
instance : Serial Callback where
  toDatum
    | .name callback => record [("type", .text "Name"), ("prompt", toDatum callback.prompt),
        ("default", toDatum callback.suggestion), ("name", toDatum callback.name)]
    | .password callback => record [("type", .text "Password"),
        ("prompt", toDatum callback.prompt), ("password", toDatum callback.password)]
    | .credential callback => record [("type", .text "Credential"),
        ("kind", toDatum callback.kind), ("credential", toDatum callback.credential)]
    | .realm callback => record [("type", .text "Realm"), ("prompt", toDatum callback.prompt),
        ("default", toDatum callback.suggestion), ("text", toDatum callback.text)]
    | .choice callback => record [("type", .text "Choice"), ("kind", toDatum callback.kind),
        ("prompt", toDatum callback.prompt), ("choices", toDatum callback.options),
        ("default", toDatum callback.suggestion), ("selected", toDatum callback.selected)]
  ofDatum? datum := do
    let type : String ← datum.get? "type"
    match type with
    | "Name" => return .name ⟨← datum.get? "prompt", ← datum.get? "default", ← datum.get? "name"⟩
    | "Password" => return .password ⟨← datum.get? "prompt", ← datum.get? "password"⟩
    | "Credential" =>
      let asked := CredentialCallback.ask (← datum.get? "kind")
      let given : Option Credential ← datum.get? "credential"
      return .credential ((given.bind asked.answer?).getD asked)
    | "Realm" =>
      return .realm ⟨← datum.get? "prompt", ← datum.get? "default", ← datum.get? "text"⟩
    | "Choice" =>
      let selected : Option Nat ← datum.get? "selected"
      return .choice ⟨← datum.get? "kind", ← datum.get? "prompt", ← datum.get? "choices",
        ← datum.get? "default", selected.toList⟩
    | _ => none

instance : Serial PropertyMap where
  toDatum properties :=
    record (properties.entries.map fun entry => (entry.1, .text entry.2))
  ofDatum?
    | .record fields => do
      let entries ← fields.mapM fun field => return (field.1, ← ofDatum? field.2)
      return .ofList entries
    | _ => none

instance : Serial ClientRequest where
  toDatum request :=
    record [("mechanisms", toDatum request.mechanisms),
      ("authorization_id", toDatum request.authorizationId),
      ("protocol", toDatum request.protocol), ("server_name", toDatum request.serverName),
      ("properties", toDatum request.properties)]
  ofDatum? datum :=
    return ⟨← datum.get? "mechanisms", ← datum.get? "authorization_id", ← datum.get? "protocol",
      ← datum.get? "server_name", ← datum.get? "properties"⟩

end ClientAuth
