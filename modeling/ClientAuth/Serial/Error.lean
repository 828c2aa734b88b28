import ClientAuth.Serial.Values

/-! The plain data forms of errors. -/

namespace ClientAuth

open Serial Datum

mutual

def CallbackError.write : CallbackError → Datum
  | .unsupported kind => caseOf "unsupported" (toDatum kind)
  | .failed reason => caseOf "failed" (toDatum reason)
  | .credential error => caseOf "credential" error.write

def CredentialError.write : CredentialError → Datum
  | .unavailable kind reason =>
    caseOf "unavailable" (record [("kind", toDatum kind), ("reason", toDatum reason)])
  | .callback error => caseOf "callback" error.write

end

mutual

def CallbackError.read? : Datum → Option CallbackError
  | .record [(label, contents)] =>
    if label = "unsupported" then .unsupported <$> ofDatum? contents
    else if label = "failed" then .failed <$> ofDatum? contents
    else if label = "credential" then .credential <$> CredentialError.read? contents
    else none
  | _ => none

def CredentialError.read? : Datum → Option CredentialError
  | .record [(label, contents)] =>
    if label = "unavailable" then
      return .unavailable (← contents.get? "kind") (← contents.get? "reason")
    else if label = "callback" then .callback <$> CallbackError.read? contents
    else none
  | _ => none

end

instance : Serial CallbackError := ⟨CallbackError.write, CallbackError.read?⟩

instance : Serial CredentialError := ⟨CredentialError.write, CredentialError.read?⟩

instance : Serial NegotiationError where
  toDatum
    | .failed reason => caseOf "negotiation" (toDatum reason)
    | .callback error => caseOf "callback" (toDatum error)
    | .credential error => caseOf "credential" (toDatum error)
  ofDatum? datum := do
    match ← datum.case? with
    | ("negotiation", reason) => NegotiationError.failed <$> ofDatum? reason
    | ("callback", error) => NegotiationError.callback <$> ofDatum? error
    | ("credential", error) => NegotiationError.credential <$> ofDatum? error
    | _ => none

instance : Serial SecurityError where
  toDatum
    | .noTrustManager => .text "no_trust_manager"
    | .factoryFailed reason => caseOf "factory" (toDatum reason)
    | .untrusted reason => caseOf "untrusted" (toDatum reason)
  ofDatum?
    | .text "no_trust_manager" => some .noTrustManager
    | .record [("factory", reason)] => .factoryFailed <$> ofDatum? reason
    | .record [("untrusted", reason)] => .untrusted <$> ofDatum? reason
    | _ => none

end ClientAuth
