import ClientAuth.Callback.Basic

/-! The causes of failure, and the text that reports each. -/

namespace ClientAuth

inductive ConfigurationError
  | invalidPort (port : Nat)
  | missingArgument (argument : String)
  deriving DecidableEq

mutual

inductive CallbackError
  | unsupported (kind : CallbackKind)
  | failed (reason : String)
  | credential (error : CredentialError)
  deriving DecidableEq

inductive CredentialError
  | unavailable (kind : CredentialKind) (reason : String)
  | callback (error : CallbackError)
  deriving DecidableEq

end

inductive SecurityError
  | noTrustManager
  | factoryFailed (reason : String)
  | untrusted (reason : String)
  deriving DecidableEq

inductive NegotiationError
  | failed (reason : String)
  | callback (error : CallbackError)
  | credential (error : CredentialError)
  deriving DecidableEq

instance : Inhabited CallbackError := ⟨.failed ""⟩

instance : Inhabited CredentialError := ⟨.callback default⟩

def ConfigurationError.message : ConfigurationError → String
  | invalidPort port => s!"Invalid port number {port}, expected a value between 1 and 65535"
  | missingArgument argument => s!"Missing required argument '{argument}'"

mutual

def CallbackError.message : CallbackError → String
  | .unsupported kind => "Unsupported callback: " ++ kind.label
  | .failed reason => "Callback failed: " ++ reason
  | .credential error => error.message

def CredentialError.message : CredentialError → String
  | .unavailable kind reason =>
    "Credential of kind " ++ kind.label ++ " unavailable: " ++ reason
  | .callback error => error.message

end

def SecurityError.message : SecurityError → String
  | noTrustManager => "No default trust manager is available"
  | factoryFailed reason => "Security factory failed: " ++ reason
  | untrusted reason => "Certificate chain not trusted: " ++ reason

def NegotiationError.message : NegotiationError → String
  | failed reason => "Mechanism negotiation failed: " ++ reason
  | callback error => error.message
  | credential error => error.message

/-- A failed callback is reported as itself, not as the failure of the credential it was asked
for. -/
def CredentialError.asCallbackError : CredentialError → CallbackError
  | .callback error => error
  | .unavailable kind reason => .credential (.unavailable kind reason)

end ClientAuth
