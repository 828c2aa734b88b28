import ClientAuth.Mechanism
import ClientAuth.Setting.Basic

/-! What a single setting says about a mechanism: whether it can serve it, and whether it forbids
it. -/

namespace ClientAuth.Setting

def supports (env : Environment) (mechanism : String) : Setting → Bool
  | identity .anonymous => mechanism = Mechanism.anonymous
  | credentials source => (Mechanism.credentialKinds mechanism).any (source.mayProvide ·)
  | forward forwarded =>
    match forwarded.identity env with
    | some resolved =>
      (Mechanism.credentialKinds mechanism).any (resolved.credentials.contains ·)
    | none => false
  | keyManager _ => mechanism = Mechanism.external
  | mechanismFilter allowed _ => mechanism ∈ allowed
  | callbackHandler _ => true
  | _ => false

def allows (mechanism : String) : Setting → Bool
  | identity (.named _) => mechanism ≠ Mechanism.anonymous
  | mechanismFilter _ denied => mechanism ∉ denied
  | _ => true

end ClientAuth.Setting
