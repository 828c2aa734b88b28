/-! Who a client authenticates as. -/

namespace ClientAuth

structure PrincipalName where
  text : String
  deriving DecidableEq, Hashable, Inhabited

instance : Ord PrincipalName where
  compare a b := compare a.text b.text

inductive Principal
  | anonymous
  | named (name : PrincipalName)
  deriving DecidableEq, Hashable, Inhabited

namespace Principal

def name? : Principal → Option String
  | anonymous => none
  | named name => some name.text

def isAnonymous : Principal → Bool
  | anonymous => true
  | named _ => false

def render : Principal → String
  | anonymous => "anonymous"
  | named name => name.text

end Principal

end ClientAuth
