/-! Algorithm parameters for mechanisms that need them. Their types are open; parameters of
different types are never equal, whatever their values. -/

namespace ClientAuth

inductive ParameterValue
  | unit
  | number (value : Nat)
  | text (value : String)
  deriving DecidableEq, Hashable, Inhabited

structure ParameterSpec where
  type : String
  value : ParameterValue
  deriving DecidableEq, Hashable, Inhabited

/-- Adds `spec` in place of the one of its type. -/
def ParameterSpec.addTo (spec : ParameterSpec) (specs : List ParameterSpec) :
    List ParameterSpec :=
  specs.filter (fun existing => existing.type ≠ spec.type) ++ [spec]

end ClientAuth
