import ClientAuth.Collaborators

/-! Mapping of the principal's name to the one that a mechanism sees. -/

namespace ClientAuth

inductive NameMapping
  | identity
  | custom (mapping : Ref .nameMapping)
  | composed (id : Identity) (first next : NameMapping)
  deriving DecidableEq, Inhabited

instance decEqNameMapping : DecidableEq NameMapping :=
  decEqShared instDecidableEqNameMapping

namespace NameMapping

/-- An object is known by its identity, whatever it is composed of. -/
instance : Hashable NameMapping where
  hash
    | identity => 0
    | custom mapping => hash mapping
    | composed id _ _ => hash id

def apply (env : Environment) : NameMapping → String → String
  | identity, name => name
  | custom mapping, name => env.mapName mapping name
  | composed _ first next, name => next.apply env (first.apply env name)

/-- The identity mapping on either side leaves the other object as it is; any other composition
is a new object. -/
def andThen (first next : NameMapping) : Mint NameMapping :=
  if first = identity then pure next
  else if next = identity then pure first
  else return composed (← Mint.fresh) first next

end NameMapping

end ClientAuth
