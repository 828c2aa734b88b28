/-! Objects whose contents cannot be compared are told apart by an identity, handed out once. A
reference is an identity together with the role that the object plays. -/

namespace ClientAuth

structure Identity where
  index : Nat
  deriving DecidableEq, Hashable, Inhabited

/-- A computation that may make new objects. Its state is the index of the next identity, so
every identity in use lies below it. -/
abbrev Mint := StateM Nat

def Mint.fresh : Mint Identity :=
  modifyGet fun next => (⟨next⟩, next + 1)

/-- Gives the answer of `decEqParts`. Objects made of other objects share them, and one may stand in
another many times over; where both sides are one object, its parts are not looked at. -/
abbrev decEqShared {α : Type} (decEqParts : DecidableEq α) : DecidableEq α := fun a b =>
  withPtrEqDecEq a b fun _ => decEqParts a b

/-- What an object outside the library is to a configuration. -/
inductive Role
  | callbackHandler
  | keyStore
  | credentialStore
  | securityDomain
  | nameMapping
  | choice
  | promptTest
  | clientFactory
  | factorySupplier
  | providerSupplier
  | trustManager
  | trustFactory
  | keyManager
  deriving DecidableEq, Hashable

structure Ref (role : Role) where
  id : Identity
  deriving DecidableEq, Hashable, Inhabited

def Ref.fresh (role : Role) : Mint (Ref role) :=
  Ref.mk <$> Mint.fresh

end ClientAuth
