import ClientAuth.Collaborators

/-! Standing answers to choice callbacks. -/

namespace ClientAuth

inductive ChoiceOperation
  | never
  | custom (operation : Ref .choice)
  | picking (id : Identity) (test : Ref .promptTest) (option : Option String)
  | orElse (id : Identity) (first fallback : ChoiceOperation)
  deriving DecidableEq, Inhabited

instance decEqChoiceOperation : DecidableEq ChoiceOperation :=
  decEqShared instDecidableEqChoiceOperation

namespace ChoiceOperation

/-- An object is known by its identity, whatever it is composed of. -/
instance : Hashable ChoiceOperation where
  hash
    | never => 0
    | custom operation => hash operation
    | picking id _ _ => hash id
    | orElse id _ _ => hash id

/-- Picks among the options of the callbacks that `test` accepts: the suggested one, or the first
that reads `option`. -/
def pick (test : ChoiceKind → String → Bool) (option : Option String)
    (callback : ChoiceCallback) : Option Nat :=
  if test callback.kind callback.prompt then
    match option with
    | none => some callback.suggestion
    | some option => callback.options.idxOf? option
  else none

/-- Whether the operation gave an answer, and the callback as it leaves it. -/
def apply (env : Environment) : ChoiceOperation → ChoiceCallback → Bool × ChoiceCallback
  | never, callback => (false, callback)
  | custom operation, callback => env.choose operation callback
  | picking _ test option, callback =>
    match pick (env.acceptsPrompt test) option callback with
    | some index => (true, callback.select index)
    | none => (false, callback)
  | orElse _ first fallback, callback =>
    match first.apply env callback with
    | (true, answered) => (true, answered)
    | (false, left) => fallback.apply env left

def mintPicking (test : Ref .promptTest) (option : Option String) : Mint ChoiceOperation :=
  return picking (← Mint.fresh) test option

def mintOrElse (first fallback : ChoiceOperation) : Mint ChoiceOperation :=
  return orElse (← Mint.fresh) first fallback

end ChoiceOperation

end ClientAuth
