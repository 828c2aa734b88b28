/-! Plain data, and the values that are stored and sent as such. -/

namespace ClientAuth

/-- `other` stands for data that no value is written as, such as a fraction. -/
inductive Datum
  | null
  | flag (value : Bool)
  | number (value : Int)
  | text (value : String)
  | list (items : List Datum)
  | record (fields : List (String × Datum))
  | other
  deriving Inhabited

class Serial (α : Type) where
  toDatum : α → Datum
  ofDatum? : Datum → Option α

export Serial (toDatum ofDatum?)

namespace Datum

/-- A field that is missing counts as null. -/
def field (datum : Datum) (key : String) : Datum :=
  match datum with
  | record fields => (fields.lookup key).getD null
  | _ => null

def get? {α : Type} [Serial α] (datum : Datum) (key : String) : Option α :=
  ofDatum? (datum.field key)

/-- One case among several: its label, with null as its contents where there are none. -/
def case? : Datum → Option (String × Datum)
  | text label => some (label, null)
  | record [(label, contents)] => some (label, contents)
  | _ => none

def caseOf (label : String) (contents : Datum) : Datum :=
  record [(label, contents)]

/-- A case without contents. It may be read from its bare label or from a record that gives the
label null, and is written as the bare label. -/
def label? (datum : Datum) : Option String :=
  match datum.case? with
  | some (label, null) => some label
  | _ => none

end Datum

namespace Serial

instance : Serial Datum where
  toDatum := id
  ofDatum? := some

instance : Serial Bool where
  toDatum := .flag
  ofDatum?
    | .flag value => some value
    | _ => none

instance : Serial Int where
  toDatum := .number
  ofDatum?
    | .number value => some value
    | _ => none

instance : Serial Nat where
  toDatum value := .number value
  ofDatum?
    | .number (.ofNat value) => some value
    | _ => none

instance : Serial String where
  toDatum := .text
  ofDatum?
    | .text value => some value
    | _ => none

instance {α : Type} [Serial α] : Serial (Option α) where
  toDatum
    | none => .null
    | some value => toDatum value
  ofDatum?
    | .null => some none
    | datum => some <$> ofDatum? datum

instance {α : Type} [Serial α] : Serial (List α) where
  toDatum values := .list (values.map toDatum)
  ofDatum?
    | .list items => items.mapM ofDatum?
    | _ => none

/-- A type whose values go by label. -/
abbrev ofLabels {α : Type} (values : List α) (label : α → String) : Serial α where
  toDatum value := .text (label value)
  ofDatum? datum := do
    let read ← datum.label?
    values.find? fun value => label value = read

/-- A type whose values are written as those of another. -/
abbrev via {α β : Type} [Serial β] (write : α → β) (read : β → α) : Serial α where
  toDatum value := toDatum (write value)
  ofDatum? datum := read <$> ofDatum? datum

end Serial

end ClientAuth
