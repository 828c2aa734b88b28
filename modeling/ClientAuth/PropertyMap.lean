import ClientAuth.NameSet

/-! Properties by key, listed in the code point order of their keys, so that two maps with the same
properties are the same value. -/

namespace ClientAuth

structure PropertyMap where
  entries : List (String × String)
  sorted : (entries.map Prod.fst).Pairwise (· < ·)
  deriving DecidableEq, Hashable

namespace PropertyMap

def putSorted (key value : String) : List (String × String) → List (String × String)
  | [] => [(key, value)]
  | head :: rest =>
    if key < head.1 then (key, value) :: head :: rest
    else if key = head.1 then (key, value) :: rest
    else head :: putSorted key value rest

theorem keys_putSorted {key value : String} {entries : List (String × String)} :
    (putSorted key value entries).map Prod.fst
      = NameSet.insertSorted key (entries.map Prod.fst) := by
  induction entries with
  | nil => rfl
  | cons head rest ih =>
    rw [putSorted, List.map_cons, NameSet.insertSorted]
    split
    · rfl
    · split
      · next h => simp [h]
      · simp [ih]

theorem sorted_nil : (([] : List (String × String)).map Prod.fst).Pairwise (· < ·) :=
  .nil

def empty : PropertyMap :=
  ⟨[], sorted_nil⟩

instance : Inhabited PropertyMap := ⟨empty⟩

def isEmpty (properties : PropertyMap) : Bool :=
  properties.entries.isEmpty

def get? (properties : PropertyMap) (key : String) : Option String :=
  properties.entries.lookup key

def put (properties : PropertyMap) (key value : String) : PropertyMap :=
  ⟨putSorted key value properties.entries, by
    rw [keys_putSorted]
    exact NameSet.pairwise_insertSorted properties.sorted⟩

/-- Both sets of properties; where a key is in both, `others` wins. -/
def putAll (properties : PropertyMap) (others : List (String × String)) : PropertyMap :=
  others.foldl (fun merged entry => merged.put entry.1 entry.2) properties

def ofList (entries : List (String × String)) : PropertyMap :=
  empty.putAll entries

theorem isEmpty_put (properties : PropertyMap) (key value : String) :
    (properties.put key value).isEmpty = false := by
  apply List.isEmpty_eq_false_iff.mpr
  intro h
  have hm : key ∈ (putSorted key value properties.entries).map Prod.fst := by
    rw [keys_putSorted]
    exact NameSet.mem_insertSorted.mpr (.inl rfl)
  rw [show putSorted key value properties.entries = [] from h] at hm
  simp at hm

theorem isEmpty_putAll {properties : PropertyMap} (others : List (String × String))
    (h : properties.isEmpty = false) : (properties.putAll others).isEmpty = false := by
  induction others generalizing properties with
  | nil => exact h
  | cons entry rest ih => exact ih (isEmpty_put properties entry.1 entry.2)

theorem isEmpty_ofList {entries : List (String × String)} (h : ¬ entries.isEmpty = true) :
    (ofList entries).isEmpty = false := by
  cases entries with
  | nil => exact absurd rfl h
  | cons entry rest => exact isEmpty_putAll rest (isEmpty_put empty entry.1 entry.2)

end PropertyMap

end ClientAuth
