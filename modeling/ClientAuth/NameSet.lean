/-! Finite sets of names, listed in code point order without repetition, so that two sets with the
same members are the same value. -/

namespace ClientAuth

structure NameSet where
  names : List String
  sorted : names.Pairwise (· < ·)
  deriving DecidableEq, Hashable

namespace NameSet

def insertSorted (name : String) : List String → List String
  | [] => [name]
  | head :: rest =>
    if name < head then name :: head :: rest
    else if name = head then head :: rest
    else head :: insertSorted name rest

theorem mem_insertSorted {name x : String} {names : List String} :
    x ∈ insertSorted name names ↔ x = name ∨ x ∈ names := by
  induction names with
  | nil => simp [insertSorted]
  | cons head rest ih =>
    rw [insertSorted]
    split
    · simp
    · split
      · next h => simp [h]
      · simp [ih]; grind

theorem lt_of_not_lt_of_ne {a b : String} (hab : ¬ a < b) (hne : a ≠ b) : b < a :=
  Std.lt_of_le_of_ne (String.not_lt.mp hab) (Ne.symm hne)

theorem pairwise_insertSorted {name : String} {names : List String}
    (h : names.Pairwise (· < ·)) : (insertSorted name names).Pairwise (· < ·) := by
  induction names with
  | nil => simp [insertSorted]
  | cons head rest ih =>
    have hrest := List.pairwise_cons.mp h
    rw [insertSorted]
    split
    · next hlt =>
      refine List.pairwise_cons.mpr ⟨?_, h⟩
      intro x hx
      rcases List.mem_cons.mp hx with rfl | hx
      · exact hlt
      · exact String.lt_trans hlt (hrest.1 x hx)
    · split
      · exact h
      · next hlt hne =>
        refine List.pairwise_cons.mpr ⟨?_, ih hrest.2⟩
        intro x hx
        rcases mem_insertSorted.mp hx with rfl | hx
        · exact lt_of_not_lt_of_ne hlt hne
        · exact hrest.1 x hx

def empty : NameSet :=
  ⟨[], .nil⟩

instance : Inhabited NameSet := ⟨empty⟩

instance : Membership String NameSet where
  mem set name := name ∈ set.names

instance (name : String) (set : NameSet) : Decidable (name ∈ set) :=
  inferInstanceAs (Decidable (name ∈ set.names))

def isEmpty (set : NameSet) : Bool :=
  set.names.isEmpty

def insert (set : NameSet) (name : String) : NameSet :=
  ⟨insertSorted name set.names, pairwise_insertSorted set.sorted⟩

def insertAll (set : NameSet) (names : List String) : NameSet :=
  names.foldl insert set

def removeAll (set : NameSet) (names : List String) : NameSet :=
  ⟨set.names.filter (· ∉ names), set.sorted.filter _⟩

theorem mem_insert {set : NameSet} {name x : String} :
    x ∈ set.insert name ↔ x = name ∨ x ∈ set :=
  mem_insertSorted

theorem mem_insertAll {set : NameSet} {names : List String} {x : String} :
    x ∈ set.insertAll names ↔ x ∈ set ∨ x ∈ names := by
  induction names generalizing set with
  | nil => simp [insertAll]
  | cons name rest ih =>
    have h := @ih (set.insert name)
    simp only [insertAll, List.foldl_cons] at h ⊢
    rw [h, mem_insert, List.mem_cons]
    grind

theorem mem_removeAll {set : NameSet} {names : List String} {x : String} :
    x ∈ set.removeAll names ↔ x ∈ set ∧ x ∉ names := by
  change x ∈ set.names.filter _ ↔ _
  simp only [List.mem_filter, decide_eq_true_eq]
  exact Iff.rfl

end NameSet

end ClientAuth
