import Mathlib.Data.List.Nodup
import Mathlib.Logic.Function.Basic
import ClientAuth.Provider.Registry

/-! Histories of installations and removals. Registries start empty, and whatever is done to them,
no two providers of a registry have the same name. -/

namespace ClientAuth

namespace ProviderRegistry

def Distinct (registry : ProviderRegistry) : Prop :=
  (registry.providers.map SecurityProvider.name).Nodup

variable {registry : ProviderRegistry}

theorem has_iff {name : String} :
    registry.has name = true ↔ name ∈ registry.providers.map SecurityProvider.name := by
  simp [has]

theorem distinct_empty : empty.Distinct :=
  List.nodup_nil

theorem Distinct.install (h : registry.Distinct) (provider : SecurityProvider) :
    (registry.install provider).2.Distinct := by
  unfold ProviderRegistry.install
  split
  · exact h
  · next hnew =>
    rw [has_iff] at hnew
    rw [Distinct, List.map_append, List.map_singleton, ← List.concat_eq_append]
    exact List.Nodup.concat hnew h

theorem Distinct.remove (h : registry.Distinct) (name : String) :
    (registry.remove name).2.Distinct :=
  h.sublist (List.filter_sublist.map SecurityProvider.name)

end ProviderRegistry

/-- What is done to one of the registries. -/
inductive Installation
  | install (registry : RegistryRef) (provider : SecurityProvider)
  | remove (registry : RegistryRef) (name : String)

namespace Installation

/-- The other registries stay as they are. -/
def apply (installed : RegistryRef → ProviderRegistry) :
    Installation → RegistryRef → ProviderRegistry
  | install registry provider =>
    Function.update installed registry ((installed registry).install provider).2
  | remove registry name =>
    Function.update installed registry ((installed registry).remove name).2

/-- The registries after all this has been done to them, one thing after the other. -/
def outcome (history : List Installation) : RegistryRef → ProviderRegistry :=
  history.foldl apply fun _ => .empty

theorem distinct_apply {installed : RegistryRef → ProviderRegistry}
    (h : ∀ registry, (installed registry).Distinct) (installation : Installation) :
    ∀ registry, (installation.apply installed registry).Distinct := by
  intro sought
  cases installation with
  | install registry provider =>
    rw [apply, Function.update_apply]
    split
    · exact (h registry).install provider
    · exact h sought
  | remove registry name =>
    rw [apply, Function.update_apply]
    split
    · exact (h registry).remove name
    · exact h sought

theorem distinct_foldl {installed : RegistryRef → ProviderRegistry}
    (h : ∀ registry, (installed registry).Distinct) (history : List Installation) :
    ∀ registry, (history.foldl apply installed registry).Distinct := by
  induction history generalizing installed with
  | nil => exact h
  | cons installation rest ih => exact ih (distinct_apply h installation)

theorem distinct_outcome (history : List Installation) (registry : RegistryRef) :
    (outcome history registry).Distinct :=
  distinct_foldl (fun _ => ProviderRegistry.distinct_empty) history registry

end Installation

end ClientAuth
