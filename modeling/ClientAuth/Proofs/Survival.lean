import Mathlib.Data.List.Basic
import Mathlib.Data.List.Induction
import ClientAuth.Proofs.FirstPerKey
import ClientAuth.Proofs.Installation
import ClientAuth.Tls

/-! Which providers stand in a registry after all that has been done to it, and in which order. It
takes no more than the history to tell: an installation counts if the name was free then and has not
been removed since, and the providers stand as they were so installed. -/

namespace ClientAuth

namespace ProviderRegistry

variable {registry : ProviderRegistry}

theorem has_eq_false_iff {name : String} :
    registry.has name = false ↔ name ∉ registry.providers.map SecurityProvider.name := by
  rw [← has_iff, Bool.not_eq_true]

/-- A registry as an ordered set of names: what is installed under a new name comes last, what is
removed is the one provider of that name, and all else stays as it is. -/
structure NamesOnce (registry : ProviderRegistry) : Prop where
  distinct : registry.Distinct
  install_new : ∀ provider : SecurityProvider,
    provider.name ∉ registry.providers.map SecurityProvider.name →
      registry.install provider = (true, ⟨registry.providers ++ [provider]⟩)
  install_taken : ∀ provider : SecurityProvider,
    provider.name ∈ registry.providers.map SecurityProvider.name →
      registry.install provider = (false, registry)
  remove_taken : ∀ name ∈ registry.providers.map SecurityProvider.name,
    ∃ before provider after, registry.providers = before ++ provider :: after ∧
      provider.name = name ∧ registry.remove name = (true, ⟨before ++ after⟩)
  remove_absent : ∀ name, name ∉ registry.providers.map SecurityProvider.name →
    registry.remove name = (false, registry)

theorem install_of_new {provider : SecurityProvider} (h : registry.has provider.name = false) :
    registry.install provider = (true, ⟨registry.providers ++ [provider]⟩) := by
  rw [install, h]
  rfl

theorem install_of_taken {provider : SecurityProvider} (h : registry.has provider.name = true) :
    registry.install provider = (false, registry) := by
  rw [install, if_pos h]

theorem remove_of_absent {name : String} (h : registry.has name = false) :
    registry.remove name = (false, registry) := by
  have hkeep : ∀ provider ∈ registry.providers, decide (provider.name ≠ name) = true := by
    intro provider hm
    have hn := List.any_eq_false.mp h provider hm
    simpa using hn
  rw [remove, h, List.filter_eq_self.mpr hkeep]

theorem has_install (provider : SecurityProvider) (name : String) :
    (registry.install provider).2.has name = (decide (provider.name = name) || registry.has name) := by
  cases hh : registry.has provider.name with
  | true =>
    rw [install_of_taken hh]
    by_cases hn : provider.name = name
    · simp [← hn, hh]
    · simp [hn]
  | false =>
    rw [install_of_new hh, has, List.any_append, Bool.or_comm]
    simp [has]

theorem has_remove (removed name : String) :
    (registry.remove removed).2.has name = (!decide (removed = name) && registry.has name) := by
  have hiff : (registry.remove removed).2.has name = true ↔
      removed ≠ name ∧ registry.has name = true := by
    rw [has_iff, has_iff, remove]
    simp only [List.mem_map, List.mem_filter, decide_eq_true_eq]
    constructor
    · rintro ⟨provider, ⟨hm, hne⟩, rfl⟩
      exact ⟨hne.symm, provider, hm, rfl⟩
    · rintro ⟨hne, provider, hm, rfl⟩
      exact ⟨provider, ⟨hm, hne.symm⟩, rfl⟩
  rw [Bool.eq_iff_iff, hiff]
  simp

/-- No other provider has the name, so the removal takes this one alone. -/
theorem Distinct.remove_append_cons {before after : List SecurityProvider}
    {provider : SecurityProvider} (h : Distinct ⟨before ++ provider :: after⟩) :
    ProviderRegistry.remove ⟨before ++ provider :: after⟩ provider.name =
      (true, ⟨before ++ after⟩) := by
  have hhas : has ⟨before ++ provider :: after⟩ provider.name = true :=
    has_iff.mpr (List.mem_map_of_mem (List.mem_append_right before List.mem_cons_self))
  rw [ProviderRegistry.remove, hhas, filter_ne_key_of_nodup h]

theorem Distinct.namesOnce (h : registry.Distinct) : registry.NamesOnce where
  distinct := h
  install_new _ hn := install_of_new (has_eq_false_iff.mpr hn)
  install_taken _ hn := install_of_taken (has_iff.mpr hn)
  remove_taken name hn := by
    obtain ⟨provider, hm, rfl⟩ := List.mem_map.mp hn
    obtain ⟨before, after, hsplit⟩ := List.append_of_mem hm
    obtain ⟨providers⟩ := registry
    subst hsplit
    exact ⟨before, provider, after, rfl, rfl, h.remove_append_cons⟩
  remove_absent _ hn := remove_of_absent (has_eq_false_iff.mpr hn)

end ProviderRegistry

namespace Installation

def installs (registry : RegistryRef) (name : String) : Installation → Bool
  | install changed provider => changed = registry && provider.name = name
  | remove .. => false

def removes (registry : RegistryRef) (name : String) : Installation → Bool
  | install .. => false
  | remove changed removed => changed = registry && removed = name

/-- Whether the name has been installed since it was last removed. -/
def taken (registry : RegistryRef) (history : List Installation) (name : String) : Bool :=
  (history.reverse.takeWhile fun installation => !installation.removes registry name).any
    (installs registry name)

/-- The provider that an installation puts into the registry for good: its name was not taken
before, and is not removed after. -/
def lasting? (registry : RegistryRef) (before after : List Installation) :
    Installation → Option SecurityProvider
  | install changed provider =>
    if changed = registry ∧ taken registry before provider.name = false ∧
        after.any (removes registry provider.name) = false then
      some provider
    else none
  | remove .. => none

/-- The providers that a history puts into the registry for good, in the order of these installations;
`before` is what has been done already. -/
def lasting (registry : RegistryRef) (before : List Installation) :
    List Installation → List SecurityProvider
  | [] => []
  | installation :: after =>
    (installation.lasting? registry before after).toList ++
      lasting registry (before ++ [installation]) after

variable {registry : RegistryRef} {name : String}

theorem outcome_concat (history : List Installation) (installation : Installation) :
    outcome (history ++ [installation]) = installation.apply (outcome history) := by
  rw [outcome, List.foldl_append]
  rfl

theorem taken_concat (history : List Installation) (installation : Installation) :
    taken registry (history ++ [installation]) name =
      (!installation.removes registry name &&
        (installation.installs registry name || taken registry history name)) := by
  rw [taken, List.reverse_append, List.reverse_singleton, List.singleton_append,
    List.takeWhile_cons]
  cases installation.removes registry name <;> rfl

theorem apply_install_same (installed : RegistryRef → ProviderRegistry)
    (provider : SecurityProvider) :
    (install registry provider).apply installed registry =
      ((installed registry).install provider).2 :=
  Function.update_self ..

theorem apply_remove_same (installed : RegistryRef → ProviderRegistry) (name : String) :
    (remove registry name).apply installed registry = ((installed registry).remove name).2 :=
  Function.update_self ..

theorem apply_install_other {changed : RegistryRef} (h : changed ≠ registry)
    (installed : RegistryRef → ProviderRegistry) (provider : SecurityProvider) :
    (install changed provider).apply installed registry = installed registry :=
  Function.update_of_ne h.symm ..

theorem apply_remove_other {changed : RegistryRef} (h : changed ≠ registry)
    (installed : RegistryRef → ProviderRegistry) (name : String) :
    (remove changed name).apply installed registry = installed registry :=
  Function.update_of_ne h.symm ..

theorem has_apply (installed : RegistryRef → ProviderRegistry) (installation : Installation) :
    (installation.apply installed registry).has name =
      (!installation.removes registry name &&
        (installation.installs registry name || (installed registry).has name)) := by
  cases installation with
  | install changed provider =>
    by_cases hr : changed = registry
    · subst hr
      rw [apply_install_same, ProviderRegistry.has_install]
      simp [installs, removes]
    · rw [apply_install_other hr]
      simp [installs, removes, hr]
  | remove changed removed =>
    by_cases hr : changed = registry
    · subst hr
      rw [apply_remove_same, ProviderRegistry.has_remove]
      simp [installs, removes]
    · rw [apply_remove_other hr]
      simp [installs, removes, hr]

/-- The history alone tells whether a name is taken. -/
theorem has_outcome (history : List Installation) :
    (outcome history registry).has name = taken registry history name := by
  induction history using List.reverseRecOn with
  | nil => rfl
  | append_singleton history installation ih => rw [outcome_concat, has_apply, ih, taken_concat]

/-- What one installation does, seen from the end of the history: of the providers before it those
stay that neither it nor a later removal takes out, and it may add one. -/
theorem providers_concat (before after : List Installation) (installation : Installation) :
    ((outcome (before ++ [installation]) registry).providers.filter fun provider =>
        !after.any (removes registry provider.name)) =
      ((outcome before registry).providers.filter fun provider =>
        !(installation :: after).any (removes registry provider.name)) ++
          (installation.lasting? registry before after).toList := by
  rw [outcome_concat]
  cases installation with
  | install changed provider =>
    by_cases hr : changed = registry
    · subst hr
      rw [apply_install_same]
      cases ht : taken changed before provider.name with
      | true =>
        rw [ProviderRegistry.install_of_taken (has_outcome before ▸ ht)]
        simp [lasting?, removes, ht]
      | false =>
        rw [ProviderRegistry.install_of_new (has_outcome before ▸ ht), List.filter_append]
        cases ha : after.any (removes changed provider.name) <;> simp [lasting?, removes, ht, ha]
    · rw [apply_install_other hr]
      simp [lasting?, removes, hr]
  | remove changed removed =>
    by_cases hr : changed = registry
    · subst hr
      rw [apply_remove_same, ProviderRegistry.remove, List.filter_filter]
      simp [lasting?, removes, eq_comm, Bool.and_comm]
    · rw [apply_remove_other hr]
      simp [lasting?, removes, hr]

theorem providers_foldl (before after : List Installation) :
    (after.foldl apply (outcome before) registry).providers =
      ((outcome before registry).providers.filter fun provider =>
        !after.any (removes registry provider.name)) ++ lasting registry before after := by
  induction after generalizing before with
  | nil => simp [lasting]
  | cons installation after ih =>
    rw [List.foldl_cons, ← outcome_concat, ih, providers_concat, lasting, List.append_assoc]

/-- In a registry stand the providers that its history has put there for good. -/
theorem providers_outcome (registry : RegistryRef) (history : List Installation) :
    (outcome history registry).providers = lasting registry [] history :=
  providers_foldl [] history

end Installation

namespace TrustManagerFactory

variable {env : Environment}

theorem create_platform_eq_ok_iff {manager : Ref .trustManager} :
    platform.create env = .ok manager ↔
      (env.registry .processWide).providers.findSome? SecurityProvider.trustManager =
        some manager := by
  rw [create, ProviderSupplier.providers]
  cases (env.registry .processWide).providers.findSome? SecurityProvider.trustManager <;> simp

theorem create_platform_eq_error_iff :
    platform.create env = .error .noTrustManager ↔
      (env.registry .processWide).providers.findSome? SecurityProvider.trustManager = none := by
  rw [create, ProviderSupplier.providers]
  cases (env.registry .processWide).providers.findSome? SecurityProvider.trustManager <;> simp

end TrustManagerFactory

/-- After any history a registry is an ordered set of names, and has the providers whose installation
lasts, in the order of these installations. The platform's trust manager is at any time the one of the
earliest of them that offers one. -/
theorem namesOnce_of_history (history : List Installation) {env : Environment}
    (he : env.registry = Installation.outcome history) :
    (∀ registry, (env.registry registry).NamesOnce ∧
      (env.registry registry).providers = Installation.lasting registry [] history) ∧
    (∀ manager, TrustManagerFactory.platform.create env = .ok manager ↔
      ∃ before provider after,
        Installation.lasting .processWide [] history = before ++ provider :: after ∧
          provider.trustManager = some manager ∧
            ∀ earlier ∈ before, earlier.trustManager = none) ∧
    (TrustManagerFactory.platform.create env = .error .noTrustManager ↔
      ∀ provider ∈ Installation.lasting .processWide [] history,
        provider.trustManager = none) := by
  rw [he]
  refine ⟨?_, ?_, ?_⟩
  · intro registry
    exact ⟨(Installation.distinct_outcome history registry).namesOnce,
      Installation.providers_outcome registry history⟩
  · intro manager
    rw [TrustManagerFactory.create_platform_eq_ok_iff, he, Installation.providers_outcome,
      List.findSome?_eq_some_iff]
  · rw [TrustManagerFactory.create_platform_eq_error_iff, he, Installation.providers_outcome,
      List.findSome?_eq_none_iff]

/-- The first provider offers no trust manager, a second one of the name of another is turned away, and
what is removed and put back comes last. -/
theorem namesOnce_of_return :
    let provider (index : Nat) (name : String) (manager : Option (Ref .trustManager)) :
      SecurityProvider := ⟨⟨index⟩, name, [], manager⟩
    let history : List Installation := [.install .processWide (provider 0 "plain" none),
      .install .processWide (provider 1 "moved" (some ⟨⟨1⟩⟩)),
      .install (.own ⟨0⟩) (provider 2 "other" (some ⟨⟨2⟩⟩)),
      .install .processWide (provider 3 "kept" (some ⟨⟨3⟩⟩)),
      .install .processWide (provider 4 "kept" (some ⟨⟨4⟩⟩)), .remove .processWide "moved",
      .install .processWide (provider 5 "moved" (some ⟨⟨5⟩⟩))]
    let env : Environment :=
      { (Collaborators.inert : Collaborators Id) with registry := Installation.outcome history }
    env.registry = Installation.outcome history ∧
      (env.registry .processWide).NamesOnce ∧
      (env.registry .processWide).providers = [provider 0 "plain" none,
        provider 3 "kept" (some ⟨⟨3⟩⟩), provider 5 "moved" (some ⟨⟨5⟩⟩)] ∧
      TrustManagerFactory.platform.create env = .ok ⟨⟨3⟩⟩ := by
  intro provider history env
  obtain ⟨hregistry, hmanager, -⟩ :=
    namesOnce_of_history history (show env.registry = Installation.outcome history from rfl)
  obtain ⟨honce, hproviders⟩ := hregistry .processWide
  have hlasting : Installation.lasting .processWide [] history = [provider 0 "plain" none,
      provider 3 "kept" (some ⟨⟨3⟩⟩), provider 5 "moved" (some ⟨⟨5⟩⟩)] := by decide +kernel
  refine ⟨rfl, honce, hproviders.trans hlasting, (hmanager _).mpr ?_⟩
  exact ⟨[provider 0 "plain" none], provider 3 "kept" (some ⟨⟨3⟩⟩),
    [provider 5 "moved" (some ⟨⟨5⟩⟩)], hlasting, rfl, by simp [provider]⟩

end ClientAuth
