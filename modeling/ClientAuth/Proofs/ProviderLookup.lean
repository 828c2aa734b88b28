import ClientAuth.Proofs.FirstPerKey
import ClientAuth.Proofs.Installation
import ClientAuth.Proofs.Selection

/-! Providers from registries. Each call puts another registry before the supplier that is there,
and the nested suppliers come down to one list: what is installed in the registries now, the newest
registry first, then what the supplier has to give by itself, and of each name only the first. -/

namespace ClientAuth

namespace ProviderSupplier

variable {env : Environment} {supplier newer : ProviderSupplier} {registries : List RegistryRef}

/-- What is installed in the registries, one after the other, and then what the supplier has. -/
def contents (env : Environment) (registries : List RegistryRef) (supplier : ProviderSupplier) :
    List SecurityProvider :=
  registries.flatMap (fun registry => (env.registry registry).providers) ++ supplier.providers env

theorem contents_cons (registry : RegistryRef) :
    contents env (registry :: registries) supplier =
      (env.registry registry).providers ++ contents env registries supplier :=
  List.append_assoc ..

/-- The supplier gives the first of each name in the registries and at `supplier`, whatever is
installed. Without a registry it gives what `supplier` gives. -/
def PutsBefore (registries : List RegistryRef) (supplier newest : ProviderSupplier) : Prop :=
  ∀ env, (∀ registry, (env.registry registry).Distinct) →
    newest.providers env = if registries = [] then supplier.providers env
      else firstPerKey SecurityProvider.name (contents env registries supplier)

/-- What is found has each name once. It stands in the order of the contents, and what has a name is
what the newest registry has under that name, or else the supplier. -/
structure FoundIn (env : Environment) (registries : List RegistryRef) (supplier : ProviderSupplier)
    (found : List SecurityProvider) : Prop where
  found_eq : found = firstPerKey SecurityProvider.name (contents env registries supplier)
  sublist : found.Sublist (contents env registries supplier)
  distinct : (found.map SecurityProvider.name).Nodup
  find?_eq : ∀ name, found.find? (fun provider => provider.name = name) =
    (registries.findSome? fun registry =>
      (env.registry registry).providers.find? fun provider => provider.name = name).or
        ((supplier.providers env).find? fun provider => provider.name = name)

theorem foundIn_contents (env : Environment) (registries : List RegistryRef)
    (supplier : ProviderSupplier) :
    FoundIn env registries supplier
      (firstPerKey SecurityProvider.name (contents env registries supplier)) where
  found_eq := rfl
  sublist := firstPerKey_sublist _
  distinct := nodup_map_firstPerKey _
  find?_eq name := by rw [find?_firstPerKey, contents, List.find?_append, List.find?_flatMap]

theorem putsBefore_nil (supplier : ProviderSupplier) : PutsBefore [] supplier supplier :=
  fun _ _ => rfl

theorem PutsBefore.cons (h : PutsBefore registries supplier newer) (registry : RegistryRef)
    (id id' : Identity) :
    PutsBefore (registry :: registries) supplier (chained id (ofRegistry id' registry) newer) := by
  intro env hd
  rw [if_neg (List.cons_ne_nil registry registries)]
  show appendNew (env.registry registry).providers (newer.providers env) = _
  rw [appendNew_eq_firstPerKey (hd registry), h env hd, contents_cons]
  by_cases hr : registries = []
  · rw [if_pos hr, hr]
    rfl
  · rw [if_neg hr]
    exact firstPerKey_append_firstPerKey _ _

end ProviderSupplier

namespace Configuration

/-- The registries that calls have put before the supplier that the configuration started with, the
latest first. A merge takes over what its argument has set up, if anything. -/
inductive Backed : Configuration → ProviderSupplier → List RegistryRef → Prop
  | start {c : Configuration} (hc : c.Reachable) : Backed c c.providerSupplier []
  | useRegistry {c : Configuration} {supplier : ProviderSupplier} {registries : List RegistryRef}
    (h : Backed c supplier registries) (registry : RegistryRef) (next : Nat) :
    Backed ((c.useProvidersFromRegistry registry).run next).1 supplier (registry :: registries)
  | derive {c : Configuration} {supplier : ProviderSupplier} {registries : List RegistryRef}
    (h : Backed c supplier registries) (call : Derivation) (hk : .providers ∉ call.footprint)
    {action : Mint Configuration} (hd : call.derive c = .ok action) (next : Nat) :
    Backed (action.run next).1 supplier registries
  | merge {c other : Configuration} {supplier supplier' : ProviderSupplier}
    {registries registries' : List RegistryRef} (h : Backed c supplier registries)
    (h' : Backed other supplier' registries') (next : Nat) :
    Backed ((c.merge other).run next).1 (if other.hasKind .providers then supplier' else supplier)
      (if other.hasKind .providers then registries' else registries)

variable {c other : Configuration} {supplier : ProviderSupplier} {registries : List RegistryRef}

theorem Backed.lawful (h : c.Backed supplier registries) : c.Lawful := by
  induction h with
  | start hc => exact hc.lawful
  | @useRegistry c _ _ h registry next ih =>
    have hd : (Derivation.useProvidersFromRegistry registry).derive c = .ok _ := rfl
    exact ih.derive hd next
  | derive h call hk hd next ih => exact ih.derive hd next
  | merge h h' next ih ih' => exact ih.merge ih' next

theorem providerSupplier_useProvidersFromRegistry (hs : Settled c.settings)
    (registry : RegistryRef) (next : Nat) :
    ((c.useProvidersFromRegistry registry).run next).1.providerSupplier =
      .chained ⟨next + 1⟩ (.ofRegistry ⟨next⟩ registry) c.providerSupplier := by
  unfold providerSupplier
  rw [show (c.useProvidersFromRegistry registry).run next = (c.overlay (.providers (.chained
    ⟨next + 1⟩ (.ofRegistry ⟨next⟩ registry) c.providerSupplier))).run (next + 2) from rfl,
    settings_overlay hs]
  rfl

theorem providerSupplier_merge (hc : Settled c.settings) (ho : Settled other.settings)
    (next : Nat) : ((c.merge other).run next).1.providerSupplier =
      if other.hasKind .providers then other.providerSupplier else c.providerSupplier := by
  have hk : ¬ SettingKind.providers.IsPersonal := by simp [SettingKind.IsPersonal]
  unfold providerSupplier
  rw [findSome?_merge hc ho hk]
  · split <;> rfl
  · intro setting
    cases setting <;> simp [Setting.kind]

theorem Backed.putsBefore (h : c.Backed supplier registries) :
    ProviderSupplier.PutsBefore registries supplier c.providerSupplier := by
  induction h with
  | start hc => exact ProviderSupplier.putsBefore_nil _
  | useRegistry h registry next ih =>
    rw [providerSupplier_useProvidersFromRegistry h.lawful.settled]
    exact ih.cons registry _ _
  | derive h call hk hd next ih =>
    have hk' := not_mem_touched (by simp [SettingKind.IsPersonal]) hk
    rw [(Derivation.frame h.lawful.settled hd next).providerSupplier hk']
    exact ih
  | @merge c other _ _ _ _ h h' next ih ih' =>
    rw [providerSupplier_merge h.lawful.settled h'.lawful.settled]
    cases other.hasKind .providers with
    | true => exact ih'
    | false => exact ih

end Configuration

/-- Whatever has been installed and removed by the time of the lookup, be it before or after the
configuration was made, the registries that have been added are searched as they are then, the
newest one first, and after them what the configuration searched before. -/
theorem foundIn_of_backed {c : Configuration} {supplier : ProviderSupplier}
    {registries : List RegistryRef} (h : c.Backed supplier registries) (hr : registries ≠ [])
    (history : List Installation) {env : Environment}
    (he : env.registry = Installation.outcome history) :
    ProviderSupplier.FoundIn env registries supplier (c.providerSupplier.providers env) := by
  have hdistinct : ∀ registry, (env.registry registry).Distinct := by
    rw [he]
    exact Installation.distinct_outcome history
  rw [h.putsBefore env hdistinct, if_neg hr]
  exact ProviderSupplier.foundIn_contents env registries supplier

/-- One name is in both registries, another in the older one and at the supplier, and a third has
been removed and put back. -/
theorem foundIn_of_removal :
    let provider (index : Nat) (name : String) : SecurityProvider := ⟨⟨index⟩, name, [], none⟩
    let own : RegistryRef := .own ⟨0⟩
    let fixed : ProviderSupplier := .fixed default [provider 0 "fixed", provider 1 "older"]
    let run := Stock.initial.follow .base [.useProviders (some fixed),
      .useProvidersFromRegistry own, .useHost "localhost", .useProvidersFromRegistry .processWide]
    let history : List Installation := [.install own (provider 2 "both"),
      .install own (provider 3 "older"), .install .processWide (provider 4 "moved"),
      .install .processWide (provider 5 "both"), .remove .processWide "moved",
      .install .processWide (provider 6 "moved"), .install own (provider 7 "both")]
    let env : Environment :=
      { (Collaborators.inert : Collaborators Id) with registry := Installation.outcome history }
    run.2.Backed fixed [.processWide, own] ∧ env.registry = Installation.outcome history ∧
      run.2.providerSupplier.providers env = [provider 5 "both", provider 6 "moved",
        provider 3 "older", provider 0 "fixed"] := by
  intro provider own fixed run history env
  let start := Stock.initial.follow .base [.useProviders (some fixed)]
  have hstart := Stock.reachable_initial.follow Stock.mem_base [.useProviders (some fixed)]
  have hfixed : start.2.Backed fixed [] := .start ⟨start.1, hstart.1, hstart.2.1⟩
  have hown := hfixed.useRegistry own start.1.next
  have hhost := hown.derive (.useHost "localhost") (by decide) rfl
  have hbacked : run.2.Backed fixed [.processWide, own] := (hhost _).useRegistry .processWide _
  have hfound := foundIn_of_backed hbacked (by decide) history
    (show env.registry = Installation.outcome history from rfl)
  exact ⟨hbacked, rfl, hfound.found_eq.trans (by decide +kernel)⟩

end ClientAuth
