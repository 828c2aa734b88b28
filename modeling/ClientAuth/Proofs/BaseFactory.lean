import ClientAuth.Proofs.Delivery
import ClientAuth.Proofs.Effective
import ClientAuth.Proofs.Installation

/-! The factory at the bottom of what a configuration puts together. A chain finds it once and keeps
it, so a supplier of factories runs once for each chain. What is kept without such a supplier is the
way to the providers and not the providers themselves, so installations and removals show. -/

namespace ClientAuth

open MonadAttach (CanReturn)

theorem FactoryCache.get?_put {cache : FactoryCache} {chain sought : Option Identity}
    {factory : BaseFactory} : (cache.put chain factory).get? sought =
      if sought = chain then some factory else cache.get? sought := by
  unfold get? put
  rw [List.lookup_cons]
  by_cases h : sought = chain
  · rw [if_pos h, beq_iff_eq.mpr h]
  · rw [if_neg h, beq_eq_false_iff_ne.mpr h]

variable {m : Type → Type} [Monad m]

namespace Configuration

/-- The supplier that has to run before the chain has its factory, if any. -/
def pending (c : Configuration) (cache : FactoryCache) : Option FactorySupplier :=
  if cache.get? c.head? = none then c.factorySupplier else none

/-- What a call does once it has the factory at the bottom: the operator makes of it what it likes,
and what comes out is asked for a client. -/
def handOver (co : Collaborators m) (c : Configuration) (target : Target) (offered : List String)
    (operator : BaseFactory → m (ClientFactory m)) (cache : FactoryCache) (handed : BaseFactory) :
    m (Except NegotiationError (Option Client) × FactoryCache) := do
  let factory ← operator handed
  return (← factory.receive (c.delivery co target offered), cache)

variable [LawfulMonad m] {co : Collaborators m} {c : Configuration} {target : Target}
  {offered : List String} {operator : BaseFactory → m (ClientFactory m)}
  {cache cache' : FactoryCache} {handed : BaseFactory}

theorem run_baseFactory_of_found (h : cache.get? c.head? = some handed) :
    (c.baseFactory co).run cache = pure (handed, cache) := by
  simp [baseFactory, h]

theorem run_baseFactory_of_new (h : cache.get? c.head? = none) :
    (c.baseFactory co).run cache = do
      let found ← c.findBaseFactory co
      return (found, cache.put c.head? found) := by
  simp [baseFactory, h]

theorem run_createClient : (c.createClient co target offered operator).run cache = (do
    let (handed, cache') ← (c.baseFactory co).run cache
    c.handOver co target offered operator cache' handed) := by
  rw [createClient_eq]
  simp [handOver]

/-- What is known of the cache once a chain has its factory. -/
inductive Finds (c : Configuration) (cache : FactoryCache) (handed : BaseFactory) :
    FactoryCache → Prop
  | kept (h : cache.get? c.head? = some handed) : Finds c cache handed cache
  | found (h : cache.get? c.head? = none)
    (hd : c.factorySupplier = none → handed = .discovered c.providerSupplier) :
    Finds c cache handed (cache.put c.head? handed)

variable [MonadAttach m] [LawfulMonadAttach m]

theorem finds_of_baseFactory (h : CanReturn ((c.baseFactory co).run cache) (handed, cache')) :
    c.Finds cache handed cache' := by
  cases hc : cache.get? c.head? with
  | some known =>
    rw [run_baseFactory_of_found hc] at h
    cases LawfulMonadAttach.eq_of_canReturn_pure h
    exact .kept hc
  | none =>
    rw [run_baseFactory_of_new hc] at h
    obtain ⟨found, hfound, h⟩ := LawfulMonadAttach.canReturn_bind_imp' h
    cases LawfulMonadAttach.eq_of_canReturn_pure h
    refine .found hc fun hnone => ?_
    rw [findBaseFactory, hnone] at hfound
    exact (LawfulMonadAttach.eq_of_canReturn_pure hfound).symm

theorem Finds.get? (h : c.Finds cache handed cache') : cache'.get? c.head? = some handed := by
  cases h with
  | kept h => exact h
  | found h hd => exact FactoryCache.get?_put.trans (if_pos rfl)

theorem Finds.keeps (h : c.Finds cache handed cache') {chain : Option Identity}
    {known : BaseFactory} (hk : cache.get? chain = some known) :
    cache'.get? chain = some known := by
  cases h with
  | kept h => exact hk
  | found hnew hd =>
    have hne : chain ≠ c.head? := by
      rintro rfl
      rw [hnew] at hk
      cases hk
    rw [FactoryCache.get?_put, if_neg hne, hk]

theorem Finds.eq_or_known (h : c.Finds cache handed cache') {chain : Option Identity}
    (hk : cache'.get? chain ≠ none) : chain = c.head? ∨ cache.get? chain ≠ none := by
  cases h with
  | kept h => exact .inr hk
  | found hnew hd =>
    by_cases hc : chain = c.head?
    · exact .inl hc
    · rw [FactoryCache.get?_put, if_neg hc] at hk
      exact .inr hk

theorem exists_baseFactory_of_createClient {answer : Except NegotiationError (Option Client)}
    (h : CanReturn ((c.createClient co target offered operator).run cache) (answer, cache')) :
    ∃ handed, CanReturn ((c.baseFactory co).run cache) (handed, cache') := by
  rw [run_createClient] at h
  obtain ⟨⟨handed, reached⟩, hbase, h⟩ := LawfulMonadAttach.canReturn_bind_imp' h
  obtain ⟨factory, -, h⟩ := LawfulMonadAttach.canReturn_bind_imp' h
  obtain ⟨given, -, h⟩ := LawfulMonadAttach.canReturn_bind_imp' h
  cases LawfulMonadAttach.eq_of_canReturn_pure h
  exact ⟨handed, hbase⟩

end Configuration

theorem Stock.Step.made_subset {stock stock' : Stock} (h : stock.Step stock') :
    stock.made ⊆ stock'.made := by
  cases h with
  | derive hc hd => exact List.subset_cons_self _ _
  | merge hc ho => exact List.subset_cons_self _ _
  | mint hnext => exact List.Subset.refl _

/-- A call for a client: its chain, the factory that it handed to its operator, and the supplier
that it ran for that, if any. -/
structure Call where
  chain : Option Identity
  handed : BaseFactory
  ran : Option FactorySupplier

/-- Configurations, registries, and the calls for clients that have been made so far, the latest
first. -/
structure Session where
  stock : Stock
  registry : RegistryRef → ProviderRegistry
  cache : FactoryCache
  calls : List Call

namespace Session

def initial : Session :=
  ⟨.initial, fun _ => .empty, .empty, []⟩

def record (session : Session) (c : Configuration) (handed : BaseFactory) (cache : FactoryCache) :
    Session :=
  { session with
    cache := cache
    calls := ⟨c.head?, handed, c.pending session.cache⟩ :: session.calls }

/-- Configurations are derived, merged and made, providers come and go, and clients are called for,
each time with collaborators that may behave otherwise than before. -/
inductive Step (m : Type → Type) [Monad m] [MonadAttach m] : Session → Session → Prop
  | stock {session : Session} {stock : Stock} (h : session.stock.Step stock) :
    Step m session { session with stock := stock }
  | registry (session : Session) (installation : Installation) :
    Step m session { session with registry := installation.apply session.registry }
  | call {session : Session} {c : Configuration} {co : Collaborators m} {handed : BaseFactory}
    {cache : FactoryCache} (hc : c ∈ session.stock.made) (hco : co.registry = session.registry)
    (h : CanReturn ((c.baseFactory co).run session.cache) (handed, cache)) :
    Step m session (session.record c handed cache)

def Reachable (m : Type → Type) [Monad m] [MonadAttach m] (session : Session) : Prop :=
  Relation.ReflTransGen (Step m) initial session

/-- The cache holds what calls have handed out, and these were calls on configurations of the
stock. -/
structure Coherent (session : Session) : Prop where
  stock : session.stock.Reachable
  cached : ∀ call ∈ session.calls, session.cache.get? call.chain = some call.handed
  called : ∀ chain, session.cache.get? chain ≠ none → ∃ call ∈ session.calls, call.chain = chain
  made : ∀ call ∈ session.calls, ∃ c ∈ session.stock.made, c.head? = call.chain ∧
    (c.factorySupplier = none → call.handed = .discovered c.providerSupplier)
  once : ∀ chain,
    (session.calls.filter fun call => call.chain = chain ∧ call.ran.isSome).length ≤ 1

variable {session session' : Session} {c : Configuration}

theorem coherent_initial : initial.Coherent where
  stock := .refl
  cached _ hm := absurd hm List.not_mem_nil
  called _ hne := absurd rfl hne
  made _ hm := absurd hm List.not_mem_nil
  once _ := Nat.zero_le 1

theorem Coherent.get?_eq_none_iff (h : session.Coherent) {chain : Option Identity} :
    session.cache.get? chain = none ↔ ∀ call ∈ session.calls, call.chain ≠ chain := by
  constructor
  · rintro hnew call hm rfl
    rw [h.cached call hm] at hnew
    cases hnew
  · intro hc
    by_contra hne
    obtain ⟨call, hm, heq⟩ := h.called chain hne
    exact hc call hm heq

theorem Coherent.eq_discovered (h : session.Coherent) (hc : c ∈ session.stock.made)
    (hnone : c.factorySupplier = none) {call : Call} (hm : call ∈ session.calls)
    (hchain : call.chain = c.head?) : call.handed = .discovered c.providerSupplier := by
  obtain ⟨first, hfirst, hhead, hhanded⟩ := h.made call hm
  -- a chain is one configuration, so what was found for the chain was found for this one
  have hsame : first = c :=
    h.stock.coherent.eq_of_sameChain hfirst hc (decide_eq_true (hhead.trans hchain))
  subst hsame
  exact hhanded hnone

theorem Coherent.eq_discovered_of_finds (h : session.Coherent) (hc : c ∈ session.stock.made)
    {handed : BaseFactory} {cache : FactoryCache} (hf : c.Finds session.cache handed cache)
    (hnone : c.factorySupplier = none) : handed = .discovered c.providerSupplier := by
  cases hf with
  | found hnew hd => exact hd hnone
  | kept hkept =>
    obtain ⟨call, hm, hchain⟩ := h.called c.head? (hkept ▸ Option.some_ne_none handed)
    have hcached := h.cached call hm
    rw [hchain, hkept] at hcached
    rw [Option.some.inj hcached]
    exact h.eq_discovered hc hnone hm hchain

theorem Coherent.length_ran_cons (h : session.Coherent) (handed : BaseFactory)
    (chain : Option Identity) :
    ((⟨c.head?, handed, c.pending session.cache⟩ :: session.calls).filter fun call : Call =>
      call.chain = chain ∧ call.ran.isSome).length ≤ 1 := by
  rw [List.filter_cons]
  split
  · next hcounts =>
    -- a call that runs a supplier is the first call on its chain
    obtain ⟨rfl, hran⟩ := of_decide_eq_true hcounts
    have hnew : session.cache.get? c.head? = none := by
      by_contra hne
      rw [Configuration.pending, if_neg hne] at hran
      cases hran
    have hbefore : (session.calls.filter fun call =>
        call.chain = c.head? ∧ call.ran.isSome) = [] := by
      apply List.filter_eq_nil_iff.mpr
      intro call hm hcall
      exact h.get?_eq_none_iff.mp hnew call hm (of_decide_eq_true hcall).1
    rw [hbefore]
    exact Nat.le_refl 1
  · exact h.once chain

theorem Coherent.record (h : session.Coherent) (hc : c ∈ session.stock.made)
    {handed : BaseFactory} {cache : FactoryCache} (hf : c.Finds session.cache handed cache) :
    (session.record c handed cache).Coherent where
  stock := h.stock
  cached := List.forall_mem_cons.mpr ⟨hf.get?, fun call hm => hf.keeps (h.cached call hm)⟩
  called := by
    intro chain hne
    rcases hf.eq_or_known hne with rfl | hknown
    · exact ⟨_, List.mem_cons_self, rfl⟩
    · obtain ⟨call, hm, heq⟩ := h.called chain hknown
      exact ⟨call, List.mem_cons_of_mem _ hm, heq⟩
  made := List.forall_mem_cons.mpr ⟨⟨c, hc, rfl, h.eq_discovered_of_finds hc hf⟩, h.made⟩
  once := h.length_ran_cons handed

theorem Coherent.derive (h : session.Coherent) {stock : Stock} (hs : session.stock.Step stock) :
    Coherent { session with stock := stock } where
  stock := .tail h.stock hs
  cached := h.cached
  called := h.called
  made call hm := by
    obtain ⟨c, hc, hcall⟩ := h.made call hm
    exact ⟨c, hs.made_subset hc, hcall⟩
  once := h.once

section

variable {m : Type → Type} [Monad m] [LawfulMonad m] [MonadAttach m] [LawfulMonadAttach m]

theorem Step.coherent (hs : Step m session session') (h : session.Coherent) :
    session'.Coherent := by
  cases hs with
  | stock hstep => exact h.derive hstep
  | registry installation => exact ⟨h.stock, h.cached, h.called, h.made, h.once⟩
  | call hc hco hbase => exact h.record hc (Configuration.finds_of_baseFactory hbase)

theorem Reachable.coherent (h : session.Reachable m) : session.Coherent := by
  induction h with
  | refl => exact coherent_initial
  | tail _ hstep ih => exact hstep.coherent ih

end

/-- What the next call does at this point of a run. On a chain that has been called before, it hands
on what was handed on then, and on any other chain it runs the supplier that is in effect there. -/
structure KeepsFactories (m : Type → Type) [Monad m] [MonadAttach m] (session : Session) :
    Prop where
  steps : ∀ c ∈ session.stock.made, ∀ (co : Collaborators m) target offered operator answer cache,
    co.registry = session.registry →
      CanReturn ((c.createClient co target offered operator).run session.cache) (answer, cache) →
        ∃ handed, Step m session (session.record c handed cache)
  again : ∀ call ∈ session.calls, ∀ c : Configuration, c.head? = call.chain →
    ∀ (co : Collaborators m) target offered operator,
      (c.createClient co target offered operator).run session.cache =
        c.handOver co target offered operator session.cache call.handed
  same : ∀ call ∈ session.calls, ∀ call' ∈ session.calls, call.chain = call'.chain →
    call.handed = call'.handed
  once : ∀ chain,
    (session.calls.filter fun call => call.chain = chain ∧ call.ran.isSome).length ≤ 1
  first : ∀ c : Configuration, (∀ call ∈ session.calls, call.chain ≠ c.head?) →
    ∀ supplier, c.factorySupplier = some supplier →
      ∀ (co : Collaborators m) target offered operator,
        (c.createClient co target offered operator).run session.cache = do
          let factory ← supplier.supply co
          c.handOver co target offered operator
            (session.cache.put c.head? (.supplied factory)) (.supplied factory)
  renewed : ∀ derived : Configuration, (∀ c ∈ session.stock.made, c.sameChain derived = false) →
    ∀ call ∈ session.calls, call.chain ≠ derived.head?
  discovers : ∀ c ∈ session.stock.made, c.factorySupplier = none →
    (∀ call ∈ session.calls, call.chain = c.head? → ∀ co : Collaborators m,
      call.handed.clientFactory co = c.providerSupplier.discovery co) ∧
    ∃ handed cache, (∀ (co : Collaborators m) target offered operator,
      (c.createClient co target offered operator).run session.cache =
        c.handOver co target offered operator cache handed) ∧
      ∀ co : Collaborators m, handed.clientFactory co = c.providerSupplier.discovery co

section

variable {m : Type → Type} [Monad m] [LawfulMonad m] {co : Collaborators m} {target : Target}
  {offered : List String} {operator : BaseFactory → m (ClientFactory m)}

theorem Coherent.run_createClient_of_call (h : session.Coherent) {call : Call}
    (hm : call ∈ session.calls) (hc : c.head? = call.chain) :
    (c.createClient co target offered operator).run session.cache =
      c.handOver co target offered operator session.cache call.handed := by
  have hcached := h.cached call hm
  rw [← hc] at hcached
  rw [Configuration.run_createClient, Configuration.run_baseFactory_of_found hcached, pure_bind]

theorem Coherent.run_createClient_of_no_call (h : session.Coherent)
    (hc : ∀ call ∈ session.calls, call.chain ≠ c.head?) :
    (c.createClient co target offered operator).run session.cache = (do
      let found ← c.findBaseFactory co
      c.handOver co target offered operator (session.cache.put c.head? found) found) := by
  have hnew := h.get?_eq_none_iff.mpr hc
  rw [Configuration.run_createClient, Configuration.run_baseFactory_of_new hnew, bind_assoc]
  simp only [pure_bind]

theorem Coherent.exists_discovered (h : session.Coherent) (hc : c ∈ session.stock.made)
    (hnone : c.factorySupplier = none) :
    ∃ cache, ∀ (co : Collaborators m) target offered operator,
      (c.createClient co target offered operator).run session.cache =
        c.handOver co target offered operator cache (.discovered c.providerSupplier) := by
  by_cases hcalled : ∃ call ∈ session.calls, call.chain = c.head?
  · obtain ⟨call, hm, hchain⟩ := hcalled
    refine ⟨session.cache, fun co target offered operator => ?_⟩
    rw [h.run_createClient_of_call hm hchain.symm, h.eq_discovered hc hnone hm hchain]
  · refine ⟨session.cache.put c.head? (.discovered c.providerSupplier), ?_⟩
    intro co target offered operator
    have hnew : ∀ call ∈ session.calls, call.chain ≠ c.head? :=
      fun call hm hchain => hcalled ⟨call, hm, hchain⟩
    rw [h.run_createClient_of_no_call hnew, Configuration.findBaseFactory, hnone]
    exact pure_bind ..

theorem Coherent.keepsFactories [MonadAttach m] [LawfulMonadAttach m] (h : session.Coherent) :
    session.KeepsFactories m where
  steps c hc co target offered operator answer cache hco hr := by
    obtain ⟨handed, hbase⟩ := Configuration.exists_baseFactory_of_createClient hr
    exact ⟨handed, .call hc hco hbase⟩
  again call hm c hc co target offered operator := h.run_createClient_of_call hm hc
  same call hm call' hm' hchain := by
    have hcached := h.cached call hm
    rw [hchain, h.cached call' hm'] at hcached
    exact (Option.some.inj hcached).symm
  once := h.once
  first c hc supplier hsome co target offered operator := by
    rw [h.run_createClient_of_no_call hc, Configuration.findBaseFactory, hsome, bind_assoc]
    simp only [pure_bind]
  renewed derived hnew call hm hchain := by
    obtain ⟨c, hc, hhead, -⟩ := h.made call hm
    have hdiffer := hnew c hc
    rw [Configuration.sameChain, decide_eq_false_iff_not] at hdiffer
    exact hdiffer (hhead.trans hchain)
  discovers c hc hnone := by
    refine ⟨fun call hm hchain co => ?_, .discovered c.providerSupplier, ?_⟩
    · rw [h.eq_discovered hc hnone hm hchain]
      rfl
    · obtain ⟨cache, hrun⟩ := h.exists_discovered (m := m) hc hnone
      exact ⟨cache, hrun, fun _ => rfl⟩

end

end Session

/-- At every point of every run a chain keeps the factory that it has handed on, although its
supplier might by now give another; a chain that is made anew has its own supplier run once more.
Without one, what is kept answers by what is installed whenever it is asked. -/
theorem keepsFactories_of_reachable {m : Type → Type} [Monad m] [LawfulMonad m] [MonadAttach m]
    [LawfulMonadAttach m] {session : Session} (hs : session.Reachable m) :
    session.KeepsFactories m :=
  hs.coherent.keepsFactories

/-- The supplier gives another factory each time it runs. A provider is installed between two calls
on one chain, and a third call is on a chain derived from it. -/
theorem keepsFactories_of_turns :
    let co : Collaborators (StateM Nat) := { (Collaborators.inert : Collaborators (StateM Nat)) with
      supplyFactory := fun _ => modifyGet fun turn => (⟨⟨turn⟩⟩, turn + 1) }
    let supplier : FactorySupplier := .custom default
    let overriding := Stock.initial.follow .base [.useFactorySupplier supplier]
    let derived := overriding.1.follow overriding.2 [.useHost "localhost"]
    let kept := FactoryCache.empty.put overriding.2.head? (.supplied ⟨⟨0⟩⟩)
    let start : Session := ⟨overriding.1, fun _ => .empty, .empty, []⟩
    let called := start.record overriding.2 (.supplied ⟨⟨0⟩⟩) kept
    let installation : Installation := .install .processWide ⟨⟨0⟩, "first", [], none⟩
    let installed : Session := { called with registry := installation.apply called.registry }
    let again := installed.record overriding.2 (.supplied ⟨⟨0⟩⟩) kept
    let session := { again with stock := derived.1 }.record derived.2 (.supplied ⟨⟨1⟩⟩)
      (kept.put derived.2.head? (.supplied ⟨⟨1⟩⟩))
    session.Reachable (StateM Nat) ∧
      session.calls.map Call.ran = [some supplier, none, some supplier] ∧
      (∀ target offered operator,
        (overriding.2.createClient co target offered operator).run session.cache =
          overriding.2.handOver co target offered operator session.cache (.supplied ⟨⟨0⟩⟩)) ∧
      ∀ target offered operator,
        (derived.2.createClient co target offered operator).run session.cache =
          derived.2.handOver co target offered operator session.cache (.supplied ⟨⟨1⟩⟩) := by
  intro co supplier overriding derived kept start called installation installed again session
  let later : Collaborators (StateM Nat) := { co with registry := installed.registry }
  have hmade : overriding.2 ∈ overriding.1.made := List.mem_cons_self
  have hoverride : (Derivation.useFactorySupplier supplier).derive .base = .ok _ := rfl
  have hhost : (Derivation.useHost "localhost").derive overriding.2 = .ok _ := rfl
  have hfirst : CanReturn ((overriding.2.baseFactory co).run start.cache)
      (.supplied ⟨⟨0⟩⟩, kept) :=
    ⟨0, 1, rfl⟩
  have hagain : CanReturn ((overriding.2.baseFactory later).run kept)
      (.supplied ⟨⟨0⟩⟩, kept) := by
    rw [Configuration.run_baseFactory_of_found (FactoryCache.get?_put.trans (if_pos rfl))]
    exact ⟨0, 0, rfl⟩
  have hderived : CanReturn ((derived.2.baseFactory later).run kept)
      (.supplied ⟨⟨1⟩⟩, kept.put derived.2.head? (.supplied ⟨⟨1⟩⟩)) := by
    have hnew : kept.get? derived.2.head? = none := by decide +kernel
    have hsupplier : derived.2.factorySupplier = some supplier := by decide +kernel
    rw [Configuration.run_baseFactory_of_new hnew, Configuration.findBaseFactory, hsupplier]
    exact ⟨1, 2, rfl⟩
  have hcalled : called.Reachable (StateM Nat) :=
    .tail (.tail .refl (.stock (.derive Stock.mem_base hoverride))) (.call hmade rfl hfirst)
  have hinstalled : again.Reachable (StateM Nat) :=
    .tail (.tail hcalled (.registry called installation)) (.call hmade rfl hagain)
  have hreachable : session.Reachable (StateM Nat) :=
    .tail (.tail hinstalled (.stock (.derive hmade hhost)))
      (.call List.mem_cons_self rfl hderived)
  have h := keepsFactories_of_reachable hreachable
  refine ⟨hreachable, by decide +kernel, ?_, ?_⟩
  · exact h.again _ (List.mem_cons_of_mem _ List.mem_cons_self) overriding.2 rfl co
  · exact h.again _ List.mem_cons_self derived.2 rfl co

end ClientAuth
