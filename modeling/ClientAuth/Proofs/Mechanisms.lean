import ClientAuth.Proofs.Overlay

/-! Which mechanisms a configuration supports. The settings have their say one by one, none of them
with a look at the others; all together they say what the queries answer. -/

namespace ClientAuth

theorem CredentialSource.mayProvide_orElse (first second : CredentialSource)
    (kind : CredentialKind) :
    (first.orElse second).mayProvide kind = (first.mayProvide kind || second.mayProvide kind) := by
  unfold orElse
  by_cases hs : second.isNone = true
  · rw [if_pos hs, mayProvide_of_isNone hs, Bool.or_false]
  · by_cases hf : first.isNone = true
    · rw [if_neg hs, if_pos hf, mayProvide_of_isNone hf, Bool.false_or]
    · rw [if_neg hs, if_neg hf]
      split
      · exact CredentialSet.contains_union _ _ kind
      · rfl

/-- A setting that adds to the credentials serves what can do with them. -/
theorem Setting.supports_of_source? {env : Environment} {setting : Setting}
    {source : CredentialSource} (h : Configuration.source? env setting = some source)
    (mechanism : String) :
    setting.supports env mechanism =
      (Mechanism.credentialKinds mechanism).any (source.mayProvide ·) := by
  cases setting with
  | credentials own =>
    cases h
    rfl
  | forward forwarded =>
    simp only [Configuration.source?, Option.map_eq_some_iff] at h
    obtain ⟨identity, hi, rfl⟩ := h
    simp only [supports, hi]
    rfl
  | _ => cases h

namespace Configuration

variable {c : Configuration} {env : Environment} {mechanism : String}

theorem mayProvide_stackSources (sources : List CredentialSource) (kind : CredentialKind) :
    (stackSources sources).mayProvide kind = sources.any fun source => source.mayProvide kind := by
  have hfold : ∀ first : CredentialSource, (sources.foldl CredentialSource.orElse first).mayProvide
      kind = (first.mayProvide kind || sources.any fun source => source.mayProvide kind) := by
    induction sources with
    | nil => simp
    | cons source rest ih =>
      intro first
      rw [List.foldl_cons, ih, CredentialSource.mayProvide_orElse, List.any_cons, Bool.or_assoc]
  rw [stackSources, hfold]
  exact Bool.false_or _

/-- Of the kinds that do not stack a well formed chain has one setting at most. -/
theorem WellFormed.eq_of_kind_eq (hc : c.WellFormed) {setting setting' : Setting}
    (hm : setting ∈ c.settings) (hm' : setting' ∈ c.settings) (hk : setting.kind = setting'.kind)
    (hn : setting'.kind ≠ .credentials) : setting = setting' := by
  have hmem : setting ∈ c.settings.filter fun lower => lower.kind = setting'.kind :=
    List.mem_filter.mpr ⟨hm, decide_eq_true hk⟩
  have hmem' : setting' ∈ c.settings.filter fun lower => lower.kind = setting'.kind :=
    List.mem_filter.mpr ⟨hm', decide_eq_true rfl⟩
  have hsingle := hc.single setting'.kind hn
  generalize c.settings.filter (fun lower => lower.kind = setting'.kind) = sames at *
  match sames, hsingle with
  | [only], _ => rw [List.mem_singleton.mp hmem, List.mem_singleton.mp hmem']

theorem WellFormed.findSome?_eq_some (hc : c.WellFormed) {α : Type} {read : Setting → Option α}
    {setting : Setting} (hm : setting ∈ c.settings) (hn : setting.kind ≠ .credentials)
    (hread : ∀ other, (read other).isSome = true → other.kind = setting.kind) {x : α}
    (hs : read setting = some x) : c.settings.findSome? read = some x := by
  cases hf : c.settings.findSome? read with
  | none =>
    rw [List.findSome?_eq_none_iff.mp hf setting hm] at hs
    cases hs
  | some y =>
    obtain ⟨other, ho, hy⟩ := List.exists_of_findSome?_eq_some hf
    have heq := hc.eq_of_kind_eq ho hm (hread other (by rw [hy]; rfl)) hn
    rw [← hy, ← hs, heq]

theorem mem_settings_of_mechanismFilter (c : Configuration) :
    c.mechanismFilter = (.empty, .empty) ∨
      .mechanismFilter c.allowedMechanisms c.deniedMechanisms ∈ c.settings := by
  unfold allowedMechanisms deniedMechanisms mechanismFilter
  cases hf : c.settings.findSome? _ with
  | none => exact .inl rfl
  | some filter =>
    obtain ⟨setting, hm, hs⟩ := List.exists_of_findSome?_eq_some hf
    cases setting <;> simp at hs
    subst hs
    exact .inr hm

theorem WellFormed.mechanismFilter_eq (hc : c.WellFormed) {allowed denied : NameSet}
    (h : .mechanismFilter allowed denied ∈ c.settings) : c.mechanismFilter = (allowed, denied) := by
  unfold mechanismFilter
  rw [hc.findSome?_eq_some h nofun (x := (allowed, denied))]
  · rfl
  · intro setting hr
    cases setting <;> simp [Setting.kind] at hr ⊢
  · rfl

theorem mayProvide_credentialSource_iff {kind : CredentialKind} :
    (c.credentialSource env).mayProvide kind = true ↔
      ∃ setting ∈ c.settings, ∃ source, source? env setting = some source ∧
        source.mayProvide kind = true := by
  rw [credentialSource, mayProvide_stackSources, List.any_eq_true]
  constructor
  · rintro ⟨source, hm, hs⟩
    obtain ⟨setting, hm, hsource⟩ := List.mem_filterMap.mp hm
    exact ⟨setting, hm, source, hsource, hs⟩
  · rintro ⟨setting, hm, source, hsource, hs⟩
    exact ⟨source, List.mem_filterMap.mpr ⟨setting, hm, hsource⟩, hs⟩

/-- The settings that have to do with credentials serve a mechanism, each tested on its own, exactly if
the credentials that they make up together can. -/
theorem exists_supports_iff_mayProvide (env : Environment) (mechanism : String) :
    (∃ setting ∈ c.settings, (setting.kind = .credentials ∨ setting.kind = .forward) ∧
        setting.supports env mechanism = true) ↔
      ∃ kind ∈ Mechanism.credentialKinds mechanism,
        (c.credentialSource env).mayProvide kind = true := by
  constructor
  · rintro ⟨setting, hm, hkind, hs⟩
    obtain ⟨source, hsource⟩ : ∃ source, source? env setting = some source := by
      cases setting with
      | credentials source => exact ⟨source, rfl⟩
      | forward forwarded =>
        cases hi : forwarded.identity env with
        | none => simp [Setting.supports, hi] at hs
        | some identity => exact ⟨.held identity.credentials, by rw [source?, hi]; rfl⟩
      | _ => simp [Setting.kind] at hkind
    rw [Setting.supports_of_source? hsource] at hs
    obtain ⟨kind, hk, hprovide⟩ := List.any_eq_true.mp hs
    exact ⟨kind, hk, mayProvide_credentialSource_iff.mpr ⟨setting, hm, source, hsource, hprovide⟩⟩
  · rintro ⟨kind, hk, hprovide⟩
    obtain ⟨setting, hm, source, hsource, hs⟩ := mayProvide_credentialSource_iff.mp hprovide
    refine ⟨setting, hm, ?_, ?_⟩
    · cases setting <;> simp [source?, Setting.kind] at hsource ⊢
    · rw [Setting.supports_of_source? hsource]
      exact List.any_eq_true.mpr ⟨kind, hk, hs⟩

/-- What the settings can serve between them. -/
theorem WellFormed.any_supports_iff (hc : c.WellFormed) (env : Environment) (mechanism : String) :
    c.settings.any (Setting.supports env mechanism) = true ↔
      mechanism ∈ c.allowedMechanisms ∨ c.callbackHandler.isSome = true ∨
        (mechanism = Mechanism.external ∧ c.keyManagerFactory.isSome = true) ∨
        (mechanism = Mechanism.anonymous ∧ .identity .anonymous ∈ c.settings) ∨
        ∃ kind ∈ Mechanism.credentialKinds mechanism,
          (c.credentialSource env).mayProvide kind = true := by
  rw [← exists_supports_iff_mayProvide]
  rw [List.any_eq_true]
  constructor
  · rintro ⟨setting, hm, hs⟩
    cases setting with
    | identity principal =>
      cases principal with
      | anonymous => exact .inr (.inr (.inr (.inl ⟨of_decide_eq_true hs, hm⟩)))
      | named name => cases hs
    | keyManager factory =>
      have hk : c.keyManagerFactory.isSome = true :=
        List.findSome?_isSome_iff.mpr ⟨_, hm, rfl⟩
      exact .inr (.inr (.inl ⟨of_decide_eq_true hs, hk⟩))
    | mechanismFilter allowed denied =>
      rw [allowedMechanisms, hc.mechanismFilter_eq hm]
      exact .inl (of_decide_eq_true hs)
    | callbackHandler handler =>
      exact .inr (.inl (List.findSome?_isSome_iff.mpr ⟨_, hm, rfl⟩))
    | credentials source => exact .inr (.inr (.inr (.inr ⟨_, hm, .inl rfl, hs⟩)))
    | forward forwarded => exact .inr (.inr (.inr (.inr ⟨_, hm, .inr rfl, hs⟩)))
    | _ => cases hs
  · rintro (hallowed | hhandler | ⟨rfl, hmanager⟩ | ⟨rfl, hanonymous⟩ | ⟨setting, hm, -, hs⟩)
    · rcases c.mem_settings_of_mechanismFilter with he | hm
      · rw [allowedMechanisms, he] at hallowed
        exact absurd hallowed List.not_mem_nil
      · exact ⟨_, hm, decide_eq_true hallowed⟩
    · obtain ⟨setting, hm, hs⟩ := List.findSome?_isSome_iff.mp hhandler
      refine ⟨setting, hm, ?_⟩
      cases setting <;> simp [Setting.supports] at hs ⊢
    · obtain ⟨setting, hm, hs⟩ := List.findSome?_isSome_iff.mp hmanager
      refine ⟨setting, hm, ?_⟩
      cases setting <;> simp [Setting.supports] at hs ⊢
    · exact ⟨_, hanonymous, by simp [Setting.supports]⟩
    · exact ⟨setting, hm, hs⟩

/-- What none of the settings forbids. -/
theorem WellFormed.all_allows_iff (hc : c.WellFormed) (mechanism : String) :
    c.settings.all (Setting.allows mechanism) = true ↔
      mechanism ∉ c.deniedMechanisms ∧
        ¬(mechanism = Mechanism.anonymous ∧ ∃ name, .identity (.named name) ∈ c.settings) := by
  rw [List.all_eq_true]
  constructor
  · intro h
    constructor
    · intro hdenied
      rcases c.mem_settings_of_mechanismFilter with he | hm
      · rw [deniedMechanisms, he] at hdenied
        exact absurd hdenied List.not_mem_nil
      · exact of_decide_eq_true (h _ hm) hdenied
    · rintro ⟨rfl, name, hm⟩
      have hallows := h _ hm
      simp [Setting.allows] at hallows
  · rintro ⟨hdenied, hanonymous⟩ setting hm
    cases setting with
    | identity principal =>
      cases principal with
      | anonymous => rfl
      | named name => exact decide_eq_true fun he => hanonymous ⟨he, name, hm⟩
    | mechanismFilter allowed denied =>
      rw [deniedMechanisms, hc.mechanismFilter_eq hm] at hdenied
      exact decide_eq_true hdenied
    | _ => rfl

theorem WellFormed.supportsMechanism_iff (hc : c.WellFormed) (env : Environment)
    (mechanism : String) :
    c.supportsMechanism env mechanism = true ↔
      (mechanism = Mechanism.localUser ∨ mechanism ∈ c.allowedMechanisms ∨
        c.callbackHandler.isSome = true ∨
        (mechanism = Mechanism.external ∧ c.keyManagerFactory.isSome = true) ∨
        (mechanism = Mechanism.anonymous ∧ .identity .anonymous ∈ c.settings) ∨
        ∃ kind ∈ Mechanism.credentialKinds mechanism,
          (c.credentialSource env).mayProvide kind = true) ∧
      mechanism ∉ c.deniedMechanisms ∧
        ¬(mechanism = Mechanism.anonymous ∧ ∃ name, .identity (.named name) ∈ c.settings) := by
  rw [supportsMechanism, Bool.and_eq_true, Bool.or_eq_true, decide_eq_true_eq,
    hc.any_supports_iff, hc.all_allows_iff]
  exact and_congr_left' or_comm

/-- An identity is named by a setting, or by whom a forwarded identity turns out to be. -/
theorem mem_settings_of_principal {name : PrincipalName} (h : c.principal env = .named name) :
    .identity (.named name) ∈ c.settings ∨ c.hasKind .forward = true := by
  unfold Configuration.principal at h
  cases hf : c.settings.findSome? _ with
  | none =>
    rw [hf] at h
    cases h
  | some principal =>
    rw [hf] at h
    cases h
    obtain ⟨setting, hm, hs⟩ := List.exists_of_findSome?_eq_some hf
    cases setting with
    | identity principal =>
      cases hs
      exact .inl hm
    | forward forwarded => exact .inr (hasKind_iff.mpr ⟨_, hm, rfl⟩)
    | _ => cases hs

end Configuration

/-- A mechanism is supported if it needs nothing, is allowed, or can be served with what the queries
answer, and neither the filter nor a name that is set refuses it. The settings that have to do with
credentials agree, each tested on its own, with the credentials that callbacks are answered from. -/
theorem supportsMechanism_iff_answers {stock : Stock} (hs : stock.Reachable) {c : Configuration}
    (hc : c ∈ stock.made) (env : Environment) (mechanism : String) :
    (c.supportsMechanism env mechanism = true ↔
      (mechanism = Mechanism.localUser ∨ mechanism ∈ c.allowedMechanisms ∨
        c.callbackHandler.isSome = true ∨
        (mechanism = Mechanism.external ∧ c.keyManagerFactory.isSome = true) ∨
        (mechanism = Mechanism.anonymous ∧ .identity .anonymous ∈ c.settings) ∨
        ∃ kind ∈ Mechanism.credentialKinds mechanism,
          (c.credentialSource env).mayProvide kind = true) ∧
      mechanism ∉ c.deniedMechanisms ∧
        ¬(mechanism = Mechanism.anonymous ∧ ∃ name, .identity (.named name) ∈ c.settings)) ∧
      ((∃ setting ∈ c.settings, (setting.kind = .credentials ∨ setting.kind = .forward) ∧
          setting.supports env mechanism = true) ↔
        ∃ kind ∈ Mechanism.credentialKinds mechanism,
          (c.credentialSource env).mayProvide kind = true) :=
  ⟨(hs.coherent.lawful c hc).wellFormed.supportsMechanism_iff env mechanism,
    Configuration.exists_supports_iff_mayProvide env mechanism⟩

theorem supportsMechanism_iff_answers_of_forwarding :
    let env := { (Collaborators.inert : Collaborators Id).toEnvironment with
      currentIdentity := fun _ _ => some ⟨.named ⟨"alice"⟩, ⟨[.password ⟨"secret"⟩]⟩⟩ }
    let run := Stock.initial.follow .empty [.useForwardedIdentity default default,
      .useKeyManager (some default), .forbidMechanisms [Mechanism.scramSha1]]
    run.1.Reachable ∧ run.2 ∈ run.1.made ∧
      run.2.supportsMechanism env Mechanism.plain = true ∧
      run.2.supportsMechanism env Mechanism.scramSha1 = false ∧
      run.2.supportsMechanism env Mechanism.external = false := by
  intro env run
  have h := Stock.reachable_initial.follow Stock.mem_empty [.useForwardedIdentity default default,
    .useKeyManager (some default), .forbidMechanisms [Mechanism.scramSha1]]
  have hiff := fun mechanism => (supportsMechanism_iff_answers h.1 h.2.1 env mechanism).1
  have hdenied : Mechanism.scramSha1 ∈ run.2.deniedMechanisms ∧
      Mechanism.external ∈ run.2.deniedMechanisms := by decide +kernel
  have hrefused : ∀ mechanism ∈ run.2.deniedMechanisms,
      run.2.supportsMechanism env mechanism = false := by
    intro mechanism hd
    apply Bool.eq_false_iff.mpr
    exact fun hs => ((hiff mechanism).mp hs).2.1 hd
  refine ⟨h.1, h.2.1, ?_, hrefused _ hdenied.1, hrefused _ hdenied.2⟩
  apply (hiff Mechanism.plain).mpr
  refine ⟨.inr (.inr (.inr (.inr (.inr ⟨.password, by decide +kernel, by decide +kernel⟩)))),
    by decide +kernel, ?_⟩
  rintro ⟨hplain, -⟩
  exact absurd hplain (by decide)

/-- A client that a setting names never negotiates anonymously. One that is named by a forwarded
identity does: the setting that forwards it forbids nothing, whoever it is. -/
theorem supports_anonymous_iff_of_named {stock : Stock} (hs : stock.Reachable) {c : Configuration}
    (hc : c ∈ stock.made) {env : Environment} {name : PrincipalName}
    (hp : c.principal env = .named name) :
    c.supportsMechanism env Mechanism.anonymous = true ↔
      c.hasKind .forward = true ∧
        (Mechanism.anonymous ∈ c.allowedMechanisms ∨ c.callbackHandler.isSome = true) ∧
        Mechanism.anonymous ∉ c.deniedMechanisms := by
  have hwf := (hs.coherent.lawful c hc).wellFormed
  have hkinds : Mechanism.credentialKinds Mechanism.anonymous = [] := by decide
  have hserves : c.settings.any (Setting.supports env Mechanism.anonymous) = true ↔
      Mechanism.anonymous ∈ c.allowedMechanisms ∨ c.callbackHandler.isSome = true ∨
        .identity .anonymous ∈ c.settings := by
    rw [hwf.any_supports_iff, hkinds]
    simp [Mechanism.anonymous, Mechanism.external]
  have hpasses : c.settings.all (Setting.allows Mechanism.anonymous) = true ↔
      Mechanism.anonymous ∉ c.deniedMechanisms ∧ ¬∃ name, .identity (.named name) ∈ c.settings := by
    rw [hwf.all_allows_iff]
    simp
  have hlocal : (Mechanism.anonymous = Mechanism.localUser) = False := by decide
  rw [Configuration.supportsMechanism, Bool.and_eq_true, Bool.or_eq_true, decide_eq_true_eq,
    hserves, hpasses, hlocal, or_false]
  -- A setting that names the client refuses. Where an identity is forwarded there is no such setting.
  cases hf : c.hasKind .forward with
  | true =>
    have hnone : ∀ principal, .identity principal ∉ c.settings := by
      intro principal hm
      exact Configuration.kind_ne_of_hasKind (hwf.exclusive hf).1 hm rfl
    simp [hnone]
  | false =>
    have hnamed : .identity (.named name) ∈ c.settings := by
      rcases Configuration.mem_settings_of_principal hp with hm | hforward
      · exact hm
      · rw [hf] at hforward
        cases hforward
    constructor
    · rintro ⟨-, -, hnot⟩
      exact absurd ⟨name, hnamed⟩ hnot
    · rintro ⟨hforward, -⟩
      cases hforward

theorem supports_anonymous_iff_of_name :
    let env := { (Collaborators.inert : Collaborators Id).toEnvironment with
      currentIdentity := fun _ _ => some ⟨.named ⟨"alice"⟩, .empty⟩ }
    let named := Stock.initial.follow .empty
      [.useName "alice", .allowMechanisms [Mechanism.anonymous], .useCallbackHandler default]
    let forwarding := Stock.initial.follow .empty
      [.useForwardedIdentity default default, .useCallbackHandler default]
    named.1.Reachable ∧ named.2 ∈ named.1.made ∧
      named.2.principal env = .named ⟨"alice"⟩ ∧
      named.2.supportsMechanism env Mechanism.anonymous = false ∧
      forwarding.1.Reachable ∧ forwarding.2 ∈ forwarding.1.made ∧
      forwarding.2.principal env = .named ⟨"alice"⟩ ∧
      forwarding.2.supportsMechanism env Mechanism.anonymous = true := by
  intro env named forwarding
  have h := Stock.reachable_initial.follow Stock.mem_empty
    [.useName "alice", .allowMechanisms [Mechanism.anonymous], .useCallbackHandler default]
  have h' := Stock.reachable_initial.follow Stock.mem_empty
    [.useForwardedIdentity default default, .useCallbackHandler default]
  have hp : named.2.principal env = .named ⟨"alice"⟩ := by decide +kernel
  have hp' : forwarding.2.principal env = .named ⟨"alice"⟩ := by decide +kernel
  have hiff := supports_anonymous_iff_of_named h.1 h.2.1 hp
  have hiff' := supports_anonymous_iff_of_named h'.1 h'.2.1 hp'
  refine ⟨h.1, h.2.1, hp, ?_, h'.1, h'.2.1, hp', hiff'.mpr (by decide +kernel)⟩
  apply Bool.eq_false_iff.mpr
  intro hs
  have hforward : named.2.hasKind .forward = false := by decide +kernel
  rw [(hiff.mp hs).1] at hforward
  cases hforward

/-- A forwarded client goes by a name and would yet negotiate anonymously, once that is allowed. -/
theorem supports_anonymous_of_forwarding :
    let env := { (Collaborators.inert : Collaborators Id).toEnvironment with
      currentIdentity := fun _ _ => some ⟨.named ⟨"alice"⟩, .empty⟩ }
    let run := Stock.initial.follow .base
      [.useForwardedIdentity default default, .allowMechanisms [Mechanism.anonymous]]
    run.1.Reachable ∧ run.2 ∈ run.1.made ∧ run.2.principal env = .named ⟨"alice"⟩ ∧
      run.2.supportsMechanism env Mechanism.anonymous = true ∧
      run.2.filterMechanisms env [Mechanism.anonymous] = [Mechanism.anonymous] := by
  intro env run
  have h := Stock.reachable_initial.follow Stock.mem_base
    [.useForwardedIdentity default default, .allowMechanisms [Mechanism.anonymous]]
  exact ⟨h.1, h.2.1, by decide +kernel, by decide +kernel, by decide +kernel⟩

end ClientAuth
