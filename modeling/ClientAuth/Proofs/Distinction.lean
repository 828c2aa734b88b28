import ClientAuth.Proofs.Acquisition
import ClientAuth.Proofs.Comparison
import ClientAuth.Proofs.Frame

/-! What the answers of a configuration tell about its settings. Most kinds have a query that gives
away their one setting. Of the others, a chain may hold what no query shows. -/

namespace ClientAuth

/-- The settings of the kind are made of what the query reads, and it reads nothing else. -/
structure Setting.Reads {α : Type} (kind : SettingKind) (make : α → Setting)
    (read : Setting → Option α) : Prop where
  some_iff : ∀ setting x, read setting = some x ↔ setting = make x
  kind_iff : ∀ setting, setting.kind = kind ↔ ∃ x, setting = make x

namespace Configuration

variable {a b c : Configuration} {kind : SettingKind} {α : Type} {make : α → Setting}
  {read : Setting → Option α}

theorem told_eq_map (hr : Setting.Reads kind make read) (hc : c.WellFormed)
    (hk : kind ≠ .credentials) :
    c.told kind = ((c.told kind).findSome? read).toList.map make := by
  have hlen := hc.length_told_le hk
  cases htold : c.told kind with
  | nil => rfl
  | cons setting rest =>
    have hrest : rest = [] := by simpa [htold] using hlen
    have hm : setting ∈ c.told kind := by simp [htold]
    obtain ⟨x, rfl⟩ := (hr.kind_iff setting).mp (mem_told.mp hm).2.2
    have hx : read (make x) = some x := (hr.some_iff (make x) x).mpr rfl
    simp [hrest, hx]

theorem told_eq_of_findSome?_eq (hr : Setting.Reads kind make read) (ha : a.WellFormed)
    (hb : b.WellFormed) (hk : kind ≠ .credentials)
    (h : (a.told kind).findSome? read = (b.told kind).findSome? read) :
    a.told kind = b.told kind := by
  rw [told_eq_map hr ha hk, told_eq_map hr hb hk, h]

theorem told_eq_of_answer_eq (make : α → Setting) (hr : Setting.Reads kind make read)
    (ha : a.WellFormed) (hb : b.WellFormed) (hk : kind ≠ .credentials)
    (hnot : ∀ x, (make x).isDefault = false)
    (h : a.settings.findSome? read = b.settings.findSome? read) : a.told kind = b.told kind := by
  have hread : ∀ setting, (read setting).isSome = true →
      setting.kind = kind ∧ setting.isDefault = false := by
    intro setting hs
    obtain ⟨x, hx⟩ := Option.isSome_iff_exists.mp hs
    have hmake := (hr.some_iff setting x).mp hx
    exact ⟨(hr.kind_iff setting).mpr ⟨x, hmake⟩, hmake ▸ hnot x⟩
  apply told_eq_of_findSome?_eq hr ha hb hk
  rw [← List.head?_filterMap, ← List.head?_filterMap, filterMap_told fun setting _ => hread setting,
    filterMap_told fun setting _ => hread setting, List.head?_filterMap, List.head?_filterMap, h]

theorem eq_of_getD_eq {o o' : Option α} {default : α} (h : ∀ x, o = some x → x ≠ default)
    (h' : ∀ x, o' = some x → x ≠ default) (heq : o.getD default = o'.getD default) : o = o' := by
  cases o with
  | none =>
    cases o' with
    | none => rfl
    | some y => exact absurd heq.symm (h' y rfl)
  | some x =>
    cases o' with
    | none => exact absurd heq (h x rfl)
    | some y => exact congrArg some heq

theorem told_eq_of_getD_eq (make : α → Setting) (hr : Setting.Reads kind make read)
    (ha : a.WellFormed) (hb : b.WellFormed) (hk : kind ≠ .credentials) {default : α}
    (hdefault : ∀ x, (make x).isDefault = true → x = default)
    (hother : ∀ x, (make x).Sound → (make x).isDefault = false → x ≠ default)
    (h : (a.settings.findSome? read).getD default = (b.settings.findSome? read).getD default) :
    a.told kind = b.told kind := by
  have hread : ∀ setting, (read setting).isSome = true →
      setting.kind = kind ∧ (setting.isDefault = true → read setting = some default) := by
    intro setting hs
    obtain ⟨x, hx⟩ := Option.isSome_iff_exists.mp hs
    obtain rfl := (hr.some_iff setting x).mp hx
    exact ⟨(hr.kind_iff _).mpr ⟨x, rfl⟩, fun hd => hdefault x hd ▸ hx⟩
  have hvalue : ∀ {c : Configuration}, c.WellFormed → ∀ x,
      (c.told kind).findSome? read = some x → x ≠ default := by
    intro c hc x hx
    obtain ⟨setting, hm, hs⟩ := List.exists_of_findSome?_eq_some hx
    obtain ⟨hm, hd, -⟩ := mem_told.mp hm
    obtain rfl := (hr.some_iff setting x).mp hs
    exact hother x (hc.sound _ hm) hd
  rw [← ha.findSome?_getD_told hk hread, ← hb.findSome?_getD_told hk hread] at h
  exact told_eq_of_findSome?_eq hr ha hb hk (eq_of_getD_eq (hvalue ha) (hvalue hb) h)

/-- The settings of a kind with a query of its own follow from the answers. -/
theorem told_eq_of_sameAnswers {m : Type → Type} [Monad m] {co : Collaborators m}
    (h : SameAnswers co a b) (ha : a.WellFormed) (hb : b.WellFormed) (hi : kind ≠ .identity)
    (hc : kind ≠ .credentials) : a.told kind = b.told kind := by
  have hfilter : a.mechanismFilter = b.mechanismFilter :=
    Prod.ext h.allowedMechanisms h.deniedMechanisms
  refine match kind, hi, hc with
    | .identity, hi, _ => absurd rfl hi
    | .credentials, _, hc => absurd rfl hc
    | .authorizationName, _, hc =>
      told_eq_of_answer_eq .authorizationName ?_ ha hb hc (fun _ => rfl) h.authorizationName
    | .host, _, hc => told_eq_of_answer_eq .host ?_ ha hb hc (fun _ => rfl) h.host
    | .protocol, _, hc => told_eq_of_answer_eq .protocol ?_ ha hb hc (fun _ => rfl) h.protocol
    | .port, _, hc => told_eq_of_answer_eq .port ?_ ha hb hc (fun _ => rfl) h.port
    | .keyManager, _, hc =>
      told_eq_of_answer_eq .keyManager ?_ ha hb hc (fun _ => rfl) h.keyManagerFactory
    | .clientFactory, _, hc =>
      told_eq_of_answer_eq .clientFactory ?_ ha hb hc (fun _ => rfl) h.factorySupplier
    | .forward, _, hc =>
      told_eq_of_answer_eq .forward ?_ ha hb hc (fun _ => rfl) h.forwardedIdentity
    | .realm, _, hc => told_eq_of_answer_eq .realm ?_ ha hb hc (fun _ => rfl) h.realm
    | .callbackHandler, _, hc =>
      told_eq_of_answer_eq .callbackHandler ?_ ha hb hc (fun _ => rfl) h.callbackHandler
    | .nameMapping, _, hc =>
      told_eq_of_getD_eq .nameMapping ?_ ha hb hc (by simp [Setting.isDefault])
        (by simp [Setting.isDefault]) h.nameMapping
    | .trustManager, _, hc =>
      told_eq_of_getD_eq .trustManager ?_ ha hb hc (by simp [Setting.isDefault])
        (by simp [Setting.isDefault]) h.trustManagerFactory
    | .tlsProtocols, _, hc =>
      told_eq_of_getD_eq .tlsProtocols ?_ ha hb hc (by simp [Setting.isDefault])
        (by simp [Setting.isDefault]) h.protocolSelector
    | .tlsCipherSuites, _, hc =>
      told_eq_of_getD_eq .tlsCipherSuites ?_ ha hb hc (by simp [Setting.isDefault])
        (by simp [Setting.isDefault]) h.cipherSuiteSelector
    | .providers, _, hc =>
      told_eq_of_getD_eq .providers ?_ ha hb hc (by simp [Setting.isDefault])
        (by simp [Setting.isDefault]) h.providerSupplier
    | .choice, _, hc =>
      told_eq_of_getD_eq .choice ?_ ha hb hc (by simp [Setting.isDefault])
        (by simp [Setting.isDefault]) h.choiceOperation
    | .mechanismFilter, _, hc =>
      told_eq_of_getD_eq (fun filter => .mechanismFilter filter.1 filter.2) ?_ ha hb hc
        (fun _ => nofun) (by rintro _ ⟨-, hx⟩ - rfl; cases hx) hfilter
    | .mechanismProperties, _, hc =>
      told_eq_of_getD_eq .mechanismProperties ?_ ha hb hc (fun _ => nofun)
        (by rintro _ hx - rfl; cases hx) h.mechanismProperties
    | .parameterSpecs, _, hc =>
      told_eq_of_getD_eq .parameterSpecs ?_ ha hb hc (fun _ => nofun)
        (fun _ hx _ => hx.1) h.parameterSpecs
  -- Each of these queries takes the one value out of the settings of its kind.
  all_goals
    constructor <;> intro setting <;> cases setting <;> simp [Setting.kind, eq_comm]

theorem WellFormed.told_eq_singleton (hc : c.WellFormed) (hk : kind ≠ .credentials)
    {setting : Setting} (hm : setting ∈ c.told kind) : c.told kind = [setting] := by
  have hone : (c.told kind).length = 1 :=
    Nat.le_antisymm (hc.length_told_le hk) (List.length_pos_of_mem hm)
  obtain ⟨other, ho⟩ := List.length_eq_one_iff.mp hone
  rw [ho, List.mem_singleton] at hm
  rw [ho, hm]

theorem WellFormed.told_identity (hc : c.WellFormed) {principal : Principal}
    (hm : .identity principal ∈ c.settings) (env : Environment) :
    c.told .identity = [.identity (c.principal env)] := by
  have hsingle : c.told .identity = [.identity principal] :=
    hc.told_eq_singleton (by decide) (mem_told.mpr ⟨hm, rfl, rfl⟩)
  have hprincipal : c.principal env = principal := by
    unfold Configuration.principal
    cases hf : c.settings.findSome? _ with
    | none => cases List.findSome?_eq_none_iff.mp hf _ hm
    | some answer =>
      obtain ⟨setting, hs, hr⟩ := List.exists_of_findSome?_eq_some hf
      cases setting with
      | identity other =>
        have hin : .identity other ∈ c.told .identity := mem_told.mpr ⟨hs, rfl, rfl⟩
        rw [hsingle, List.mem_singleton] at hin
        cases hin
        cases hr
        rfl
      | forward forwarded =>
        -- None is forwarded beside an identity that is set.
        have hhas : c.hasKind .identity = true := hasKind_iff.mpr ⟨_, hm, rfl⟩
        have hnone := (hc.exclusive (hasKind_iff.mpr ⟨_, hs, rfl⟩)).1
        rw [hhas] at hnone
        cases hnone
      | _ => cases hr
  rw [hsingle, hprincipal]

theorem mem_identity_of_hasKind (h : c.hasKind .identity = true) :
    ∃ principal, .identity principal ∈ c.settings := by
  obtain ⟨setting, hm, hk⟩ := hasKind_iff.mp h
  cases setting with
  | identity principal => exact ⟨principal, hm⟩
  | _ => cases hk

theorem told_eq_nil_of_hasKind (h : c.hasKind kind = false) : c.told kind = [] := by
  apply List.filter_eq_nil_iff.mpr
  intro setting hm hs
  simp only [Bool.and_eq_true, decide_eq_true_eq] at hs
  exact kind_ne_of_hasKind h hm hs.2

theorem told_identity_eq (ha : a.WellFormed) (hb : b.WellFormed)
    (hk : a.hasKind .identity = b.hasKind .identity) {env : Environment}
    (h : a.principal env = b.principal env) : a.told .identity = b.told .identity := by
  cases hi : b.hasKind .identity with
  | true =>
    obtain ⟨_, hm⟩ := mem_identity_of_hasKind (hk.trans hi)
    obtain ⟨_, hm'⟩ := mem_identity_of_hasKind hi
    rw [ha.told_identity hm env, hb.told_identity hm' env, h]
  | false => rw [told_eq_nil_of_hasKind (hk.trans hi), told_eq_nil_of_hasKind hi]

theorem WellFormed.told_credentials (hc : c.WellFormed) :
    c.told .credentials = c.settings.filter fun setting => setting.kind = .credentials := by
  apply List.filter_congr
  intro setting hm
  by_cases hk : setting.kind = .credentials
  · simp [hk, hc.isDefault_eq_false hm (.inr (.inr hk))]
  · simp [hk]

theorem stackSources_of_kind_eq {older newer : Credential} (h : older.kind = newer.kind)
    (below : List CredentialSource) :
    stackSources (.held (CredentialSet.empty.insert newer) ::
        .held (CredentialSet.empty.insert older) :: below) =
      stackSources (.held (CredentialSet.empty.insert newer) :: below) := by
  have hunion : (CredentialSet.empty.insert newer).union (CredentialSet.empty.insert older) =
      CredentialSet.empty.insert newer := by
    apply CredentialSet.union_eq_self
    intro credential hm
    obtain rfl : credential = older := List.mem_singleton.mp hm
    rw [CredentialSet.contains_insert, decide_eq_true h.symm, Bool.true_or]
  rw [stackSources_cons, stackSources_cons, List.foldl_cons, CredentialSource.held_orElse_held,
    hunion]

end Configuration

namespace SameAnswers

variable {m : Type → Type} [Monad m] {co : Collaborators m} {a b : Configuration}

theorem of_frame (h : Frame [.credentials] b a)
    (hsource : a.credentialSource co.toEnvironment = b.credentialSource co.toEnvironment)
    (hsupports : ∀ mechanism, a.supportsMechanism co.toEnvironment mechanism =
      b.supportsMechanism co.toEnvironment mechanism) : SameAnswers co a b := by
  have hprincipal := h.principal (by decide) (by decide) co.toEnvironment
  have hmapping := h.nameMapping (by decide)
  have hrealm := h.realm (by decide)
  have hchoice := h.choiceOperation (by decide)
  exact
    { principal := hprincipal
      authorizationName := h.authorizationName (by decide)
      credentialSource := hsource
      nameMapping := hmapping
      host := h.host (by decide)
      protocol := h.protocol (by decide)
      port := h.port (by decide)
      trustManagerFactory := h.trustManagerFactory (by decide)
      keyManagerFactory := h.keyManagerFactory (by decide)
      protocolSelector := h.protocolSelector (by decide)
      cipherSuiteSelector := h.cipherSuiteSelector (by decide)
      providerSupplier := h.providerSupplier (by decide)
      factorySupplier := h.factorySupplier (by decide)
      allowedMechanisms := h.allowedMechanisms (by decide)
      deniedMechanisms := h.deniedMechanisms (by decide)
      mechanismProperties := h.mechanismProperties (by decide)
      parameterSpecs := h.parameterSpecs (by decide)
      choiceOperation := hchoice
      forwardedIdentity := h.forwardedIdentity (by decide)
      realm := hrealm
      callbackHandler := h.callbackHandler (by decide)
      supportsMechanism := hsupports
      answer := Configuration.answer_congr hprincipal hmapping hsource hrealm hchoice }

/-- Credentials without which the joined credentials are the same, and every mechanism that they
serve is served, show in no answer. -/
theorem of_ignored {upper below : List Setting} {source : CredentialSource}
    (ha : a.settings = upper ++ .credentials source :: below) (hb : b.settings = upper ++ below)
    (hsource : a.credentialSource co.toEnvironment = b.credentialSource co.toEnvironment)
    (hserved : ∀ mechanism,
      (Setting.credentials source).supports co.toEnvironment mechanism = true →
        upper.any (Setting.supports co.toEnvironment mechanism) = true) : SameAnswers co a b := by
  have hframe : Frame [.credentials] b a :=
    .of_filter (by simp [ha, hb, List.filter_append, Setting.kind])
  refine .of_frame hframe hsource ?_
  intro mechanism
  simp only [Configuration.supportsMechanism, ha, hb, List.any_append, List.any_cons,
    List.all_append, List.all_cons, Setting.allows, Bool.true_and]
  cases hs : (Setting.credentials source).supports co.toEnvironment mechanism with
  | false => rw [Bool.false_or]
  | true => simp only [hserved mechanism hs, Bool.true_or]

end SameAnswers

namespace Configuration

variable {c : Configuration} {older newer : Credential}

theorem settings_useCredential_twice (hs : Settled c.settings) (older newer : Credential)
    (next : Nat) :
    ((do (← c.useCredential older).useCredential newer : Mint Configuration).run next).1.settings =
      [.credentials (.held (CredentialSet.empty.insert newer))] ++
        .credentials (.held (CredentialSet.empty.insert older)) ::
          c.settings.filter fun lower => lower.kind ∉ SettingKind.credentials.displaces := by
  have hover := hs.overlay (.credentials (.held (CredentialSet.empty.insert older))) next
  simp only [Mint.run_bind, useCredential, settings_overlay hover, settings_overlay hs,
    List.filter_cons, List.filter_filter, Setting.kind]
  simp [SettingKind.displaces]

/-- Under a newer one of its kind a credential shows in no answer. -/
theorem sameAnswers_of_kind_eq {m : Type → Type} [Monad m] (co : Collaborators m)
    (hs : Settled c.settings) (h : older.kind = newer.kind) (next next' : Nat) :
    SameAnswers co ((do (← c.useCredential older).useCredential newer : Mint Configuration).run
      next).1 ((c.useCredential newer).run next').1 := by
  have hboth := settings_useCredential_twice hs older newer next
  have hnewer := settings_overlay hs (.credentials (.held (CredentialSet.empty.insert newer))) next'
  refine SameAnswers.of_ignored hboth hnewer ?_ ?_
  · unfold credentialSource
    rw [hboth, useCredential, hnewer]
    exact stackSources_of_kind_eq h _
  · intro mechanism hserved
    simpa [Setting.supports, CredentialSource.mayProvide, CredentialSet.contains_insert, h]
      using hserved

theorem told_useCredential_twice_ne (hs : Settled c.settings) (older newer : Credential)
    (next next' : Nat) :
    ((do (← c.useCredential older).useCredential newer : Mint Configuration).run next).1.told
        .credentials ≠ ((c.useCredential newer).run next').1.told .credentials := by
  have hboth := settings_useCredential_twice hs older newer next
  have hnewer := settings_overlay hs (.credentials (.held (CredentialSet.empty.insert newer))) next'
  unfold told
  rw [hboth, useCredential, hnewer]
  exact fun heq => List.cons_ne_self _ _ (List.cons.inj heq).2

end Configuration

/-- Two configurations are equal if and only if all answers of theirs are the same, both set an
identity or neither does, and they stack the same credentials. -/
theorem isEqual_iff_sameAnswers {stock : Stock} (hs : stock.Reachable) {a b : Configuration}
    (ha : a ∈ stock.made) (hb : b ∈ stock.made) {hash : Canonical → UInt64} {cache : DigestCache}
    (hr : cache.Reached hash stock.made) :
    ((a.isEqual hash b).run cache).1 = true ↔
      (∀ (m : Type → Type) [Monad m] (co : Collaborators m), SameAnswers co a b) ∧
        a.hasKind .identity = b.hasKind .identity ∧
        a.settings.filter (fun setting => setting.kind = .credentials) =
          b.settings.filter (fun setting => setting.kind = .credentials) := by
  have hwa := (hs.coherent.lawful a ha).wellFormed
  have hwb := (hs.coherent.lawful b hb).wellFormed
  rw [hs.isEqual_iff ha hb hr]
  constructor
  · intro h
    have halike : Configuration.Alike a b := ⟨hwa, hwb, h⟩
    refine ⟨fun m _ co => .of_alike co halike, ?_, ?_⟩
    · exact halike.any_eq fun setting hk => by cases setting <;> simp [Setting.kind] at hk; rfl
    · rw [← hwa.told_credentials, ← hwb.told_credentials, h]
  · rintro ⟨hsame, hidentity, hstack⟩ kind
    have hsame := hsame Id .inert
    by_cases hi : kind = .identity
    · subst hi
      exact Configuration.told_identity_eq hwa hwb hidentity hsame.principal
    · by_cases hc : kind = .credentials
      · subst hc
        rw [hwa.told_credentials, hwb.told_credentials, hstack]
      · exact Configuration.told_eq_of_sameAnswers hsame hwa hwb hi hc

theorem isEqual_iff_sameAnswers_of_reordering :
    let first := Stock.initial.follow .base [.useAnonymous, .useBearerToken ⟨"token"⟩]
    let second := first.1.follow .base
      [.useTrustManager none, .useBearerToken ⟨"token"⟩, .useAnonymous]
    second.1.Reachable ∧ first.2 ∈ second.1.made ∧ second.2 ∈ second.1.made ∧
      first.2.settings ≠ second.2.settings ∧
      ((first.2.isEqual (fun _ => 0) second.2).run .empty).1 = true ∧
      ∀ (m : Type → Type) [Monad m] (co : Collaborators m), SameAnswers co first.2 second.2 := by
  intro first second
  have h := Stock.reachable_initial.follow Stock.mem_base
    [.useAnonymous, .useBearerToken ⟨"token"⟩]
  have h' := h.1.follow (h.2.2 Stock.mem_base)
    [.useTrustManager none, .useBearerToken ⟨"token"⟩, .useAnonymous]
  have hfirst := h'.2.2 h.2.1
  have heq : ((first.2.isEqual (fun _ => 0) second.2).run .empty).1 = true := by decide +kernel
  exact ⟨h'.1, hfirst, h'.2.1, by decide +kernel, heq,
    ((isEqual_iff_sameAnswers h'.1 hfirst h'.2.1 .empty).mp heq).1⟩

theorem sameAnswers_not_isEqual_of_tokens :
    let first := Stock.initial.follow .base [.useBearerToken ⟨"old"⟩, .useBearerToken ⟨"new"⟩]
    let second := first.1.follow .base [.useBearerToken ⟨"new"⟩]
    second.1.Reachable ∧ first.2 ∈ second.1.made ∧ second.2 ∈ second.1.made ∧
      (∀ (m : Type → Type) [Monad m] (co : Collaborators m), SameAnswers co first.2 second.2) ∧
      ∀ hash cache, ((first.2.isEqual hash second.2).run cache).1 = false := by
  intro first second
  have h := Stock.reachable_initial.follow Stock.mem_base
    [.useBearerToken ⟨"old"⟩, .useBearerToken ⟨"new"⟩]
  have h' := h.1.follow (h.2.2 Stock.mem_base) [.useBearerToken ⟨"new"⟩]
  have hfirst := h'.2.2 h.2.1
  have hkind : (Credential.bearerToken ⟨"old"⟩).kind = (Credential.bearerToken ⟨"new"⟩).kind := rfl
  refine ⟨h'.1, hfirst, h'.2.1, ?_, ?_⟩
  · intro m _ co
    exact Configuration.sameAnswers_of_kind_eq co Configuration.lawful_base.settled hkind _ _
  · intro hash cache
    apply Bool.eq_false_iff.mpr
    intro heq
    exact Configuration.told_useCredential_twice_ne Configuration.lawful_base.settled _ _ _ _
      (h'.1.told_eq hfirst h'.2.1 heq .credentials)

end ClientAuth
