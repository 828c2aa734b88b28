import Mathlib.Data.List.Basic
import ClientAuth.Proofs.Delivery
import ClientAuth.Proofs.Effective

/-! Queries see of two chains that tell the same settings the same. Most read one kind only, where a
setting that restates a default answers as none; the others read kinds that exclude each other. -/

namespace ClientAuth

structure SameAnswers {m : Type → Type} [Monad m] (co : Collaborators m) (a b : Configuration) :
    Prop where
  principal : a.principal co.toEnvironment = b.principal co.toEnvironment
  authorizationName : a.authorizationName = b.authorizationName
  credentialSource : a.credentialSource co.toEnvironment = b.credentialSource co.toEnvironment
  nameMapping : a.nameMapping = b.nameMapping
  host : a.host = b.host
  protocol : a.protocol = b.protocol
  port : a.port = b.port
  trustManagerFactory : a.trustManagerFactory = b.trustManagerFactory
  keyManagerFactory : a.keyManagerFactory = b.keyManagerFactory
  protocolSelector : a.protocolSelector = b.protocolSelector
  cipherSuiteSelector : a.cipherSuiteSelector = b.cipherSuiteSelector
  providerSupplier : a.providerSupplier = b.providerSupplier
  factorySupplier : a.factorySupplier = b.factorySupplier
  allowedMechanisms : a.allowedMechanisms = b.allowedMechanisms
  deniedMechanisms : a.deniedMechanisms = b.deniedMechanisms
  mechanismProperties : a.mechanismProperties = b.mechanismProperties
  parameterSpecs : a.parameterSpecs = b.parameterSpecs
  choiceOperation : a.choiceOperation = b.choiceOperation
  forwardedIdentity : a.forwardedIdentity = b.forwardedIdentity
  realm : a.realm = b.realm
  callbackHandler : a.callbackHandler = b.callbackHandler
  supportsMechanism : ∀ mechanism, a.supportsMechanism co.toEnvironment mechanism =
    b.supportsMechanism co.toEnvironment mechanism
  answer : ∀ callback, a.answer co callback = b.answer co callback

theorem CredentialSource.mayProvide_of_isNone {source : CredentialSource} (h : source.isNone = true)
    (kind : CredentialKind) : source.mayProvide kind = false := by
  cases source <;> simp [isNone, CredentialSet.isEmpty] at h
  simp [mayProvide, CredentialSet.contains, CredentialSet.get?, h]

theorem Setting.isDefault_eq_false_of_supports {env : Environment} {mechanism : String}
    {setting : Setting} (h : setting.supports env mechanism = true) :
    setting.isDefault = false := by
  cases setting with
  | credentials source =>
    apply Bool.eq_false_iff.mpr
    intro hn
    simp [supports, CredentialSource.mayProvide_of_isNone hn] at h
  | _ => first | rfl | simp [supports] at h

theorem Setting.isDefault_eq_false_of_forbids {mechanism : String} {setting : Setting}
    (h : setting.allows mechanism = false) : setting.isDefault = false := by
  cases setting <;> first | rfl | simp [allows] at h

namespace Configuration

variable {a b c : Configuration} {kind : SettingKind} {α : Type} {read : Setting → Option α}

theorem filterMap_filter_of_isSome {settings : List Setting} {keep : Setting → Bool}
    (h : ∀ setting ∈ settings, (read setting).isSome = true → keep setting = true) :
    (settings.filter keep).filterMap read = settings.filterMap read := by
  rw [List.filterMap_filter]
  apply List.filterMap_congr
  intro setting hm
  by_cases hk : keep setting = true
  · rw [if_pos hk]
  · rw [if_neg hk]
    cases hr : read setting with
    | none => rfl
    | some x => exact absurd (h setting hm (by rw [hr]; rfl)) hk

theorem filterMap_told
    (h : ∀ setting ∈ c.settings, (read setting).isSome = true →
      setting.kind = kind ∧ setting.isDefault = false) :
    (c.told kind).filterMap read = c.settings.filterMap read := by
  apply filterMap_filter_of_isSome
  intro setting hm hr
  simp [h setting hm hr]

theorem findSome?_getD_filter {settings : List Setting} (hlen : settings.length ≤ 1) {default : α}
    (hd : ∀ setting, (read setting).isSome = true → setting.isDefault = true →
      read setting = some default) :
    ((settings.filter fun setting => !setting.isDefault).findSome? read).getD default =
      (settings.findSome? read).getD default := by
  match settings, hlen with
  | [], _ => rfl
  | [setting], _ =>
    by_cases hdef : setting.isDefault = true
    · cases hr : read setting with
      | none => simp [hdef, hr]
      | some x =>
        have hx := hd setting (by rw [hr]; rfl) hdef
        simp [hdef, hx]
    · simp [hdef]

theorem WellFormed.findSome?_getD_told (hc : c.WellFormed) (hk : kind ≠ .credentials) {default : α}
    (hread : ∀ setting, (read setting).isSome = true →
      setting.kind = kind ∧ (setting.isDefault = true → read setting = some default)) :
    ((c.told kind).findSome? read).getD default = (c.settings.findSome? read).getD default := by
  have hsingle := hc.single kind hk
  rw [told_eq_filter, findSome?_getD_filter hsingle fun setting hr => (hread setting hr).2,
    ← List.head?_filterMap, ← List.head?_filterMap, filterMap_filter_of_isSome]
  intro setting _ hr
  simpa using (hread setting hr).1

theorem WellFormed.findSome?_getD_congr (ha : a.WellFormed) (hb : b.WellFormed)
    (hk : kind ≠ .credentials) {default : α}
    (hread : ∀ setting, (read setting).isSome = true →
      setting.kind = kind ∧ (setting.isDefault = true → read setting = some default))
    (h : a.told kind = b.told kind) :
    (a.settings.findSome? read).getD default = (b.settings.findSome? read).getD default := by
  rw [← ha.findSome?_getD_told hk hread, ← hb.findSome?_getD_told hk hread, h]

theorem WellFormed.isDefault_eq_false (hc : c.WellFormed) {setting : Setting}
    (hm : setting ∈ c.settings)
    (hk : setting.kind = .forward ∨ setting.kind = .identity ∨ setting.kind = .credentials) :
    setting.isDefault = false := by
  cases setting <;> simp [Setting.kind] at hk
  · rfl
  · exact hc.sound _ hm
  · rfl

/-- Well formed chains that hold the same settings but for defaults. -/
structure Alike (a b : Configuration) : Prop where
  left : a.WellFormed
  right : b.WellFormed
  told : ∀ kind, a.told kind = b.told kind

namespace Alike

theorem symm (h : Alike a b) : Alike b a :=
  ⟨h.right, h.left, fun kind => (h.told kind).symm⟩

theorem findSome?_eq (h : Alike a b) (kind : SettingKind)
    (hread : ∀ setting, (read setting).isSome = true →
      setting.kind = kind ∧ setting.isDefault = false) :
    a.settings.findSome? read = b.settings.findSome? read := by
  rw [← List.head?_filterMap, ← List.head?_filterMap,
    ← filterMap_told fun setting _ hr => hread setting hr,
    ← filterMap_told fun setting _ hr => hread setting hr, h.told kind]

theorem findSome?_getD_eq (h : Alike a b) (kind : SettingKind) (hk : kind ≠ .credentials)
    {default : α} (hread : ∀ setting, (read setting).isSome = true →
      setting.kind = kind ∧ (setting.isDefault = true → read setting = some default)) :
    (a.settings.findSome? read).getD default = (b.settings.findSome? read).getD default :=
  h.left.findSome?_getD_congr h.right hk hread (h.told kind)

theorem any_eq (h : Alike a b) {p : Setting → Bool}
    (hp : ∀ setting, p setting = true → setting.isDefault = false) :
    a.settings.any p = b.settings.any p := by
  have himp : ∀ {c d : Configuration}, Alike c d → c.settings.any p = true →
      d.settings.any p = true := by
    intro c d hcd hc
    obtain ⟨setting, hm, hs⟩ := List.any_eq_true.mp hc
    have htold := mem_told.mpr ⟨hm, hp setting hs, rfl⟩
    rw [hcd.told] at htold
    exact List.any_eq_true.mpr ⟨setting, (mem_told.mp htold).1, hs⟩
  exact Bool.eq_iff_iff.mpr ⟨himp h, himp h.symm⟩

theorem all_eq (h : Alike a b) {p : Setting → Bool}
    (hp : ∀ setting, p setting = false → setting.isDefault = false) :
    a.settings.all p = b.settings.all p := by
  rw [List.all_eq_not_any_not, List.all_eq_not_any_not, h.any_eq]
  intro setting hn
  exact hp setting (by simpa using hn)

theorem hasKind_forward_eq (h : Alike a b) : a.hasKind .forward = b.hasKind .forward :=
  h.any_eq fun setting hk => by cases setting <;> simp [Setting.kind] at hk; rfl

/-- What reads a forwarded identity and a kind that it excludes reads only one of the two. -/
theorem filterMap_eq (h : Alike a b) (hk : kind = .identity ∨ kind = .credentials)
    (hread : ∀ setting, (read setting).isSome = true →
      setting.kind = .forward ∨ setting.kind = kind) :
    a.settings.filterMap read = b.settings.filterMap read := by
  have hsole : ∀ c : Configuration, c.WellFormed → ∀ setting ∈ c.settings,
      (read setting).isSome = true →
        setting.kind = (if c.hasKind .forward then .forward else kind) ∧
          setting.isDefault = false := by
    intro c hc setting hm hr
    have hkind := hread setting hr
    have hnot : setting.isDefault = false := by
      apply hc.isDefault_eq_false hm
      rcases hk with rfl | rfl
      · exact hkind.imp_right .inl
      · exact hkind.imp_right .inr
    refine ⟨?_, hnot⟩
    by_cases hf : c.hasKind .forward = true
    · rw [if_pos hf]
      rcases hkind with hkind | hkind
      · exact hkind
      · have hhas : c.hasKind kind = true := hasKind_iff.mpr ⟨setting, hm, hkind⟩
        have hex := hc.exclusive hf
        rcases hk with rfl | rfl
        · simp [hhas] at hex
        · simp [hhas] at hex
    · rw [if_neg hf]
      rcases hkind with hkind | hkind
      · exact absurd (hasKind_iff.mpr ⟨setting, hm, hkind⟩) hf
      · exact hkind
  rw [← filterMap_told (hsole a h.left), ← filterMap_told (hsole b h.right), h.told,
    h.hasKind_forward_eq]

variable {m : Type → Type} [Monad m]

theorem principal_eq (h : Alike a b) (env : Environment) : a.principal env = b.principal env := by
  unfold principal
  rw [← List.head?_filterMap, ← List.head?_filterMap, h.filterMap_eq (.inl rfl)]
  intro setting hr
  cases setting <;> simp [Setting.kind] at hr ⊢

theorem credentialSource_eq (h : Alike a b) (env : Environment) :
    a.credentialSource env = b.credentialSource env := by
  unfold credentialSource
  rw [h.filterMap_eq (.inr rfl)]
  intro setting hr
  cases setting <;> simp [Setting.kind, source?] at hr ⊢

theorem supportsMechanism_eq (h : Alike a b) (env : Environment) (mechanism : String) :
    a.supportsMechanism env mechanism = b.supportsMechanism env mechanism := by
  unfold supportsMechanism
  rw [h.any_eq fun setting => Setting.isDefault_eq_false_of_supports,
    h.all_eq fun setting => Setting.isDefault_eq_false_of_forbids]

end Alike

theorem answer_congr {m : Type → Type} [Monad m] {co : Collaborators m}
    (hprincipal : a.principal co.toEnvironment = b.principal co.toEnvironment)
    (hmapping : a.nameMapping = b.nameMapping)
    (hsource : a.credentialSource co.toEnvironment = b.credentialSource co.toEnvironment)
    (hrealm : a.realm = b.realm) (hchoice : a.choiceOperation = b.choiceOperation)
    (callback : Callback) : a.answer co callback = b.answer co callback := by
  cases callback with
  | name callback => simp only [answer, answerName, hprincipal, hmapping]
  | password callback => simp only [answer, answerPassword, acquire, hsource]
  | credential callback => simp only [answer, answerCredential, acquire, hsource]
  | realm callback => simp only [answer, answerRealm, hrealm]
  | choice callback => simp only [answer, answerChoice, realmIndex, hchoice, hrealm]

end Configuration

namespace SameAnswers

variable {m : Type → Type} [Monad m] {co : Collaborators m} {a b : Configuration}

theorem of_alike (co : Collaborators m) (h : Configuration.Alike a b) : SameAnswers co a b := by
  have hmapping : a.nameMapping = b.nameMapping :=
    h.findSome?_getD_eq .nameMapping (by decide) ?_
  have hfilter : a.mechanismFilter = b.mechanismFilter :=
    h.findSome?_getD_eq .mechanismFilter (by decide) ?_
  have hchoice : a.choiceOperation = b.choiceOperation :=
    h.findSome?_getD_eq .choice (by decide) ?_
  have hrealm : a.realm = b.realm := h.findSome?_eq .realm ?_
  refine
    { principal := h.principal_eq co.toEnvironment
      authorizationName := h.findSome?_eq .authorizationName ?_
      credentialSource := h.credentialSource_eq co.toEnvironment
      nameMapping := hmapping
      host := h.findSome?_eq .host ?_
      protocol := h.findSome?_eq .protocol ?_
      port := h.findSome?_eq .port ?_
      trustManagerFactory := h.findSome?_getD_eq .trustManager (by decide) ?_
      keyManagerFactory := h.findSome?_eq .keyManager ?_
      protocolSelector := h.findSome?_getD_eq .tlsProtocols (by decide) ?_
      cipherSuiteSelector := h.findSome?_getD_eq .tlsCipherSuites (by decide) ?_
      providerSupplier := h.findSome?_getD_eq .providers (by decide) ?_
      factorySupplier := h.findSome?_eq .clientFactory ?_
      allowedMechanisms := congrArg Prod.fst hfilter
      deniedMechanisms := congrArg Prod.snd hfilter
      mechanismProperties := h.findSome?_getD_eq .mechanismProperties (by decide) ?_
      parameterSpecs := h.findSome?_getD_eq .parameterSpecs (by decide) ?_
      choiceOperation := hchoice
      forwardedIdentity := h.findSome?_eq .forward ?_
      realm := hrealm
      callbackHandler := h.findSome?_eq .callbackHandler ?_
      supportsMechanism := h.supportsMechanism_eq co.toEnvironment
      answer := Configuration.answer_congr (h.principal_eq co.toEnvironment) hmapping
        (h.credentialSource_eq co.toEnvironment) hrealm hchoice }
  -- Each of these queries reads its own kind only, and a default as the answer to none.
  all_goals
    intro setting hr
    cases setting <;> simp [Setting.kind, Setting.isDefault] at hr ⊢

theorem respond_eq (h : SameAnswers co a b) (callbacks : List Callback) :
    a.respond co callbacks = b.respond co callbacks := by
  induction callbacks with
  | nil => rfl
  | cons callback rest ih => simp only [Configuration.respond, h.answer, ih]

theorem responder_eq (h : SameAnswers co a b) : a.responder co = b.responder co := by
  simp only [Configuration.responder, h.callbackHandler]
  split
  · rfl
  · funext callbacks
    exact h.respond_eq callbacks

theorem delivery_eq (h : SameAnswers co a b) (target : Target) (offered : List String) :
    a.delivery co target offered = b.delivery co target offered := by
  have hfilter : a.filterMechanisms co.toEnvironment offered =
      b.filterMechanisms co.toEnvironment offered := by
    simp only [Configuration.filterMechanisms, funext h.supportsMechanism]
  simp only [Configuration.delivery, Configuration.delivered, hfilter, h.responder_eq,
    h.authorizationName, h.protocol, h.host, h.mechanismProperties]

end SameAnswers

/-- Configurations that compare equal cannot be told apart: every query and every callback has the
same answer, and the factory that an operator gives is asked for the same client. -/
theorem sameAnswers_of_isEqual {stock : Stock} (hs : stock.Reachable) {a b : Configuration}
    (ha : a ∈ stock.made) (hb : b ∈ stock.made) {hash : Canonical → UInt64} {cache : DigestCache}
    (h : ((a.isEqual hash b).run cache).1 = true) {m : Type → Type} [Monad m]
    (co : Collaborators m) :
    SameAnswers co a b ∧ ∀ target offered, ∃ delivery : Delivery m,
      ∀ operator : BaseFactory → m (ClientFactory m),
        a.createClient co target offered operator = (do
          let factory ← operator (← a.baseFactory co)
          factory.receive delivery) ∧
        b.createClient co target offered operator = (do
          let factory ← operator (← b.baseFactory co)
          factory.receive delivery) := by
  have hlawful := hs.coherent.lawful
  have hsame : SameAnswers co a b := .of_alike co
    ⟨(hlawful a ha).wellFormed, (hlawful b hb).wellFormed, hs.told_eq ha hb h⟩
  refine ⟨hsame, ?_⟩
  intro target offered
  refine ⟨a.delivery co target offered, ?_⟩
  intro operator
  refine ⟨a.createClient_eq co target offered operator, ?_⟩
  rw [hsame.delivery_eq]
  exact b.createClient_eq co target offered operator

theorem sameAnswers_of_reordering :
    let first := Stock.initial.follow .base
      [.useName "alice", .useTrustManager none, .useHost "localhost"]
    let second := first.1.follow .base [.useHost "localhost", .useName "alice"]
    second.1.Reachable ∧ first.2 ∈ second.1.made ∧ second.2 ∈ second.1.made ∧
      first.2.settings ≠ second.2.settings ∧
      ((first.2.isEqual (fun _ => 0) second.2).run .empty).1 = true ∧
      SameAnswers (.inert : Collaborators Id) first.2 second.2 := by
  intro first second
  have h := Stock.reachable_initial.follow Stock.mem_base
    [.useName "alice", .useTrustManager none, .useHost "localhost"]
  have h' := h.1.follow (h.2.2 Stock.mem_base) [.useHost "localhost", .useName "alice"]
  have hfirst := h'.2.2 h.2.1
  have heq : ((first.2.isEqual (fun _ => 0) second.2).run .empty).1 = true := by decide +kernel
  exact ⟨h'.1, hfirst, h'.2.1, by decide +kernel, heq,
    (sameAnswers_of_isEqual h'.1 hfirst h'.2.1 heq .inert).1⟩

end ClientAuth
