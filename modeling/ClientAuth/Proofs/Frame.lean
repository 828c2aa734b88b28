import ClientAuth.Configuration.Mechanisms
import ClientAuth.Proofs.Observation

/-! What a change of a chain leaves as it was. A query depends on the settings of the kinds that it
reads, and on the order of no others. -/

namespace ClientAuth

/-- Only queries that read settings of the touched kinds answer otherwise than before. -/
structure Frame (touched : List SettingKind) (c after : Configuration) : Prop where
  hasKind : ∀ kind, kind ∉ touched → after.hasKind kind = c.hasKind kind
  principal : .identity ∉ touched → .forward ∉ touched → ∀ env,
    after.principal env = c.principal env
  authorizationName : .authorizationName ∉ touched → after.authorizationName = c.authorizationName
  credentialSource : .credentials ∉ touched → .forward ∉ touched → ∀ env,
    after.credentialSource env = c.credentialSource env
  nameMapping : .nameMapping ∉ touched → after.nameMapping = c.nameMapping
  host : .host ∉ touched → after.host = c.host
  protocol : .protocol ∉ touched → after.protocol = c.protocol
  port : .port ∉ touched → after.port = c.port
  trustManagerFactory : .trustManager ∉ touched → after.trustManagerFactory = c.trustManagerFactory
  keyManagerFactory : .keyManager ∉ touched → after.keyManagerFactory = c.keyManagerFactory
  protocolSelector : .tlsProtocols ∉ touched → after.protocolSelector = c.protocolSelector
  cipherSuiteSelector : .tlsCipherSuites ∉ touched →
    after.cipherSuiteSelector = c.cipherSuiteSelector
  providerSupplier : .providers ∉ touched → after.providerSupplier = c.providerSupplier
  factorySupplier : .clientFactory ∉ touched → after.factorySupplier = c.factorySupplier
  allowedMechanisms : .mechanismFilter ∉ touched → after.allowedMechanisms = c.allowedMechanisms
  deniedMechanisms : .mechanismFilter ∉ touched → after.deniedMechanisms = c.deniedMechanisms
  mechanismProperties : .mechanismProperties ∉ touched →
    after.mechanismProperties = c.mechanismProperties
  parameterSpecs : .parameterSpecs ∉ touched → after.parameterSpecs = c.parameterSpecs
  choiceOperation : .choice ∉ touched → after.choiceOperation = c.choiceOperation
  forwardedIdentity : .forward ∉ touched → after.forwardedIdentity = c.forwardedIdentity
  realm : .realm ∉ touched → after.realm = c.realm
  callbackHandler : .callbackHandler ∉ touched → after.callbackHandler = c.callbackHandler

theorem Configuration.mem_settings_iff_of_filter {kinds : List SettingKind}
    {c after : Configuration} (h : after.settings.filter (fun setting => setting.kind ∉ kinds) =
      c.settings.filter fun setting => setting.kind ∉ kinds)
    {setting : Setting} (hk : setting.kind ∉ kinds) :
    setting ∈ after.settings ↔ setting ∈ c.settings := by
  have hiff := congrArg (setting ∈ ·) h
  simpa [hk] using hiff

namespace Frame

variable {touched : List SettingKind} {c after : Configuration} {α : Type}
  {read : Setting → Option α}

/-- The settings of the other kinds decide all other answers. -/
theorem of_filter (h : after.settings.filter (fun setting => setting.kind ∉ touched) =
    c.settings.filter fun setting => setting.kind ∉ touched) : Frame touched c after := by
  have hmap : ∀ {α : Type} {read : Setting → Option α},
      (∀ setting, (read setting).isSome = true → setting.kind ∉ touched) →
        after.settings.filterMap read = c.settings.filterMap read := by
    intro α read hr
    have hkeep : ∀ settings : List Setting, ∀ setting ∈ settings,
        (read setting).isSome = true → decide (setting.kind ∉ touched) = true := by
      intro settings setting _ hs
      simpa using hr setting hs
    rw [← Configuration.filterMap_filter_of_isSome (hkeep after.settings), h,
      Configuration.filterMap_filter_of_isSome (hkeep c.settings)]
  have hfind : ∀ {α : Type} {read : Setting → Option α},
      (∀ setting, (read setting).isSome = true → setting.kind ∉ touched) →
        after.settings.findSome? read = c.settings.findSome? read := by
    intro α read hr
    rw [← List.head?_filterMap, ← List.head?_filterMap, hmap hr]
  have hgetD : ∀ {α : Type} {read : Setting → Option α} {default : α},
      (∀ setting, (read setting).isSome = true → setting.kind ∉ touched) →
        (after.settings.findSome? read).getD default =
          (c.settings.findSome? read).getD default := by
    intro α read default hr
    rw [hfind hr]
  have hfilter : .mechanismFilter ∉ touched → after.mechanismFilter = c.mechanismFilter := by
    intro hk
    apply hgetD
    intro setting hr
    cases setting <;> simp [Setting.kind] at hr ⊢
    exact hk
  have hhas : ∀ kind, kind ∉ touched → after.hasKind kind = c.hasKind kind := by
    intro kind hk
    apply Bool.eq_iff_iff.mpr
    rw [Configuration.hasKind_iff, Configuration.hasKind_iff]
    apply exists_congr
    intro setting
    apply and_congr_left
    rintro rfl
    exact Configuration.mem_settings_iff_of_filter h hk
  refine
    { hasKind := hhas
      principal := fun hk hk' env => hgetD ?_
      authorizationName := fun hk => hfind ?_
      credentialSource := fun hk hk' env => congrArg Configuration.stackSources (hmap ?_)
      nameMapping := fun hk => hgetD ?_
      host := fun hk => hfind ?_
      protocol := fun hk => hfind ?_
      port := fun hk => hfind ?_
      trustManagerFactory := fun hk => hgetD ?_
      keyManagerFactory := fun hk => hfind ?_
      protocolSelector := fun hk => hgetD ?_
      cipherSuiteSelector := fun hk => hgetD ?_
      providerSupplier := fun hk => hgetD ?_
      factorySupplier := fun hk => hfind ?_
      allowedMechanisms := fun hk => congrArg Prod.fst (hfilter hk)
      deniedMechanisms := fun hk => congrArg Prod.snd (hfilter hk)
      mechanismProperties := fun hk => hgetD ?_
      parameterSpecs := fun hk => hgetD ?_
      choiceOperation := fun hk => hgetD ?_
      forwardedIdentity := fun hk => hfind ?_
      realm := fun hk => hfind ?_
      callbackHandler := fun hk => hfind ?_ }
  all_goals
    intro setting hr
    cases setting <;> simp [Setting.kind, Configuration.source?] at hr ⊢ <;> assumption

end Frame

end ClientAuth
