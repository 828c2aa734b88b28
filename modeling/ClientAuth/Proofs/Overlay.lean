import ClientAuth.Proofs.Acquisition
import ClientAuth.Proofs.Frame

/-! What a call that puts a setting on top does to the answers. The queries of its kind answer with
the setting, those of the kinds it displaces as the base does, and all others as before. -/

namespace ClientAuth

namespace Derivation

variable {c : Configuration} {call : Derivation} {next : Nat} {setting : Setting}

/-- Whether a call takes all credentials away before it puts any on. -/
def replacesCredentials : Derivation → Bool
  | usePassword _ => true
  | useCredentials _ => true
  | useCredentialHandler _ => true
  | _ => false

/-- Whether a call on `c` puts the setting on top. -/
def Pushes (call : Derivation) (c : Configuration) (next : Nat) (setting : Setting) : Prop :=
  ∃ edits, call.edits c = .ok edits ∧ .push setting ∈ (edits.run next).1

theorem length_ite_le {p : Prop} [Decidable p] {edits edits' : List Edit} (h : edits.length ≤ 1)
    (h' : edits'.length ≤ 1) : (if p then edits else edits').length ≤ 1 := by
  split
  · exact h
  · exact h'

theorem length_optionalEdit_le (kind : SettingKind) (setting : Option Setting) :
    (optionalEdit kind setting).length ≤ 1 := by
  cases setting <;> exact Nat.le_refl 1

theorem length_edits_le (hn : call.replacesCredentials = false) {minted : Mint (List Edit)}
    (h : call.edits c = .ok minted) (next : Nat) : (minted.run next).1.length ≤ 1 := by
  cases call with
  | usePassword _ => cases hn
  | useCredentials _ => cases hn
  | useCredentialHandler _ => cases hn
  | useCertificate chain =>
    cases h
    exact length_ite_le (Nat.zero_le 1) (Nat.le_refl 1)
  | useKeyStoreEntry store entry protection =>
    obtain ⟨-, rfl⟩ := eq_pure_of_requireEntry h
    exact Nat.le_refl 1
  | useCredentialStoreEntry store entry =>
    obtain ⟨-, rfl⟩ := eq_pure_of_requireEntry h
    exact Nat.le_refl 1
  | usePort number =>
    obtain ⟨-, rfl⟩ := eq_pure_of_ite h
    exact Nat.le_refl 1
  | useHost name =>
    cases h
    exact length_ite_le (Nat.le_refl 1) (Nat.le_refl 1)
  | useProtocol name =>
    cases h
    exact length_ite_le (Nat.le_refl 1) (Nat.le_refl 1)
  | useMechanismProperties properties =>
    cases h
    exact length_ite_le (Nat.zero_le 1) (Nat.le_refl 1)
  | allowMechanisms mechanisms =>
    cases h
    exact length_ite_le (Nat.le_refl 1) (Nat.le_refl 1)
  | forbidMechanisms mechanisms =>
    cases h
    exact length_ite_le (Nat.le_refl 1) (Nat.le_refl 1)
  | useAuthorizationName name =>
    cases h
    exact length_optionalEdit_le _ _
  | useRealm name =>
    cases h
    exact length_optionalEdit_le _ _
  | useProviders supplier =>
    cases h
    exact length_optionalEdit_le _ _
  | useTrustManager manager => cases manager <;> cases h <;> exact Nat.le_refl 1
  | useKeyManager manager => cases manager <;> cases h <;> exact Nat.le_refl 1
  | _ =>
    cases h
    exact Nat.le_refl 1

theorem edits_of_push_mem (hn : call.replacesCredentials = false) {minted : Mint (List Edit)}
    (h : call.edits c = .ok minted) (hm : .push setting ∈ (minted.run next).1) :
    (minted.run next).1 = [.push setting] := by
  have hone : (minted.run next).1.length = 1 :=
    Nat.le_antisymm (length_edits_le hn h next) (List.length_pos_of_mem hm)
  obtain ⟨edit, he⟩ := List.length_eq_one_iff.mp hone
  rw [he, List.mem_singleton] at hm
  rw [he, hm]

theorem settings_of_pushes (hs : Configuration.Settled c.settings)
    (hn : call.replacesCredentials = false) {action : Mint Configuration}
    (hd : call.derive c = .ok action) (hp : call.Pushes c next setting) :
    (action.run next).1.settings =
      setting :: c.settings.filter fun lower => lower.kind ∉ setting.kind.displaces := by
  obtain ⟨minted, he, hm⟩ := hp
  obtain ⟨minted', he', rfl⟩ := exists_edits hd
  rw [he] at he'
  cases he'
  rw [Mint.run_bind, Configuration.settings_editAll hs, edits_of_push_mem hn he hm]
  rfl

end Derivation

namespace Configuration

/-- The queries of its kind answer `after` with the setting, which has been put on top of `c`. New
credentials are asked before those of `c`. -/
def Shows (c after : Configuration) : Setting → Prop
  | .identity principal => ∀ env, after.principal env = principal
  | .authorizationName name => after.authorizationName = some name
  | .credentials source =>
    (∀ env, after.credentialSource env = stackSources (source :: c.settings.filterMap ownSource?)) ∧
      ∀ (m : Type → Type) [Monad m] [LawfulMonad m] (co : Collaborators m) (kind : CredentialKind),
        (after.credentialSource co.toEnvironment).acquire co kind =
          Acquired.thenTry (source.acquire co kind)
            (if c.hasKind .forward then return .ok none
              else (c.credentialSource co.toEnvironment).acquire co kind)
  | .nameMapping mapping => after.nameMapping = mapping
  | .host name => after.host = some name
  | .protocol name => after.protocol = some name
  | .port number => after.port = some number
  | .trustManager factory => after.trustManagerFactory = factory
  | .keyManager factory => after.keyManagerFactory = some factory
  | .tlsProtocols selector => after.protocolSelector = selector
  | .tlsCipherSuites selector => after.cipherSuiteSelector = selector
  | .providers supplier => after.providerSupplier = supplier
  | .clientFactory supplier => after.factorySupplier = some supplier
  | .mechanismFilter allowed denied =>
    after.allowedMechanisms = allowed ∧ after.deniedMechanisms = denied
  | .mechanismProperties properties => after.mechanismProperties = properties
  | .parameterSpecs specs => after.parameterSpecs = specs
  | .choice operation => after.choiceOperation = operation
  | .forward forwarded => after.forwardedIdentity = some forwarded ∧ ∀ env,
    after.principal env =
        ((forwarded.identity env).map SecurityIdentity.principal).getD .anonymous ∧
      after.credentialSource env =
        ((forwarded.identity env).map fun identity => .held identity.credentials).getD .none
  | .realm name => after.realm = some name
  | .callbackHandler handler => after.callbackHandler = some handler

/-- `after` is `c` with the setting put on top. -/
structure Overlaid (c : Configuration) (setting : Setting) (after : Configuration) : Prop where
  settings : after.settings =
    setting :: c.settings.filter fun lower => lower.kind ∉ setting.kind.displaces
  shows : c.Shows after setting
  frame : Frame (setting.kind :: setting.kind.displaces.filter c.hasKind) c after
  dropped : ∀ kind ∈ setting.kind.displaces, kind ≠ setting.kind → after.hasKind kind = false
  forwardedIdentity : .forward ∈ setting.kind.displaces → setting.kind ≠ .forward →
    after.forwardedIdentity = none
  principal : c.hasKind .forward = true → setting.kind = .credentials → ∀ env,
    after.principal env = .anonymous
  credentialSource : c.hasKind .forward = true → setting.kind = .identity → ∀ env,
    after.credentialSource env = .none

variable {c after : Configuration} {kind : SettingKind} {setting : Setting}

theorem principal_eq_anonymous (hi : c.hasKind .identity = false) (hf : c.hasKind .forward = false)
    (env : Environment) : c.principal env = .anonymous := by
  unfold Configuration.principal
  rw [List.findSome?_eq_none_iff.mpr]
  · rfl
  · intro setting hm
    have hni := kind_ne_of_hasKind hi hm
    have hnf := kind_ne_of_hasKind hf hm
    cases setting <;> simp [Setting.kind] at hni hnf ⊢

theorem forwardedIdentity_eq_none (h : c.hasKind .forward = false) :
    c.forwardedIdentity = none := by
  apply findSome?_eq_none_of_hasKind h
  intro setting hr
  cases setting <;> simp [Setting.kind] at hr ⊢

theorem filterMap_source?_of_hasKind (h : c.hasKind .forward = false) (env : Environment) :
    c.settings.filterMap (source? env) = c.settings.filterMap ownSource? := by
  apply List.filterMap_congr
  intro setting hm
  have hn := kind_ne_of_hasKind h hm
  cases setting <;> simp [Setting.kind, source?, ownSource?] at hn ⊢

theorem configuredCredentials_eq_none (h : c.hasKind .credentials = false) :
    c.configuredCredentials = .none := by
  have hnil : c.settings.filterMap ownSource? = [] := by
    apply List.filterMap_eq_nil_iff.mpr
    intro setting hm
    have hn := kind_ne_of_hasKind h hm
    cases setting <;> simp [Setting.kind, ownSource?] at hn ⊢
  rw [configuredCredentials, hnil]
  rfl

theorem credentialSource_eq_configured (h : c.hasKind .forward = false) (env : Environment) :
    c.credentialSource env = c.configuredCredentials := by
  rw [credentialSource, filterMap_source?_of_hasKind h, configuredCredentials]

theorem WellFormed.configuredCredentials_eq (hc : c.WellFormed) (env : Environment) :
    c.configuredCredentials = if c.hasKind .forward then .none else c.credentialSource env := by
  cases hf : c.hasKind .forward with
  | true => exact configuredCredentials_eq_none (hc.exclusive hf).2
  | false => exact (credentialSource_eq_configured hf env).symm

section

variable (h : after.settings =
    setting :: c.settings.filter fun lower => lower.kind ∉ setting.kind.displaces)
include h

theorem hasKind_eq_false_of_displaced :
    ∀ kind ∈ setting.kind.displaces, kind ≠ setting.kind → after.hasKind kind = false := by
  intro kind hk hne
  apply Bool.eq_false_iff.mpr
  intro hhas
  obtain ⟨lower, hm, rfl⟩ := hasKind_iff.mp hhas
  rw [h, List.mem_cons] at hm
  rcases hm with rfl | hm
  · exact hne rfl
  · simp [hk] at hm

theorem frame_of_settings :
    Frame (setting.kind :: setting.kind.displaces.filter c.hasKind) c after := by
  apply Frame.of_filter
  rw [h, List.filter_cons_of_neg (by simp), List.filter_filter]
  apply List.filter_congr
  intro lower hm
  -- A setting that is displaced was there, so its kind is touched.
  have hhas : c.hasKind lower.kind = true := hasKind_iff.mpr ⟨lower, hm, rfl⟩
  simp [hhas]

theorem shows_of_settings (hc : c.WellFormed) : c.Shows after setting := by
  have hfind : ∀ {α : Type} {read : Setting → Option α} {x : α}, read setting = some x →
      after.settings.findSome? read = some x := by
    intro α read x hr
    rw [h, List.findSome?_cons, hr]
  have hgetD : ∀ {α : Type} {read : Setting → Option α} {x default : α}, read setting = some x →
      (after.settings.findSome? read).getD default = x := by
    intro α read x default hr
    rw [hfind hr, Option.getD_some]
  cases setting with
  | identity principal => exact fun env => hgetD rfl
  | nameMapping mapping => exact hgetD rfl
  | trustManager factory => exact hgetD rfl
  | tlsProtocols selector => exact hgetD rfl
  | tlsCipherSuites selector => exact hgetD rfl
  | providers supplier => exact hgetD rfl
  | mechanismProperties properties => exact hgetD rfl
  | parameterSpecs specs => exact hgetD rfl
  | choice operation => exact hgetD rfl
  | mechanismFilter allowed denied =>
    have hfilter : after.mechanismFilter = (allowed, denied) := hgetD rfl
    exact ⟨congrArg Prod.fst hfilter, congrArg Prod.snd hfilter⟩
  | credentials source =>
    have hforward : after.hasKind .forward = false :=
      hasKind_eq_false_of_displaced h .forward List.mem_cons_self nofun
    have hown : after.settings.filterMap ownSource? = source :: c.settings.filterMap ownSource? := by
      rw [h, List.filterMap_cons, filterMap_filter_of_isSome]
      · rfl
      · intro lower _ hr
        cases lower <;> simp [ownSource?, Setting.kind, SettingKind.displaces] at hr ⊢
    have hsource : ∀ env, after.credentialSource env =
        stackSources (source :: c.settings.filterMap ownSource?) := by
      intro env
      rw [credentialSource_eq_configured hforward, configuredCredentials, hown]
    refine ⟨hsource, ?_⟩
    intro m _ _ co kind
    rw [hsource, acquire_stackSources_cons]
    congr 1
    show c.configuredCredentials.acquire co kind = _
    rw [hc.configuredCredentials_eq co.toEnvironment]
    split <;> rfl
  | forward forwarded =>
    refine ⟨hfind rfl, ?_⟩
    intro env
    refine ⟨hgetD rfl, ?_⟩
    have hbelow : (c.settings.filter fun lower =>
        lower.kind ∉ (Setting.forward forwarded).kind.displaces).filterMap (source? env) = [] := by
      apply List.filterMap_eq_nil_iff.mpr
      intro lower hm
      have hkept := (List.mem_filter.mp hm).2
      cases lower <;> simp [Setting.kind, SettingKind.displaces, source?] at hkept ⊢
    rw [credentialSource, h, List.filterMap_cons, hbelow, source?]
    cases forwarded.identity env with
    | none => rfl
    | some identity => exact CredentialSource.none_orElse _
  | _ => exact hfind rfl

theorem Overlaid.of_settings (hc : c.WellFormed) : Overlaid c setting after := by
  have hframe := frame_of_settings h
  have hgone := hasKind_eq_false_of_displaced h
  refine ⟨h, shows_of_settings h hc, hframe, hgone, ?_, ?_, ?_⟩
  · intro hk hne
    exact forwardedIdentity_eq_none (hgone _ hk hne.symm)
  · intro hf hk env
    have hi : after.hasKind .identity = false := by
      rw [hframe.hasKind _ (by simp [hk, SettingKind.displaces])]
      exact (hc.exclusive hf).1
    have hforward : after.hasKind .forward = false :=
      hgone _ (by simp [hk, SettingKind.displaces]) (by simp [hk])
    exact principal_eq_anonymous hi hforward env
  · intro hf hk env
    have hcredentials : after.hasKind .credentials = false := by
      rw [hframe.hasKind _ (by simp [hk, SettingKind.displaces])]
      exact (hc.exclusive hf).2
    have hforward : after.hasKind .forward = false :=
      hgone _ (by simp [hk, SettingKind.displaces]) (by simp [hk])
    rw [credentialSource_eq_configured hforward, configuredCredentials_eq_none hcredentials]

end

end Configuration

/-- A call that puts a setting on top and replaces no credentials changes nothing else. -/
theorem overlaid_of_pushes {stock : Stock} (hs : stock.Reachable) {c : Configuration}
    (hc : c ∈ stock.made) {call : Derivation} (hn : call.replacesCredentials = false)
    {action : Mint Configuration} (hd : call.derive c = .ok action) {next : Nat}
    {setting : Setting} (hp : call.Pushes c next setting) :
    c.Overlaid setting (action.run next).1 := by
  have hl := hs.coherent.lawful c hc
  exact .of_settings (Derivation.settings_of_pushes hl.settled hn hd hp) hl.wellFormed

theorem overlaid_of_forwarding :
    let run := Stock.initial.follow .base
      [.useHost "localhost", .useForwardedIdentity default default]
    let call := Derivation.useBearerToken ⟨"token"⟩
    let setting := Setting.credentials (.held ⟨[.bearerToken ⟨"token"⟩]⟩)
    run.1.Reachable ∧ run.2 ∈ run.1.made ∧ call.Pushes run.2 run.1.next setting ∧
      ∃ action, call.derive run.2 = .ok action ∧
      run.2.Overlaid setting (action.run run.1.next).1 ∧
      (action.run run.1.next).1.settings = [setting, .host "localhost"] ∧
      ∀ env, (action.run run.1.next).1.principal env = .anonymous := by
  intro run call setting
  have h := Stock.reachable_initial.follow Stock.mem_base
    [.useHost "localhost", .useForwardedIdentity default default]
  have hp : call.Pushes run.2 run.1.next setting := ⟨_, rfl, List.mem_singleton_self _⟩
  have hover := overlaid_of_pushes h.1 h.2.1 rfl (show call.derive run.2 = .ok _ from rfl) hp
  have hforward : run.2.hasKind .forward = true := by decide +kernel
  have hbelow : (run.2.settings.filter fun lower => lower.kind ∉ setting.kind.displaces) =
      [.host "localhost"] := by decide +kernel
  refine ⟨h.1, h.2.1, hp, _, rfl, hover, ?_, hover.principal hforward rfl⟩
  rw [hover.settings, hbelow]

end ClientAuth
