import ClientAuth.Configuration.Endpoint
import ClientAuth.Configuration.Credentials
import ClientAuth.Configuration.Prompts
import ClientAuth.Configuration.Providers
import ClientAuth.Configuration.Shared
import ClientAuth.Proofs.Edit

/-! The calls by which one configuration is derived from another, as data. Each reads what it needs
from the chain, makes its objects, and then edits the chain. -/

namespace ClientAuth

inductive Derivation
  | addNameMapping (mapping : NameMapping)
  | useNameMapping (mapping : NameMapping)
  | useAnonymous
  | usePrincipal (name : PrincipalName)
  | useName (name : String)
  | useAuthorizationName (name : Option String)
  | useForwardedIdentity (domain : Ref .securityDomain) (context : AccessContext)
  | useCredential (credential : Credential)
  | usePassword (password : Option Password)
  | useCertificate (chain : CertificateChain)
  | useKeyStoreEntry (store : Ref .keyStore) (entry : String) (protection : Option Password)
  | useCredentialStoreEntry (store : Ref .credentialStore) (entry : String)
  | useGssToken (token : GssToken)
  | useBearerToken (token : BearerToken)
  | useCredentials (source : Option CredentialSource)
  | useCredentialHandler (handler : Ref .callbackHandler)
  | useCallbackHandler (handler : Ref .callbackHandler)
  | useChoice (test : Ref .promptTest) (option : Option String)
  | useRealm (name : Option String)
  | useHost (name : String)
  | useProtocol (name : String)
  | usePort (number : Nat)
  | useTrustManager (manager : Option (Ref .trustManager))
  | useKeyManager (manager : Option (Ref .keyManager))
  | useProtocolSelector (selector : ProtocolSelector)
  | useCipherSuiteSelector (selector : CipherSuiteSelector)
  | useProviders (supplier : Option ProviderSupplier)
  | useDefaultProviders
  | useProvidersFromRegistry (registry : RegistryRef)
  | useClientFactory (factory : Ref .clientFactory)
  | useFactorySupplier (supplier : FactorySupplier)
  | useClientFactoryFromProviders
  | useMechanismProperties (properties : List (String × String))
  | useParameterSpec (spec : ParameterSpec)
  | allowMechanisms (mechanisms : List String)
  | forbidMechanisms (mechanisms : List String)
  | allowAllMechanisms
  | without (kind : SettingKind)
  | withoutAny (kinds : List SettingKind)

namespace Derivation

/-- The configuration that a call derives from `c`, or the reason why it derives none. -/
def derive (c : Configuration) : Derivation → Except ConfigurationError (Mint Configuration)
  | addNameMapping mapping => .ok (c.addNameMapping mapping)
  | useNameMapping mapping => .ok (c.useNameMapping mapping)
  | useAnonymous => .ok c.useAnonymous
  | usePrincipal name => .ok (c.usePrincipal name)
  | useName name => .ok (c.useName name)
  | useAuthorizationName name => .ok (c.useAuthorizationName name)
  | useForwardedIdentity domain context => .ok (c.useForwardedIdentity domain context)
  | useCredential credential => .ok (c.useCredential credential)
  | usePassword password => .ok (c.usePassword password)
  | useCertificate chain => .ok (c.useCertificate chain)
  | useKeyStoreEntry store entry protection => c.useKeyStoreEntry store entry protection
  | useCredentialStoreEntry store entry => c.useCredentialStoreEntry store entry
  | useGssToken token => .ok (c.useGssToken token)
  | useBearerToken token => .ok (c.useBearerToken token)
  | useCredentials source => .ok (c.useCredentials source)
  | useCredentialHandler handler => .ok (c.useCredentialHandler handler)
  | useCallbackHandler handler => .ok (c.useCallbackHandler handler)
  | useChoice test option => .ok (c.useChoice test option)
  | useRealm name => .ok (c.useRealm name)
  | useHost name => .ok (c.useHost name)
  | useProtocol name => .ok (c.useProtocol name)
  | usePort number => c.usePort number
  | useTrustManager manager => .ok (c.useTrustManager manager)
  | useKeyManager manager => .ok (c.useKeyManager manager)
  | useProtocolSelector selector => .ok (c.useProtocolSelector selector)
  | useCipherSuiteSelector selector => .ok (c.useCipherSuiteSelector selector)
  | useProviders supplier => .ok (c.useProviders supplier)
  | useDefaultProviders => .ok c.useDefaultProviders
  | useProvidersFromRegistry registry => .ok (c.useProvidersFromRegistry registry)
  | useClientFactory factory => .ok (c.useClientFactory factory)
  | useFactorySupplier supplier => .ok (c.useFactorySupplier supplier)
  | useClientFactoryFromProviders => .ok c.useClientFactoryFromProviders
  | useMechanismProperties properties => .ok (c.useMechanismProperties properties)
  | useParameterSpec spec => .ok (c.useParameterSpec spec)
  | allowMechanisms mechanisms => .ok (c.allowMechanisms mechanisms)
  | forbidMechanisms mechanisms => .ok (c.forbidMechanisms mechanisms)
  | allowAllMechanisms => .ok c.allowAllMechanisms
  | without kind => .ok (c.without kind)
  | withoutAny kinds => .ok (c.withoutAny kinds)

def credentialEdit (credential : Credential) : Edit :=
  .push (.credentials (.held (CredentialSet.empty.insert credential)))

/-- Takes all credentials away, and puts a source that has something to give in their place. -/
def sourceEdits (source : Option CredentialSource) : List Edit :=
  .remove [.credentials] ::
    (source.filter fun source => !source.isNone).toList.map fun source =>
      .push (.credentials source)

/-- Puts a setting on top, or removes its kind where the caller gives none. -/
def optionalEdit (kind : SettingKind) : Option Setting → List Edit
  | some setting => [.push setting]
  | none => [.remove [kind]]

def filterEdits (allowed denied : NameSet) : List Edit :=
  if allowed.isEmpty && denied.isEmpty then [.remove [.mechanismFilter]]
  else [.push (.mechanismFilter allowed denied)]

def plain (edits : List Edit) : Except ConfigurationError (Mint (List Edit)) :=
  .ok (return edits)

/-- The edits that a call makes to the chain of `c`. -/
def edits (c : Configuration) : Derivation → Except ConfigurationError (Mint (List Edit))
  | addNameMapping mapping =>
    .ok do return [.push (.nameMapping (← c.nameMapping.andThen mapping))]
  | useNameMapping mapping => plain [.push (.nameMapping mapping)]
  | useAnonymous => plain [.push (.identity .anonymous)]
  | usePrincipal name => plain [.push (.identity (.named name))]
  | useName name => plain [.push (.identity (.named ⟨name⟩))]
  | useAuthorizationName name =>
    plain (optionalEdit .authorizationName (name.map .authorizationName))
  | useForwardedIdentity domain context => plain [.push (.forward ⟨domain, context⟩)]
  | useCredential credential => plain [credentialEdit credential]
  | usePassword password =>
    plain (sourceEdits (some (c.configuredCredentials.without .password)) ++
      password.toList.map fun password => credentialEdit (.password password))
  | useCertificate chain =>
    plain (if chain.isEmpty then [] else [credentialEdit (.certificateChain chain)])
  | useKeyStoreEntry store entry protection => do
    Configuration.requireEntry entry
    plain [.push (.credentials (.keyStore store entry protection))]
  | useCredentialStoreEntry store entry => do
    Configuration.requireEntry entry
    plain [.push (.credentials (.credentialStore store entry))]
  | useGssToken token => plain [credentialEdit (.gssKerberos token)]
  | useBearerToken token => plain [credentialEdit (.bearerToken token)]
  | useCredentials source => plain (sourceEdits source)
  | useCredentialHandler handler =>
    let asking := CredentialSource.callback handler
    plain (sourceEdits (some (asking.orElse c.configuredCredentials)))
  | useCallbackHandler handler => plain [.push (.callbackHandler handler)]
  | useChoice test option => .ok do
    let operation ← ChoiceOperation.mintPicking test option
    return [.push (.choice (← ChoiceOperation.mintOrElse c.choiceOperation operation))]
  | useRealm name => plain (optionalEdit .realm (name.map .realm))
  | useHost name =>
    plain (if name.isEmpty then [.remove [.host]] else [.push (.host name)])
  | useProtocol name =>
    plain (if name.isEmpty then [.remove [.protocol]] else [.push (.protocol name)])
  | usePort number =>
    if 1 ≤ number ∧ number ≤ 65535 then plain [.push (.port number)]
    else .error (.invalidPort number)
  | useTrustManager none => plain [.push (.trustManager .platform)]
  | useTrustManager (some manager) =>
    .ok do return [.push (.trustManager (← TrustManagerFactory.mintFixed manager))]
  | useKeyManager none => plain [.remove [.keyManager]]
  | useKeyManager (some manager) =>
    .ok do return [.push (.keyManager (← KeyManagerFactory.mintFixed manager))]
  | useProtocolSelector selector => plain [.push (.tlsProtocols selector)]
  | useCipherSuiteSelector selector => plain [.push (.tlsCipherSuites selector)]
  | useProviders supplier => plain (optionalEdit .providers (supplier.map .providers))
  | useDefaultProviders => plain [.remove [.providers]]
  | useProvidersFromRegistry registry => .ok do
    let own ← ProviderSupplier.mintOfRegistry registry
    return [.push (.providers (← own.andThen c.providerSupplier))]
  | useClientFactory factory =>
    .ok do return [.push (.clientFactory (← FactorySupplier.mintFixed factory))]
  | useFactorySupplier supplier => plain [.push (.clientFactory supplier)]
  | useClientFactoryFromProviders => plain [.remove [.clientFactory]]
  | useMechanismProperties properties =>
    plain (if properties.isEmpty then []
      else [.push (.mechanismProperties (.ofList properties))])
  | useParameterSpec spec =>
    plain [.push (.parameterSpecs (spec.addTo c.parameterSpecs))]
  | allowMechanisms mechanisms =>
    plain (filterEdits (c.allowedMechanisms.insertAll mechanisms)
      (c.deniedMechanisms.removeAll mechanisms))
  | forbidMechanisms mechanisms =>
    plain (filterEdits (c.allowedMechanisms.removeAll mechanisms)
      (c.deniedMechanisms.insertAll mechanisms))
  | allowAllMechanisms => plain [.remove [.mechanismFilter]]
  | without kind => plain [.remove [kind]]
  | withoutAny kinds => plain [.remove kinds]

theorem eq_pure_of_requireEntry {entry : String} {edits : List Edit} {minted : Mint (List Edit)}
    (h : (do Configuration.requireEntry entry; plain edits) = .ok minted) :
    ¬entry.isEmpty = true ∧ minted = pure edits := by
  simp only [Configuration.requireEntry] at h
  split at h
  · cases h
  · next he =>
    cases h
    exact ⟨he, rfl⟩

theorem eq_pure_of_ite {p : Prop} [Decidable p] {error : ConfigurationError} {edits : List Edit}
    {minted : Mint (List Edit)} (h : (if p then plain edits else .error error) = .ok minted) :
    p ∧ minted = pure edits := by
  split at h
  · next hp =>
    cases h
    exact ⟨hp, rfl⟩
  · cases h

theorem editAll_append (c : Configuration) (edits edits' : List Edit) :
    c.editAll (edits ++ edits') = c.editAll edits >>= fun d => d.editAll edits' := by
  induction edits generalizing c with
  | nil => rfl
  | cons edit rest ih =>
    simp only [List.cons_append, Configuration.editAll, bind_assoc]
    exact congrArg _ (funext fun d => ih d)

theorem useCredentials_eq_editAll (c : Configuration) (source : Option CredentialSource) :
    c.useCredentials source = c.editAll (sourceEdits source) := by
  cases source with
  | none => rfl
  | some source =>
    by_cases hn : source.isNone = true
    · simp only [Configuration.useCredentials, sourceEdits, hn, Option.filter, Bool.not_true]
      rfl
    · simp only [Configuration.useCredentials, sourceEdits, hn, Option.filter, Bool.not_false]
      rfl

theorem useMechanismFilter_eq_editAll (c : Configuration) (allowed denied : NameSet) :
    c.useMechanismFilter allowed denied = c.editAll (filterEdits allowed denied) := by
  simp only [Configuration.useMechanismFilter, filterEdits]
  split <;> rfl

theorem usePassword_eq_editAll (c : Configuration) (password : Option Password) :
    c.usePassword password =
      c.editAll (sourceEdits (some (c.configuredCredentials.without .password)) ++
        password.toList.map fun password => credentialEdit (.password password)) := by
  rw [editAll_append, ← useCredentials_eq_editAll]
  cases password <;> rfl

/-- Every call is a list of edits. -/
theorem derive_eq_edits (c : Configuration) (call : Derivation) :
    call.derive c = (call.edits c).map fun edits => edits >>= c.editAll := by
  cases call with
  | useAuthorizationName name => cases name <;> rfl
  | useRealm name => cases name <;> rfl
  | useKeyManager manager => cases manager <;> rfl
  | useTrustManager manager => cases manager <;> rfl
  | useProviders supplier => cases supplier <;> rfl
  | useHost name =>
    simp only [derive, edits, Configuration.useHost]
    split <;> rfl
  | useProtocol name =>
    simp only [derive, edits, Configuration.useProtocol]
    split <;> rfl
  | useCertificate chain =>
    simp only [derive, edits, Configuration.useCertificate]
    split <;> rfl
  | useMechanismProperties properties =>
    simp only [derive, edits, Configuration.useMechanismProperties]
    split <;> rfl
  | usePort number =>
    simp only [derive, edits, Configuration.usePort]
    split <;> rfl
  | useKeyStoreEntry store entry protection =>
    simp only [derive, edits, Configuration.useKeyStoreEntry]
    cases Configuration.requireEntry entry <;> rfl
  | useCredentialStoreEntry store entry =>
    simp only [derive, edits, Configuration.useCredentialStoreEntry]
    cases Configuration.requireEntry entry <;> rfl
  | allowMechanisms mechanisms => exact congrArg Except.ok (useMechanismFilter_eq_editAll ..)
  | forbidMechanisms mechanisms => exact congrArg Except.ok (useMechanismFilter_eq_editAll ..)
  | useCredentials source => exact congrArg Except.ok (useCredentials_eq_editAll ..)
  | usePassword password => exact congrArg Except.ok (usePassword_eq_editAll ..)
  | useCredentialHandler handler => exact congrArg Except.ok (useCredentials_eq_editAll ..)
  | _ => rfl

theorem exists_edits {c : Configuration} {call : Derivation} {action : Mint Configuration}
    (h : call.derive c = .ok action) :
    ∃ edits, call.edits c = .ok edits ∧ action = edits >>= c.editAll := by
  rw [derive_eq_edits] at h
  cases he : call.edits c with
  | error error => simp [he, Except.map] at h
  | ok edits => exact ⟨edits, rfl, by simpa [he, Except.map] using h.symm⟩

theorem le_edits_run {c : Configuration} {call : Derivation} {action : Mint (List Edit)}
    (h : call.edits c = .ok action) (next : Nat) : next ≤ (action.run next).2 := by
  cases call with
  | addNameMapping mapping =>
    cases h
    simp only [Mint.run_bind, NameMapping.andThen]
    split
    · exact Nat.le_refl next
    · split
      · exact Nat.le_refl next
      · exact Nat.le_succ next
  | useKeyStoreEntry store entry protection =>
    obtain ⟨-, rfl⟩ := eq_pure_of_requireEntry h
    exact Nat.le_refl next
  | useCredentialStoreEntry store entry =>
    obtain ⟨-, rfl⟩ := eq_pure_of_requireEntry h
    exact Nat.le_refl next
  | usePort number =>
    obtain ⟨-, rfl⟩ := eq_pure_of_ite h
    exact Nat.le_refl next
  | useTrustManager manager =>
    cases manager <;> cases h
    · exact Nat.le_refl next
    · exact Nat.le_succ next
  | useKeyManager manager =>
    cases manager <;> cases h
    · exact Nat.le_refl next
    · exact Nat.le_succ next
  | useClientFactory factory =>
    cases h
    exact Nat.le_succ next
  | useChoice test option =>
    cases h
    exact Nat.le_add_right next 2
  | useProvidersFromRegistry registry =>
    cases h
    exact Nat.le_add_right next 2
  | _ =>
    cases h
    exact Nat.le_refl next

theorem forall_mem_ite {P : Edit → Prop} {p : Prop} [Decidable p] {edits edits' : List Edit}
    (h : p → ∀ edit ∈ edits, P edit) (h' : ¬p → ∀ edit ∈ edits', P edit) :
    ∀ edit ∈ (if p then edits else edits'), P edit := by
  by_cases hp : p
  · simpa only [if_pos hp] using h hp
  · simpa only [if_neg hp] using h' hp

end Derivation

end ClientAuth
