import ClientAuth.Proofs.Derivation

/-! The kinds of settings that a call is about. All its edits put or remove settings of these
kinds. -/

namespace ClientAuth

def Edit.Within (kinds : List SettingKind) : Edit → Prop
  | remove removed => removed ⊆ kinds
  | push setting => setting.kind ∈ kinds

namespace Derivation

def footprint : Derivation → List SettingKind
  | addNameMapping _ => [.nameMapping]
  | useNameMapping _ => [.nameMapping]
  | useAnonymous => [.identity]
  | usePrincipal _ => [.identity]
  | useName _ => [.identity]
  | useAuthorizationName _ => [.authorizationName]
  | useForwardedIdentity .. => [.forward]
  | useCredential _ => [.credentials]
  | usePassword _ => [.credentials]
  | useCertificate _ => [.credentials]
  | useKeyStoreEntry .. => [.credentials]
  | useCredentialStoreEntry .. => [.credentials]
  | useGssToken _ => [.credentials]
  | useBearerToken _ => [.credentials]
  | useCredentials _ => [.credentials]
  | useCredentialHandler _ => [.credentials]
  | useCallbackHandler _ => [.callbackHandler]
  | useChoice .. => [.choice]
  | useRealm _ => [.realm]
  | useHost _ => [.host]
  | useProtocol _ => [.protocol]
  | usePort _ => [.port]
  | useTrustManager _ => [.trustManager]
  | useKeyManager _ => [.keyManager]
  | useProtocolSelector _ => [.tlsProtocols]
  | useCipherSuiteSelector _ => [.tlsCipherSuites]
  | useProviders _ => [.providers]
  | useDefaultProviders => [.providers]
  | useProvidersFromRegistry _ => [.providers]
  | useClientFactory _ => [.clientFactory]
  | useFactorySupplier _ => [.clientFactory]
  | useClientFactoryFromProviders => [.clientFactory]
  | useMechanismProperties _ => [.mechanismProperties]
  | useParameterSpec _ => [.parameterSpecs]
  | allowMechanisms _ => [.mechanismFilter]
  | forbidMechanisms _ => [.mechanismFilter]
  | allowAllMechanisms => [.mechanismFilter]
  | without kind => [kind]
  | withoutAny kinds => kinds

variable {c : Configuration} {call : Derivation} {kinds : List SettingKind}

theorem within_optionalEdit {kind : SettingKind} {setting : Option Setting}
    (h : ∀ s ∈ setting, s.kind = kind) :
    ∀ edit ∈ optionalEdit kind setting, edit.Within [kind] := by
  cases setting with
  | none => exact List.forall_mem_singleton.mpr (List.Subset.refl _)
  | some setting => exact List.forall_mem_singleton.mpr (List.mem_singleton.mpr (h setting rfl))

theorem within_sourceEdits (source : Option CredentialSource) :
    ∀ edit ∈ sourceEdits source, edit.Within [.credentials] := by
  intro edit hm
  rcases List.mem_cons.mp hm with rfl | hm
  · exact List.Subset.refl _
  · obtain ⟨kept, -, rfl⟩ := List.mem_map.mp hm
    exact List.mem_singleton_self _

theorem within_edits {minted : Mint (List Edit)} (h : call.edits c = .ok minted) (next : Nat) :
    ∀ edit ∈ (minted.run next).1, edit.Within call.footprint := by
  have hself : ∀ kind : SettingKind, kind ∈ [kind] := fun kind => List.mem_singleton_self kind
  cases call with
  | usePassword password =>
    cases h
    intro edit hm
    rcases List.mem_append.mp hm with hm | hm
    · exact within_sourceEdits _ edit hm
    · obtain ⟨password, -, rfl⟩ := List.mem_map.mp hm
      exact hself _
  | useCredentials source =>
    cases h
    exact within_sourceEdits source
  | useCredentialHandler handler =>
    cases h
    exact within_sourceEdits _
  | useCertificate chain =>
    cases h
    exact forall_mem_ite (by simp) fun _ => List.forall_mem_singleton.mpr (hself _)
  | useKeyStoreEntry store entry protection =>
    obtain ⟨-, rfl⟩ := eq_pure_of_requireEntry h
    exact List.forall_mem_singleton.mpr (hself _)
  | useCredentialStoreEntry store entry =>
    obtain ⟨-, rfl⟩ := eq_pure_of_requireEntry h
    exact List.forall_mem_singleton.mpr (hself _)
  | usePort number =>
    obtain ⟨-, rfl⟩ := eq_pure_of_ite h
    exact List.forall_mem_singleton.mpr (hself _)
  | useHost name =>
    cases h
    exact forall_mem_ite (fun _ => List.forall_mem_singleton.mpr (List.Subset.refl _))
      fun _ => List.forall_mem_singleton.mpr (hself _)
  | useProtocol name =>
    cases h
    exact forall_mem_ite (fun _ => List.forall_mem_singleton.mpr (List.Subset.refl _))
      fun _ => List.forall_mem_singleton.mpr (hself _)
  | useMechanismProperties properties =>
    cases h
    exact forall_mem_ite (by simp) fun _ => List.forall_mem_singleton.mpr (hself _)
  | allowMechanisms mechanisms =>
    cases h
    exact forall_mem_ite (fun _ => List.forall_mem_singleton.mpr (List.Subset.refl _))
      fun _ => List.forall_mem_singleton.mpr (hself _)
  | forbidMechanisms mechanisms =>
    cases h
    exact forall_mem_ite (fun _ => List.forall_mem_singleton.mpr (List.Subset.refl _))
      fun _ => List.forall_mem_singleton.mpr (hself _)
  | useAuthorizationName name =>
    cases h
    apply within_optionalEdit
    simp [Setting.kind]
  | useRealm name =>
    cases h
    apply within_optionalEdit
    simp [Setting.kind]
  | useProviders supplier =>
    cases h
    apply within_optionalEdit
    simp [Setting.kind]
  | useTrustManager manager =>
    cases manager <;> cases h <;> exact List.forall_mem_singleton.mpr (hself _)
  | useKeyManager manager =>
    cases manager <;> cases h
    · exact List.forall_mem_singleton.mpr (List.Subset.refl _)
    · exact List.forall_mem_singleton.mpr (hself _)
  | useDefaultProviders =>
    cases h
    exact List.forall_mem_singleton.mpr (List.Subset.refl _)
  | useClientFactoryFromProviders =>
    cases h
    exact List.forall_mem_singleton.mpr (List.Subset.refl _)
  | allowAllMechanisms =>
    cases h
    exact List.forall_mem_singleton.mpr (List.Subset.refl _)
  | without kind =>
    cases h
    exact List.forall_mem_singleton.mpr (List.Subset.refl _)
  | withoutAny kinds =>
    cases h
    exact List.forall_mem_singleton.mpr (List.Subset.refl _)
  | _ =>
    cases h
    exact List.forall_mem_singleton.mpr (hself _)

/-- A call that puts a setting on is about that kind of settings alone. -/
theorem footprint_of_push_mem {minted : Mint (List Edit)} (h : call.edits c = .ok minted)
    {next : Nat} {setting : Setting} (hm : .push setting ∈ (minted.run next).1) :
    call.footprint = [setting.kind] := by
  have hk : setting.kind ∈ call.footprint := within_edits h next _ hm
  cases call with
  | withoutAny kinds =>
    cases h
    cases List.mem_singleton.mp hm
  | _ => exact congrArg (fun kind => [kind]) (List.mem_singleton.mp hk).symm

end Derivation

end ClientAuth
