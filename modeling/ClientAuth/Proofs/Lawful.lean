import Mathlib.Data.List.Nodup
import ClientAuth.Proofs.Derivation

/-! What the calls keep true of a chain. Each call puts only sound settings on top, some of which it
works out from settings that are there already. -/

namespace ClientAuth

/-- The values that a setting of a kind may have. -/
def Setting.Sound : Setting → Prop
  | .credentials source => source.isNone = false
  | .host name => name ≠ ""
  | .protocol name => name ≠ ""
  | .port number => 1 ≤ number ∧ number ≤ 65535
  | .mechanismFilter allowed denied =>
    (∀ name ∈ allowed, name ∉ denied) ∧ (allowed.isEmpty && denied.isEmpty) = false
  | .mechanismProperties properties => properties.isEmpty = false
  | .parameterSpecs specs => specs ≠ [] ∧ (specs.map ParameterSpec.type).Nodup
  | _ => True

def Edit.Sound : Edit → Prop
  | .remove _ => True
  | .push setting => setting.Sound

structure Configuration.Lawful (c : Configuration) : Prop where
  settled : Configuration.Settled c.settings
  sound : ∀ setting ∈ c.settings, setting.Sound

theorem ParameterSpec.nodup_addTo (spec : ParameterSpec) {specs : List ParameterSpec}
    (h : (specs.map ParameterSpec.type).Nodup) :
    ((spec.addTo specs).map ParameterSpec.type).Nodup := by
  rw [addTo, List.map_append, List.map_singleton, ← List.concat_eq_append]
  refine List.Nodup.concat ?_ (h.sublist (List.filter_sublist.map _))
  intro hm
  obtain ⟨other, ho, htype⟩ := List.mem_map.mp hm
  exact of_decide_eq_true (List.mem_filter.mp ho).2 htype

namespace Configuration

variable {c : Configuration}

theorem findSome?_getD_induction {α : Type} {P : α → Prop} {read : Setting → Option α}
    {default : α} {settings : List Setting} (hd : P default)
    (h : ∀ setting ∈ settings, ∀ a, read setting = some a → P a) :
    P ((settings.findSome? read).getD default) := by
  cases hf : settings.findSome? read with
  | none => exact hd
  | some a =>
    obtain ⟨setting, hm, ha⟩ := List.exists_of_findSome?_eq_some hf
    exact h setting hm a ha

theorem Lawful.disjoint (hc : c.Lawful) :
    ∀ name ∈ c.allowedMechanisms, name ∉ c.deniedMechanisms := by
  apply findSome?_getD_induction (P := fun filter : NameSet × NameSet =>
    ∀ name ∈ filter.1, name ∉ filter.2)
  · intro name hm
    exact absurd hm List.not_mem_nil
  · intro setting hm filter hf
    cases setting <;> simp at hf
    subst hf
    exact (hc.sound _ hm).1

theorem Lawful.nodup_parameterSpecs (hc : c.Lawful) :
    (c.parameterSpecs.map ParameterSpec.type).Nodup := by
  apply findSome?_getD_induction (P := fun specs : List ParameterSpec =>
    (specs.map ParameterSpec.type).Nodup)
  · exact List.nodup_nil
  · intro setting hm specs hf
    cases setting <;> simp at hf
    subst hf
    exact (hc.sound _ hm).2

end Configuration

namespace Derivation

variable {c : Configuration}

theorem sound_optionalEdit {kind : SettingKind} {setting : Option Setting}
    (h : ∀ s ∈ setting, s.Sound) : ∀ edit ∈ optionalEdit kind setting, edit.Sound := by
  cases setting with
  | none => exact List.forall_mem_singleton.mpr trivial
  | some setting => exact List.forall_mem_singleton.mpr (h setting rfl)

theorem sound_credentialEdit (credential : Credential) : (credentialEdit credential).Sound :=
  rfl

theorem sound_sourceEdits (source : Option CredentialSource) :
    ∀ edit ∈ sourceEdits source, edit.Sound := by
  intro edit hm
  rcases List.mem_cons.mp hm with rfl | hm
  · trivial
  · obtain ⟨kept, hk, rfl⟩ := List.mem_map.mp hm
    have hn := Option.mem_toList.mp hk
    simp [Option.filter_eq_some_iff] at hn
    exact hn.2

theorem sound_filterEdits {allowed denied : NameSet} (h : ∀ name ∈ allowed, name ∉ denied) :
    ∀ edit ∈ filterEdits allowed denied, edit.Sound :=
  forall_mem_ite (fun _ => List.forall_mem_singleton.mpr trivial)
    fun he => List.forall_mem_singleton.mpr ⟨h, Bool.eq_false_iff.mpr he⟩

theorem sound_edits (hc : c.Lawful) {call : Derivation} {action : Mint (List Edit)}
    (h : call.edits c = .ok action) (next : Nat) :
    ∀ edit ∈ (action.run next).1, edit.Sound := by
  cases call with
  | useCredential credential =>
    cases h
    exact List.forall_mem_singleton.mpr (sound_credentialEdit credential)
  | useGssToken token =>
    cases h
    exact List.forall_mem_singleton.mpr (sound_credentialEdit _)
  | useBearerToken token =>
    cases h
    exact List.forall_mem_singleton.mpr (sound_credentialEdit _)
  | usePassword password =>
    cases h
    intro edit hm
    rcases List.mem_append.mp hm with hm | hm
    · exact sound_sourceEdits _ edit hm
    · obtain ⟨password, -, rfl⟩ := List.mem_map.mp hm
      exact sound_credentialEdit _
  | useCertificate chain =>
    cases h
    exact forall_mem_ite (by simp) fun _ => List.forall_mem_singleton.mpr (sound_credentialEdit _)
  | useKeyStoreEntry store entry protection =>
    obtain ⟨-, rfl⟩ := eq_pure_of_requireEntry h
    exact List.forall_mem_singleton.mpr rfl
  | useCredentialStoreEntry store entry =>
    obtain ⟨-, rfl⟩ := eq_pure_of_requireEntry h
    exact List.forall_mem_singleton.mpr rfl
  | useCredentials source =>
    cases h
    exact sound_sourceEdits source
  | useCredentialHandler handler =>
    cases h
    exact sound_sourceEdits _
  | useHost name =>
    cases h
    exact forall_mem_ite (fun _ => List.forall_mem_singleton.mpr trivial)
      fun he => List.forall_mem_singleton.mpr (by simpa [Edit.Sound, Setting.Sound] using he)
  | useProtocol name =>
    cases h
    exact forall_mem_ite (fun _ => List.forall_mem_singleton.mpr trivial)
      fun he => List.forall_mem_singleton.mpr (by simpa [Edit.Sound, Setting.Sound] using he)
  | usePort number =>
    obtain ⟨hp, rfl⟩ := eq_pure_of_ite h
    exact List.forall_mem_singleton.mpr hp
  | useMechanismProperties properties =>
    cases h
    exact forall_mem_ite (by simp)
      fun he => List.forall_mem_singleton.mpr (PropertyMap.isEmpty_ofList he)
  | useParameterSpec spec =>
    cases h
    exact List.forall_mem_singleton.mpr
      ⟨by simp [ParameterSpec.addTo], spec.nodup_addTo hc.nodup_parameterSpecs⟩
  | allowMechanisms mechanisms =>
    cases h
    apply sound_filterEdits
    intro name hm hn
    rw [NameSet.mem_removeAll] at hn
    rcases NameSet.mem_insertAll.mp hm with hm | hm
    · exact hc.disjoint name hm hn.1
    · exact hn.2 hm
  | forbidMechanisms mechanisms =>
    cases h
    apply sound_filterEdits
    intro name hm hn
    rw [NameSet.mem_removeAll] at hm
    rcases NameSet.mem_insertAll.mp hn with hn | hn
    · exact hc.disjoint name hm.1 hn
    · exact hm.2 hn
  | useAuthorizationName name =>
    cases h
    apply sound_optionalEdit
    simp [Setting.Sound]
  | useRealm name =>
    cases h
    apply sound_optionalEdit
    simp [Setting.Sound]
  | useProviders supplier =>
    cases h
    apply sound_optionalEdit
    simp [Setting.Sound]
  | useTrustManager manager =>
    cases manager <;> cases h <;> exact List.forall_mem_singleton.mpr trivial
  | useKeyManager manager =>
    cases manager <;> cases h <;> exact List.forall_mem_singleton.mpr trivial
  | _ =>
    cases h
    exact List.forall_mem_singleton.mpr trivial

end Derivation

theorem Edit.mem_foldl_apply {edits : List Edit} {settings : List Setting} {setting : Setting}
    (h : setting ∈ edits.foldl apply settings) : setting ∈ settings ∨ .push setting ∈ edits := by
  induction edits generalizing settings with
  | nil => exact .inl h
  | cons edit rest ih =>
    rcases ih h with hm | hm
    · cases edit with
      | remove kinds => exact .inl (List.mem_filter.mp hm).1
      | push pushed =>
        rcases List.mem_cons.mp hm with rfl | hm
        · exact .inr List.mem_cons_self
        · exact .inl (List.mem_filter.mp hm).1
    · exact .inr (List.mem_cons_of_mem edit hm)

namespace Configuration

variable {c : Configuration}

theorem forall_settings_editAll {P : Setting → Prop} (hs : Settled c.settings)
    (hc : ∀ setting ∈ c.settings, P setting) {edits : List Edit}
    (h : ∀ setting, .push setting ∈ edits → P setting) (next : Nat) :
    ∀ setting ∈ ((c.editAll edits).run next).1.settings, P setting := by
  rw [settings_editAll hs]
  intro setting hm
  rcases Edit.mem_foldl_apply hm with hm | hm
  · exact hc setting hm
  · exact h setting hm

theorem Lawful.editAll (hc : c.Lawful) {edits : List Edit} (h : ∀ edit ∈ edits, edit.Sound)
    (next : Nat) : ((c.editAll edits).run next).1.Lawful where
  settled := (editAll_run hc.settled edits next).2.1
  sound := forall_settings_editAll hc.settled hc.sound (fun _ hm => h _ hm) next

theorem Lawful.derive (hc : c.Lawful) {call : Derivation} {action : Mint Configuration}
    (h : call.derive c = .ok action) (next : Nat) : (action.run next).1.Lawful := by
  obtain ⟨edits, he, rfl⟩ := Derivation.exists_edits h
  exact hc.editAll (Derivation.sound_edits hc he next) _

theorem Lawful.sound_mergeEdits (hc : c.Lawful) : ∀ edit ∈ c.mergeEdits, edit.Sound := by
  intro edit hm
  cases edit with
  | remove kinds => trivial
  | push setting => exact hc.sound setting (mem_of_push_mem_mergeEdits hm)

theorem Lawful.merge {other : Configuration} (hc : c.Lawful) (ho : other.Lawful) (next : Nat) :
    ((c.merge other).run next).1.Lawful := by
  rw [merge_eq_editAll]
  exact hc.editAll ho.sound_mergeEdits next

theorem lawful_base : base.Lawful :=
  ⟨List.Pairwise.nil, by simp [settings, base]⟩

end Configuration

end ClientAuth
