import ClientAuth.Proofs.Change
import ClientAuth.Proofs.Comparison
import ClientAuth.Proofs.Footprint
import ClientAuth.Proofs.Observation

/-! The same change made to equal configurations. What an edit makes of the settings that count
depends on those settings alone, and a call reads those of its own kinds only. -/

namespace ClientAuth

/-- The settings of a kind that do not restate a default. -/
def toldOf (kind : SettingKind) (settings : List Setting) : List Setting :=
  settings.filter fun setting => !setting.isDefault && setting.kind = kind

theorem toldOf_filter_kind (kind : SettingKind) (keep : SettingKind → Bool)
    (settings : List Setting) :
    toldOf kind (settings.filter fun setting => keep setting.kind) =
      if keep kind then toldOf kind settings else [] := by
  rw [toldOf, List.filter_filter]
  by_cases hk : keep kind = true
  · rw [if_pos hk]
    apply List.filter_congr
    intro setting _
    by_cases h : setting.kind = kind
    · simp [h, hk]
    · simp [h]
  · rw [if_neg hk]
    apply List.filter_eq_nil_iff.mpr
    intro setting _ h
    simp only [Bool.and_eq_true, decide_eq_true_eq] at h
    rw [h.1.2] at h
    exact hk h.2

namespace Edit

/-- What an edit makes of the settings of a kind that do not restate a default. -/
def applyTold (kind : SettingKind) (told : List Setting) : Edit → List Setting
  | remove kinds => if kind ∉ kinds then told else []
  | push setting =>
    let kept := if kind ∉ setting.kind.displaces then told else []
    if !setting.isDefault && setting.kind = kind then setting :: kept else kept

theorem toldOf_apply (kind : SettingKind) (settings : List Setting) (edit : Edit) :
    toldOf kind (edit.apply settings) = edit.applyTold kind (toldOf kind settings) := by
  cases edit with
  | remove kinds =>
    have h := toldOf_filter_kind kind (fun kind => kind ∉ kinds) settings
    simpa only [apply, applyTold, decide_eq_true_eq] using h
  | push setting =>
    have h := toldOf_filter_kind kind (fun kind => kind ∉ setting.kind.displaces) settings
    simp only [decide_eq_true_eq] at h
    simp only [apply, applyTold, toldOf, List.filter_cons] at h ⊢
    rw [h]

theorem toldOf_foldl_apply (kind : SettingKind) (edits : List Edit) (settings : List Setting) :
    toldOf kind (edits.foldl apply settings) =
      edits.foldl (applyTold kind) (toldOf kind settings) := by
  induction edits generalizing settings with
  | nil => rfl
  | cons edit rest ih => rw [List.foldl_cons, List.foldl_cons, ih, toldOf_apply]

end Edit

namespace Configuration

variable {a b c : Configuration}

theorem told_editAll (hs : Settled c.settings) (edits : List Edit) (next : Nat)
    (kind : SettingKind) :
    ((c.editAll edits).run next).1.told kind =
      edits.foldl (Edit.applyTold kind) (c.told kind) := by
  show toldOf kind _ = edits.foldl _ (toldOf kind c.settings)
  rw [settings_editAll hs, Edit.toldOf_foldl_apply]

theorem told_editAll_congr (ha : Settled a.settings) (hb : Settled b.settings)
    (h : ∀ kind, a.told kind = b.told kind) (edits : List Edit) (next next' : Nat)
    (kind : SettingKind) :
    ((a.editAll edits).run next).1.told kind = ((b.editAll edits).run next').1.told kind := by
  rw [told_editAll ha, told_editAll hb, h]

theorem WellFormed.configuredCredentials_congr (ha : a.WellFormed) (hb : b.WellFormed)
    (h : a.told .credentials = b.told .credentials) :
    a.configuredCredentials = b.configuredCredentials := by
  have hread : ∀ c : Configuration, c.WellFormed → ∀ setting ∈ c.settings,
      (ownSource? setting).isSome = true →
        setting.kind = .credentials ∧ setting.isDefault = false := by
    intro c hc setting hm hr
    have hk : setting.kind = .credentials := by
      cases setting <;> simp [ownSource?, Setting.kind] at hr ⊢
    exact ⟨hk, hc.isDefault_eq_false hm (.inr (.inr hk))⟩
  rw [configuredCredentials, configuredCredentials, ← filterMap_told (hread a ha),
    ← filterMap_told (hread b hb), h]

end Configuration

namespace Derivation

variable {a b c : Configuration} {call : Derivation}

/-- Whether a call only stores what it is given. The other calls make an object of their own, and
no two such objects are equal. -/
def stores : Derivation → Bool
  | addNameMapping _ => false
  | useTrustManager manager => manager.isNone
  | useKeyManager manager => manager.isNone
  | useProvidersFromRegistry _ => false
  | useClientFactory _ => false
  | useChoice .. => false
  | _ => true

/-- What the calls about settings of these kinds read is the same in both. -/
structure SameReads (kinds : List SettingKind) (a b : Configuration) : Prop where
  nameMapping : .nameMapping ∈ kinds → a.nameMapping = b.nameMapping
  configuredCredentials : .credentials ∈ kinds → a.configuredCredentials = b.configuredCredentials
  choiceOperation : .choice ∈ kinds → a.choiceOperation = b.choiceOperation
  providerSupplier : .providers ∈ kinds → a.providerSupplier = b.providerSupplier
  allowedMechanisms : .mechanismFilter ∈ kinds → a.allowedMechanisms = b.allowedMechanisms
  deniedMechanisms : .mechanismFilter ∈ kinds → a.deniedMechanisms = b.deniedMechanisms
  parameterSpecs : .parameterSpecs ∈ kinds → a.parameterSpecs = b.parameterSpecs

/-- A call reads no settings but those of the kinds that it is about. -/
theorem SameReads.edits_eq (h : SameReads call.footprint a b) : call.edits a = call.edits b := by
  have hself : ∀ kind : SettingKind, kind ∈ [kind] := fun kind => List.mem_singleton_self kind
  cases call with
  | addNameMapping mapping => simp only [edits, h.nameMapping (hself _)]
  | usePassword password => simp only [edits, h.configuredCredentials (hself _)]
  | useCredentialHandler handler => simp only [edits, h.configuredCredentials (hself _)]
  | useChoice test option => simp only [edits, h.choiceOperation (hself _)]
  | useProvidersFromRegistry registry => simp only [edits, h.providerSupplier (hself _)]
  | useParameterSpec spec => simp only [edits, h.parameterSpecs (hself _)]
  | allowMechanisms mechanisms =>
    simp only [edits, h.allowedMechanisms (hself _), h.deniedMechanisms (hself _)]
  | forbidMechanisms mechanisms =>
    simp only [edits, h.allowedMechanisms (hself _), h.deniedMechanisms (hself _)]
  | useTrustManager manager => cases manager <;> rfl
  | useKeyManager manager => cases manager <;> rfl
  | _ => rfl

theorem SameReads.of_told {kinds : List SettingKind} (ha : a.WellFormed) (hb : b.WellFormed)
    (h : ∀ kind ∈ kinds, a.told kind = b.told kind) : SameReads kinds a b := by
  have hfilter : .mechanismFilter ∈ kinds → a.mechanismFilter = b.mechanismFilter :=
    fun hk => ha.findSome?_getD_congr hb (by decide) ?_ (h _ hk)
  refine
    { nameMapping := fun hk => ha.findSome?_getD_congr hb (by decide) ?_ (h _ hk)
      configuredCredentials := fun hk => ha.configuredCredentials_congr hb (h _ hk)
      choiceOperation := fun hk => ha.findSome?_getD_congr hb (by decide) ?_ (h _ hk)
      providerSupplier := fun hk => ha.findSome?_getD_congr hb (by decide) ?_ (h _ hk)
      allowedMechanisms := fun hk => congrArg Prod.fst (hfilter hk)
      deniedMechanisms := fun hk => congrArg Prod.snd (hfilter hk)
      parameterSpecs := fun hk => ha.findSome?_getD_congr hb (by decide) ?_ (h _ hk) }
  all_goals
    intro setting hr
    cases setting <;> simp [Setting.kind, Setting.isDefault] at hr ⊢

theorem edits_congr (call : Derivation) (ha : a.WellFormed) (hb : b.WellFormed)
    (h : ∀ kind ∈ call.footprint, a.told kind = b.told kind) : call.edits a = call.edits b :=
  (SameReads.of_told ha hb h).edits_eq

theorem eq_pure_of_stores (hc : call.stores = true) {minted : Mint (List Edit)}
    (h : call.edits c = .ok minted) : ∃ edits, minted = pure edits := by
  cases call with
  | addNameMapping _ => cases hc
  | useProvidersFromRegistry _ => cases hc
  | useClientFactory _ => cases hc
  | useChoice _ _ => cases hc
  | useTrustManager manager =>
    cases manager with
    | none =>
      cases h
      exact ⟨_, rfl⟩
    | some manager => cases hc
  | useKeyManager manager =>
    cases manager with
    | none =>
      cases h
      exact ⟨_, rfl⟩
    | some manager => cases hc
  | useKeyStoreEntry store entry protection =>
    obtain ⟨-, rfl⟩ := eq_pure_of_requireEntry h
    exact ⟨_, rfl⟩
  | useCredentialStoreEntry store entry =>
    obtain ⟨-, rfl⟩ := eq_pure_of_requireEntry h
    exact ⟨_, rfl⟩
  | usePort number =>
    obtain ⟨-, rfl⟩ := eq_pure_of_ite h
    exact ⟨_, rfl⟩
  | _ =>
    cases h
    exact ⟨_, rfl⟩

theorem told_derive_congr (ha : a.Lawful) (hb : b.Lawful) (h : ∀ kind, a.told kind = b.told kind)
    (hc : call.stores = true) {action action' : Mint Configuration}
    (hd : call.derive a = .ok action) (hd' : call.derive b = .ok action') (next next' : Nat)
    (kind : SettingKind) : (action.run next).1.told kind = (action'.run next').1.told kind := by
  obtain ⟨minted, he, rfl⟩ := exists_edits hd
  obtain ⟨minted', he', rfl⟩ := exists_edits hd'
  rw [call.edits_congr ha.wellFormed hb.wellFormed fun kind _ => h kind, he'] at he
  cases he
  obtain ⟨edits, rfl⟩ := eq_pure_of_stores hc he'
  exact Configuration.told_editAll_congr ha.settled hb.settled h edits next next' kind

theorem derive_ok_or_error (ha : a.Lawful) (hb : b.Lawful) (h : ∀ kind, a.told kind = b.told kind)
    (call : Derivation) :
    (∃ error, call.derive a = .error error ∧ call.derive b = .error error) ∨
      ∃ action action', call.derive a = .ok action ∧ call.derive b = .ok action' := by
  have he := call.edits_congr ha.wellFormed hb.wellFormed fun kind _ => h kind
  cases hb' : call.edits b with
  | error error =>
    refine .inl ⟨error, ?_, ?_⟩
    · rw [derive_eq_edits, he, hb']
      rfl
    · rw [derive_eq_edits, hb']
      rfl
  | ok minted =>
    refine .inr ⟨minted >>= a.editAll, minted >>= b.editAll, ?_, ?_⟩
    · rw [derive_eq_edits, he, hb']
      rfl
    · rw [derive_eq_edits, hb']
      rfl

end Derivation

theorem Change.eq_pure_of_stores {call : Derivation} (h : call.stores = true) (c : Configuration) :
    ∃ edits, (derive call).edits c = pure edits := by
  rw [edits]
  cases he : call.edits c with
  | error error => exact ⟨[], rfl⟩
  | ok minted => exact Derivation.eq_pure_of_stores h he

namespace Stock

/-- The results of the two are equal in every stock that has both, whenever each was made. -/
def Agree (action action' : Mint Configuration) : Prop :=
  ∀ (stock : Stock) (next next' : Nat), stock.Reachable → (action.run next).1 ∈ stock.made →
    (action'.run next').1 ∈ stock.made →
      stock.Equates (action.run next).1 (action'.run next').1

theorem Agree.of_told_eq {action action' : Mint Configuration}
    (h : ∀ next next' kind, (action.run next).1.told kind = (action'.run next').1.told kind) :
    Agree action action' :=
  fun _ next next' hs hm hm' => hs.equates hm hm' (h next next')

end Stock

/-- Configurations that compare equal stay so under the same call or merge, as long as the call
stores no object made for the purpose. -/
theorem agree_of_isEqual {stock : Stock} (hs : stock.Reachable) {a a' : Configuration}
    (ha : a ∈ stock.made) (ha' : a' ∈ stock.made) {hash : Canonical → UInt64} {cache : DigestCache}
    (h : ((a.isEqual hash a').run cache).1 = true) :
    (∀ call : Derivation, call.stores = true →
      (∃ error, call.derive a = .error error ∧ call.derive a' = .error error) ∨
        ∃ action action', call.derive a = .ok action ∧ call.derive a' = .ok action' ∧
          Stock.Agree action action') ∧
      ∀ b ∈ stock.made, Stock.Agree (a.merge b) (a'.merge b) := by
  have hl := hs.coherent.lawful a ha
  have hl' := hs.coherent.lawful a' ha'
  have htold := hs.told_eq ha ha' h
  constructor
  · intro call hcall
    rcases Derivation.derive_ok_or_error hl hl' htold call with herror | ⟨action, action', hd, hd'⟩
    · exact .inl herror
    · refine .inr ⟨action, action', hd, hd', .of_told_eq ?_⟩
      exact Derivation.told_derive_congr hl hl' htold hcall hd hd'
  · intro b _
    apply Stock.Agree.of_told_eq
    rw [Configuration.merge_eq_editAll, Configuration.merge_eq_editAll]
    exact Configuration.told_editAll_congr hl.settled hl'.settled htold b.mergeEdits

theorem agree_of_reordering :
    let first := Stock.initial.follow .base
      [.useName "alice", .useTrustManager none, .useBearerToken ⟨"token"⟩, .useHost "localhost"]
    let second := first.1.follow .base
      [.useHost "localhost", .useBearerToken ⟨"token"⟩, .useName "alice"]
    let call := Derivation.usePassword (some ⟨"secret"⟩)
    ∃ action action', call.derive first.2 = .ok action ∧ call.derive second.2 = .ok action' ∧
      (action.run second.1.next).1.settings ≠
        (action'.run (second.1.add action).next).1.settings ∧
      ((second.1.add action).add action').Equates (action.run second.1.next).1
        (action'.run (second.1.add action).next).1 := by
  intro first second call
  have h := Stock.reachable_initial.follow Stock.mem_base
    [.useName "alice", .useTrustManager none, .useBearerToken ⟨"token"⟩, .useHost "localhost"]
  have h' := h.1.follow (h.2.2 Stock.mem_base)
    [.useHost "localhost", .useBearerToken ⟨"token"⟩, .useName "alice"]
  have hfirst := h'.2.2 h.2.1
  have heq : ((first.2.isEqual (fun _ => 0) second.2).run .empty).1 = true := by decide +kernel
  rcases (agree_of_isEqual h'.1 hfirst h'.2.1 heq).1 call rfl with
    ⟨error, hd, -⟩ | ⟨action, action', hd, hd', hagree⟩
  · cases hd
  · have hstep : (second.1.add action).Reachable := .tail h'.1 (.derive hfirst hd)
    have hstep' : ((second.1.add action).add action').Reachable :=
      .tail hstep (.derive (List.mem_cons_of_mem _ h'.2.1) hd')
    refine ⟨action, action', hd, hd', ?_, hagree _ _ _ hstep'
      (List.mem_cons_of_mem _ List.mem_cons_self) List.mem_cons_self⟩
    cases hd
    cases hd'
    decide +kernel

end ClientAuth
