import ClientAuth.Proofs.Reachability

/-! Which settings can stand in one chain. Displacement is not symmetric, for credentials stack, but
in a settled chain it excludes in both directions. -/

namespace ClientAuth

namespace SettingKind

theorem mem_displaces_self {kind : SettingKind} (h : kind ≠ .credentials) :
    kind ∈ kind.displaces := by
  cases kind <;> simp_all [displaces]

end SettingKind

namespace Configuration

structure WellFormed (c : Configuration) : Prop where
  single : ∀ kind, kind ≠ .credentials →
    (c.settings.filter fun setting => setting.kind = kind).length ≤ 1
  exclusive : c.hasKind .forward = true →
    c.hasKind .identity = false ∧ c.hasKind .credentials = false
  sound : ∀ setting ∈ c.settings, setting.Sound

theorem Settled.length_filter_le {settings : List Setting} (hs : Settled settings)
    {kind : SettingKind} (hk : kind ∈ kind.displaces) :
    (settings.filter fun setting => setting.kind = kind).length ≤ 1 := by
  have hp := hs.filter fun setting => setting.kind = kind
  have hkind : ∀ setting ∈ settings.filter fun setting => setting.kind = kind,
      setting.kind = kind := fun setting hm => by simpa using (List.mem_filter.mp hm).2
  cases hf : settings.filter fun setting => setting.kind = kind with
  | nil => simp
  | cons upper rest =>
    rw [hf] at hp hkind
    cases rest with
    | nil => simp
    | cons lower rest =>
      have hd := (List.pairwise_cons.mp hp).1 lower List.mem_cons_self
      rw [hkind upper List.mem_cons_self, hkind lower (by simp)] at hd
      exact absurd hk hd

theorem Settled.not_both {settings : List Setting} (hs : Settled settings) {s t : Setting}
    (hm : s ∈ settings) (hm' : t ∈ settings) (hne : s.kind ≠ t.kind)
    (hst : t.kind ∈ s.kind.displaces) (hts : s.kind ∈ t.kind.displaces) : False := by
  induction settings with
  | nil => exact List.not_mem_nil hm
  | cons upper rest ih =>
    have hcons := List.pairwise_cons.mp hs
    rcases List.mem_cons.mp hm with rfl | hr <;> rcases List.mem_cons.mp hm' with rfl | hr'
    · exact hne rfl
    · exact hcons.1 t hr' hst
    · exact hcons.1 s hr hts
    · exact ih hcons.2 hr hr'

variable {c : Configuration}

theorem hasKind_iff {kind : SettingKind} :
    c.hasKind kind = true ↔ ∃ setting ∈ c.settings, setting.kind = kind := by
  simp [hasKind]

theorem kind_ne_of_hasKind {kind : SettingKind} (h : c.hasKind kind = false) {setting : Setting}
    (hm : setting ∈ c.settings) : setting.kind ≠ kind := by
  intro hk
  rw [hasKind_iff.mpr ⟨setting, hm, hk⟩] at h
  cases h

theorem findSome?_eq_none_of_hasKind {α : Type} {read : Setting → Option α} {kind : SettingKind}
    (h : c.hasKind kind = false)
    (hr : ∀ setting, (read setting).isSome = true → setting.kind = kind) :
    c.settings.findSome? read = none := by
  apply List.findSome?_eq_none_iff.mpr
  intro setting hm
  apply Option.not_isSome_iff_eq_none.mp
  exact fun hs => kind_ne_of_hasKind h hm (hr setting hs)

theorem Settled.exclusive (hs : Settled c.settings) {kind kind' : SettingKind}
    (hne : kind ≠ kind') (hd : kind' ∈ kind.displaces) (hd' : kind ∈ kind'.displaces)
    (h : c.hasKind kind = true) : c.hasKind kind' = false := by
  apply Bool.eq_false_iff.mpr
  intro h'
  obtain ⟨s, hm, rfl⟩ := hasKind_iff.mp h
  obtain ⟨t, hm', rfl⟩ := hasKind_iff.mp h'
  exact hs.not_both hm hm' hne hd hd'

theorem Lawful.wellFormed (hc : c.Lawful) : c.WellFormed where
  single _ hk := hc.settled.length_filter_le (SettingKind.mem_displaces_self hk)
  exclusive h := ⟨hc.settled.exclusive (by decide) (by decide) (by decide) h,
    hc.settled.exclusive (by decide) (by decide) (by decide) h⟩
  sound := hc.sound

end Configuration

/-- Whatever calls and merges have led to a configuration, its chain is well formed. -/
theorem wellFormed_of_reachable {stock : Stock} (hs : stock.Reachable) {c : Configuration}
    (hc : c ∈ stock.made) : c.WellFormed :=
  (hs.coherent.lawful c hc).wellFormed

theorem wellFormed_of_forwarding :
    let run := Stock.initial.follow .empty [.useName "alice", .useBearerToken ⟨"token"⟩,
      .allowMechanisms [Mechanism.external], .useForwardedIdentity default default]
    run.1.Reachable ∧ run.2 ∈ run.1.made ∧
      run.2.settings.map Setting.kind = [.forward, .mechanismFilter, .trustManager] ∧
      run.2.WellFormed := by
  intro run
  have h := Stock.reachable_initial.follow Stock.mem_empty [.useName "alice",
    .useBearerToken ⟨"token"⟩, .allowMechanisms [Mechanism.external],
    .useForwardedIdentity default default]
  exact ⟨h.1, h.2.1, by decide +kernel, wellFormed_of_reachable h.1 h.2.1⟩

end ClientAuth
