import ClientAuth.Configuration.Canonical
import ClientAuth.Proofs.WellFormed

/-! What comparing two configurations tells about their chains. In well formed chains nothing is in
effect but the settings themselves, save those that restate a default. -/

namespace ClientAuth

theorem Stock.Coherent.eq_of_sameChain {stock : Stock} (h : stock.Coherent) {a b : Configuration}
    (ha : a ∈ stock.made) (hb : b ∈ stock.made) (hsame : a.sameChain b = true) : a = b := by
  obtain ⟨nodes⟩ := a
  obtain ⟨nodes'⟩ := b
  simp only [Configuration.sameChain, Configuration.head?] at hsame
  cases nodes with
  | nil =>
    cases nodes' with
    | nil => rfl
    | cons node' below' => simp at hsame
  | cons node below =>
    cases nodes' with
    | nil => simp at hsame
    | cons node' below' =>
      have hid : node.id = node'.id := by simpa using hsame
      exact congrArg Configuration.mk (h.shared _ ha _ hb node below node' below'
        (List.suffix_refl _) (List.suffix_refl _) hid)

namespace Configuration

variable {a b c : Configuration} {kind : SettingKind}

/-- The settings of a kind that do not restate a default, newest first. -/
def told (c : Configuration) (kind : SettingKind) : List Setting :=
  c.settings.filter fun setting => !setting.isDefault && setting.kind = kind

theorem mem_told {setting : Setting} :
    setting ∈ c.told kind ↔
      setting ∈ c.settings ∧ setting.isDefault = false ∧ setting.kind = kind := by
  simp [told]

theorem told_eq_filter (c : Configuration) (kind : SettingKind) :
    c.told kind = (c.settings.filter fun setting => setting.kind = kind).filter
      fun setting => !setting.isDefault := by
  rw [List.filter_filter]
  rfl

theorem WellFormed.length_told_le (hc : c.WellFormed) (hk : kind ≠ .credentials) :
    (c.told kind).length ≤ 1 := by
  rw [told_eq_filter]
  exact Nat.le_trans (List.length_filter_le _ _) (hc.single kind hk)

theorem WellFormed.effective_eq (hc : c.WellFormed) (kind : SettingKind) :
    c.effective kind = if kind.isMultiValued then (c.told kind).reverse else c.told kind := by
  by_cases hk : kind.isMultiValued = true
  · simp only [effective, hk, if_true]
    rfl
  · have hne : kind ≠ .credentials := by simpa [SettingKind.isMultiValued] using hk
    rw [if_neg hk]
    simp only [effective, if_neg hk]
    exact List.take_of_length_le (hc.length_told_le hne)

theorem WellFormed.told_eq_of_effective_eq (ha : a.WellFormed) (hb : b.WellFormed)
    (h : a.effective kind = b.effective kind) : a.told kind = b.told kind := by
  rw [ha.effective_eq, hb.effective_eq] at h
  by_cases hk : kind.isMultiValued = true
  · simp only [hk, if_true] at h
    exact List.reverse_inj.mp h
  · simpa only [if_neg hk] using h

theorem mem_canonical {settings : List Setting} :
    (kind, settings) ∈ c.canonical ↔ c.effective kind = settings ∧ settings ≠ [] := by
  simp only [canonical, List.mem_filter, List.mem_map, Prod.mk.injEq, Bool.not_eq_true',
    List.isEmpty_eq_false_iff]
  constructor
  · rintro ⟨⟨_, -, rfl, heff⟩, hne⟩
    exact ⟨heff, hne⟩
  · rintro ⟨heff, hne⟩
    exact ⟨⟨kind, kind.mem_all, rfl, heff⟩, hne⟩

theorem lookup_canonical_iff {settings : List Setting} :
    c.canonical.lookup kind = some settings ↔ c.effective kind = settings ∧ settings ≠ [] := by
  have hmem : ∀ {found}, c.canonical.lookup kind = some found → (kind, found) ∈ c.canonical := by
    intro found hf
    obtain ⟨before, after, heq, -⟩ := List.lookup_eq_some_iff.mp hf
    rw [heq]
    exact List.mem_append_right before List.mem_cons_self
  constructor
  · exact fun hf => mem_canonical.mp (hmem hf)
  · rintro ⟨heff, hne⟩
    have hin := mem_canonical.mpr ⟨heff, hne⟩
    have hsome := List.lookup_isSome_iff.mpr ⟨_, hin, beq_self_eq_true kind⟩
    obtain ⟨found, hf⟩ := Option.isSome_iff_exists.mp hsome
    rw [hf, ← heff, (mem_canonical.mp (hmem hf)).1]

theorem effectiveIn_iff :
    a.effectiveIn b = true ↔
      ∀ kind, a.effective kind ≠ [] → b.effective kind = a.effective kind := by
  simp only [effectiveIn, List.all_eq_true, decide_eq_true_eq, lookup_canonical_iff]
  constructor
  · intro h kind hne
    exact (h (kind, a.effective kind) (mem_canonical.mpr ⟨rfl, hne⟩)).1
  · rintro h ⟨kind, settings⟩ hm
    obtain ⟨rfl, hne⟩ := mem_canonical.mp hm
    exact ⟨h kind hne, hne⟩

theorem effective_eq_iff :
    a.effectiveIn b = true ∧ b.effectiveIn a = true ↔
      ∀ kind, a.effective kind = b.effective kind := by
  rw [effectiveIn_iff, effectiveIn_iff]
  constructor
  · rintro ⟨h, h'⟩ kind
    by_cases he : a.effective kind = []
    · by_cases he' : b.effective kind = []
      · rw [he, he']
      · exact h' kind he'
    · exact (h kind he).symm
  · intro h
    exact ⟨fun kind _ => (h kind).symm, fun kind _ => h kind⟩

theorem canonical_eq_iff :
    a.canonical = b.canonical ↔ ∀ kind, a.effective kind = b.effective kind := by
  constructor
  · intro h
    have hself : b.effectiveIn b = true := effectiveIn_iff.mpr fun _ _ => rfl
    apply effective_eq_iff.mp
    simp only [effectiveIn, h] at hself ⊢
    exact ⟨hself, hself⟩
  · intro h
    simp only [canonical, h]

theorem WellFormed.canonical_eq_iff_told (ha : a.WellFormed) (hb : b.WellFormed) :
    a.canonical = b.canonical ↔ ∀ kind, a.told kind = b.told kind := by
  rw [canonical_eq_iff]
  constructor
  · exact fun h kind => ha.told_eq_of_effective_eq hb (h kind)
  · intro h kind
    rw [ha.effective_eq, hb.effective_eq, h]

/-- Neither the digests nor what is known of them make configurations equal that differ. -/
theorem sameChain_or_effectiveIn_of_isEqual {hash : Canonical → UInt64} {cache : DigestCache}
    (h : ((a.isEqual hash b).run cache).1 = true) :
    a.sameChain b = true ∨ a.effectiveIn b = true ∧ b.effectiveIn a = true := by
  by_cases hs : a.sameChain b = true
  · exact .inl hs
  · right
    rw [isEqual, if_neg hs] at h
    have hall : (_ && a.effectiveIn b && b.effectiveIn a) = true := h
    rw [Bool.and_eq_true, Bool.and_eq_true] at hall
    exact ⟨hall.1.2, hall.2⟩

end Configuration

theorem Stock.Coherent.told_eq {stock : Stock} (hs : stock.Coherent) {a b : Configuration}
    (ha : a ∈ stock.made) (hb : b ∈ stock.made) {hash : Canonical → UInt64} {cache : DigestCache}
    (h : ((a.isEqual hash b).run cache).1 = true) (kind : SettingKind) :
    a.told kind = b.told kind := by
  rcases Configuration.sameChain_or_effectiveIn_of_isEqual h with hsame | heff
  · rw [hs.eq_of_sameChain ha hb hsame]
  · have hwa := (hs.lawful a ha).wellFormed
    have hwb := (hs.lawful b hb).wellFormed
    exact hwa.told_eq_of_effective_eq hwb (Configuration.effective_eq_iff.mp heff kind)

theorem Stock.Reachable.told_eq {stock : Stock} (hs : stock.Reachable) {a b : Configuration}
    (ha : a ∈ stock.made) (hb : b ∈ stock.made) {hash : Canonical → UInt64} {cache : DigestCache}
    (h : ((a.isEqual hash b).run cache).1 = true) (kind : SettingKind) :
    a.told kind = b.told kind :=
  hs.coherent.told_eq ha hb h kind

end ClientAuth
