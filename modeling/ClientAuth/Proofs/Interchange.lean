import ClientAuth.Proofs.Congruence
import ClientAuth.Proofs.Merge

/-! Equal configurations as the argument of a merge. A setting that restates a default does not count
where configurations are compared, but where one is merged it takes the place of what it restates. -/

namespace ClientAuth

/-- The kinds that a forwarded identity has to do with. None of their settings restates a default. -/
def SettingKind.IsPersonal (kind : SettingKind) : Prop :=
  kind = .forward ∨ kind = .identity ∨ kind = .credentials

theorem SettingKind.replaces_personal {upper lower : SettingKind} (h : upper.replaces lower = true)
    (hne : lower ≠ upper) : upper.IsPersonal ∧ lower.IsPersonal := by
  rcases replaces_iff.mp h with he | ⟨rfl, hl⟩ | ⟨rfl, hu⟩
  · exact absurd he hne
  · exact ⟨.inl rfl, .inr hl⟩
  · exact ⟨.inr hu, .inl rfl⟩

namespace Configuration

variable {a b c : Configuration} {kind : SettingKind}

theorem Alike.mem_of_personal (h : Alike a b) {setting : Setting} (hm : setting ∈ a.settings)
    (hk : setting.kind.IsPersonal) : setting ∈ b.settings := by
  have htold := mem_told.mpr ⟨hm, h.left.isDefault_eq_false hm hk, rfl⟩
  rw [h.told] at htold
  exact (mem_told.mp htold).1

theorem Alike.hasKind_of_personal (h : Alike a b) (hk : kind.IsPersonal)
    (ha : a.hasKind kind = true) : b.hasKind kind = true := by
  obtain ⟨setting, hm, rfl⟩ := hasKind_iff.mp ha
  exact hasKind_iff.mpr ⟨setting, h.mem_of_personal hm hk, rfl⟩

theorem Alike.leaves_of_personal (h : Alike a b) (hk : kind.IsPersonal)
    (ha : leaves a.settings kind = false) : leaves b.settings kind = false := by
  obtain ⟨upper, hm, hr⟩ := leaves_eq_false_iff.mp ha
  refine leaves_eq_false_iff.mpr ⟨upper, h.mem_of_personal hm ?_, hr⟩
  by_cases he : kind = upper.kind
  · exact he ▸ hk
  · exact (SettingKind.replaces_personal hr he).1

theorem leaves_eq_not_hasKind (hk : ¬ kind.IsPersonal) :
    leaves c.settings kind = !c.hasKind kind := by
  have hiff : leaves c.settings kind = false ↔ c.hasKind kind = true := by
    rw [leaves_eq_false_iff, hasKind_iff]
    constructor
    · rintro ⟨upper, hm, hr⟩
      by_cases he : kind = upper.kind
      · exact ⟨upper, hm, he.symm⟩
      · exact absurd (SettingKind.replaces_personal hr he).2 hk
    · rintro ⟨upper, hm, rfl⟩
      exact ⟨upper, hm, by simp [SettingKind.replaces]⟩
  cases hc : c.hasKind kind with
  | true => exact hiff.mpr hc
  | false =>
    apply Bool.of_not_eq_false
    intro hl
    rw [hiff.mp hl] at hc
    cases hc

theorem Alike.leaves_eq_iff (h : Alike a b) :
    leaves a.settings kind = leaves b.settings kind ↔ a.hasKind kind = b.hasKind kind := by
  by_cases hk : kind.IsPersonal
  · have hleaves : leaves a.settings kind = leaves b.settings kind := by
      cases hb : leaves b.settings kind with
      | false => exact h.symm.leaves_of_personal hk hb
      | true =>
        apply Bool.of_not_eq_false
        intro ha
        rw [h.leaves_of_personal hk ha] at hb
        cases hb
    have hhas : a.hasKind kind = b.hasKind kind :=
      Bool.eq_iff_iff.mpr ⟨h.hasKind_of_personal hk, h.symm.hasKind_of_personal hk⟩
    exact iff_of_true hleaves hhas
  · rw [leaves_eq_not_hasKind hk, leaves_eq_not_hasKind hk, Bool.not_inj_iff]

theorem told_merge (ha : Settled a.settings) (hb : Settled b.settings) (next : Nat)
    (kind : SettingKind) :
    ((a.merge b).run next).1.told kind =
      b.told kind ++ if leaves b.settings kind then a.told kind else [] := by
  show toldOf kind _ = toldOf kind b.settings ++ if _ then toldOf kind a.settings else []
  rw [settings_merge ha hb, ← toldOf_filter_kind kind (leaves b.settings)]
  exact List.filter_append ..

/-- Of settings that have nothing to do with forwarding, a merge shows those of its argument if there
are any. -/
theorem findSome?_merge (ha : Settled a.settings) (hb : Settled b.settings)
    (hk : ¬ kind.IsPersonal) {α : Type} {read : Setting → Option α}
    (hread : ∀ setting, (read setting).isSome = true ↔ setting.kind = kind) (next : Nat) :
    ((a.merge b).run next).1.settings.findSome? read =
      if b.hasKind kind then b.settings.findSome? read else a.settings.findSome? read := by
  rw [settings_merge ha hb, List.findSome?_append]
  cases hkind : b.hasKind kind with
  | true =>
    obtain ⟨setting, hm, hs⟩ := hasKind_iff.mp hkind
    have hsome : (b.settings.findSome? read).isSome = true :=
      List.findSome?_isSome_iff.mpr ⟨setting, hm, (hread setting).mpr hs⟩
    rw [Option.or_of_isSome hsome]
    rfl
  | false =>
    have hnone := findSome?_eq_none_of_hasKind hkind fun setting => (hread setting).mp
    rw [hnone, Option.none_or, ← List.head?_filterMap, filterMap_filter_of_isSome,
      List.head?_filterMap]
    · rfl
    · intro setting _ hr
      rw [(hread setting).mp hr, leaves_eq_not_hasKind hk, hkind]
      rfl

theorem told_merge_eq_iff {b' : Configuration} (ha : a.Lawful) (hb : b.Lawful) (hb' : b'.Lawful)
    (h : ∀ kind, b.told kind = b'.told kind) (next next' : Nat) :
    (∀ kind, ((a.merge b).run next).1.told kind = ((a.merge b').run next').1.told kind) ↔
      ∀ kind, a.told kind ≠ [] → b.hasKind kind = b'.hasKind kind := by
  have halike : Alike b b' := ⟨hb.wellFormed, hb'.wellFormed, h⟩
  apply forall_congr'
  intro kind
  rw [told_merge ha.settled hb.settled, told_merge ha.settled hb'.settled, h,
    List.append_cancel_left_eq, ← halike.leaves_eq_iff]
  constructor
  · intro heq hne
    cases hl : leaves b.settings kind <;> cases hl' : leaves b'.settings kind <;>
      simp [hl, hl', hne] at heq ⊢
  · intro himp
    by_cases hne : a.told kind = []
    · simp [hne]
    · rw [himp hne]

theorem WellFormed.effective_eq_nil_iff (hc : c.WellFormed) :
    c.effective kind = [] ↔ c.told kind = [] := by
  rw [hc.effective_eq]
  split <;> simp

end Configuration

/-- Merging one or the other of two configurations that compare equal gives equal results unless the
receiver has something in effect that only one of them restates the default of. -/
theorem merge_isEqual_iff {stock : Stock} (hs : stock.Reachable) {a b b' : Configuration}
    (ha : a ∈ stock.made) (hb : b ∈ stock.made) (hb' : b' ∈ stock.made)
    {hash : Canonical → UInt64} {cache : DigestCache}
    (h : ((b.isEqual hash b').run cache).1 = true) {later : Stock} (hl : later.Reachable)
    {next next' : Nat} (hm : ((a.merge b).run next).1 ∈ later.made)
    (hm' : ((a.merge b').run next').1 ∈ later.made) {hash' : Canonical → UInt64}
    {cache' : DigestCache} (hr : cache'.Reached hash' later.made) :
    ((((a.merge b).run next).1.isEqual hash' ((a.merge b').run next').1).run cache').1 = true ↔
      ∀ kind, a.effective kind ≠ [] → b.hasKind kind = b'.hasKind kind := by
  have hlawful := hs.coherent.lawful
  rw [hl.isEqual_iff hm hm' hr, Configuration.told_merge_eq_iff (hlawful a ha) (hlawful b hb)
    (hlawful b' hb') (hs.told_eq hb hb' h)]
  simp only [ne_eq, (hlawful a ha).wellFormed.effective_eq_nil_iff]

theorem merge_isEqual_of_host :
    let first := Stock.initial.follow .base [.useHost "localhost"]
    let second := first.1.follow .base [.useTrustManager none]
    let third := second.1.add (first.2.merge second.2)
    let fourth := third.add (first.2.merge .base)
    let merged := ((first.2.merge second.2).run second.1.next).1
    let merged' := ((first.2.merge .base).run third.next).1
    fourth.Reachable ∧ merged ∈ fourth.made ∧ merged' ∈ fourth.made ∧
      merged.settings ≠ merged'.settings ∧
      ((merged.isEqual (fun _ => 0) merged').run .empty).1 = true := by
  intro first second third fourth merged merged'
  have h := Stock.reachable_initial.follow Stock.mem_base [.useHost "localhost"]
  have h' := h.1.follow (h.2.2 Stock.mem_base) [.useTrustManager none]
  have hfirst := h'.2.2 h.2.1
  have hbase := h'.2.2 (h.2.2 Stock.mem_base)
  have heq : ((second.2.isEqual (fun _ => 0) .base).run .empty).1 = true := by decide +kernel
  have hthird : third.Reachable := .tail h'.1 (.merge hfirst h'.2.1)
  have hfourth : fourth.Reachable :=
    .tail hthird (.merge (List.mem_cons_of_mem _ hfirst) (List.mem_cons_of_mem _ hbase))
  have hm : merged ∈ fourth.made := List.mem_cons_of_mem _ List.mem_cons_self
  have hm' : merged' ∈ fourth.made := List.mem_cons_self
  refine ⟨hfourth, hm, hm', by decide +kernel, ?_⟩
  apply (merge_isEqual_iff h'.1 hfirst h'.2.1 hbase heq hfourth hm hm' .empty).mpr
  intro kind
  cases kind <;> decide +kernel

theorem merge_not_isEqual_of_trustManager :
    let first := Stock.initial.follow .base [.useTrustManager (some default)]
    let second := first.1.follow .base [.useTrustManager none]
    let third := second.1.add (first.2.merge second.2)
    let fourth := third.add (first.2.merge .base)
    let merged := ((first.2.merge second.2).run second.1.next).1
    let merged' := ((first.2.merge .base).run third.next).1
    fourth.Reachable ∧ merged ∈ fourth.made ∧ merged' ∈ fourth.made ∧
      ((second.2.isEqual (fun _ => 0) .base).run .empty).1 = true ∧
      ∀ hash cache, ((merged.isEqual hash merged').run cache).1 = false := by
  intro first second third fourth merged merged'
  have h := Stock.reachable_initial.follow Stock.mem_base [.useTrustManager (some default)]
  have h' := h.1.follow (h.2.2 Stock.mem_base) [.useTrustManager none]
  have hthird : third.Reachable := .tail h'.1 (.merge (h'.2.2 h.2.1) h'.2.1)
  have hfourth : fourth.Reachable := .tail hthird
    (.merge (List.mem_cons_of_mem _ (h'.2.2 h.2.1))
      (List.mem_cons_of_mem _ (h'.2.2 (h.2.2 Stock.mem_base))))
  have hm : merged ∈ fourth.made := List.mem_cons_of_mem _ List.mem_cons_self
  have hm' : merged' ∈ fourth.made := List.mem_cons_self
  refine ⟨hfourth, hm, hm', by decide +kernel, ?_⟩
  intro hash cache
  apply Bool.eq_false_iff.mpr
  intro heq
  have htold : merged.told .trustManager ≠ merged'.told .trustManager := by decide +kernel
  exact htold (hfourth.told_eq hm hm' heq .trustManager)

end ClientAuth
