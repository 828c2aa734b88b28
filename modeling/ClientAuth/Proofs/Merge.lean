import ClientAuth.Proofs.WellFormed

/-! What a merge makes of two chains, and when merges can be regrouped. A merge puts the settings of
its argument on one by one; in well formed chains none of them gets in the way of another. -/

namespace ClientAuth

/-- Whether a merged setting of the one kind takes the place of those of the other. -/
def SettingKind.replaces (upper lower : SettingKind) : Bool :=
  lower = upper || lower ∈ upper.displaces

theorem SettingKind.replaces_iff {upper lower : SettingKind} :
    upper.replaces lower = true ↔ lower = upper ∨
      (upper = .forward ∧ (lower = .identity ∨ lower = .credentials)) ∨
      (lower = .forward ∧ (upper = .identity ∨ upper = .credentials)) := by
  cases upper <;> simp [replaces, displaces, or_comm]
  exact fun h => .inr h

namespace Configuration

/-- Whether merging the settings leaves those of `kind` in place. -/
def leaves (settings : List Setting) (kind : SettingKind) : Bool :=
  settings.all fun upper => !upper.kind.replaces kind

theorem leaves_append (upper lower : List Setting) (kind : SettingKind) :
    leaves (upper ++ lower) kind = (leaves upper kind && leaves lower kind) := by
  simp [leaves]

theorem leaves_eq_false_iff {settings : List Setting} {kind : SettingKind} :
    leaves settings kind = false ↔ ∃ upper ∈ settings, upper.kind.replaces kind = true := by
  simp [leaves]

theorem leaves_filter {settings : List Setting} {kind : SettingKind} (keep : Setting → Bool)
    (h : leaves settings kind = true) : leaves (settings.filter keep) kind = true := by
  simp only [leaves, List.all_eq_true] at h ⊢
  exact fun upper hm => h upper (List.mem_filter.mp hm).1

theorem foldl_push {settings : List Setting} (hs : Settled settings) (below : List Setting) :
    (settings.reverse.map Edit.push).foldl Edit.apply below =
      settings ++ below.filter fun lower =>
        settings.all fun upper => lower.kind ∉ upper.kind.displaces := by
  induction settings with
  | nil => exact (List.filter_eq_self.mpr (by simp)).symm
  | cons upper rest ih =>
    have hcons := List.pairwise_cons.mp hs
    have hrest : rest.filter (fun lower => lower.kind ∉ upper.kind.displaces) = rest :=
      List.filter_eq_self.mpr (by simpa using hcons.1)
    simp only [List.reverse_cons, List.map_append, List.map_cons, List.map_nil,
      List.foldl_append, List.foldl_cons, List.foldl_nil, ih hcons.2, Edit.apply,
      List.filter_append, hrest, List.filter_filter, List.all_cons, List.cons_append]

theorem mem_stacked {settings : List Setting} {kind : SettingKind} :
    kind ∈ (settings.map Setting.kind).filter SettingKind.isMultiValued ↔
      kind = .credentials ∧ ∃ setting ∈ settings, setting.kind = kind := by
  simp [SettingKind.isMultiValued, and_comm]

theorem leaves_eq_true_iff {settings : List Setting} {kind : SettingKind} :
    leaves settings kind = true ↔
      (∀ upper ∈ settings, kind ∉ upper.kind.displaces) ∧
        kind ∉ (settings.map Setting.kind).filter SettingKind.isMultiValued := by
  simp only [leaves, List.all_eq_true, SettingKind.replaces, Bool.not_eq_true', Bool.or_eq_false_iff,
    decide_eq_false_iff_not, mem_stacked]
  constructor
  · intro h
    refine ⟨fun upper hm => (h upper hm).2, ?_⟩
    rintro ⟨-, upper, hm, rfl⟩
    exact (h upper hm).1 rfl
  · rintro ⟨hd, hs⟩ upper hm
    refine ⟨?_, hd upper hm⟩
    rintro rfl
    -- A kind that does not displace itself stacks, and the merge removes it before.
    by_cases hk : upper.kind = .credentials
    · exact hs ⟨hk, upper, hm, rfl⟩
    · exact hd upper hm (SettingKind.mem_displaces_self hk)

theorem settings_merge {a b : Configuration} (ha : Settled a.settings) (hb : Settled b.settings)
    (next : Nat) :
    ((a.merge b).run next).1.settings =
      b.settings ++ a.settings.filter fun lower => leaves b.settings lower.kind := by
  rw [merge_eq_editAll, settings_editAll ha, mergeEdits, List.foldl_cons, foldl_push hb]
  simp only [Edit.apply, List.filter_filter]
  congr 1
  apply List.filter_congr
  intro lower hm
  apply Bool.eq_iff_iff.mpr
  simp only [leaves_eq_true_iff, Bool.and_eq_true, List.all_eq_true, decide_eq_true_eq]

theorem merge_base_run (c : Configuration) (next : Nat) :
    (c.merge base).run next = (c, next) :=
  withoutAny_run_absent (fun _ _ => List.not_mem_nil) next

theorem filter_leaves_self (settings : List Setting) :
    settings.filter (fun lower => leaves settings lower.kind) = [] := by
  apply List.filter_eq_nil_iff.mpr
  intro lower hm
  have hf : leaves settings lower.kind = false :=
    leaves_eq_false_iff.mpr ⟨lower, hm, by simp [SettingKind.replaces]⟩
  simp [hf]

theorem filter_eq_filter_iff {settings : List Setting} {p q : Setting → Bool} :
    settings.filter p = settings.filter q ↔ ∀ setting ∈ settings, p setting = q setting := by
  refine ⟨?_, List.filter_congr⟩
  intro h setting hm
  apply Bool.eq_iff_iff.mpr
  constructor
  · intro hp
    have hmem : setting ∈ settings.filter q := h ▸ List.mem_filter.mpr ⟨hm, hp⟩
    exact (List.mem_filter.mp hmem).2
  · intro hq
    have hmem : setting ∈ settings.filter p := h ▸ List.mem_filter.mpr ⟨hm, hq⟩
    exact (List.mem_filter.mp hmem).2

theorem merge_assoc_iff_leaves {a b c : Configuration} (ha : a.Lawful) (hb : b.Lawful)
    (hc : c.Lawful) (next next' : Nat) :
    ((do (← a.merge b).merge c : Mint Configuration).run next).1.settings =
        ((do a.merge (← b.merge c) : Mint Configuration).run next').1.settings ↔
      ∀ lower ∈ a.settings, leaves c.settings lower.kind = true →
        leaves (b.settings.filter fun middle => leaves c.settings middle.kind) lower.kind = true →
          leaves b.settings lower.kind = true := by
  have hab := (ha.merge hb next).settled
  have hbc := (hb.merge hc next').settled
  -- On top both sides have the same settings. Below them the one keeps of a what b and c leave, the
  -- other what c leaves and what is left of b.
  simp only [Mint.run_bind, settings_merge hab hc.settled, settings_merge ha.settled hbc,
    settings_merge ha.settled hb.settled, settings_merge hb.settled hc.settled,
    List.filter_append, List.append_assoc, List.append_cancel_left_eq, List.filter_filter,
    leaves_append, filter_eq_filter_iff]
  constructor
  · intro h lower hm hc' hb'
    simpa [hc', hb'] using h lower hm
  · intro h lower hm
    cases hc' : leaves c.settings lower.kind with
    | false => rfl
    | true =>
      rw [Bool.true_and, Bool.true_and]
      exact Bool.eq_iff_iff.mpr ⟨leaves_filter _, h lower hm hc'⟩

/-- The two kinds that a forwarded identity stands for. They exclude it, but not each other. -/
def Opposed (kind kind' : SettingKind) : Prop :=
  kind = .identity ∧ kind' = .credentials ∨ kind = .credentials ∧ kind' = .identity

theorem Opposed.replaces_iff {kind kind' upper : SettingKind} (h : Opposed kind kind') :
    upper.replaces kind = true ↔ upper = kind ∨ upper = .forward := by
  rcases h with ⟨rfl, rfl⟩ | ⟨rfl, rfl⟩ <;> cases upper <;> decide

theorem Opposed.replaces_forward {kind kind' : SettingKind} (h : Opposed kind kind') :
    kind'.replaces .forward = true := by
  rcases h with ⟨rfl, rfl⟩ | ⟨rfl, rfl⟩ <;> rfl

theorem Opposed.forward_exclusive {c : Configuration} (hc : c.Lawful) {kind kind' : SettingKind}
    (h : Opposed kind kind') (hf : c.hasKind .forward = true) :
    c.hasKind kind = false ∧ c.hasKind kind' = false := by
  have hex := hc.wellFormed.exclusive hf
  rcases h with ⟨rfl, rfl⟩ | ⟨rfl, rfl⟩
  · exact hex
  · exact hex.symm

/-- Replacement is transitive but for a forwarded identity in the middle. -/
theorem Opposed.of_replaces {upper middle lower : SettingKind} (h : middle.replaces lower = true)
    (h' : upper.replaces middle = true) (hn : upper.replaces lower = false) :
    middle = .forward ∧ Opposed lower upper := by
  have hn' : ∀ kind, kind.replaces lower = true → upper ≠ kind := by
    rintro kind hk rfl
    simp [hn] at hk
  have hself : upper ≠ lower := hn' lower (by simp [SettingKind.replaces])
  have hmiddle : upper ≠ middle := hn' middle h
  rcases SettingKind.replaces_iff.mp h with rfl | ⟨rfl, hl⟩ | ⟨rfl, hm⟩
  · simp [hn] at h'
  · refine ⟨rfl, ?_⟩
    rcases SettingKind.replaces_iff.mp h' with hu | ⟨hu, -⟩ | ⟨-, hu⟩
    · exact absurd hu.symm hmiddle
    · exact absurd hu hmiddle
    · rcases hl with rfl | rfl <;> rcases hu with rfl | rfl <;> simp_all [Opposed]
  · rcases SettingKind.replaces_iff.mp h' with hu | ⟨hu, -⟩ | ⟨hu, -⟩
    · exact absurd hu.symm hmiddle
    · exact absurd hu hself
    · rcases hm with rfl | rfl <;> exact absurd hu (by decide)

theorem replaces_eq_false {settings : List Setting} {kind : SettingKind}
    (h : leaves settings kind = true) {upper : Setting} (hm : upper ∈ settings) :
    upper.kind.replaces kind = false := by
  simp only [leaves, List.all_eq_true, Bool.not_eq_true'] at h
  exact h upper hm

theorem leaves_opposed_iff {c : Configuration} (hc : c.Lawful) {kind kind' : SettingKind}
    (ho : Opposed kind kind') (h : c.hasKind kind' = true) :
    leaves c.settings kind = true ↔ c.hasKind kind = false := by
  constructor
  · intro hl
    apply Bool.eq_false_iff.mpr
    intro hk
    obtain ⟨upper, hm, rfl⟩ := hasKind_iff.mp hk
    have hr := replaces_eq_false hl hm
    simp [SettingKind.replaces] at hr
  · intro hk
    apply Bool.of_not_eq_false
    intro hl
    obtain ⟨upper, hm, hr⟩ := leaves_eq_false_iff.mp hl
    rcases ho.replaces_iff.mp hr with hu | hu
    · simp [hasKind_iff.mpr ⟨upper, hm, hu⟩] at hk
    · have hex := ho.forward_exclusive hc (hasKind_iff.mpr ⟨upper, hm, hu⟩)
      simp [h] at hex

/-- What the middle chain takes away, and what the last one leaves of it would not. Only a
forwarded identity takes away settings without which it is itself taken away. -/
theorem lost_iff_opposed {b c : Configuration} (hb : b.Lawful) {kind : SettingKind}
    (hl : leaves c.settings kind = true) :
    leaves (b.settings.filter fun middle => leaves c.settings middle.kind) kind = true ∧
        leaves b.settings kind = false ↔
      b.hasKind .forward = true ∧ ∃ kind', Opposed kind kind' ∧ c.hasKind kind' = true := by
  constructor
  · rintro ⟨hleft, hlost⟩
    obtain ⟨middle, hm, hr⟩ := leaves_eq_false_iff.mp hlost
    have hgone : leaves c.settings middle.kind = false := by
      apply Bool.eq_false_iff.mpr
      intro hstays
      have hn := replaces_eq_false hleft (List.mem_filter.mpr ⟨hm, hstays⟩)
      simp [hr] at hn
    obtain ⟨upper, hu, hr'⟩ := leaves_eq_false_iff.mp hgone
    obtain ⟨hf, ho⟩ := Opposed.of_replaces hr hr' (replaces_eq_false hl hu)
    exact ⟨hasKind_iff.mpr ⟨middle, hm, hf⟩, upper.kind, ho, hasKind_iff.mpr ⟨upper, hu, rfl⟩⟩
  · rintro ⟨hf, kind', ho, h⟩
    have hgone : leaves c.settings .forward = false := by
      obtain ⟨upper, hu, rfl⟩ := hasKind_iff.mp h
      exact leaves_eq_false_iff.mpr ⟨upper, hu, ho.replaces_forward⟩
    constructor
    · apply Bool.of_not_eq_false
      intro hn
      obtain ⟨middle, hm, hr⟩ := leaves_eq_false_iff.mp hn
      obtain ⟨hmem, hstays⟩ := List.mem_filter.mp hm
      rcases ho.replaces_iff.mp hr with hk | hk
      · have hex := (ho.forward_exclusive hb hf).1
        simp [hasKind_iff.mpr ⟨middle, hmem, hk⟩] at hex
      · simp [hk, hgone] at hstays
    · obtain ⟨middle, hm, hk⟩ := hasKind_iff.mp hf
      exact leaves_eq_false_iff.mpr ⟨middle, hm, ho.replaces_iff.mpr (.inr hk)⟩

theorem merge_assoc_iff_opposed {a b c : Configuration} (ha : a.Lawful) (hb : b.Lawful)
    (hc : c.Lawful) (next next' : Nat) :
    ((do (← a.merge b).merge c : Mint Configuration).run next).1.settings =
        ((do a.merge (← b.merge c) : Mint Configuration).run next').1.settings ↔
      ¬(b.hasKind .forward = true ∧ ∃ kind kind', Opposed kind kind' ∧ a.hasKind kind = true ∧
        c.hasKind kind' = true ∧ c.hasKind kind = false) := by
  rw [merge_assoc_iff_leaves ha hb hc]
  constructor
  · rintro h ⟨hf, kind, kind', ho, hka, hkc, hn⟩
    obtain ⟨lower, hm, rfl⟩ := hasKind_iff.mp hka
    have hl := (leaves_opposed_iff hc ho hkc).mpr hn
    obtain ⟨hleft, hlost⟩ := (lost_iff_opposed hb hl).mpr ⟨hf, kind', ho, hkc⟩
    simp [h lower hm hl hleft] at hlost
  · intro h lower hm hl hleft
    apply Bool.of_not_eq_false
    intro hlost
    obtain ⟨hf, kind', ho, hkc⟩ := (lost_iff_opposed hb hl).mp ⟨hleft, hlost⟩
    exact h ⟨hf, lower.kind, kind', ho, hasKind_iff.mpr ⟨lower, hm, rfl⟩, hkc,
      (leaves_opposed_iff hc ho hkc).mp hl⟩

end Configuration

open ClientAuth.Configuration

/-- A merge puts all of `b` on top of what is left of `a`: the settings whose kind `b` neither has
nor displaces. -/
theorem merge_of_reachable {stock : Stock} (hs : stock.Reachable) {a b : Configuration}
    (ha : a ∈ stock.made) (hb : b ∈ stock.made) (next : Nat) :
    ((a.merge b).run next).1.settings = b.settings ++ a.settings.filter (fun lower =>
        b.settings.all fun upper =>
          lower.kind ≠ upper.kind && lower.kind ∉ upper.kind.displaces) ∧
      (a.merge base).run next = (a, next) ∧
      ((base.merge a).run next).1.settings = a.settings ∧
      ((a.merge a).run next).1.settings = a.settings := by
  have hla := (hs.coherent.lawful a ha).settled
  have hlb := (hs.coherent.lawful b hb).settled
  refine ⟨?_, merge_base_run a next, ?_, ?_⟩
  · rw [settings_merge hla hlb]
    simp only [leaves, SettingKind.replaces, Bool.not_or, decide_not]
  · rw [settings_merge lawful_base.settled hla]
    exact List.append_nil _
  · rw [settings_merge hla hla, filter_leaves_self, List.append_nil]

theorem merge_of_tokens :
    let first := Stock.initial.follow .base
      [.useForwardedIdentity default default, .useHost "localhost"]
    let second := first.1.follow .base [.useBearerToken ⟨"old"⟩, .useBearerToken ⟨"new"⟩]
    second.1.Reachable ∧ first.2 ∈ second.1.made ∧ second.2 ∈ second.1.made ∧
      ((first.2.merge second.2).run second.1.next).1.settings =
        second.2.settings ++ [.host "localhost"] := by
  intro first second
  have h := Stock.reachable_initial.follow Stock.mem_base
    [.useForwardedIdentity default default, .useHost "localhost"]
  have h' := h.1.follow (h.2.2 Stock.mem_base) [.useBearerToken ⟨"old"⟩, .useBearerToken ⟨"new"⟩]
  refine ⟨h'.1, h'.2.2 h.2.1, h'.2.1, ?_⟩
  rw [(merge_of_reachable h'.1 (h'.2.2 h.2.1) h'.2.1 _).1]
  decide +kernel

/-- Merges can be regrouped unless the last chain takes away a forwarded identity that has already
taken away what the last chain would have left. -/
theorem merge_assoc_iff {stock : Stock} (hs : stock.Reachable) {a b c : Configuration}
    (ha : a ∈ stock.made) (hb : b ∈ stock.made) (hc : c ∈ stock.made) (next next' : Nat) :
    ((do (← a.merge b).merge c : Mint Configuration).run next).1.settings =
        ((do a.merge (← b.merge c) : Mint Configuration).run next').1.settings ↔
      ¬(b.hasKind .forward = true ∧
        (c.hasKind .identity = true ∧ c.hasKind .credentials = false ∧
            a.hasKind .credentials = true ∨
          c.hasKind .credentials = true ∧ c.hasKind .identity = false ∧
            a.hasKind .identity = true)) := by
  have hlawful := hs.coherent.lawful
  rw [merge_assoc_iff_opposed (hlawful a ha) (hlawful b hb) (hlawful c hc)]
  apply not_congr
  apply and_congr_right
  intro _
  constructor
  · rintro ⟨_, _, ⟨rfl, rfl⟩ | ⟨rfl, rfl⟩, hka, hkc, hn⟩
    · exact .inr ⟨hkc, hn, hka⟩
    · exact .inl ⟨hkc, hn, hka⟩
  · rintro (⟨hkc, hn, hka⟩ | ⟨hkc, hn, hka⟩)
    · exact ⟨_, _, .inr ⟨rfl, rfl⟩, hka, hkc, hn⟩
    · exact ⟨_, _, .inl ⟨rfl, rfl⟩, hka, hkc, hn⟩

theorem merge_assoc_of_forwarding :
    let first := Stock.initial.follow .base [.useBearerToken ⟨"token"⟩]
    let second := first.1.follow .base [.useForwardedIdentity default default]
    let third := second.1.follow .base [.useName "alice"]
    third.1.Reachable ∧ first.2 ∈ third.1.made ∧ second.2 ∈ third.1.made ∧ third.2 ∈ third.1.made ∧
      ((do (← first.2.merge second.2).merge third.2 : Mint Configuration).run
          third.1.next).1.settings ≠
        ((do first.2.merge (← second.2.merge third.2) : Mint Configuration).run
          third.1.next).1.settings := by
  intro first second third
  have h := Stock.reachable_initial.follow Stock.mem_base [.useBearerToken ⟨"token"⟩]
  have h' := h.1.follow (h.2.2 Stock.mem_base) [.useForwardedIdentity default default]
  have h'' := h'.1.follow (h'.2.2 (h.2.2 Stock.mem_base)) [.useName "alice"]
  have hfirst := h''.2.2 (h'.2.2 h.2.1)
  refine ⟨h''.1, hfirst, h''.2.2 h'.2.1, h''.2.1, ?_⟩
  intro heq
  apply (merge_assoc_iff h''.1 hfirst (h''.2.2 h'.2.1) h''.2.1 _ _).mp heq
  decide +kernel

end ClientAuth
