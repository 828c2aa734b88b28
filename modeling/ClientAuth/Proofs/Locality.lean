import ClientAuth.Proofs.Congruence
import ClientAuth.Proofs.Frame

/-! How far a call reaches. It puts on and takes away settings of its own kinds and of those that
they displace. All others stay where they are, and so does what they answer. -/

namespace ClientAuth

/-- The kinds of the settings that edits of the given kinds can put on or take away. -/
def touched (kinds : List SettingKind) : List SettingKind :=
  kinds.flatMap fun kind => kind :: kind.displaces

theorem mem_touched {kinds : List SettingKind} {kind : SettingKind} :
    kind ∈ touched kinds ↔ ∃ upper ∈ kinds, kind = upper ∨ kind ∈ upper.displaces := by
  simp [touched]

theorem subset_touched (kinds : List SettingKind) : kinds ⊆ touched kinds :=
  fun kind hk => mem_touched.mpr ⟨kind, hk, .inl rfl⟩

namespace Edit

variable {kinds : List SettingKind}

theorem mem_touched_of_drops {edit : Edit} (h : edit.Within kinds) {kind : SettingKind}
    (hd : edit.drops kind = true) : kind ∈ touched kinds := by
  cases edit with
  | remove removed => exact subset_touched kinds (h (of_decide_eq_true hd))
  | push setting => exact mem_touched.mpr ⟨setting.kind, h, .inr (of_decide_eq_true hd)⟩

theorem mem_of_mem_top {edit : Edit} (h : edit.Within kinds) {setting : Setting}
    (hm : setting ∈ edit.top) : setting.kind ∈ kinds := by
  cases edit with
  | remove removed => exact absurd hm List.not_mem_nil
  | push pushed =>
    rw [List.mem_singleton.mp hm]
    exact h

theorem filter_untouched_apply {edit : Edit} (h : edit.Within kinds) (settings : List Setting) :
    (edit.apply settings).filter (fun setting => setting.kind ∉ touched kinds) =
      settings.filter fun setting => setting.kind ∉ touched kinds := by
  have htop : edit.top.filter (fun setting => setting.kind ∉ touched kinds) = [] := by
    apply List.filter_eq_nil_iff.mpr
    intro setting hm
    simpa using subset_touched kinds (mem_of_mem_top h hm)
  rw [edit.apply_eq_top_append, List.filter_append, htop, List.nil_append, List.filter_filter]
  apply List.filter_congr
  intro setting _
  by_cases hk : setting.kind ∈ touched kinds
  · simp [hk]
  · have hkeep : edit.drops setting.kind = false := by
      apply Bool.eq_false_iff.mpr
      exact fun hd => hk (mem_touched_of_drops h hd)
    simp [hkeep]

theorem filter_untouched_foldl {edits : List Edit} (h : ∀ edit ∈ edits, edit.Within kinds)
    (settings : List Setting) :
    (edits.foldl apply settings).filter (fun setting => setting.kind ∉ touched kinds) =
      settings.filter fun setting => setting.kind ∉ touched kinds := by
  induction edits generalizing settings with
  | nil => rfl
  | cons edit rest ih =>
    rw [List.foldl_cons, ih fun later hm => h later (List.mem_cons_of_mem edit hm)]
    exact filter_untouched_apply (h edit List.mem_cons_self) settings

theorem applyTold_of_not_mem {edit : Edit} (h : edit.Within kinds) {kind : SettingKind}
    (hk : kind ∉ kinds) (told : List Setting) :
    edit.applyTold kind told = if edit.drops kind then [] else told := by
  cases edit with
  | remove removed => by_cases hm : kind ∈ removed <;> simp [applyTold, drops, hm]
  | push setting =>
    have hne : setting.kind ≠ kind := by
      rintro rfl
      exact hk h
    by_cases hm : kind ∈ setting.kind.displaces <;> simp [applyTold, drops, hm, hne]

/-- To the settings of other kinds edits can do no more than take them away. -/
theorem foldl_applyTold_of_not_mem {edits : List Edit} (h : ∀ edit ∈ edits, edit.Within kinds)
    {kind : SettingKind} (hk : kind ∉ kinds) (told : List Setting) :
    edits.foldl (applyTold kind) told = if edits.any (drops kind) then [] else told := by
  induction edits generalizing told with
  | nil => rfl
  | cons edit rest ih =>
    rw [List.foldl_cons, ih fun later hm => h later (List.mem_cons_of_mem edit hm),
      applyTold_of_not_mem (h edit List.mem_cons_self) hk, List.any_cons]
    cases edit.drops kind <;> simp

theorem foldl_applyTold_of_not_touched {edits : List Edit}
    (h : ∀ edit ∈ edits, edit.Within kinds) {kind : SettingKind} (hk : kind ∉ touched kinds)
    (told : List Setting) : edits.foldl (applyTold kind) told = told := by
  have hkeep : edits.any (drops kind) = false := by
    apply List.any_eq_false.mpr
    exact fun edit hm hd => hk (mem_touched_of_drops (h edit hm) hd)
  rw [foldl_applyTold_of_not_mem h fun hm => hk (subset_touched kinds hm), hkeep]
  rfl

end Edit

namespace Derivation

variable {c : Configuration} {call : Derivation}

theorem filter_untouched_derive (hs : Configuration.Settled c.settings)
    {action : Mint Configuration} (h : call.derive c = .ok action) (next : Nat) :
    (action.run next).1.settings.filter
        (fun setting => setting.kind ∉ touched call.footprint) =
      c.settings.filter fun setting => setting.kind ∉ touched call.footprint := by
  obtain ⟨minted, he, rfl⟩ := exists_edits h
  rw [Mint.run_bind, Configuration.settings_editAll hs]
  exact Edit.filter_untouched_foldl (within_edits he next) c.settings

theorem frame (hs : Configuration.Settled c.settings) {action : Mint Configuration}
    (h : call.derive c = .ok action) (next : Nat) :
    Frame (touched call.footprint) c (action.run next).1 :=
  .of_filter (filter_untouched_derive hs h next)

theorem told_derive_of_not_touched (hs : Configuration.Settled c.settings) {kind : SettingKind}
    (hk : kind ∉ touched call.footprint) {action : Mint Configuration}
    (h : call.derive c = .ok action) (next : Nat) :
    (action.run next).1.told kind = c.told kind := by
  obtain ⟨minted, he, rfl⟩ := exists_edits h
  rw [Mint.run_bind, Configuration.told_editAll hs]
  exact Edit.foldl_applyTold_of_not_touched (within_edits he next) hk _

end Derivation

end ClientAuth
