import ClientAuth.Proofs.Removal

/-! The two ways in which a chain changes. Every derivation is a list of edits, so what all edits
preserve is preserved by every derivation. -/

namespace ClientAuth

inductive Edit
  | remove (kinds : List SettingKind)
  | push (setting : Setting)

/-- What an edit makes of the settings of a settled chain, newest first. -/
def Edit.apply (settings : List Setting) : Edit → List Setting
  | remove kinds => settings.filter fun lower => lower.kind ∉ kinds
  | push setting =>
    setting :: settings.filter fun lower => lower.kind ∉ setting.kind.displaces

namespace Edit

/-- Whether the edit takes settings of the kind away. -/
def drops (kind : SettingKind) : Edit → Bool
  | remove kinds => kind ∈ kinds
  | push setting => kind ∈ setting.kind.displaces

/-- What the edit puts on top. -/
def top : Edit → List Setting
  | remove _ => []
  | push setting => [setting]

theorem apply_eq_top_append (edit : Edit) (settings : List Setting) :
    edit.apply settings = edit.top ++ settings.filter fun lower => !edit.drops lower.kind := by
  cases edit <;> simp [apply, top, drops]

end Edit

namespace Configuration

def edit (c : Configuration) : Edit → Mint Configuration
  | .remove kinds => c.withoutAny kinds
  | .push setting => c.overlay setting

def editAll (c : Configuration) : List Edit → Mint Configuration
  | [] => return c
  | edit :: rest => do (← c.edit edit).editAll rest

theorem editAll_run_cons (c : Configuration) (edit : Edit) (rest : List Edit) (next : Nat) :
    (c.editAll (edit :: rest)).run next =
      (((c.edit edit).run next).1.editAll rest).run ((c.edit edit).run next).2 :=
  rfl

theorem settings_edit {c : Configuration} (hs : Settled c.settings) (edit : Edit) (next : Nat) :
    ((c.edit edit).run next).1.settings = edit.apply c.settings := by
  cases edit with
  | remove kinds => exact settings_withoutAny hs kinds next
  | push setting => exact settings_overlay hs setting next

theorem Settled.edit {c : Configuration} (hs : Settled c.settings) (edit : Edit) (next : Nat) :
    Settled ((c.edit edit).run next).1.settings := by
  cases edit with
  | remove kinds => exact hs.withoutAny kinds next
  | push setting => exact hs.overlay setting next

theorem renewed_edit {c : Configuration} (hs : Settled c.settings) (edit : Edit) (next : Nat) :
    Renewed next ((c.edit edit).run next).2 c.nodes ((c.edit edit).run next).1.nodes := by
  cases edit with
  | remove kinds => exact (withoutAny_run hs kinds next).2
  | push setting => exact renewed_overlay hs setting next

theorem editAll_run {c : Configuration} (hs : Settled c.settings) (edits : List Edit)
    (next : Nat) :
    ((c.editAll edits).run next).1.settings = edits.foldl Edit.apply c.settings ∧
      Settled ((c.editAll edits).run next).1.settings ∧
      Renewed next ((c.editAll edits).run next).2 c.nodes
        ((c.editAll edits).run next).1.nodes := by
  induction edits generalizing c next with
  | nil => exact ⟨rfl, hs, .refl next c.nodes⟩
  | cons edit rest ih =>
    obtain ⟨hset, hsettled, hren⟩ := ih (hs.edit edit next) ((c.edit edit).run next).2
    rw [editAll_run_cons]
    refine ⟨?_, hsettled, (renewed_edit hs edit next).trans hren⟩
    rw [hset, settings_edit hs, List.foldl_cons]

theorem settings_editAll {c : Configuration} (hs : Settled c.settings) (edits : List Edit)
    (next : Nat) :
    ((c.editAll edits).run next).1.settings = edits.foldl Edit.apply c.settings :=
  (editAll_run hs edits next).1

theorem overlayAll_eq_editAll (c : Configuration) (settings : List Setting) :
    c.overlayAll settings = c.editAll (settings.map .push) := by
  induction settings generalizing c with
  | nil => rfl
  | cons setting rest ih =>
    simp only [overlayAll, List.map_cons, editAll, edit, ih]

def mergeEdits (other : Configuration) : List Edit :=
  .remove ((other.settings.map Setting.kind).filter SettingKind.isMultiValued) ::
    other.settings.reverse.map .push

theorem merge_eq_editAll (c other : Configuration) :
    c.merge other = c.editAll other.mergeEdits := by
  simp only [merge, mergeEdits, editAll, edit, overlayAll_eq_editAll]

theorem mem_of_push_mem_mergeEdits {other : Configuration} {setting : Setting}
    (h : .push setting ∈ other.mergeEdits) : setting ∈ other.settings := by
  simpa [mergeEdits] using h

end Configuration

end ClientAuth
