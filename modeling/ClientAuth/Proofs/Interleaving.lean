import ClientAuth.Proofs.Distinction
import ClientAuth.Proofs.Selection

/-! Calls of one sort among others. Where each of them makes the new value of a piece out of the old
one, all that is done in between to other pieces leaves no trace in it. -/

namespace ClientAuth.Configuration

/-- `after` comes of `c` by calls with the given arguments, in order, and by calls and merges in
between that leave the settings of the kind alone. -/
inductive Interleaved {α : Type} (kind : SettingKind) (call : α → Derivation) (c : Configuration) :
    List α → Configuration → Prop
  | start : Interleaved kind call c [] c
  | call {arguments : List α} {before : Configuration}
    (h : Interleaved kind call c arguments before) (argument : α) {action : Mint Configuration}
    (hd : (call argument).derive before = .ok action) (next : Nat) :
    Interleaved kind call c (arguments ++ [argument]) (action.run next).1
  | between {arguments : List α} {before : Configuration}
    (h : Interleaved kind call c arguments before) (other : Derivation)
    (hk : kind ∉ other.footprint) {action : Mint Configuration}
    (hd : other.derive before = .ok action) (next : Nat) :
    Interleaved kind call c arguments (action.run next).1
  | merge {arguments : List α} {before : Configuration}
    (h : Interleaved kind call c arguments before) {other : Configuration} (ho : other.Reachable)
    (hk : other.hasKind kind = false) (next : Nat) :
    Interleaved kind call c arguments ((before.merge other).run next).1

variable {α β : Type} {kind : SettingKind} {call : α → Derivation} {c after other : Configuration}
  {arguments : List α}

theorem Interleaved.lawful (hc : c.Lawful) (h : c.Interleaved kind call arguments after) :
    after.Lawful := by
  induction h with
  | start => exact hc
  | call h argument hd next ih => exact ih.derive hd next
  | between h other hk hd next ih => exact ih.derive hd next
  | merge h ho hk next ih => exact ih.merge ho.lawful next

theorem told_merge_of_not_hasKind (hc : Settled c.settings) (ho : Settled other.settings)
    (hp : ¬ kind.IsPersonal) (hk : other.hasKind kind = false) (next : Nat) :
    ((c.merge other).run next).1.told kind = c.told kind := by
  rw [told_merge hc ho, leaves_eq_not_hasKind hp, hk, told_eq_nil_of_hasKind hk]
  rfl

/-- What the settings of the kind decide comes of the calls alone, each step from the last. -/
theorem Interleaved.foldl_eq (value : Configuration → β) (step : β → α → β)
    (hp : ¬ kind.IsPersonal)
    (hvalue : ∀ {a b : Configuration}, Derivation.SameReads [kind] a b → value a = value b)
    (hstep : ∀ {before : Configuration} {argument : α} {action : Mint Configuration} (next : Nat),
      before.Lawful → (call argument).derive before = .ok action →
        value (action.run next).1 = step (value before) argument)
    (hc : c.Lawful) (h : c.Interleaved kind call arguments after) :
    value after = arguments.foldl step (value c) := by
  have hkeep : ∀ {before after : Configuration}, before.Lawful → after.Lawful →
      after.told kind = before.told kind → value after = value before := by
    intro before after hl hl' htold
    exact hvalue (.of_told hl'.wellFormed hl.wellFormed (List.forall_mem_singleton.mpr htold))
  induction h with
  | start => rfl
  | call h argument hd next ih =>
    rw [List.foldl_append, ← ih]
    exact hstep next (h.lawful hc) hd
  | between h other hk hd next ih =>
    have hl := h.lawful hc
    rw [← ih]
    exact hkeep hl (hl.derive hd next)
      (Derivation.told_derive_of_not_touched hl.settled (not_mem_touched hp hk) hd next)
  | merge h ho hk next ih =>
    have hl := h.lawful hc
    rw [← ih]
    exact hkeep hl (hl.merge ho.lawful next)
      (told_merge_of_not_hasKind hl.settled ho.lawful.settled hp hk next)

end ClientAuth.Configuration
