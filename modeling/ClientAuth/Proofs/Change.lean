import ClientAuth.Proofs.Reachability

/-! Changes made to a configuration one after the other. A change is a call or a merge with a
configuration made elsewhere; to the chain either is a list of edits. -/

namespace ClientAuth

/-- Some run makes the configuration. -/
def Configuration.Reachable (c : Configuration) : Prop :=
  ∃ stock : Stock, stock.Reachable ∧ c ∈ stock.made

theorem Configuration.Reachable.lawful {c : Configuration} (h : c.Reachable) : c.Lawful := by
  obtain ⟨stock, hs, hc⟩ := h
  exact hs.coherent.lawful c hc

inductive Change
  | derive (call : Derivation)
  | merge (other : Configuration)

namespace Change

variable {c : Configuration} {change : Change}

/-- A configuration that is merged in has been made. -/
def Valid : Change → Prop
  | derive _ => True
  | merge other => other.Reachable

/-- The edits that a change makes to the chain of `c`: none for a call that derives nothing. -/
def edits (c : Configuration) : Change → Mint (List Edit)
  | derive call =>
    match call.edits c with
    | .ok minted => minted
    | .error _ => return []
  | merge other => return other.mergeEdits

theorem sound_edits (hc : c.Lawful) (hv : change.Valid) (next : Nat) :
    ∀ edit ∈ ((change.edits c).run next).1, edit.Sound := by
  cases change with
  | merge other => exact Configuration.Lawful.sound_mergeEdits (Configuration.Reachable.lawful hv)
  | derive call =>
    rw [edits]
    cases he : call.edits c with
    | error error => exact fun _ hm => absurd hm List.not_mem_nil
    | ok minted => exact Derivation.sound_edits hc he next

end Change

namespace Configuration

variable {c : Configuration} {change : Change} {changes : List Change}

/-- A call that derives nothing is passed over. -/
def alter (c : Configuration) : Change → Mint Configuration
  | .derive call =>
    match call.derive c with
    | .ok action => action
    | .error _ => return c
  | .merge other => c.merge other

def alterAll (c : Configuration) : List Change → Mint Configuration
  | [] => return c
  | change :: rest => do (← c.alter change).alterAll rest

theorem alter_eq_editAll (c : Configuration) (change : Change) :
    c.alter change = change.edits c >>= c.editAll := by
  cases change with
  | merge other => exact c.merge_eq_editAll other
  | derive call =>
    rw [alter, Change.edits, Derivation.derive_eq_edits]
    cases call.edits c <;> rfl

theorem settings_alter (hc : c.Lawful) (change : Change) (next : Nat) :
    ((c.alter change).run next).1.settings =
      ((change.edits c).run next).1.foldl Edit.apply c.settings := by
  rw [alter_eq_editAll, Mint.run_bind, settings_editAll hc.settled]

theorem Lawful.alter (hc : c.Lawful) (hv : change.Valid) (next : Nat) :
    ((c.alter change).run next).1.Lawful := by
  rw [alter_eq_editAll]
  exact hc.editAll (Change.sound_edits hc hv next) _

theorem Lawful.alterAll (hc : c.Lawful) (hv : ∀ change ∈ changes, change.Valid) (next : Nat) :
    ((c.alterAll changes).run next).1.Lawful := by
  induction changes generalizing c next with
  | nil => exact hc
  | cons change rest ih =>
    exact ih (hc.alter (hv change List.mem_cons_self) next)
      (fun later hm => hv later (List.mem_cons_of_mem change hm)) _

end Configuration

end ClientAuth
