import ClientAuth.Proofs.Change
import ClientAuth.Proofs.Congruence
import ClientAuth.Proofs.Resolution
import ClientAuth.Proofs.Supply

/-! Forwarded identities are resolved on use and never copied. Two chains that differ only in what
they forward are changed in the same way, and are the same once a change has taken the forwarded
identity away. -/

namespace ClientAuth

/-- The settings of a chain but for a forwarded identity. -/
def unforwarded (settings : List Setting) : List Setting :=
  settings.filter fun setting => setting.kind ≠ .forward

theorem unforwarded_append (settings settings' : List Setting) :
    unforwarded (settings ++ settings') = unforwarded settings ++ unforwarded settings' :=
  List.filter_append ..

theorem unforwarded_filter (keep : Setting → Bool) (settings : List Setting) :
    unforwarded (settings.filter keep) = (unforwarded settings).filter keep :=
  List.filter_comm ..

theorem filter_unforwarded (keep : SettingKind → Bool) (hk : keep .forward = false)
    (settings : List Setting) :
    (unforwarded settings).filter (fun setting => keep setting.kind) =
      settings.filter fun setting => keep setting.kind := by
  rw [unforwarded, List.filter_filter]
  apply List.filter_congr
  intro setting _
  by_cases hf : setting.kind = .forward
  · simp [hf, hk]
  · simp [hf]

/-- Settings that agree but for what is forwarded, and wholly once that has been dropped. -/
structure Agreeing (dropped : Bool) (settings settings' : List Setting) : Prop where
  others : unforwarded settings = unforwarded settings'
  eq : dropped = true → settings = settings'

namespace Agreeing

variable {dropped : Bool} {settings settings' : List Setting}

theorem apply (h : Agreeing dropped settings settings') (edit : Edit) :
    Agreeing (dropped || edit.drops .forward) (edit.apply settings) (edit.apply settings') := by
  rw [edit.apply_eq_top_append, edit.apply_eq_top_append]
  constructor
  · simp only [unforwarded_append, unforwarded_filter, h.others]
  · intro hd
    rcases Bool.or_eq_true_iff.mp hd with hd | hd
    · rw [h.eq hd]
    · have hkeep := filter_unforwarded (fun kind => !edit.drops kind) (by rw [hd]; rfl)
      rw [← hkeep settings, h.others, hkeep]

theorem foldl (h : Agreeing dropped settings settings') (edits : List Edit) :
    Agreeing (dropped || edits.any (Edit.drops .forward)) (edits.foldl Edit.apply settings)
      (edits.foldl Edit.apply settings') := by
  induction edits generalizing dropped settings settings' with
  | nil => simpa using h
  | cons edit rest ih =>
    -- What is dropped stays so: lists that are equal are edited alike from there on.
    rw [List.any_cons, ← Bool.or_assoc]
    exact ih (h.apply edit)

end Agreeing

section

variable {a b c : Configuration} {call : Derivation} {change : Change} {changes : List Change}
  {dropped : Bool}

theorem Configuration.frame_of_unforwarded (h : unforwarded a.settings = unforwarded b.settings) :
    Frame [.forward] b a := by
  apply Frame.of_filter
  simpa [unforwarded] using h

theorem Configuration.configuredCredentials_congr
    (h : unforwarded a.settings = unforwarded b.settings) :
    a.configuredCredentials = b.configuredCredentials := by
  have hown : ∀ settings : List Setting,
      (unforwarded settings).filterMap ownSource? = settings.filterMap ownSource? := by
    intro settings
    apply filterMap_filter_of_isSome
    intro setting _ hr
    cases setting <;> simp [ownSource?, Setting.kind] at hr ⊢
  rw [configuredCredentials, configuredCredentials, ← hown, h, hown]

/-- No call looks at a forwarded identity. -/
theorem Derivation.SameReads.of_unforwarded {kinds : List SettingKind}
    (h : unforwarded a.settings = unforwarded b.settings) : SameReads kinds a b := by
  have hframe := Configuration.frame_of_unforwarded h
  exact
    { nameMapping := fun _ => hframe.nameMapping (by decide)
      configuredCredentials := fun _ => Configuration.configuredCredentials_congr h
      choiceOperation := fun _ => hframe.choiceOperation (by decide)
      providerSupplier := fun _ => hframe.providerSupplier (by decide)
      allowedMechanisms := fun _ => hframe.allowedMechanisms (by decide)
      deniedMechanisms := fun _ => hframe.deniedMechanisms (by decide)
      parameterSpecs := fun _ => hframe.parameterSpecs (by decide) }

theorem Change.edits_congr (h : unforwarded a.settings = unforwarded b.settings)
    (change : Change) : change.edits a = change.edits b := by
  cases change with
  | derive call => simp only [edits, (Derivation.SameReads.of_unforwarded h).edits_eq]
  | merge other => rfl

/-- Whether a call takes a forwarded identity away. -/
def Derivation.dropsForwarded : Derivation → Bool
  | useAnonymous => true
  | usePrincipal _ => true
  | useName _ => true
  | useForwardedIdentity .. => true
  | without kind => kind = .forward
  | withoutAny kinds => .forward ∈ kinds
  | call => call.supplyChanges.any SupplyChange.adds

def Change.dropsForwarded : Change → Bool
  | derive call => call.dropsForwarded
  | merge other => other.hasKind .identity || other.hasKind .credentials || other.hasKind .forward

theorem Change.drops_of_adds (ha : call.supplyChanges.any SupplyChange.adds = true)
    (c : Configuration) (next : Nat) :
    ((edits c (derive call)).run next).1.any (Edit.drops .forward) = true := by
  rw [edits]
  cases he : call.edits c with
  | error error =>
    have hd : call.derive c = .error error := by rw [Derivation.derive_eq_edits, he]; rfl
    rw [Derivation.supplyChanges_of_error hd] at ha
    cases ha
  | ok minted =>
    obtain ⟨before, source, hedits⟩ := Derivation.edits_of_adds ha he next
    show (minted.run next).1.any _ = true
    rw [hedits, List.any_append]
    exact Bool.or_true _

theorem Change.drops_of_dropsForwarded (hd : change.dropsForwarded = true) (c : Configuration)
    (next : Nat) : ((change.edits c).run next).1.any (Edit.drops .forward) = true := by
  cases change with
  | derive call =>
    cases call with
    | useAnonymous => rfl
    | usePrincipal name => rfl
    | useName name => rfl
    | useForwardedIdentity domain context => rfl
    | without kind =>
      have hk : kind = .forward := of_decide_eq_true hd
      rw [hk]
      rfl
    | withoutAny kinds =>
      rw [show edits c (derive (.withoutAny kinds)) = pure [.remove kinds] from rfl, Mint.run_pure]
      exact (Bool.or_false _).trans hd
    | _ => exact drops_of_adds hd c next
  | merge other =>
    obtain ⟨kind, hk, hhas⟩ : ∃ kind, .forward ∈ SettingKind.displaces kind ∧
        other.hasKind kind = true := by
      simp only [dropsForwarded, Bool.or_eq_true] at hd
      rcases hd with (hd | hd) | hd
      · exact ⟨.identity, by decide, hd⟩
      · exact ⟨.credentials, by decide, hd⟩
      · exact ⟨.forward, by decide, hd⟩
    obtain ⟨setting, hm, rfl⟩ := Configuration.hasKind_iff.mp hhas
    apply List.any_eq_true.mpr
    refine ⟨.push setting, ?_, decide_eq_true hk⟩
    exact List.mem_cons_of_mem _ (List.mem_map_of_mem (List.mem_reverse.mpr hm))

/-- No change makes an object of its own. -/
def Configuration.MakesNothing (c : Configuration) (next : Nat) : List Change → Prop
  | [] => True
  | change :: rest => (∃ edits, change.edits c = pure edits) ∧
    ((c.alter change).run next).1.MakesNothing ((c.alter change).run next).2 rest

theorem Configuration.makesNothing_of_stores
    (h : ∀ call, .derive call ∈ changes → call.stores = true) (c : Configuration) (next : Nat) :
    c.MakesNothing next changes := by
  induction changes generalizing c next with
  | nil => trivial
  | cons change rest ih =>
    refine ⟨?_, ih (fun call hm => h call (List.mem_cons_of_mem change hm)) _ _⟩
    cases change with
    | merge other => exact ⟨_, rfl⟩
    | derive call => exact Change.eq_pure_of_stores (h call List.mem_cons_self) c

namespace Agreeing

theorem alter (ha : a.Lawful) (hb : b.Lawful) (h : Agreeing dropped a.settings b.settings)
    {edits : List Edit} (he : change.edits a = pure edits) (next next' : Nat) :
    Agreeing (dropped || change.dropsForwarded) ((a.alter change).run next).1.settings
      ((b.alter change).run next').1.settings := by
  -- The change makes nothing and reads nothing of what is forwarded, so its edits are the same here
  -- and there, whatever identities are free.
  rw [Configuration.settings_alter ha, Configuration.settings_alter hb,
    ← Change.edits_congr h.others, he]
  have hstep := h.foldl edits
  refine ⟨hstep.others, fun hd => hstep.eq ?_⟩
  rcases Bool.or_eq_true_iff.mp hd with hd | hd
  · exact Bool.or_eq_true_iff.mpr (.inl hd)
  · have hdrops := Change.drops_of_dropsForwarded hd a next
    rw [he] at hdrops
    exact Bool.or_eq_true_iff.mpr (.inr hdrops)

theorem alterAll (ha : a.Lawful) (hb : b.Lawful) (h : Agreeing dropped a.settings b.settings)
    (hv : ∀ change ∈ changes, change.Valid) {next : Nat} (hm : a.MakesNothing next changes)
    (next' : Nat) :
    Agreeing (dropped || changes.any Change.dropsForwarded)
      ((a.alterAll changes).run next).1.settings ((b.alterAll changes).run next').1.settings := by
  induction changes generalizing a b dropped next next' with
  | nil =>
    rw [List.any_nil, Bool.or_false]
    exact h
  | cons change rest ih =>
    obtain ⟨⟨edits, he⟩, hrest⟩ := hm
    have hc := hv change List.mem_cons_self
    rw [List.any_cons, ← Bool.or_assoc]
    exact ih (ha.alter hc next) (hb.alter hc next') (h.alter ha hb he next next')
      (fun later hm => hv later (List.mem_cons_of_mem change hm)) hrest _

end Agreeing

end

/-- Take two chains with the same settings but for the identity that each forwards. Once a change
that takes the place of the forwarded identity is among the changes made to both, the chains are the
same. So whatever the first domains resolve, then or later, is nothing to any answer. -/
theorem sameAnswers_of_dropsForwarded {a b : Configuration} (ha : a.Reachable) (hb : b.Reachable)
    (h : unforwarded a.settings = unforwarded b.settings) {changes : List Change}
    (hv : ∀ change ∈ changes, change.Valid) (hd : ∃ change ∈ changes, change.dropsForwarded = true)
    {next : Nat} (hm : a.MakesNothing next changes) (next' : Nat) :
    let after := ((a.alterAll changes).run next).1
    let after' := ((b.alterAll changes).run next').1
    after.settings = after'.settings ∧ ∀ (m : Type → Type) [Monad m] (co : Collaborators m),
      SameAnswers co after after' ∧
        ∀ resolve, (∀ forwarded, .forward forwarded ∈ after.settings →
          resolve forwarded.domain forwarded.context = forwarded.identity co.toEnvironment) →
            after.Unmoved co (co.resolving resolve) := by
  intro after after'
  have hagree : Agreeing false a.settings b.settings := ⟨h, nofun⟩
  have heq : after.settings = after'.settings :=
    (hagree.alterAll ha.lawful hb.lawful hv hm next').eq (List.any_eq_true.mpr hd)
  refine ⟨heq, ?_⟩
  intro m _ co
  refine ⟨SameAnswers.of_alike co ⟨?_, ?_, ?_⟩, fun resolve => .of_forwarded⟩
  · exact (ha.lawful.alterAll hv next).wellFormed
  · exact (hb.lawful.alterAll hv next').wellFormed
  · intro kind
    exact congrArg (toldOf kind) heq

theorem sameAnswers_of_password :
    let first := Stock.initial.follow .base
      [.useForwardedIdentity ⟨⟨7⟩⟩ default, .useHost "localhost"]
    let second := Stock.initial.follow .base
      [.useForwardedIdentity ⟨⟨8⟩⟩ default, .useHost "localhost"]
    let changes := [Change.derive (.usePassword (some ⟨"secret"⟩)),
      .derive (.useCredentialHandler default), .merge .empty]
    let after := ((first.2.alterAll changes).run first.1.next).1
    let after' := ((second.2.alterAll changes).run second.1.next).1
    first.2.Reachable ∧ second.2.Reachable ∧ first.2.settings ≠ second.2.settings ∧
      after.settings = after'.settings ∧ after.settings.map Setting.kind =
        [.mechanismFilter, .trustManager, .identity, .credentials, .host] ∧
      SameAnswers (.inert : Collaborators Id) after after' ∧
      ∀ resolve, after.Unmoved (.inert : Collaborators Id)
        (Collaborators.inert.resolving resolve) := by
  intro first second changes after after'
  have h := Stock.reachable_initial.follow Stock.mem_base
    [.useForwardedIdentity ⟨⟨7⟩⟩ default, .useHost "localhost"]
  have h' := Stock.reachable_initial.follow Stock.mem_base
    [.useForwardedIdentity ⟨⟨8⟩⟩ default, .useHost "localhost"]
  have hempty : Configuration.empty.Reachable := ⟨_, Stock.reachable_initial, Stock.mem_empty⟩
  have hm : first.2.MakesNothing first.1.next changes :=
    Configuration.makesNothing_of_stores (by simp [changes, Derivation.stores]) _ _
  have hv : ∀ change ∈ changes, change.Valid := by simp [changes, Change.Valid, hempty]
  obtain ⟨heq, hall⟩ := sameAnswers_of_dropsForwarded ⟨_, h.1, h.2.1⟩ ⟨_, h'.1, h'.2.1⟩
    (by decide +kernel) hv ⟨_, List.mem_cons_self, rfl⟩ hm second.1.next
  have hkinds : after.settings.map Setting.kind =
      [.mechanismFilter, .trustManager, .identity, .credentials, .host] := by decide +kernel
  refine ⟨⟨_, h.1, h.2.1⟩, ⟨_, h'.1, h'.2.1⟩, by decide +kernel, heq, hkinds,
    (hall Id .inert).1, ?_⟩
  intro resolve
  apply (hall Id .inert).2
  intro forwarded hf
  have hkind := List.mem_map_of_mem (f := Setting.kind) hf
  rw [hkinds] at hkind
  simp [Setting.kind] at hkind

end ClientAuth
