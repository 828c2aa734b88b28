import Mathlib.Logic.Function.Basic
import ClientAuth.Proofs.Footprint
import ClientAuth.Proofs.Overlay

/-! What the credentials of a configuration supply, kind by kind. Calls build a tree of sources out
of what is there, but what they make of the supply is simple: a call changes one kind, puts a source
in front, or starts anew. -/

namespace ClientAuth

variable {m : Type → Type} [Monad m]

/-- What is acquired of each kind. -/
abbrev Supply (m : Type → Type) :=
  CredentialKind → m Acquired

inductive SupplyChange
  | put (credential : Credential)
  | ask (source : CredentialSource)
  | setPassword (password : Option Password)
  | replace (source : Option CredentialSource)

namespace SupplyChange

/-- A source that is asked goes before what is there, and hides it only where it has something to
give or fails. -/
def apply (co : Collaborators m) (supply : Supply m) : SupplyChange → Supply m
  | put credential => Function.update supply credential.kind (pure (.ok (some credential)))
  | ask source => fun kind => Acquired.thenTry (source.acquire co kind) (supply kind)
  | setPassword password =>
    Function.update supply .password (pure (.ok (password.map .password)))
  | replace (some source) => fun kind => source.acquire co kind
  | replace none => fun _ => pure (.ok none)

/-- Whether the change brings credentials in. -/
def adds : SupplyChange → Bool
  | put _ => true
  | ask _ => true
  | setPassword password => password.isSome
  | replace source => source.any fun source => !source.isNone

end SupplyChange

namespace Derivation

/-- The changes that a call makes to the supply. An incomplete certificate chain adds nothing, a call
with an empty alias derives nothing, and a forwarded identity takes the place of all credentials. -/
def supplyChanges : Derivation → List SupplyChange
  | useCredential credential => [.put credential]
  | useGssToken token => [.put (.gssKerberos token)]
  | useBearerToken token => [.put (.bearerToken token)]
  | useCertificate chain => if chain.isEmpty then [] else [.put (.certificateChain chain)]
  | useKeyStoreEntry store entry protection =>
    if entry.isEmpty then [] else [.ask (.keyStore store entry protection)]
  | useCredentialStoreEntry store entry =>
    if entry.isEmpty then [] else [.ask (.credentialStore store entry)]
  | useCredentialHandler handler => [.ask (.callback handler)]
  | usePassword password => [.setPassword password]
  | useCredentials source => [.replace source]
  | useForwardedIdentity .. => [.replace none]
  | without kind => if kind = .credentials then [.replace none] else []
  | withoutAny kinds => if .credentials ∈ kinds then [.replace none] else []
  | _ => []

end Derivation

/-- What an edit makes of the sources that stack up in a chain, newest first. -/
def Edit.restack (sources : List CredentialSource) (edit : Edit) : List CredentialSource :=
  edit.top.filterMap Configuration.ownSource? ++ if edit.drops .credentials then [] else sources

theorem Edit.restack_remove (kinds : List SettingKind) (sources : List CredentialSource) :
    (remove kinds).restack sources = if .credentials ∈ kinds then [] else sources := by
  simp [restack, top, drops]

theorem Edit.restack_of_within {edit : Edit} {kinds : List SettingKind} (h : edit.Within kinds)
    (hk : ∀ kind ∈ kinds, kind ≠ .credentials ∧ kind ≠ .forward) (sources : List CredentialSource) :
    edit.restack sources = sources := by
  cases edit with
  | remove removed => rw [restack_remove, if_neg fun hm => (hk _ (h hm)).1 rfl]
  | push setting =>
    have hne := hk _ h
    cases setting with
    | credentials source => exact absurd rfl hne.1
    | forward forwarded => exact absurd rfl hne.2
    | _ => rfl

theorem Edit.restack_foldl_of_within {edits : List Edit} {kinds : List SettingKind}
    (h : ∀ edit ∈ edits, edit.Within kinds)
    (hk : ∀ kind ∈ kinds, kind ≠ .credentials ∧ kind ≠ .forward) (sources : List CredentialSource) :
    edits.foldl restack sources = sources := by
  induction edits with
  | nil => rfl
  | cons edit rest ih =>
    rw [List.foldl_cons, restack_of_within (h edit List.mem_cons_self) hk]
    exact ih fun e hm => h e (List.mem_cons_of_mem edit hm)

namespace Configuration

variable {c : Configuration} {co : Collaborators m}

def supply (co : Collaborators m) (c : Configuration) : Supply m :=
  fun kind => c.configuredCredentials.acquire co kind

theorem filterMap_ownSource?_filter (keep : SettingKind → Bool) (settings : List Setting) :
    (settings.filter fun setting => keep setting.kind).filterMap ownSource? =
      if keep .credentials then settings.filterMap ownSource? else [] := by
  have hkind : ∀ setting, (ownSource? setting).isSome = true → setting.kind = .credentials := by
    intro setting hs
    cases setting <;> simp [ownSource?, Setting.kind] at hs ⊢
  by_cases hk : keep .credentials = true
  · rw [if_pos hk]
    apply filterMap_filter_of_isSome
    intro setting _ hs
    rw [hkind setting hs, hk]
  · rw [if_neg hk]
    apply List.filterMap_eq_nil_iff.mpr
    intro setting hm
    apply Option.not_isSome_iff_eq_none.mp
    intro hs
    have hkept := (List.mem_filter.mp hm).2
    rw [hkind setting hs] at hkept
    exact hk hkept

theorem filterMap_ownSource?_apply (settings : List Setting) (edit : Edit) :
    (edit.apply settings).filterMap ownSource? =
      edit.restack (settings.filterMap ownSource?) := by
  rw [edit.apply_eq_top_append, List.filterMap_append,
    filterMap_ownSource?_filter fun kind => !edit.drops kind, Edit.restack]
  cases edit.drops .credentials <;> rfl

theorem filterMap_ownSource?_foldl (edits : List Edit) (settings : List Setting) :
    (edits.foldl Edit.apply settings).filterMap ownSource? =
      edits.foldl Edit.restack (settings.filterMap ownSource?) := by
  induction edits generalizing settings with
  | nil => rfl
  | cons edit rest ih => rw [List.foldl_cons, List.foldl_cons, ih, filterMap_ownSource?_apply]

end Configuration

/-- What sources that stack up supply together. -/
def Supply.ofStack (co : Collaborators m) (sources : List CredentialSource) : Supply m :=
  fun kind => (Configuration.stackSources sources).acquire co kind

namespace Supply

variable [LawfulMonad m] {co : Collaborators m} {sources : List CredentialSource}

theorem ofStack_cons (source : CredentialSource) :
    ofStack co (source :: sources) = (SupplyChange.ask source).apply co (ofStack co sources) := by
  funext kind
  exact Configuration.acquire_stackSources_cons co kind source sources

theorem ofStack_credentialEdit (credential : Credential) :
    ofStack co ((Derivation.credentialEdit credential).restack sources) =
      (SupplyChange.put credential).apply co (ofStack co sources) := by
  show ofStack co (_ :: sources) = _
  rw [ofStack_cons]
  funext kind
  have hget : (CredentialSet.empty.insert credential).get? kind =
      if credential.kind = kind then some credential else none :=
    CredentialSet.get?_insert .empty credential kind
  simp only [SupplyChange.apply, CredentialSource.acquire, hget, Function.update_apply]
  by_cases hk : credential.kind = kind
  · rw [if_pos hk, if_pos hk.symm, Acquired.pure_some_thenTry]
  · rw [if_neg hk, if_neg (Ne.symm hk), Acquired.pure_none_thenTry]

theorem ofStack_sourceEdits (source : Option CredentialSource) :
    ofStack co ((Derivation.sourceEdits source).foldl Edit.restack sources) =
      (SupplyChange.replace source).apply co (ofStack co sources) := by
  cases source with
  | none => rfl
  | some source =>
    by_cases hn : source.isNone = true
    · rw [CredentialSource.eq_none_of_isNone hn]
      rfl
    · have hstack :
          (Derivation.sourceEdits (some source)).foldl Edit.restack sources = [source] := by
        simp [Derivation.sourceEdits, Option.filter, hn, Edit.restack, Edit.top, Edit.drops,
          Configuration.ownSource?, Setting.kind, SettingKind.displaces]
      rw [hstack, ofStack_cons]
      funext kind
      exact Acquired.thenTry_pure_none _

theorem ofStack_usePassword (password : Option Password) :
    ofStack co ((Derivation.sourceEdits
        (some ((Configuration.stackSources sources).without .password)) ++
          password.toList.map fun password => Derivation.credentialEdit (.password password)).foldl
            Edit.restack sources) =
      (SupplyChange.setPassword password).apply co (ofStack co sources) := by
  have hothers : ofStack co ((Derivation.sourceEdits
        (some ((Configuration.stackSources sources).without .password))).foldl
          Edit.restack sources) =
      Function.update (ofStack co sources) .password (pure (.ok none)) := by
    rw [ofStack_sourceEdits]
    funext kind
    rw [Function.update_apply]
    by_cases hk : kind = .password
    · rw [if_pos hk, hk]
      exact CredentialSource.acquire_without_self (.inl rfl) _
    · rw [if_neg hk]
      exact CredentialSource.acquire_without_of_ne hk _
  cases password with
  | none => rw [Option.toList_none, List.map_nil, List.append_nil, hothers]; rfl
  | some password =>
    rw [List.foldl_append]
    refine (ofStack_credentialEdit _).trans ?_
    rw [hothers]
    exact Function.update_idem ..

end Supply

namespace Derivation

variable [LawfulMonad m] {co : Collaborators m} {c : Configuration} {call : Derivation}

/-- What a call makes of the supply, the call being its edits. -/
theorem ofStack_edits {minted : Mint (List Edit)} (h : call.edits c = .ok minted) (next : Nat) :
    let sources := c.settings.filterMap Configuration.ownSource?
    Supply.ofStack co ((minted.run next).1.foldl Edit.restack sources) =
      call.supplyChanges.foldl (SupplyChange.apply co) (Supply.ofStack co sources) := by
  intro sources
  cases call with
  | useCredential credential =>
    cases h
    exact Supply.ofStack_credentialEdit credential
  | useGssToken token =>
    cases h
    exact Supply.ofStack_credentialEdit (.gssKerberos token)
  | useBearerToken token =>
    cases h
    exact Supply.ofStack_credentialEdit (.bearerToken token)
  | useCertificate chain =>
    cases h
    rw [supplyChanges]
    by_cases he : chain.isEmpty = true
    · rw [if_pos he, if_pos he]
      rfl
    · rw [if_neg he, if_neg he]
      exact Supply.ofStack_credentialEdit (.certificateChain chain)
  | useKeyStoreEntry store entry protection =>
    obtain ⟨he, rfl⟩ := eq_pure_of_requireEntry h
    rw [supplyChanges, if_neg he]
    exact Supply.ofStack_cons (.keyStore store entry protection)
  | useCredentialStoreEntry store entry =>
    obtain ⟨he, rfl⟩ := eq_pure_of_requireEntry h
    rw [supplyChanges, if_neg he]
    exact Supply.ofStack_cons (.credentialStore store entry)
  | useCredentialHandler handler =>
    cases h
    refine (Supply.ofStack_sourceEdits _).trans ?_
    funext kind
    exact CredentialSource.acquire_orElse _ _
  | usePassword password =>
    cases h
    exact Supply.ofStack_usePassword password
  | useCredentials source =>
    cases h
    exact Supply.ofStack_sourceEdits source
  | without kind =>
    cases h
    rw [supplyChanges]
    by_cases hk : kind = .credentials
    · rw [if_pos hk, hk]
      rfl
    · have hmem : .credentials ∉ [kind] := by simpa using Ne.symm hk
      rw [if_neg hk]
      show Supply.ofStack co ((Edit.remove [kind]).restack sources) = _
      rw [Edit.restack_remove, if_neg hmem]
      rfl
  | withoutAny kinds =>
    cases h
    rw [supplyChanges]
    show Supply.ofStack co ((Edit.remove kinds).restack sources) = _
    rw [Edit.restack_remove]
    by_cases hk : .credentials ∈ kinds
    · rw [if_pos hk, if_pos hk]
      rfl
    · rw [if_neg hk, if_neg hk]
      rfl
  | useForwardedIdentity domain context =>
    cases h
    rfl
  | _ =>
    -- The other calls have to do with neither credentials nor a forwarded identity.
    rw [Edit.restack_foldl_of_within (within_edits h next) (by simp [footprint])]
    rfl

theorem supplyChanges_of_error {error : ConfigurationError} (h : call.derive c = .error error) :
    call.supplyChanges = [] := by
  cases call with
  | useKeyStoreEntry store entry protection =>
    simp only [derive, Configuration.useKeyStoreEntry, Configuration.requireEntry] at h
    split at h
    · next he => exact if_pos he
    · cases h
  | useCredentialStoreEntry store entry =>
    simp only [derive, Configuration.useCredentialStoreEntry, Configuration.requireEntry] at h
    split at h
    · next he => exact if_pos he
    · cases h
  | usePort number => rfl
  | _ => cases h

theorem supply_derive (hs : Configuration.Settled c.settings) {action : Mint Configuration}
    (h : call.derive c = .ok action) (next : Nat) :
    (action.run next).1.supply co =
      call.supplyChanges.foldl (SupplyChange.apply co) (c.supply co) := by
  obtain ⟨minted, he, rfl⟩ := exists_edits h
  refine Eq.trans ?_ (ofStack_edits he next)
  show Supply.ofStack co (((minted >>= c.editAll).run next).1.settings.filterMap _) = _
  rw [Mint.run_bind, Configuration.settings_editAll hs, Configuration.filterMap_ownSource?_foldl]

theorem sourceEdits_some {source : CredentialSource} (h : source.isNone = false) :
    sourceEdits (some source) = [.remove [.credentials]] ++ [.push (.credentials source)] := by
  simp [sourceEdits, Option.filter, h]

/-- A call that brings credentials in ends by putting a source on top. -/
theorem edits_of_adds (ha : call.supplyChanges.any SupplyChange.adds = true)
    {minted : Mint (List Edit)} (h : call.edits c = .ok minted) (next : Nat) :
    ∃ before source, (minted.run next).1 = before ++ [.push (.credentials source)] := by
  cases call with
  | useCredential credential =>
    cases h
    exact ⟨[], _, rfl⟩
  | useGssToken token =>
    cases h
    exact ⟨[], _, rfl⟩
  | useBearerToken token =>
    cases h
    exact ⟨[], _, rfl⟩
  | useCertificate chain =>
    cases h
    by_cases he : chain.isEmpty = true
    · simp [supplyChanges, he] at ha
    · exact ⟨[], _, if_neg he⟩
  | useKeyStoreEntry store entry protection =>
    obtain ⟨-, rfl⟩ := eq_pure_of_requireEntry h
    exact ⟨[], _, rfl⟩
  | useCredentialStoreEntry store entry =>
    obtain ⟨-, rfl⟩ := eq_pure_of_requireEntry h
    exact ⟨[], _, rfl⟩
  | usePassword password =>
    cases password with
    | none => simp [supplyChanges, SupplyChange.adds] at ha
    | some password =>
      cases h
      exact ⟨_, _, rfl⟩
  | useCredentials source =>
    cases h
    cases source with
    | none => simp [supplyChanges, SupplyChange.adds] at ha
    | some source =>
      have hn : source.isNone = false := by simpa [supplyChanges, SupplyChange.adds] using ha
      exact ⟨_, source, sourceEdits_some hn⟩
  | useCredentialHandler handler =>
    cases h
    have hn :
        ((CredentialSource.callback handler).orElse c.configuredCredentials).isNone = false := by
      unfold CredentialSource.orElse
      split
      · rfl
      · rfl
    exact ⟨_, _, sourceEdits_some hn⟩
  | without kind =>
    by_cases hk : kind = .credentials <;> simp [supplyChanges, SupplyChange.adds, hk] at ha
  | withoutAny kinds =>
    by_cases hk : .credentials ∈ kinds <;> simp [supplyChanges, SupplyChange.adds, hk] at ha
  | _ => simp [supplyChanges, SupplyChange.adds] at ha

theorem hasKind_credentials_of_adds (hs : Configuration.Settled c.settings)
    (ha : call.supplyChanges.any SupplyChange.adds = true) {action : Mint Configuration}
    (h : call.derive c = .ok action) (next : Nat) :
    (action.run next).1.hasKind .credentials = true := by
  obtain ⟨minted, he, rfl⟩ := exists_edits h
  obtain ⟨before, source, hedits⟩ := edits_of_adds ha he next
  refine Configuration.hasKind_iff.mpr ⟨.credentials source, ?_, rfl⟩
  rw [Mint.run_bind, Configuration.settings_editAll hs, hedits, List.foldl_append]
  exact List.mem_cons_self

theorem hasKind_forward_of_adds (hc : c.Lawful)
    (ha : call.supplyChanges.any SupplyChange.adds = true) {action : Mint Configuration}
    (h : call.derive c = .ok action) (next : Nat) :
    (action.run next).1.hasKind .forward = false := by
  apply Bool.eq_false_iff.mpr
  intro hf
  have hex := ((hc.derive h next).wellFormed.exclusive hf).2
  rw [hasKind_credentials_of_adds hc.settled ha h next] at hex
  cases hex

end Derivation

theorem Stock.Reachable.supply_follow [LawfulMonad m] {co : Collaborators m} {stock : Stock}
    (hs : stock.Reachable) {c : Configuration} (hc : c ∈ stock.made) (calls : List Derivation) :
    (stock.follow c calls).2.supply co =
      (calls.flatMap Derivation.supplyChanges).foldl (SupplyChange.apply co) (c.supply co) := by
  induction calls generalizing stock c with
  | nil => rfl
  | cons call rest ih =>
    rw [List.flatMap_cons, List.foldl_append]
    cases hd : call.derive c with
    | error error =>
      simp only [Stock.follow, hd]
      rw [ih hs hc, Derivation.supplyChanges_of_error hd]
      rfl
    | ok action =>
      simp only [Stock.follow, hd]
      have hstep : (stock.add action).Reachable := .tail hs (.derive hc hd)
      rw [ih hstep List.mem_cons_self,
        Derivation.supply_derive (hs.coherent.lawful c hc).settled hd]

/-- What each call makes of the supply, and any number of them, whatever sources are there already.
What callbacks are answered from is the supply, unless an identity is forwarded. -/
theorem supply_of_calls [LawfulMonad m] (co : Collaborators m) {stock : Stock}
    (hs : stock.Reachable) {c : Configuration} (hc : c ∈ stock.made) :
    (∀ (call : Derivation) (action : Mint Configuration) (next : Nat), call.derive c = .ok action →
      (action.run next).1.supply co =
          call.supplyChanges.foldl (SupplyChange.apply co) (c.supply co) ∧
        (call.supplyChanges.any SupplyChange.adds = true →
          (action.run next).1.hasKind .forward = false)) ∧
      (∀ calls, (stock.follow c calls).2.supply co =
        (calls.flatMap Derivation.supplyChanges).foldl (SupplyChange.apply co) (c.supply co)) ∧
      (c.hasKind .forward = false → ∀ kind,
        (c.credentialSource co.toEnvironment).acquire co kind = c.supply co kind) := by
  have hl := hs.coherent.lawful c hc
  refine ⟨?_, hs.supply_follow hc, ?_⟩
  · intro call action next hd
    exact ⟨Derivation.supply_derive hl.settled hd next,
      fun ha => Derivation.hasKind_forward_of_adds hl ha hd next⟩
  · intro hf kind
    rw [Configuration.credentialSource_eq_configured hf]
    rfl

theorem supply_of_tokens :
    let co : Collaborators Id := { (Collaborators.inert : Collaborators Id) with
      storedCredential := fun _ _ kind =>
        if kind = .bearerToken then .ok (some (.bearerToken ⟨"stored"⟩)) else .ok none }
    let run := Stock.initial.follow .base [.useForwardedIdentity default default,
      .usePassword (some ⟨"old"⟩), .useBearerToken ⟨"token"⟩,
      .useCredentialStoreEntry default "entry"]
    let call := Derivation.usePassword (some ⟨"new"⟩)
    run.1.Reachable ∧ run.2 ∈ run.1.made ∧ ∃ action, call.derive run.2 = .ok action ∧
      (action.run run.1.next).1.supply co .password = pure (.ok (some (.password ⟨"new"⟩))) ∧
      (action.run run.1.next).1.supply co .bearerToken =
        pure (.ok (some (.bearerToken ⟨"stored"⟩))) ∧
      (action.run run.1.next).1.hasKind .forward = false := by
  intro co run call
  have h := Stock.reachable_initial.follow Stock.mem_base [.useForwardedIdentity default default,
    .usePassword (some ⟨"old"⟩), .useBearerToken ⟨"token"⟩,
    .useCredentialStoreEntry default "entry"]
  have hrun : run.2.supply co = _ :=
    (supply_of_calls co Stock.reachable_initial Stock.mem_base).2.1 _
  have hcall := (supply_of_calls co h.1 h.2.1).1 call _ run.1.next rfl
  refine ⟨h.1, h.2.1, _, rfl, ?_, ?_, hcall.2 rfl⟩
  · rw [hcall.1, hrun]
    rfl
  · rw [hcall.1, hrun]
    rfl

end ClientAuth
