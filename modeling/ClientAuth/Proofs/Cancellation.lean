import ClientAuth.Proofs.Locality
import ClientAuth.Proofs.Overlay
import ClientAuth.Proofs.Sharing

/-! Taking off again what calls have put on top. What comes back is the chain without what the
settings put on have displaced, which is all of it where they have displaced nothing. -/

namespace ClientAuth

namespace Derivation

variable {c : Configuration} {call : Derivation} {next : Nat} {setting : Setting}

theorem replacesCredentials_of_pushes (hp : call.Pushes c next setting)
    (hk : setting.kind ≠ .credentials) : call.replacesCredentials = false := by
  obtain ⟨minted, he, hm⟩ := hp
  have hf := footprint_of_push_mem he hm
  cases call with
  | usePassword _ => exact absurd (List.singleton_inj.mp hf).symm hk
  | useCredentials _ => exact absurd (List.singleton_inj.mp hf).symm hk
  | useCredentialHandler _ => exact absurd (List.singleton_inj.mp hf).symm hk
  | _ => rfl

variable {action : Mint Configuration}

theorem settings_without_of_pushes (hc : c.Lawful) (hd : call.derive c = .ok action)
    (hp : call.Pushes c next setting) (hk : setting.kind ≠ .credentials) (next' : Nat) :
    (((action.run next).1.without setting.kind).run next').1.settings =
      c.settings.filter fun lower => lower.kind ∉ setting.kind.displaces := by
  have hsettled := (hc.derive hd next).settled
  have hself := SettingKind.mem_displaces_self hk
  rw [Configuration.without, Configuration.settings_withoutAny hsettled,
    settings_of_pushes hc.settled (replacesCredentials_of_pushes hp hk) hd hp,
    List.filter_cons_of_neg (by simp), List.filter_filter]
  apply List.filter_congr
  intro lower _
  by_cases hl : lower.kind = setting.kind
  · simp [hl, hself]
  · simp [hl]

theorem nodes_of_pushes (hd : call.derive c = .ok action) (hp : call.Pushes c next setting)
    (hk : setting.kind ≠ .credentials)
    (habs : ∀ lower ∈ c.settings, lower.kind ∉ setting.kind.displaces) :
    ∃ head : Node, head.setting = setting ∧ (action.run next).1.nodes = head :: c.nodes := by
  have hn := replacesCredentials_of_pushes hp hk
  obtain ⟨minted, he, hm⟩ := hp
  obtain ⟨minted', he', rfl⟩ := exists_edits hd
  rw [he] at he'
  cases he'
  refine ⟨⟨⟨(minted.run next).2⟩, setting⟩, rfl, ?_⟩
  rw [Mint.run_bind, edits_of_push_mem hn he hm]
  show (((c.overlay setting).run (minted.run next).2).1).nodes = _
  rw [Configuration.overlay, Mint.run_bind, Configuration.withoutAny_run_absent habs]
  rfl

/-- Where a call has displaced nothing, removing what it has put on gives back the chain itself. -/
theorem without_of_pushes (hc : c.Lawful) (hd : call.derive c = .ok action)
    (hp : call.Pushes c next setting) (hk : setting.kind ≠ .credentials)
    (habs : ∀ lower ∈ c.settings, lower.kind ∉ setting.kind.displaces) (next' : Nat) :
    (((action.run next).1.without setting.kind).run next').1 = c := by
  obtain ⟨head, hhead, hnodes⟩ := nodes_of_pushes hd hp hk habs
  apply Configuration.withoutAny_run_head (hc.derive hd next).settled hnodes
  · rw [hhead]
    exact List.mem_singleton_self _
  · intro node hm hkind
    apply habs _ (List.mem_map_of_mem hm)
    rw [List.mem_singleton.mp hkind]
    exact SettingKind.mem_displaces_self hk

/-- Of the settings of other kinds, credentials displace a forwarded identity and no more. -/
theorem told_of_pushes_credentials (hc : c.Lawful) (hd : call.derive c = .ok action)
    (hp : call.Pushes c next setting) (hs : setting.kind = .credentials) {kind : SettingKind}
    (hk : kind ≠ .credentials) :
    (action.run next).1.told kind = if kind = .forward then [] else c.told kind := by
  obtain ⟨minted, he, hm⟩ := hp
  obtain ⟨minted', he', rfl⟩ := exists_edits hd
  rw [he] at he'
  cases he'
  have hwithin := within_edits he next
  rw [footprint_of_push_mem he hm, hs] at hwithin
  rw [Mint.run_bind, Configuration.told_editAll hc.settled,
    Edit.foldl_applyTold_of_not_mem hwithin (by simpa using hk)]
  have hdrops : (minted.run next).1.any (Edit.drops kind) = decide (kind = .forward) := by
    by_cases hforward : kind = .forward
    · rw [decide_eq_true hforward]
      refine List.any_eq_true.mpr ⟨_, hm, ?_⟩
      simp [Edit.drops, hs, hforward, SettingKind.displaces]
    · rw [decide_eq_false hforward]
      apply List.any_eq_false.mpr
      intro edit hedit hdrop
      have htouched := Edit.mem_touched_of_drops (hwithin edit hedit) hdrop
      simp [touched, SettingKind.displaces, hk, hforward] at htouched
  rw [hdrops]
  simp only [decide_eq_true_eq]

end Derivation

namespace Configuration

variable {c after : Configuration}

/-- `after` is `c` after a call that puts credentials on top. -/
def Stacks (c after : Configuration) : Prop :=
  ∃ (call : Derivation) (action : Mint Configuration) (next : Nat) (setting : Setting),
    call.derive c = .ok action ∧ call.Pushes c next setting ∧ setting.kind = .credentials ∧
      after = (action.run next).1

theorem told_withoutAny (hs : Settled c.settings) (kinds : List SettingKind) (next : Nat)
    (kind : SettingKind) :
    ((c.withoutAny kinds).run next).1.told kind = if kind ∉ kinds then c.told kind else [] :=
  told_editAll hs [.remove kinds] next kind

/-- However many credentials are put on, all that they displace is a forwarded identity. -/
theorem told_of_stacks (hc : c.Lawful) (h : Relation.TransGen Stacks c after) :
    after.Lawful ∧ ∀ kind, kind ≠ .credentials →
      after.told kind = if kind = .forward then [] else c.told kind := by
  induction h with
  | single h =>
    obtain ⟨call, action, next, setting, hd, hp, hs, rfl⟩ := h
    exact ⟨hc.derive hd next, fun kind => Derivation.told_of_pushes_credentials hc hd hp hs⟩
  | tail _ h ih =>
    obtain ⟨hlawful, htold⟩ := ih
    obtain ⟨call, action, next, setting, hd, hp, hs, rfl⟩ := h
    refine ⟨hlawful.derive hd next, ?_⟩
    intro kind hk
    rw [Derivation.told_of_pushes_credentials hlawful hd hp hs hk, htold kind hk]
    split <;> rfl

end Configuration

open ClientAuth.Configuration

/-- Removing the kind of a setting that a call has put on leaves what the call has displaced missing,
and nothing else; where nothing was displaced, the chain is the one from before. Credentials come off
together, however many have been put on. -/
theorem agree_of_pushes {stock : Stock} (hs : stock.Reachable) {c : Configuration}
    (hc : c ∈ stock.made) :
    (∀ (call : Derivation) (action : Mint Configuration) (next : Nat) (setting : Setting),
      call.derive c = .ok action → call.Pushes c next setting →
        setting.kind.isMultiValued = false →
          Stock.Agree ((action.run next).1.without setting.kind)
              (c.withoutAny setting.kind.displaces) ∧
            ((∀ lower ∈ c.settings, lower.kind ∉ setting.kind.displaces) →
              ∀ next', (((action.run next).1.without setting.kind).run next').1 = c)) ∧
      ∀ after, Relation.TransGen Stacks c after →
        Stock.Agree (after.without .credentials) (c.withoutAny [.forward, .credentials]) := by
  have hl := hs.coherent.lawful c hc
  constructor
  · intro call action next setting hd hp hsingle
    have hk : setting.kind ≠ .credentials := of_decide_eq_false hsingle
    refine ⟨.of_told_eq ?_, Derivation.without_of_pushes hl hd hp hk⟩
    intro next' next'' kind
    unfold told
    rw [Derivation.settings_without_of_pushes hl hd hp hk, settings_withoutAny hl.settled]
  · intro after hafter
    obtain ⟨hlawful, htold⟩ := told_of_stacks hl hafter
    apply Stock.Agree.of_told_eq
    intro next next' kind
    rw [without, told_withoutAny hlawful.settled, told_withoutAny hl.settled]
    by_cases hk : kind = .credentials
    · simp [hk]
    · rw [htold kind hk]
      by_cases hforward : kind = .forward
      · simp [hforward]
      · simp [hk, hforward]

theorem agree_of_forwarding :
    let run := Stock.initial.follow .base
      [.useHost "localhost", .useForwardedIdentity default default]
    let named := run.1.follow run.2 [.useName "alice"]
    let unnamed := named.1.follow named.2 [.without .identity]
    let cleared := unnamed.1.follow run.2 [.withoutAny [.identity, .forward]]
    let ported := run.1.follow run.2 [.usePort 443]
    let stacked := run.1.follow run.2 [.useBearerToken ⟨"old"⟩, .useBearerToken ⟨"new"⟩]
    let unstacked := stacked.1.follow stacked.2 [.without .credentials]
    let bare := unstacked.1.follow run.2 [.withoutAny [.forward, .credentials]]
    cleared.1.Equates unnamed.2 cleared.2 ∧ unnamed.2.settings = [.host "localhost"] ∧
      (ported.1.follow ported.2 [.without .port]).2 = run.2 ∧
      bare.1.Equates unstacked.2 bare.2 := by
  intro run named unnamed cleared ported stacked unstacked bare
  have h := Stock.reachable_initial.follow Stock.mem_base
    [.useHost "localhost", .useForwardedIdentity default default]
  obtain ⟨hsingle, hstacks⟩ := agree_of_pushes h.1 h.2.1
  have hnamed := h.1.follow h.2.1 [.useName "alice"]
  have hunnamed := hnamed.1.follow hnamed.2.1 [.without .identity]
  have hcleared := hunnamed.1.follow (hunnamed.2.2 (hnamed.2.2 h.2.1))
    [.withoutAny [.identity, .forward]]
  have hstacked := h.1.follow h.2.1 [.useBearerToken ⟨"old"⟩, .useBearerToken ⟨"new"⟩]
  have hunstacked := hstacked.1.follow hstacked.2.1 [.without .credentials]
  have hbare := hunstacked.1.follow (hunstacked.2.2 (hstacked.2.2 h.2.1))
    [.withoutAny [.forward, .credentials]]
  have hfirst : Stacks run.2 (run.1.follow run.2 [.useBearerToken ⟨"old"⟩]).2 :=
    ⟨.useBearerToken ⟨"old"⟩, _, _, .credentials (.held ⟨[.bearerToken ⟨"old"⟩]⟩), rfl,
      ⟨_, rfl, List.mem_singleton_self _⟩, rfl, rfl⟩
  have hsecond : Stacks (run.1.follow run.2 [.useBearerToken ⟨"old"⟩]).2 stacked.2 :=
    ⟨.useBearerToken ⟨"new"⟩, _, _, .credentials (.held ⟨[.bearerToken ⟨"new"⟩]⟩), rfl,
      ⟨_, rfl, List.mem_singleton_self _⟩, rfl, rfl⟩
  refine ⟨?_, by decide +kernel, ?_, ?_⟩
  · have hagree := (hsingle (.useName "alice") _ run.1.next _ rfl
      ⟨_, rfl, List.mem_singleton_self _⟩ rfl).1
    exact hagree cleared.1 named.1.next unnamed.1.next hcleared.1 (hcleared.2.2 hunnamed.2.1)
      hcleared.2.1
  · have hsame := (hsingle (.usePort 443) _ run.1.next _ rfl
      ⟨_, rfl, List.mem_singleton_self _⟩ rfl).2
    exact hsame (by decide +kernel) ported.1.next
  · have hagree := hstacks stacked.2 (.tail (.single hfirst) hsecond)
    exact hagree bare.1 stacked.1.next unstacked.1.next hbare.1 (hbare.2.2 hunstacked.2.1)
      hbare.2.1

end ClientAuth
