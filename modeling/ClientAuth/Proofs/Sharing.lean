import ClientAuth.Proofs.Effective

/-! How much of a chain a removal keeps. Below the lowest setting removed the old nodes stay, and
each setting kept above it stands in a node that no chain has had before. -/

namespace ClientAuth

namespace Configuration

variable {c : Configuration} {kinds : List SettingKind}

/-- `after` is `c` without the settings of the given kinds, and keeps of its nodes what can be
kept; `made` are the configurations that there are already. -/
structure Trimmed (made : List Configuration) (kinds : List SettingKind)
    (c after : Configuration) : Prop where
  settings : after.settings = c.settings.filter fun setting => setting.kind ∉ kinds
  sameChain_iff : after.sameChain c = true ↔ ∀ setting ∈ c.settings, setting.kind ∉ kinds
  shares : ∀ above lowest below, c.nodes = above ++ lowest :: below →
    lowest.setting.kind ∈ kinds → (∀ node ∈ below, node.setting.kind ∉ kinds) →
      ∃ fresh, after.nodes = fresh ++ below ∧
        fresh.map Node.setting =
          (above.map Node.setting).filter (fun setting => setting.kind ∉ kinds) ∧
        ∀ node ∈ fresh, ∀ other ∈ made, ∀ old ∈ other.nodes, node.id ≠ old.id
  parent : ∀ head below, c.nodes = head :: below → head.setting.kind ∈ kinds →
    (∀ node ∈ below, node.setting.kind ∉ kinds) → after = ⟨below⟩
  base : (∀ setting ∈ c.settings, setting.kind ∈ kinds) → after = .base

theorem withoutAny_run_lowest (hs : Settled c.settings) {above below : List Node} {lowest : Node}
    (hc : c.nodes = above ++ lowest :: below) (hl : lowest.setting.kind ∈ kinds)
    (hb : ∀ node ∈ below, node.setting.kind ∉ kinds) (next : Nat) :
    ∃ stop fresh, (c.withoutAny kinds).run next = (⟨fresh ++ below⟩, stop) ∧
      fresh.map Node.setting =
        (above.map Node.setting).filter (fun setting => setting.kind ∉ kinds) ∧
      Renewed next stop [] fresh := by
  obtain ⟨nodes⟩ := c
  obtain rfl : nodes = above ++ lowest :: below := hc
  obtain ⟨kept, stop, fresh, hrun, hkept, hset, hren⟩ := trim?_run_lowest hs hl hb next
  refine ⟨stop, fresh, ?_, hset, hren⟩
  simp only [withoutAny, Mint.run_bind, hrun, Mint.run_pure, ← hkept]
  rfl

/-- Where only the head goes, what is left is the chain that it was put on. -/
theorem withoutAny_run_head (hs : Settled c.settings) {head : Node} {below : List Node}
    (hc : c.nodes = head :: below) (hh : head.setting.kind ∈ kinds)
    (hb : ∀ node ∈ below, node.setting.kind ∉ kinds) (next : Nat) :
    ((c.withoutAny kinds).run next).1 = ⟨below⟩ := by
  have hnodes : c.nodes = [] ++ head :: below := hc
  obtain ⟨stop, fresh, hrun, hset, -⟩ := withoutAny_run_lowest hs hnodes hh hb next
  rw [hrun, List.map_eq_nil_iff.mp hset, List.nil_append]

theorem eq_base_of_settings (h : c.settings = []) : c = base :=
  congrArg mk (List.map_eq_nil_iff.mp h)

theorem settings_withoutAny_append (hs : Settled c.settings) (kinds kinds' : List SettingKind)
    (next next' : Nat) :
    ((do (← c.withoutAny kinds).withoutAny kinds' : Mint Configuration).run next).1.settings =
      ((c.withoutAny (kinds ++ kinds')).run next').1.settings := by
  rw [Mint.run_bind, settings_withoutAny (hs.withoutAny kinds next), settings_withoutAny hs,
    settings_withoutAny hs, List.filter_filter]
  apply List.filter_congr
  intro setting _
  simp [Bool.and_comm]

end Configuration

open ClientAuth.Configuration

/-- A removal takes away the settings of the given kinds and no others, keeps the very chain below the
lowest of them, and the whole chain where there are none. -/
theorem trimmed_of_reachable {stock : Stock} (hs : stock.Reachable) {c : Configuration}
    (hc : c ∈ stock.made) (kinds : List SettingKind) :
    Trimmed stock.made kinds c ((c.withoutAny kinds).run stock.next).1 ∧
      ∀ (kinds' : List SettingKind) (next next' : Nat),
        ((do (← c.withoutAny kinds).withoutAny kinds' : Mint Configuration).run next).1.settings =
          ((c.withoutAny (kinds ++ kinds')).run next').1.settings := by
  have hsettled := (hs.coherent.lawful c hc).settled
  have hsettings := settings_withoutAny hsettled kinds stock.next
  refine ⟨⟨hsettings, ?_, ?_, ?_, ?_⟩, settings_withoutAny_append hsettled kinds⟩
  · constructor
    · intro hsame
      have hstep : (stock.add (c.withoutAny kinds)).Reachable :=
        .tail hs (.derive hc (show (Derivation.withoutAny kinds).derive c = .ok _ from rfl))
      have heq := hstep.coherent.eq_of_sameChain List.mem_cons_self
        (List.mem_cons_of_mem _ hc) hsame
      rw [heq] at hsettings
      simpa using List.filter_eq_self.mp hsettings.symm
    · intro habs
      rw [withoutAny_run_absent habs]
      exact decide_eq_true rfl
  · intro above lowest below hnodes hl hb
    obtain ⟨stop, fresh, hrun, hset, hren⟩ :=
      withoutAny_run_lowest hsettled hnodes hl hb stock.next
    refine ⟨fresh, by rw [hrun], hset, ?_⟩
    intro node hm other ho old hold hid
    have hfresh := hren.le_index node hm
    have hbound := hs.coherent.bounded other ho old hold
    rw [hid] at hfresh
    omega
  · intro head below hnodes hh hb
    exact withoutAny_run_head hsettled hnodes hh hb stock.next
  · intro hall
    apply eq_base_of_settings
    rw [hsettings]
    exact List.filter_eq_nil_iff.mpr (by simpa using hall)

theorem trimmed_of_tokens :
    let run := Stock.initial.follow .base [.useHost "localhost", .useBearerToken ⟨"old"⟩,
      .useAuthorizationName (some "admin"), .useBearerToken ⟨"new"⟩]
    let after := ((run.2.withoutAny [.credentials]).run run.1.next).1
    run.1.Reachable ∧ run.2 ∈ run.1.made ∧ after.sameChain run.2 = false ∧
      ∃ host fresh, run.2.nodes.getLast? = some host ∧ after.nodes = [fresh, host] ∧
        fresh.setting = .authorizationName "admin" ∧
        ∀ other ∈ run.1.made, ∀ old ∈ other.nodes, fresh.id ≠ old.id := by
  intro run after
  have h := Stock.reachable_initial.follow Stock.mem_base [.useHost "localhost",
    .useBearerToken ⟨"old"⟩, .useAuthorizationName (some "admin"), .useBearerToken ⟨"new"⟩]
  obtain ⟨htrimmed, -⟩ := trimmed_of_reachable h.1 h.2.1 [.credentials]
  have hnodes : run.2.nodes = run.2.nodes.take 2 ++
      ⟨⟨4⟩, .credentials (.held ⟨[.bearerToken ⟨"old"⟩]⟩)⟩ :: [⟨⟨3⟩, .host "localhost"⟩] := by
    decide +kernel
  have habove : (run.2.nodes.take 2).map Node.setting =
      [.credentials (.held ⟨[.bearerToken ⟨"new"⟩]⟩), .authorizationName "admin"] := by
    decide +kernel
  obtain ⟨fresh, hafter, hset, hnew⟩ := htrimmed.shares _ _ _ hnodes (by decide) (by decide)
  rw [habove] at hset
  obtain ⟨node, rest, rfl, hnode, hrest⟩ := List.map_eq_cons_iff.mp hset
  obtain rfl := List.map_eq_nil_iff.mp hrest
  refine ⟨h.1, h.2.1, ?_, _, node, ?_, hafter, hnode, hnew node List.mem_cons_self⟩
  · apply Bool.eq_false_iff.mpr
    intro hsame
    exact absurd (htrimmed.sameChain_iff.mp hsame) (by decide +kernel)
  · rw [hnodes, List.getLast?_append, List.getLast?_cons_cons]
    rfl

end ClientAuth
