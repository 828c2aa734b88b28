import ClientAuth.Proofs.Renewal

/-! Removing settings from a chain, and putting one on top. In a settled chain a removal keeps all
other settings in their order, although it puts those above a removed one on anew. -/

namespace ClientAuth.Configuration

/-- No setting stands above one that it displaces. -/
def Settled (settings : List Setting) : Prop :=
  settings.Pairwise fun upper lower => lower.kind ∉ upper.kind.displaces

theorem trim?_run_absent {kinds : List SettingKind} {nodes : List Node}
    (h : ∀ node ∈ nodes, node.setting.kind ∉ kinds) (next : Nat) :
    (trim? kinds nodes).run next = (none, next) := by
  induction nodes with
  | nil => rw [trim?]; rfl
  | cons node below ih =>
    have hb := ih fun x hx => h x (List.mem_cons_of_mem _ hx)
    have hn : decide (node.setting.kind ∈ kinds) = false := by simpa using h node
    rw [trim?]
    simp only [Mint.run_bind, hb, hn, Mint.run_pure]

/-- What lies below the lowest removed node stays as it is, and each node kept above it is made
anew. -/
theorem trim?_run_lowest {kinds : List SettingKind} {above below : List Node} {lowest : Node}
    (hs : Settled ((above ++ lowest :: below).map Node.setting))
    (hl : lowest.setting.kind ∈ kinds) (hb : ∀ node ∈ below, node.setting.kind ∉ kinds)
    (next : Nat) :
    ∃ kept stop fresh, (trim? kinds (above ++ lowest :: below)).run next = (some kept, stop) ∧
      kept.1 = fresh ++ below ∧
      fresh.map Node.setting =
        (above.map Node.setting).filter (fun setting => setting.kind ∉ kinds) ∧
      Renewed next stop [] fresh := by
  induction above with
  | nil =>
    rw [List.nil_append, trim?]
    simp only [Mint.run_bind, trim?_run_absent hb, hl, decide_true]
    exact ⟨_, _, [], rfl, rfl, rfl, .refl next []⟩
  | cons node above ih =>
    have hcons := List.pairwise_cons.mp hs
    obtain ⟨⟨kept, hlt⟩, stop, fresh, hrun, hkept, hset, hren⟩ := ih hcons.2
    dsimp only at hkept
    subst hkept
    rw [List.cons_append, trim?]
    simp only [Mint.run_bind]
    by_cases hn : node.setting.kind ∈ kinds
    · simp only [hrun, hn, decide_true]
      exact ⟨_, _, fresh, rfl, rfl, by simpa [hn] using hset, hren⟩
    · -- What the node displaces was gone from below it before, so it is put back alone.
      have hsub : (fresh ++ below).map Node.setting ⊆
          (above ++ lowest :: below).map Node.setting := by
        rw [List.map_append, List.map_append, hset]
        refine List.append_subset.mpr ⟨?_, ?_⟩
        · exact List.Subset.trans List.filter_sublist.subset (List.subset_append_left _ _)
        · exact List.Subset.trans (List.subset_cons_self _ _) (List.subset_append_right _ _)
      have hclear : (trim? node.setting.kind.displaces (fresh ++ below)).run stop = (none, stop) :=
        trim?_run_absent (fun x hx => hcons.1 _ (hsub (List.mem_map_of_mem hx))) stop
      simp only [hrun, hn, decide_false, Mint.run_bind, hclear, Mint.run_fresh]
      exact ⟨_, _, _ :: fresh, rfl, rfl, by simpa [hn] using hset, hren.push _⟩

theorem exists_lowest {kinds : List SettingKind} {nodes : List Node}
    (h : ∃ node ∈ nodes, node.setting.kind ∈ kinds) :
    ∃ above lowest below, nodes = above ++ lowest :: below ∧ lowest.setting.kind ∈ kinds ∧
      ∀ node ∈ below, node.setting.kind ∉ kinds := by
  obtain ⟨node, hm, hk⟩ := h
  have hsome : (nodes.reverse.find? fun node => node.setting.kind ∈ kinds).isSome = true :=
    List.find?_isSome.mpr ⟨node, List.mem_reverse.mpr hm, decide_eq_true hk⟩
  obtain ⟨lowest, hf⟩ := Option.isSome_iff_exists.mp hsome
  obtain ⟨hl, below, above, hrev, hb⟩ := List.find?_eq_some_iff_append.mp hf
  refine ⟨above.reverse, lowest, below.reverse, ?_, of_decide_eq_true hl, by simpa using hb⟩
  rw [← List.reverse_reverse nodes, hrev]
  simp

theorem trim?_run_present {kinds : List SettingKind} {nodes : List Node}
    (hs : Settled (nodes.map Node.setting)) (h : ∃ node ∈ nodes, node.setting.kind ∈ kinds)
    (next : Nat) :
    ∃ kept stop, (trim? kinds nodes).run next = (some kept, stop) ∧
      kept.1.map Node.setting =
        (nodes.map Node.setting).filter (fun setting => setting.kind ∉ kinds) ∧
      Renewed next stop nodes kept.1 := by
  obtain ⟨above, lowest, below, rfl, hl, hb⟩ := exists_lowest h
  obtain ⟨kept, stop, fresh, hrun, hkept, hset, hren⟩ := trim?_run_lowest hs hl hb next
  have hbelow : (below.map Node.setting).filter (fun setting => setting.kind ∉ kinds) =
      below.map Node.setting := by
    apply List.filter_eq_self.mpr
    simpa using hb
  refine ⟨kept, stop, hrun, ?_, ?_⟩
  · rw [hkept, List.map_append, List.map_append, List.filter_append, List.map_cons,
      List.filter_cons_of_neg (by simpa using hl), hset, hbelow]
  · rw [hkept]
    exact hren.append ⟨above ++ [lowest], by simp⟩

variable {c : Configuration}

/-- Where there is nothing to remove the chain stays the very same. -/
theorem withoutAny_run_absent {kinds : List SettingKind}
    (h : ∀ setting ∈ c.settings, setting.kind ∉ kinds) (next : Nat) :
    (c.withoutAny kinds).run next = (c, next) := by
  have hrun : (trim? kinds c.nodes).run next = (none, next) :=
    trim?_run_absent (fun node hm => h _ (List.mem_map_of_mem hm)) next
  simp only [withoutAny, Mint.run_bind, hrun, Mint.run_pure]
  rfl

theorem withoutAny_run (hs : Settled c.settings) (kinds : List SettingKind) (next : Nat) :
    ((c.withoutAny kinds).run next).1.settings =
        c.settings.filter (fun setting => setting.kind ∉ kinds) ∧
      Renewed next ((c.withoutAny kinds).run next).2 c.nodes
        ((c.withoutAny kinds).run next).1.nodes := by
  by_cases h : ∃ node ∈ c.nodes, node.setting.kind ∈ kinds
  · obtain ⟨kept, stop, hrun, hset, hren⟩ := trim?_run_present hs h next
    simp only [withoutAny, Mint.run_bind, hrun, Mint.run_pure]
    exact ⟨hset, hren⟩
  · have habs : ∀ setting ∈ c.settings, setting.kind ∉ kinds := by
      intro setting hm
      obtain ⟨node, hn, rfl⟩ := List.mem_map.mp hm
      exact fun hk => h ⟨node, hn, hk⟩
    rw [withoutAny_run_absent habs]
    exact ⟨(List.filter_eq_self.mpr (by simpa using habs)).symm, .refl next c.nodes⟩

theorem settings_withoutAny (hs : Settled c.settings) (kinds : List SettingKind) (next : Nat) :
    ((c.withoutAny kinds).run next).1.settings =
      c.settings.filter (fun setting => setting.kind ∉ kinds) :=
  (withoutAny_run hs kinds next).1

theorem settings_overlay (hs : Settled c.settings) (setting : Setting) (next : Nat) :
    ((c.overlay setting).run next).1.settings =
      setting :: c.settings.filter (fun lower => lower.kind ∉ setting.kind.displaces) := by
  rw [← settings_withoutAny hs _ next]
  rfl

theorem renewed_overlay (hs : Settled c.settings) (setting : Setting) (next : Nat) :
    Renewed next ((c.overlay setting).run next).2 c.nodes
      ((c.overlay setting).run next).1.nodes :=
  (withoutAny_run hs _ next).2.push setting

theorem Settled.filter {settings : List Setting} (hs : Settled settings)
    (keep : Setting → Bool) : Settled (settings.filter keep) :=
  List.Pairwise.filter keep hs

theorem Settled.overlay (hs : Settled c.settings) (setting : Setting) (next : Nat) :
    Settled ((c.overlay setting).run next).1.settings := by
  rw [settings_overlay hs]
  refine List.pairwise_cons.mpr ⟨?_, hs.filter _⟩
  intro lower hm
  simpa using (List.mem_filter.mp hm).2

theorem Settled.withoutAny (hs : Settled c.settings) (kinds : List SettingKind) (next : Nat) :
    Settled ((c.withoutAny kinds).run next).1.settings := by
  rw [settings_withoutAny hs]
  exact hs.filter _

end ClientAuth.Configuration
