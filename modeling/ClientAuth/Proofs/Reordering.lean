import ClientAuth.Proofs.Locality

/-! Settings made in another order. What a setting makes of a chain depends on settings that no other
one touches as long as they are apart, so two that follow one another can change places. -/

namespace ClientAuth

/-- A setting put on top as it is, or by a call that works it out from the chain. -/
inductive Placement
  | overlay (setting : Setting)
  | derive (call : Derivation)

namespace Placement

variable {a b c : Configuration} {placement : Placement} {kind : SettingKind}

def kinds : Placement → List SettingKind
  | overlay setting => [setting.kind]
  | derive call => call.footprint

/-- Whether the placement brings in only what it is given: a sound setting, or one that a call makes
without an object of its own. -/
def Fixed : Placement → Prop
  | overlay setting => setting.Sound
  | derive call => call.stores = true

/-- The two are about different kinds, none of which displaces another. -/
def Apart (first second : Placement) : Prop :=
  ∀ kind ∈ first.kinds, ∀ kind' ∈ second.kinds,
    kind ≠ kind' ∧ kind ∉ kind'.displaces ∧ kind' ∉ kind.displaces

theorem Apart.symm {first second : Placement} (h : Apart first second) : Apart second first := by
  intro kind hk kind' hk'
  obtain ⟨hne, hd, hd'⟩ := h kind' hk' kind hk
  exact ⟨hne.symm, hd', hd⟩

theorem Apart.not_mem_touched {first second : Placement} (h : Apart first second)
    (hk : kind ∈ first.kinds) : kind ∉ touched second.kinds := by
  intro hm
  obtain ⟨upper, hu, hm⟩ := mem_touched.mp hm
  obtain ⟨hne, hd, -⟩ := h kind hk upper hu
  exact hm.elim hne hd

def edits (c : Configuration) : Placement → List Edit
  | overlay setting => [.push setting]
  | derive call => (((Change.derive call).edits c).run 0).1

theorem within_edits (placement : Placement) (c : Configuration) :
    ∀ edit ∈ placement.edits c, edit.Within placement.kinds := by
  cases placement with
  | overlay setting => exact List.forall_mem_singleton.mpr (List.mem_singleton_self _)
  | derive call =>
    rw [edits, Change.edits]
    cases he : call.edits c with
    | error error => exact fun _ hm => absurd hm List.not_mem_nil
    | ok minted => exact Derivation.within_edits he 0

theorem sound_edits (hc : c.Lawful) (hf : placement.Fixed) :
    ∀ edit ∈ placement.edits c, edit.Sound := by
  cases placement with
  | overlay setting => exact List.forall_mem_singleton.mpr hf
  | derive call =>
    have hv : (Change.derive call).Valid := trivial
    exact Change.sound_edits hc hv 0

theorem edits_congr (ha : a.WellFormed) (hb : b.WellFormed)
    (h : ∀ kind ∈ placement.kinds, a.told kind = b.told kind) :
    placement.edits a = placement.edits b := by
  cases placement with
  | overlay setting => rfl
  | derive call => simp only [edits, Change.edits, call.edits_congr ha hb h]

end Placement

namespace Configuration

variable {a b c : Configuration} {placement other : Placement}
  {placements placements' : List Placement}

def place (c : Configuration) : Placement → Mint Configuration
  | .overlay setting => c.overlay setting
  | .derive call => c.alter (.derive call)

def placeAll (c : Configuration) : List Placement → Mint Configuration
  | [] => return c
  | placement :: rest => do (← c.place placement).placeAll rest

theorem place_eq_editAll (hf : placement.Fixed) (c : Configuration) :
    c.place placement = c.editAll (placement.edits c) := by
  cases placement with
  | overlay setting => rfl
  | derive call =>
    obtain ⟨edits, he⟩ := Change.eq_pure_of_stores hf c
    rw [place, alter_eq_editAll, Placement.edits, he]
    rfl

theorem Lawful.place (hc : c.Lawful) (hf : placement.Fixed) (next : Nat) :
    ((c.place placement).run next).1.Lawful := by
  rw [place_eq_editAll hf]
  exact hc.editAll (Placement.sound_edits hc hf) next

theorem told_place (hc : c.Lawful) (hf : placement.Fixed) (next : Nat) (kind : SettingKind) :
    ((c.place placement).run next).1.told kind =
      (placement.edits c).foldl (Edit.applyTold kind) (c.told kind) := by
  rw [place_eq_editAll hf, told_editAll hc.settled]

theorem told_place_congr (ha : a.Lawful) (hb : b.Lawful) (h : ∀ kind, a.told kind = b.told kind)
    (hf : placement.Fixed) (next next' : Nat) (kind : SettingKind) :
    ((a.place placement).run next).1.told kind = ((b.place placement).run next').1.told kind := by
  rw [told_place ha hf, told_place hb hf, h,
    Placement.edits_congr ha.wellFormed hb.wellFormed fun kind _ => h kind]

/-- A placement makes the same edits whether or not one that is apart from it has gone before. -/
theorem edits_place_of_apart (hc : c.Lawful) (hf : other.Fixed)
    (h : Placement.Apart placement other) (next : Nat) :
    placement.edits ((c.place other).run next).1 = placement.edits c := by
  apply Placement.edits_congr (hc.place hf next).wellFormed hc.wellFormed
  intro kind hk
  rw [told_place hc hf]
  exact Edit.foldl_applyTold_of_not_touched (other.within_edits c) (h.not_mem_touched hk) _

theorem told_place_comm (hc : c.Lawful) (hf : placement.Fixed) (ho : other.Fixed)
    (h : Placement.Apart placement other) (first second first' second' : Nat)
    (kind : SettingKind) :
    ((((c.place placement).run first).1.place other).run second).1.told kind =
      ((((c.place other).run first').1.place placement).run second').1.told kind := by
  have hw := placement.within_edits c
  have hw' := other.within_edits c
  rw [told_place (hc.place hf first) ho, told_place (hc.place ho first') hf,
    edits_place_of_apart hc hf h.symm, edits_place_of_apart hc ho h, told_place hc hf,
    told_place hc ho]
  by_cases hk : kind ∈ placement.kinds
  · have hn := h.not_mem_touched hk
    rw [Edit.foldl_applyTold_of_not_touched hw' hn, Edit.foldl_applyTold_of_not_touched hw' hn]
  · by_cases hk' : kind ∈ other.kinds
    · have hn := h.symm.not_mem_touched hk'
      rw [Edit.foldl_applyTold_of_not_touched hw hn, Edit.foldl_applyTold_of_not_touched hw hn]
    · -- Neither is about the kind, so each can only take its settings away.
      simp only [Edit.foldl_applyTold_of_not_mem hw hk, Edit.foldl_applyTold_of_not_mem hw' hk']
      split_ifs <;> rfl

/-- Placements that are apart tell the same settings in whatever order they are made. -/
theorem told_placeAll_of_perm (hp : placements.Perm placements') (ha : a.Lawful) (hb : b.Lawful)
    (h : ∀ kind, a.told kind = b.told kind) (hf : ∀ placement ∈ placements, placement.Fixed)
    (hapart : placements.Pairwise Placement.Apart) (next next' : Nat) (kind : SettingKind) :
    ((a.placeAll placements).run next).1.told kind =
      ((b.placeAll placements').run next').1.told kind := by
  induction hp using List.Perm.recOnSwap' generalizing a b next next' with
  | nil => exact h kind
  | cons placement _ ih =>
    obtain ⟨hfirst, hrest⟩ := List.forall_mem_cons.mp hf
    exact ih (ha.place hfirst next) (hb.place hfirst next')
      (told_place_congr ha hb h hfirst next next') hrest (List.pairwise_cons.mp hapart).2 _ _
  | swap' first second _ ih =>
    obtain ⟨hsecond, hf⟩ := List.forall_mem_cons.mp hf
    obtain ⟨hfirst, hrest⟩ := List.forall_mem_cons.mp hf
    obtain ⟨hpair, hapart⟩ := List.pairwise_cons.mp hapart
    refine ih ((ha.place hsecond next).place hfirst _) ((hb.place hfirst next').place hsecond _) ?_
      hrest (List.pairwise_cons.mp hapart).2 _ _
    intro kind
    rw [told_place_comm ha hsecond hfirst (hpair first List.mem_cons_self) next _ next' next']
    exact told_place_congr (ha.place hfirst next') (hb.place hfirst next')
      (told_place_congr ha hb h hfirst next' next') hsecond _ _ kind
  | trans hp _ ih ih' =>
    have hf' := fun placement hm => hf placement (hp.mem_iff.mpr hm)
    have hapart' := (hp.pairwise_iff Placement.Apart.symm).mp hapart
    exact (ih ha ha (fun _ => rfl) hf hapart next next).trans (ih' ha hb h hf' hapart' next next')

theorem lawful_renewed_placeAll (hc : c.Lawful) (hf : ∀ placement ∈ placements, placement.Fixed)
    (next : Nat) :
    ((c.placeAll placements).run next).1.Lawful ∧
      Renewed next ((c.placeAll placements).run next).2 c.nodes
        ((c.placeAll placements).run next).1.nodes := by
  induction placements generalizing c next with
  | nil => exact ⟨hc, .refl next c.nodes⟩
  | cons placement rest ih =>
    obtain ⟨hfirst, hlater⟩ := List.forall_mem_cons.mp hf
    have hren : Renewed next ((c.place placement).run next).2 c.nodes
        ((c.place placement).run next).1.nodes := by
      rw [place_eq_editAll hfirst]
      exact (editAll_run hc.settled _ next).2.2
    obtain ⟨hlawful, hrest⟩ := ih (hc.place hfirst next) hlater ((c.place placement).run next).2
    exact ⟨hlawful, hren.trans hrest⟩

end Configuration

theorem Stock.Coherent.placeAll {stock : Stock} (h : stock.Coherent) {c : Configuration}
    (hc : c ∈ stock.made) {placements : List Placement}
    (hf : ∀ placement ∈ placements, placement.Fixed) :
    (stock.add (c.placeAll placements)).Coherent := by
  obtain ⟨hlawful, hren⟩ := Configuration.lawful_renewed_placeAll (h.lawful c hc) hf stock.next
  exact h.add hc hlawful hren

/-- Settings of different kinds none of which displaces another, each of them fixed, can be made in any
order: what comes of it compares equal and hashes alike, in every stock that has both. -/
theorem equates_of_perm {stock : Stock} (hs : stock.Reachable) {c : Configuration}
    (hc : c ∈ stock.made) {placements placements' : List Placement}
    (hp : placements.Perm placements') (hf : ∀ placement ∈ placements, placement.Fixed)
    (hapart : placements.Pairwise Placement.Apart) :
    ((stock.add (c.placeAll placements)).add (c.placeAll placements')).Coherent ∧
      ∀ (next next' : Nat) (later : Stock), later.Coherent →
        ((c.placeAll placements).run next).1 ∈ later.made →
          ((c.placeAll placements').run next').1 ∈ later.made →
            later.Equates ((c.placeAll placements).run next).1
              ((c.placeAll placements').run next').1 := by
  have hl := hs.coherent.lawful c hc
  have hf' : ∀ placement ∈ placements', placement.Fixed :=
    fun placement hm => hf placement (hp.mem_iff.mpr hm)
  constructor
  · exact (hs.coherent.placeAll hc hf).placeAll (List.mem_cons_of_mem _ hc) hf'
  · intro next next' later hlater hm hm'
    apply hlater.equates hm hm'
    exact Configuration.told_placeAll_of_perm hp hl hl (fun _ => rfl) hf hapart next next'

theorem equates_of_forwarding :
    let run := Stock.initial.follow .empty
      [.useForwardedIdentity default default, .useParameterSpec ⟨"iterations", .number 4096⟩]
    let placements := [.overlay (.trustManager (.fixed default default)),
      .derive (.useName "alice"), .derive (.usePassword (some ⟨"secret"⟩)),
      .derive (.allowMechanisms [Mechanism.external]),
      .derive (.useParameterSpec ⟨"binding", .text "tls-unique"⟩),
      .derive (.useNameMapping (.custom default))]
    let first := run.1.add (run.2.placeAll placements)
    let second := first.add (run.2.placeAll placements.reverse)
    run.1.Reachable ∧ run.2 ∈ run.1.made ∧
      ((run.2.placeAll placements).run run.1.next).1.settings ≠
        ((run.2.placeAll placements.reverse).run first.next).1.settings ∧
      second.Equates ((run.2.placeAll placements).run run.1.next).1
        ((run.2.placeAll placements.reverse).run first.next).1 := by
  intro run placements first second
  have h := Stock.reachable_initial.follow Stock.mem_empty
    [.useForwardedIdentity default default, .useParameterSpec ⟨"iterations", .number 4096⟩]
  have hfixed : ∀ placement ∈ placements, placement.Fixed := by
    simp [placements, Placement.Fixed, Setting.Sound, Derivation.stores]
  have hapart : placements.Pairwise Placement.Apart := by
    simp [placements, Placement.Apart, Placement.kinds, Setting.kind, Derivation.footprint,
      SettingKind.displaces]
  obtain ⟨hcoh, hequates⟩ :=
    equates_of_perm h.1 h.2.1 placements.reverse_perm.symm hfixed hapart
  refine ⟨h.1, h.2.1, by decide +kernel, ?_⟩
  exact hequates _ _ second hcoh (List.mem_cons_of_mem _ List.mem_cons_self) List.mem_cons_self

end ClientAuth
