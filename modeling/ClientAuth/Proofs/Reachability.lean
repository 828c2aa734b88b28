import Mathlib.Logic.Relation
import ClientAuth.Proofs.Lawful

/-! Runs in which configurations are derived from one another and merged, in any order. In every
stock that a run can reach all chains are lawful, and an identity belongs to one chain only. -/

namespace ClientAuth

/-- Whether every call on settings with the property puts on settings that have it too. -/
def Derivation.Keeps (P : Setting → Prop) : Prop :=
  ∀ (c : Configuration) (call : Derivation) (minted : Mint (List Edit)) (next : Nat),
    (∀ setting ∈ c.settings, P setting) → call.edits c = .ok minted →
      ∀ setting, .push setting ∈ (minted.run next).1 → P setting

/-- The configurations made so far, and the next identity. -/
structure Stock where
  next : Nat
  made : List Configuration

namespace Stock

/-- The configurations that everyone shares. -/
def initial : Stock :=
  ⟨Configuration.firstFree, [Configuration.base, Configuration.empty]⟩

def add (stock : Stock) (action : Mint Configuration) : Stock :=
  ⟨(action.run stock.next).2, (action.run stock.next).1 :: stock.made⟩

/-- A call on a configuration of the stock, a merge of two of them, or the making of other
objects. -/
inductive Step : Stock → Stock → Prop
  | derive {stock : Stock} {c : Configuration} {call : Derivation} {action : Mint Configuration}
    (hc : c ∈ stock.made) (h : call.derive c = .ok action) : Step stock (stock.add action)
  | merge {stock : Stock} {c other : Configuration}
    (hc : c ∈ stock.made) (ho : other ∈ stock.made) : Step stock (stock.add (c.merge other))
  | mint {stock : Stock} {next : Nat} (h : stock.next ≤ next) : Step stock ⟨next, stock.made⟩

def Reachable (stock : Stock) : Prop :=
  Relation.ReflTransGen Step initial stock

structure Coherent (stock : Stock) : Prop where
  lawful : ∀ c ∈ stock.made, c.Lawful
  counted : ∀ c ∈ stock.made, Counted c.nodes
  bounded : ∀ c ∈ stock.made, ∀ node ∈ c.nodes, node.id.index < stock.next
  shared : ∀ a ∈ stock.made, ∀ b ∈ stock.made, ∀ node below node' below',
    node :: below <:+ a.nodes → node' :: below' <:+ b.nodes → node.id = node'.id →
      node :: below = node' :: below'

theorem Coherent.add {stock : Stock} (h : stock.Coherent) {c : Configuration}
    (hc : c ∈ stock.made) {action : Mint Configuration}
    (hl : (action.run stock.next).1.Lawful)
    (hr : Renewed stock.next (action.run stock.next).2 c.nodes
      (action.run stock.next).1.nodes) : (stock.add action).Coherent := by
  have hcount := hr.counted (h.bounded c hc) (h.counted c hc)
  -- A node of the new chain and one of an old chain: the former is of an old chain too, for a
  -- fresh identity lies above all that the stock has handed out.
  have hnew : ∀ b ∈ stock.made, ∀ node below node' below',
      node :: below <:+ (action.run stock.next).1.nodes → node' :: below' <:+ b.nodes →
        node.id = node'.id → node :: below = node' :: below' := by
    intro b hb node below node' below' hs hs' hid
    rcases hr.fresh_or_shared hs with hf | hs
    · have := h.bounded b hb node' (hs'.subset List.mem_cons_self)
      rw [hid] at hf
      omega
    · exact h.shared c hc b hb node below node' below' hs hs' hid
  refine ⟨?_, ?_, ?_, ?_⟩
  · intro d hd
    rcases List.mem_cons.mp hd with rfl | hd
    · exact hl
    · exact h.lawful d hd
  · intro d hd
    rcases List.mem_cons.mp hd with rfl | hd
    · exact hcount
    · exact h.counted d hd
  · intro d hd node hm
    rcases List.mem_cons.mp hd with rfl | hd
    · exact hr.index_lt (h.bounded c hc) node hm
    · exact Nat.lt_of_lt_of_le (h.bounded d hd node hm) hr.le
  · intro a ha b hb node below node' below' hs hs' hid
    rcases List.mem_cons.mp ha with rfl | ha <;> rcases List.mem_cons.mp hb with rfl | hb
    · exact hcount.eq_of_id_eq hs hs' hid
    · exact hnew b hb node below node' below' hs hs' hid
    · exact (hnew a ha node' below' node below hs' hs hid.symm).symm
    · exact h.shared a ha b hb node below node' below' hs hs' hid

theorem Coherent.derive {stock : Stock} (h : stock.Coherent) {c : Configuration}
    (hc : c ∈ stock.made) {call : Derivation} {action : Mint Configuration}
    (hd : call.derive c = .ok action) : (stock.add action).Coherent := by
  have hl := h.lawful c hc
  refine h.add hc (hl.derive hd stock.next) ?_
  obtain ⟨edits, he, rfl⟩ := Derivation.exists_edits hd
  exact (Configuration.editAll_run hl.settled _ _).2.2.mono (Derivation.le_edits_run he _)

theorem Coherent.merge {stock : Stock} (h : stock.Coherent) {c other : Configuration}
    (hc : c ∈ stock.made) (ho : other ∈ stock.made) : (stock.add (c.merge other)).Coherent := by
  have hl := h.lawful c hc
  refine h.add hc (hl.merge (h.lawful other ho) stock.next) ?_
  rw [Configuration.merge_eq_editAll]
  exact (Configuration.editAll_run hl.settled _ _).2.2

theorem Coherent.mono {stock stock' : Stock} (h : stock.Coherent)
    (hnext : stock.next ≤ stock'.next) (hmade : stock'.made ⊆ stock.made) : stock'.Coherent where
  lawful c hc := h.lawful c (hmade hc)
  counted c hc := h.counted c (hmade hc)
  bounded c hc node hm := Nat.lt_of_lt_of_le (h.bounded c (hmade hc) node hm) hnext
  shared a ha b hb := h.shared a (hmade ha) b (hmade hb)

theorem coherent_base : Coherent ⟨0, [Configuration.base]⟩ := by
  refine ⟨?_, ?_, ?_, ?_⟩
  · simpa using Configuration.lawful_base
  · simp [Configuration.base, Counted]
  · simp [Configuration.base]
  · intro a ha b hb node below node' below' hs
    rw [List.mem_singleton.mp ha] at hs
    exact absurd (List.suffix_nil.mp hs) (List.cons_ne_nil node below)

theorem Step.coherent {stock stock' : Stock} (hs : Step stock stock') (h : stock.Coherent) :
    stock'.Coherent := by
  cases hs with
  | derive hc hd => exact h.derive hc hd
  | merge hc ho => exact h.merge hc ho
  | mint hnext => exact h.mono hnext (List.Subset.refl _)

theorem Coherent.of_steps {stock stock' : Stock} (h : stock.Coherent)
    (hs : Relation.ReflTransGen Step stock stock') : stock'.Coherent := by
  induction hs with
  | refl => exact h
  | tail _ hstep ih => exact hstep.coherent ih

/-- Makes calls one after the other, each on what the last one derived. A call that derives nothing
is passed over. -/
def follow (stock : Stock) (c : Configuration) : List Derivation → Stock × Configuration
  | [] => (stock, c)
  | call :: rest =>
    match call.derive c with
    | .ok action => (stock.add action).follow (action.run stock.next).1 rest
    | .error _ => stock.follow c rest

theorem steps_follow {stock : Stock} {c : Configuration} (hc : c ∈ stock.made)
    (calls : List Derivation) :
    Relation.ReflTransGen Step stock (stock.follow c calls).1 ∧
      (stock.follow c calls).2 ∈ (stock.follow c calls).1.made ∧
      stock.made ⊆ (stock.follow c calls).1.made := by
  induction calls generalizing stock c with
  | nil => exact ⟨.refl, hc, List.Subset.refl _⟩
  | cons call rest ih =>
    cases hd : call.derive c with
    | error error =>
      simp only [Stock.follow, hd]
      exact ih hc
    | ok action =>
      simp only [Stock.follow, hd]
      obtain ⟨hsteps, hm, hsub⟩ := ih (show _ ∈ (stock.add action).made from List.mem_cons_self)
      exact ⟨.head (.derive hc hd) hsteps, hm, fun d hd => hsub (List.mem_cons_of_mem _ hd)⟩

/-- The configurations that everyone shares are themselves derived from the base. -/
theorem exists_steps_initial : ∃ stock,
    Relation.ReflTransGen Step ⟨0, [Configuration.base]⟩ stock ∧ stock.next = initial.next ∧
      initial.made ⊆ stock.made := by
  obtain ⟨hsteps, hempty, hbase⟩ := steps_follow
    (show Configuration.base ∈ Stock.made ⟨0, [Configuration.base]⟩ from List.mem_cons_self)
    [.useAnonymous, .useTrustManager none, .forbidMechanisms [Mechanism.external]]
  refine ⟨_, hsteps, rfl, ?_⟩
  intro c hc
  rcases List.mem_cons.mp hc with rfl | hc
  · exact hbase List.mem_cons_self
  · rw [List.mem_singleton.mp hc]
    exact hempty

theorem coherent_initial : initial.Coherent := by
  obtain ⟨stock, hsteps, hnext, hmade⟩ := exists_steps_initial
  exact (coherent_base.of_steps hsteps).mono (Nat.le_of_eq hnext) hmade

theorem Reachable.coherent {stock : Stock} (h : stock.Reachable) : stock.Coherent :=
  coherent_initial.of_steps h

section Settings

variable {P : Setting → Prop} {stock stock' : Stock}

theorem Step.forall_settings (hs : Step stock stock') (hP : Derivation.Keeps P)
    (hstock : stock.Coherent) (h : ∀ c ∈ stock.made, ∀ setting ∈ c.settings, P setting) :
    ∀ c ∈ stock'.made, ∀ setting ∈ c.settings, P setting := by
  cases hs with
  | @derive c call action hc hd =>
    refine List.forall_mem_cons.mpr ⟨?_, h⟩
    obtain ⟨minted, he, rfl⟩ := Derivation.exists_edits hd
    exact Configuration.forall_settings_editAll (hstock.lawful c hc).settled (h c hc)
      (hP c call minted stock.next (h c hc) he) _
  | @merge c other hc ho =>
    refine List.forall_mem_cons.mpr ⟨?_, h⟩
    rw [Configuration.merge_eq_editAll]
    exact Configuration.forall_settings_editAll (hstock.lawful c hc).settled (h c hc)
      (fun setting hm => h other ho setting (Configuration.mem_of_push_mem_mergeEdits hm)) _
  | mint hnext => exact h

theorem forall_settings_of_steps (hs : Relation.ReflTransGen Step stock stock')
    (hP : Derivation.Keeps P) (hstock : stock.Coherent)
    (h : ∀ c ∈ stock.made, ∀ setting ∈ c.settings, P setting) :
    ∀ c ∈ stock'.made, ∀ setting ∈ c.settings, P setting := by
  induction hs with
  | refl => exact h
  | tail hsteps hstep ih => exact hstep.forall_settings hP (hstock.of_steps hsteps) ih

theorem Reachable.forall_settings (hs : stock.Reachable) (hP : Derivation.Keeps P) :
    ∀ c ∈ stock.made, ∀ setting ∈ c.settings, P setting := by
  apply forall_settings_of_steps hs hP coherent_initial
  -- The base has no settings, and what everyone shares besides is reached from it.
  obtain ⟨shared, hsteps, -, hmade⟩ := exists_steps_initial
  have hbase : ∀ setting ∈ Configuration.base.settings, P setting :=
    fun setting hm => absurd hm List.not_mem_nil
  have hshared := forall_settings_of_steps hsteps hP coherent_base
    (List.forall_mem_singleton.mpr hbase)
  exact fun c hc => hshared c (hmade hc)

end Settings

theorem mem_base : Configuration.base ∈ initial.made :=
  List.mem_cons_self

theorem mem_empty : Configuration.empty ∈ initial.made :=
  List.mem_cons_of_mem _ List.mem_cons_self

theorem reachable_initial : initial.Reachable :=
  .refl

theorem Reachable.follow {stock : Stock} (h : stock.Reachable) {c : Configuration}
    (hc : c ∈ stock.made) (calls : List Derivation) :
    (stock.follow c calls).1.Reachable ∧
      (stock.follow c calls).2 ∈ (stock.follow c calls).1.made ∧
      stock.made ⊆ (stock.follow c calls).1.made := by
  obtain ⟨hsteps, hm, hsub⟩ := steps_follow hc calls
  exact ⟨h.trans hsteps, hm, hsub⟩

end Stock

end ClientAuth
