import ClientAuth.Configuration.Basic

/-! Chains that are made out of other chains. A derived chain is a run of fresh nodes on top of an
end of the old one, and identities count up from the old chain to the head. -/

namespace ClientAuth

theorem Mint.run_bind {α β : Type} (x : Mint α) (f : α → Mint β) (next : Nat) :
    (x >>= f).run next = (f (x.run next).1).run (x.run next).2 :=
  rfl

theorem Mint.run_pure {α : Type} (a : α) (next : Nat) : (pure a : Mint α).run next = (a, next) :=
  rfl

theorem Mint.run_fresh (next : Nat) : Mint.fresh.run next = (⟨next⟩, next + 1) :=
  rfl

/-- The newest node has the largest identity. -/
def Counted (nodes : List Node) : Prop :=
  nodes.Pairwise fun upper lower => lower.id.index < upper.id.index

/-- What becomes of the chain `old` while the identities from `start` up to `stop` are handed
out. -/
structure Renewed (start stop : Nat) (old new : List Node) : Prop where
  le : start ≤ stop
  split : ∃ fresh shared, new = fresh ++ shared ∧ shared <:+ old ∧ Counted fresh ∧
    ∀ node ∈ fresh, start ≤ node.id.index ∧ node.id.index < stop

theorem Renewed.of_suffix {start stop : Nat} {old new : List Node} (hle : start ≤ stop)
    (h : new <:+ old) : Renewed start stop old new :=
  ⟨hle, [], new, rfl, h, .nil, by simp⟩

theorem Renewed.refl (start : Nat) (nodes : List Node) : Renewed start start nodes nodes :=
  .of_suffix (Nat.le_refl start) (List.suffix_refl nodes)

theorem Renewed.push {start stop : Nat} {old new : List Node} (h : Renewed start stop old new)
    (setting : Setting) : Renewed start (stop + 1) old (⟨⟨stop⟩, setting⟩ :: new) := by
  obtain ⟨hle, fresh, shared, rfl, hsuf, hcount, hfresh⟩ := h
  refine ⟨by omega, ⟨⟨stop⟩, setting⟩ :: fresh, shared, rfl, hsuf, ?_, ?_⟩
  · exact List.pairwise_cons.mpr ⟨fun node hm => (hfresh node hm).2, hcount⟩
  · intro node hm
    rcases List.mem_cons.mp hm with rfl | hm
    · exact ⟨hle, Nat.lt_succ_self stop⟩
    · have := hfresh node hm
      omega

theorem Renewed.trans {start middle stop : Nat} {old between new : List Node}
    (h : Renewed start middle old between) (h' : Renewed middle stop between new) :
    Renewed start stop old new := by
  obtain ⟨hle, fresh, shared, rfl, hsuf, hcount, hfresh⟩ := h
  obtain ⟨hle', fresh', shared', rfl, hsuf', hcount', hfresh'⟩ := h'
  have hwide : ∀ node ∈ fresh', start ≤ node.id.index ∧ node.id.index < stop := by
    intro node hm
    have := hfresh' node hm
    omega
  -- The common end of the second step is either below the fresh nodes of the first or reaches
  -- into them.
  rcases List.suffix_or_suffix_of_suffix hsuf' (List.suffix_append fresh shared) with hs | hs
  · exact ⟨by omega, fresh', shared', rfl, hs.trans hsuf, hcount', hwide⟩
  · obtain ⟨kept, rfl⟩ := hs
    have hk : kept <:+ fresh := List.suffix_append_self_iff.mp hsuf'
    refine ⟨by omega, fresh' ++ kept, shared, by simp, hsuf, ?_, ?_⟩
    · refine List.pairwise_append.mpr ⟨hcount', hcount.sublist hk.sublist, ?_⟩
      intro node hm node' hm'
      have := hfresh' node hm
      have := hfresh node' (hk.subset hm')
      omega
    · intro node hm
      rcases List.mem_append.mp hm with hm | hm
      · exact hwide node hm
      · have := hfresh node (hk.subset hm)
        omega

/-- Nodes made out of nothing are all fresh, and can stand on any end of an old chain. -/
theorem Renewed.append {start stop : Nat} {old fresh shared : List Node}
    (h : Renewed start stop [] fresh) (hs : shared <:+ old) :
    Renewed start stop old (fresh ++ shared) := by
  obtain ⟨hle, fresh, rest, rfl, hnil, hcount, hfresh⟩ := h
  rw [List.suffix_nil.mp hnil, List.append_nil]
  exact ⟨hle, fresh, shared, rfl, hs, hcount, hfresh⟩

theorem Renewed.le_index {start stop : Nat} {fresh : List Node} (h : Renewed start stop [] fresh) :
    ∀ node ∈ fresh, start ≤ node.id.index := by
  obtain ⟨-, fresh, rest, rfl, hnil, -, hfresh⟩ := h
  rw [List.suffix_nil.mp hnil, List.append_nil]
  exact fun node hm => (hfresh node hm).1

theorem Renewed.mono {start middle stop : Nat} {old new : List Node} (hle : start ≤ middle)
    (h : Renewed middle stop old new) : Renewed start stop old new :=
  (Renewed.of_suffix hle (List.suffix_refl old)).trans h

theorem Renewed.index_lt {start stop : Nat} {old new : List Node}
    (h : Renewed start stop old new) (hold : ∀ node ∈ old, node.id.index < start) :
    ∀ node ∈ new, node.id.index < stop := by
  obtain ⟨hle, fresh, shared, rfl, hsuf, -, hfresh⟩ := h
  intro node hm
  rcases List.mem_append.mp hm with hm | hm
  · exact (hfresh node hm).2
  · have := hold node (hsuf.subset hm)
    omega

theorem Renewed.counted {start stop : Nat} {old new : List Node}
    (h : Renewed start stop old new) (hold : ∀ node ∈ old, node.id.index < start)
    (hcount : Counted old) : Counted new := by
  obtain ⟨hle, fresh, shared, rfl, hsuf, hcount', hfresh⟩ := h
  refine List.pairwise_append.mpr ⟨hcount', hcount.sublist hsuf.sublist, ?_⟩
  intro node hm node' hm'
  have := hfresh node hm
  have := hold node' (hsuf.subset hm')
  omega

/-- Seen from any of its nodes, a derived chain is either new or the end of the old one. -/
theorem Renewed.fresh_or_shared {start stop : Nat} {old new below : List Node} {node : Node}
    (h : Renewed start stop old new) (hsuf : node :: below <:+ new) :
    start ≤ node.id.index ∨ node :: below <:+ old := by
  obtain ⟨-, fresh, shared, rfl, hshared, -, hfresh⟩ := h
  rcases List.suffix_or_suffix_of_suffix hsuf (List.suffix_append fresh shared) with hs | hs
  · exact .inr (hs.trans hshared)
  · obtain ⟨kept, hk⟩ := hs
    rw [← hk] at hsuf
    have hsub := (List.suffix_append_self_iff.mp hsuf).subset
    cases kept with
    | nil => exact .inr (by simpa [← hk] using hshared)
    | cons first rest =>
      obtain ⟨rfl, -⟩ := List.cons.inj hk
      exact .inl (hfresh first (hsub List.mem_cons_self)).1

theorem Counted.eq_of_id_eq {nodes below below' : List Node} {node node' : Node}
    (h : Counted nodes) (hsuf : node :: below <:+ nodes) (hsuf' : node' :: below' <:+ nodes)
    (hid : node.id = node'.id) : node :: below = node' :: below' := by
  have hlt : ∀ {x y : Node} {l l' : List Node}, x :: l <:+ l' → y :: l' <:+ nodes →
      x.id.index < y.id.index := fun hx hy =>
    (List.pairwise_cons.mp (h.sublist hy.sublist)).1 _ (hx.subset List.mem_cons_self)
  rcases List.suffix_or_suffix_of_suffix hsuf hsuf' with hs | hs
  · rcases List.suffix_cons_iff.mp hs with he | hs
    · exact he
    · have := hlt hs hsuf'
      rw [hid] at this
      omega
  · rcases List.suffix_cons_iff.mp hs with he | hs
    · exact he.symm
    · have := hlt hs hsuf
      rw [hid] at this
      omega

end ClientAuth
