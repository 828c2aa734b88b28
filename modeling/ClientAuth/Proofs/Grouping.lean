import ClientAuth.Proofs.FirstPerKey

/-! Suppliers chained one after the other. Each link only keeps out the names that stand before it, and
what stands before it hangs on how the chain is grouped; yet a chain gives what its suppliers give in
turn, and the grouping does not show. -/

namespace ClientAuth

namespace ProviderSupplier

variable {env : Environment}

/-- The suppliers that a chain is made of, in the order in which they are searched. -/
def links : ProviderSupplier → List ProviderSupplier
  | chained _ first fallback => first.links ++ fallback.links
  | supplier => [supplier]

/-- All that the first supplier gives, and then what brings a new name in what the others give. -/
def inTurn (env : Environment) : List ProviderSupplier → List SecurityProvider
  | [] => []
  | first :: others =>
    appendNew (first.providers env) (others.flatMap fun other => other.providers env)

/-- Of each name that `known` lacks, `added` has the first provider in `others`, in their order. -/
structure FirstOfNew (known others added : List SecurityProvider) : Prop where
  eq_firstPerKey : added = firstPerKey SecurityProvider.name
    (others.filter fun other => other.name ∉ known.map SecurityProvider.name)
  mem_iff : ∀ provider, provider ∈ added ↔ ∃ before after,
    others = before ++ provider :: after ∧
      provider.name ∉ (known ++ before).map SecurityProvider.name
  sublist : added.Sublist others
  distinct : (added.map SecurityProvider.name).Nodup

theorem firstOfNew_firstPerKey (known others : List SecurityProvider) :
    FirstOfNew known others (firstPerKey SecurityProvider.name
      (others.filter fun other => other.name ∉ known.map SecurityProvider.name)) where
  eq_firstPerKey := rfl
  mem_iff provider := by
    rw [← filter_firstPerKey fun name => decide (name ∉ known.map SecurityProvider.name),
      List.mem_filter, mem_firstPerKey, decide_eq_true_eq]
    simp only [List.map_append, List.mem_append, not_or]
    constructor
    · rintro ⟨⟨before, after, hsplit, hbefore⟩, hknown⟩
      exact ⟨before, after, hsplit, hknown, hbefore⟩
    · rintro ⟨before, after, hsplit, hknown, hbefore⟩
      exact ⟨⟨before, after, hsplit, hbefore⟩, hknown⟩
  sublist := (firstPerKey_sublist _).trans List.filter_sublist
  distinct := nodup_map_firstPerKey _

theorem mem_map_appendNew {name : String} {known others : List SecurityProvider} :
    name ∈ (appendNew known others).map SecurityProvider.name ↔
      name ∈ known.map SecurityProvider.name ∨ name ∈ others.map SecurityProvider.name := by
  rw [appendNew_eq_append, List.map_append, List.mem_append, mem_map_firstPerKey]
  refine or_congr_right' fun hk => ?_
  rw [List.mem_map, List.mem_map]
  constructor
  · rintro ⟨provider, hm, rfl⟩
    exact ⟨provider, (List.mem_filter.mp hm).1, rfl⟩
  · rintro ⟨provider, hm, rfl⟩
    exact ⟨provider, List.mem_filter.mpr ⟨hm, decide_eq_true hk⟩, rfl⟩

theorem appendNew_append (known others more : List SecurityProvider) :
    appendNew known (others ++ more) = appendNew (appendNew known others) more :=
  List.foldl_append ..

/-- To put them together first leaves out only what would be left out in the end: the names of
`others` are known by the time that `more` is looked at. -/
theorem appendNew_appendNew (known others more : List SecurityProvider) :
    appendNew known (appendNew others more) = appendNew known (others ++ more) := by
  rw [appendNew_append known others more, appendNew_eq_append others more, appendNew_append,
    appendNew_eq_append, appendNew_eq_append _ more]
  -- Both sides now add to `appendNew known others`, the left one out of fewer providers.
  have hnames : ∀ provider : SecurityProvider,
      provider.name ∉ (appendNew known others).map SecurityProvider.name →
        provider.name ∉ others.map SecurityProvider.name :=
    fun provider hn hm => hn (mem_map_appendNew.mpr (.inr hm))
  rw [filter_firstPerKey fun name => decide
      (name ∉ (appendNew known others).map SecurityProvider.name),
    firstPerKey_of_nodup (nodup_map_firstPerKey _), List.filter_filter]
  congr 2
  apply List.filter_congr
  intro provider _
  rw [Bool.and_eq_left_iff_imp, decide_eq_true_eq, decide_eq_true_eq]
  exact hnames provider

theorem links_ne_nil (supplier : ProviderSupplier) : supplier.links ≠ [] := by
  induction supplier with
  | chained id first fallback ihf ihs => exact List.append_ne_nil_of_left_ne_nil ihf _
  | _ => exact List.cons_ne_nil _ _

theorem inTurn_append {suppliers : List ProviderSupplier} (h : suppliers ≠ [])
    (later : List ProviderSupplier) :
    inTurn env (suppliers ++ later) = appendNew (inTurn env suppliers) (inTurn env later) := by
  obtain ⟨first, others, rfl⟩ := List.exists_cons_of_ne_nil h
  cases later with
  | nil => rw [List.append_nil]; rfl
  | cons second more =>
    rw [inTurn, inTurn, appendNew_appendNew, ← appendNew_append, List.cons_append, inTurn,
      List.flatMap_append, List.flatMap_cons]

/-- A chain gives what its suppliers give in turn, and so nothing of its grouping is left. -/
theorem providers_eq_inTurn (supplier : ProviderSupplier) :
    supplier.providers env = inTurn env supplier.links := by
  induction supplier with
  | chained id first fallback ihf ihs =>
    rw [providers, links, ihf, ihs, inTurn_append first.links_ne_nil]
  | _ => rfl

theorem providers_eq_of_links_eq {supplier supplier' : ProviderSupplier}
    (h : supplier.links = supplier'.links) : supplier.providers env = supplier'.providers env := by
  rw [providers_eq_inTurn, providers_eq_inTurn, h]

end ProviderSupplier

open ProviderSupplier (FirstOfNew)

/-- However three suppliers are chained, they give the same: what the first gives, with all its
repetitions, and then the first provider of each new name in what the others give. Where there is
nothing to fall back to, the chain gives what its first supplier gives. -/
theorem firstOfNew_of_chained (env : Environment) (a b c : ProviderSupplier) (next next' : Nat) :
    let leftward := (((a.andThen b) >>= fun both => both.andThen c).run next).1
    let rightward := (((b.andThen c) >>= fun both => a.andThen both).run next').1
    leftward.providers env = rightward.providers env ∧
      (∃ added, leftward.providers env = a.providers env ++ added ∧
        FirstOfNew (a.providers env) (b.providers env ++ c.providers env) added) ∧
      (b.providers env = [] →
        ((a.andThen b).run next).1.providers env = a.providers env) := by
  intro leftward rightward
  refine ⟨?_, ?_, ?_⟩
  · apply ProviderSupplier.providers_eq_of_links_eq
    show (a.links ++ b.links) ++ c.links = a.links ++ (b.links ++ c.links)
    exact List.append_assoc ..
  · refine ⟨_, ?_, ProviderSupplier.firstOfNew_firstPerKey _ _⟩
    rw [← ProviderSupplier.appendNew_eq_append, ProviderSupplier.appendNew_append]
    rfl
  · intro hb
    show ProviderSupplier.appendNew (a.providers env) (b.providers env) = _
    rw [hb]
    rfl

/-- Names are repeated within each list and across them. -/
theorem firstOfNew_of_repeated_names :
    let provider (index : Nat) (name : String) : SecurityProvider := ⟨⟨index⟩, name, [], none⟩
    let env := (Collaborators.inert : Collaborators Id).toEnvironment
    let a : ProviderSupplier := .fixed ⟨0⟩ [provider 0 "x", provider 1 "y", provider 2 "x"]
    let b : ProviderSupplier := .fixed ⟨1⟩ [provider 3 "y", provider 4 "z", provider 5 "z"]
    let c : ProviderSupplier := .fixed ⟨2⟩ [provider 6 "z", provider 7 "w", provider 8 "x"]
    let nothing : ProviderSupplier := .fixed ⟨3⟩ []
    ((b.andThen c >>= fun both => a.andThen both).run 4).1.providers env =
        [provider 0 "x", provider 1 "y", provider 2 "x", provider 4 "z", provider 7 "w"] ∧
      nothing.providers env = [] ∧
      ((a.andThen nothing).run 4).1.providers env = a.providers env := by
  intro provider env a b c nothing
  obtain ⟨hgrouping, ⟨added, hgiven, hadded⟩, -⟩ := firstOfNew_of_chained env a b c 4 4
  have hnothing := (firstOfNew_of_chained env a nothing c 4 4).2.2 rfl
  refine ⟨?_, rfl, hnothing⟩
  rw [← hgrouping, hgiven, hadded.eq_firstPerKey]
  decide +kernel

end ClientAuth
