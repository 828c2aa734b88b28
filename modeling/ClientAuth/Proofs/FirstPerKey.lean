import Mathlib.Data.List.Basic
import ClientAuth.Negotiation.Discovery

/-! Lists that keep the first of each name. The mechanisms that a search reports are put together
so, and so are the providers of chained suppliers, although each chain only looks out for names that
its fallback repeats. -/

namespace ClientAuth

variable {α β : Type} [DecidableEq β]

/-- Of the elements that share a key, the first. -/
def firstPerKey (key : α → β) : List α → List α
  | [] => []
  | element :: rest =>
    element :: (firstPerKey key rest).filter fun later => key later ≠ key element

variable {key : α → β}

theorem firstPerKey_sublist (elements : List α) :
    (firstPerKey key elements).Sublist elements := by
  induction elements with
  | nil => exact List.nil_sublist []
  | cons element rest ih => exact (List.filter_sublist.trans ih).cons_cons element

theorem nodup_map_firstPerKey (elements : List α) :
    ((firstPerKey key elements).map key).Nodup := by
  induction elements with
  | nil => exact List.nodup_nil
  | cons element rest ih =>
    refine List.nodup_cons.mpr ⟨?_, ih.sublist (List.filter_sublist.map key)⟩
    intro hm
    obtain ⟨later, hl, hkey⟩ := List.mem_map.mp hm
    exact of_decide_eq_true (List.mem_filter.mp hl).2 hkey

theorem find?_firstPerKey (sought : β) (elements : List α) :
    (firstPerKey key elements).find? (fun element => key element = sought) =
      elements.find? fun element => key element = sought := by
  induction elements with
  | nil => rfl
  | cons element rest ih =>
    rw [firstPerKey, List.find?_cons, List.find?_cons]
    by_cases hk : key element = sought
    · simp only [hk, decide_true]
    · simp only [hk, decide_false, List.find?_filter, ← ih]
      congr 1
      funext later
      by_cases hl : key later = sought
      · simp [hl, Ne.symm hk]
      · simp [hl]

theorem mem_map_firstPerKey {sought : β} {elements : List α} :
    sought ∈ (firstPerKey key elements).map key ↔ sought ∈ elements.map key := by
  have hfind : ∀ elements : List α, sought ∈ elements.map key ↔
      (elements.find? fun element => key element = sought).isSome = true := by simp
  rw [hfind, hfind, find?_firstPerKey]

theorem mem_firstPerKey_id {sought : β} {elements : List β} :
    sought ∈ firstPerKey id elements ↔ sought ∈ elements := by
  have hkey : sought ∈ (firstPerKey id elements).map id ↔ sought ∈ elements.map id :=
    mem_map_firstPerKey
  rwa [List.map_id, List.map_id] at hkey

theorem filter_firstPerKey (keep : β → Bool) (elements : List α) :
    (firstPerKey key elements).filter (fun element => keep (key element)) =
      firstPerKey key (elements.filter fun element => keep (key element)) := by
  induction elements with
  | nil => rfl
  | cons element rest ih =>
    rw [firstPerKey]
    cases hk : keep (key element) with
    | true =>
      simp only [List.filter_cons, hk, if_true, firstPerKey, ← ih, List.filter_filter]
      simp only [Bool.and_comm]
    | false =>
      simp only [List.filter_cons, hk, Bool.false_eq_true, if_false, ← ih, List.filter_filter]
      apply List.filter_congr
      intro later _
      by_cases hl : key later = key element
      · simp [hl, hk]
      · simp [hl]

theorem firstPerKey_append (elements others : List α) :
    firstPerKey key (elements ++ others) =
      firstPerKey key elements ++
        firstPerKey key (others.filter fun other => key other ∉ elements.map key) := by
  induction elements with
  | nil => simp [firstPerKey]
  | cons element rest ih =>
    rw [List.cons_append, firstPerKey, firstPerKey, ih, List.filter_append, List.cons_append]
    congr 2
    rw [filter_firstPerKey fun other => decide (other ≠ key element), List.filter_filter]
    congr 1
    apply List.filter_congr
    intro other _
    by_cases ho : key other = key element <;> simp [ho]

theorem firstPerKey_of_nodup {elements : List α} (h : (elements.map key).Nodup) :
    firstPerKey key elements = elements := by
  induction elements with
  | nil => rfl
  | cons element rest ih =>
    obtain ⟨hnew, hrest⟩ := List.nodup_cons.mp h
    rw [firstPerKey, ih hrest, List.filter_eq_self.mpr]
    intro later hl
    refine decide_eq_true fun hkey => hnew ?_
    exact hkey ▸ List.mem_map_of_mem hl

/-- No other element has the key, so this one alone goes. -/
theorem filter_ne_key_of_nodup {before after : List α} {element : α}
    (h : ((before ++ element :: after).map key).Nodup) :
    (before ++ element :: after).filter (fun other => key other ≠ key element) =
      before ++ after := by
  rw [List.map_append, List.map_cons] at h
  obtain ⟨-, hright, hleft⟩ := List.nodup_append.mp h
  have hbefore : before.filter (fun other => key other ≠ key element) = before := by
    apply List.filter_eq_self.mpr
    intro other hm
    exact decide_eq_true (hleft _ (List.mem_map_of_mem hm) _ List.mem_cons_self)
  have hafter : after.filter (fun other => key other ≠ key element) = after := by
    apply List.filter_eq_self.mpr
    intro other hm
    refine decide_eq_true fun hk => (List.nodup_cons.mp hright).1 ?_
    exact hk ▸ List.mem_map_of_mem hm
  rw [List.filter_append, List.filter_cons_of_neg (by simp), hbefore, hafter]

/-- An element is kept if nothing before it has its key. -/
theorem mem_firstPerKey {element : α} {elements : List α} :
    element ∈ firstPerKey key elements ↔
      ∃ before after, elements = before ++ element :: after ∧ key element ∉ before.map key := by
  constructor
  · intro h
    induction elements with
    | nil => exact absurd h List.not_mem_nil
    | cons head rest ih =>
      rcases List.mem_cons.mp h with rfl | hm
      · exact ⟨[], rest, rfl, List.not_mem_nil⟩
      · obtain ⟨hrest, hne⟩ := List.mem_filter.mp hm
        obtain ⟨before, after, rfl, hn⟩ := ih hrest
        refine ⟨head :: before, after, rfl, ?_⟩
        rw [List.map_cons, List.mem_cons, not_or]
        exact ⟨of_decide_eq_true hne, hn⟩
  · rintro ⟨before, after, rfl, hn⟩
    rw [firstPerKey_append, List.filter_cons_of_pos (by simpa using hn), firstPerKey]
    exact List.mem_append_right _ List.mem_cons_self

theorem firstPerKey_append_firstPerKey (elements others : List α) :
    firstPerKey key (elements ++ firstPerKey key others) =
      firstPerKey key (elements ++ others) := by
  rw [firstPerKey_append, firstPerKey_append,
    filter_firstPerKey fun other => decide (other ∉ elements.map key),
    firstPerKey_of_nodup (nodup_map_firstPerKey _)]

/-- Adding others one by one, each only if its key is new, adds the first of each new key. -/
theorem foldl_append_new (key : α → β) (known others : List α) :
    others.foldl (fun known other =>
        if known.any fun existing => key existing = key other then known else known ++ [other])
      known =
      known ++ firstPerKey key (others.filter fun other => key other ∉ known.map key) := by
  induction others generalizing known with
  | nil => simp [firstPerKey]
  | cons other rest ih =>
    have hany : (known.any fun existing => key existing = key other) = true ↔
        key other ∈ known.map key := by
      simp
    rw [List.foldl_cons]
    by_cases hk : key other ∈ known.map key
    · rw [if_pos (hany.mpr hk), ih, List.filter_cons_of_neg (by simpa using hk)]
    · rw [if_neg (mt hany.mp hk), ih, List.filter_cons_of_pos (by simpa using hk), firstPerKey,
        filter_firstPerKey fun later => decide (later ≠ key other), List.filter_filter,
        List.append_assoc, List.singleton_append]
      congr 3
      apply List.filter_congr
      intro later _
      by_cases hl : key later = key other <;> simp [hl]

namespace ProviderSupplier

theorem appendNew_eq_append (known others : List SecurityProvider) :
    appendNew known others = known ++ firstPerKey SecurityProvider.name
      (others.filter fun other => other.name ∉ known.map SecurityProvider.name) :=
  foldl_append_new SecurityProvider.name known others

theorem appendNew_eq_firstPerKey {known : List SecurityProvider}
    (h : (known.map SecurityProvider.name).Nodup) (others : List SecurityProvider) :
    appendNew known others = firstPerKey SecurityProvider.name (known ++ others) := by
  rw [appendNew_eq_append, firstPerKey_append, firstPerKey_of_nodup h]

end ProviderSupplier

namespace ClientFactory

theorem firstOccurrences_eq_firstPerKey (names : List String) :
    firstOccurrences names = firstPerKey id names := by
  have hstep := foldl_append_new id [] names
  simp only [id_eq, List.map_id_fun, List.not_mem_nil, not_false_eq_true, decide_true,
    List.filter_true, List.nil_append] at hstep
  rw [← hstep]
  unfold firstOccurrences
  congr 1
  funext known name
  simp

theorem mem_firstPerKey_flatten {name : String} {reports : List (List String)} :
    name ∈ firstPerKey id reports.flatten ↔ ∃ report ∈ reports, name ∈ report := by
  rw [mem_firstPerKey_id, List.mem_flatten]

theorem pairwise_idxOf_firstPerKey (names : List String) :
    (firstPerKey id names).Pairwise fun a b => names.idxOf a < names.idxOf b := by
  induction names with
  | nil => exact List.Pairwise.nil
  | cons name rest ih =>
    have hne : ∀ later ∈ (firstPerKey id rest).filter (fun later => id later ≠ id name),
        later ≠ name := fun later hl => by simpa using (List.mem_filter.mp hl).2
    refine List.pairwise_cons.mpr ⟨?_, (ih.filter _).imp_of_mem ?_⟩
    · intro later hl
      rw [List.idxOf_cons_self, List.idxOf_cons_ne _ (hne later hl).symm]
      exact Nat.succ_pos _
    · intro a b ha hb hlt
      rw [List.idxOf_cons_ne _ (hne a ha).symm, List.idxOf_cons_ne _ (hne b hb).symm]
      exact Nat.succ_lt_succ hlt

end ClientFactory

end ClientAuth
