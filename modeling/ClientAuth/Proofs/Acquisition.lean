import ClientAuth.Configuration.Credentials
import ClientAuth.Credential.Acquire

/-! Acquiring from joined sources asks them in turn, up to the first that has something or fails.
However the sources are joined, none is asked twice, and a set in memory stands for being asked. -/

namespace ClientAuth

variable {m : Type → Type} [Monad m]

/-- Asks `second` where `first` has nothing to give. -/
def Acquired.thenTry (first second : m Acquired) : m Acquired := do
  match ← first with
  | .ok none => second
  | acquired => return acquired

namespace Acquired

variable [LawfulMonad m]

@[simp] theorem pure_none_thenTry (second : m Acquired) :
    thenTry (pure (.ok none)) second = second := by
  simp [thenTry]

@[simp] theorem thenTry_pure_none (first : m Acquired) :
    thenTry first (pure (.ok none)) = first := by
  refine Eq.trans ?_ (bind_pure first)
  unfold thenTry
  congr 1
  funext acquired
  match acquired with
  | .ok none => rfl
  | .ok (some _) => rfl
  | .error _ => rfl

theorem pure_some_thenTry (credential : Credential) (second : m Acquired) :
    thenTry (pure (.ok (some credential))) second = pure (.ok (some credential)) := by
  simp [thenTry]

theorem thenTry_assoc (first second third : m Acquired) :
    thenTry (thenTry first second) third = thenTry first (thenTry second third) := by
  unfold thenTry
  rw [bind_assoc]
  congr 1
  funext acquired
  match acquired with
  | .ok none => rfl
  | .ok (some _) => simp
  | .error _ => simp

end Acquired

namespace CredentialSet

theorem find?_putEntry (credential : Credential) (kind : CredentialKind)
    (entries : List Credential) :
    (putEntry credential entries).find? (fun entry => entry.kind = kind) =
      if credential.kind = kind then some credential
      else entries.find? fun entry => entry.kind = kind := by
  induction entries with
  | nil => by_cases hk : credential.kind = kind <;> simp [putEntry, hk]
  | cons head rest ih =>
    rw [putEntry]
    by_cases hh : head.kind = credential.kind
    · by_cases hk : credential.kind = kind <;> simp [hh, hk]
    · rw [if_neg hh, List.find?_cons, List.find?_cons, ih]
      by_cases hk : head.kind = kind
      · subst hk
        simp [Ne.symm hh]
      · simp [hk]

theorem get?_insert (set : CredentialSet) (credential : Credential) (kind : CredentialKind) :
    (set.insert credential).get? kind =
      if credential.kind = kind then some credential else set.get? kind :=
  find?_putEntry credential kind set.entries

theorem contains_insert (set : CredentialSet) (credential : Credential) (kind : CredentialKind) :
    (set.insert credential).contains kind =
      (decide (credential.kind = kind) || set.contains kind) := by
  rw [contains, get?_insert]
  by_cases hk : credential.kind = kind <;> simp [hk, contains]

theorem get?_union (set other : CredentialSet) (kind : CredentialKind) :
    (set.union other).get? kind = (set.get? kind).or (other.get? kind) := by
  unfold get? union
  rw [List.find?_append]
  cases hs : set.entries.find? fun credential => credential.kind = kind with
  | some credential => rfl
  | none =>
    rw [Option.none_or, Option.none_or, List.find?_filter]
    congr 1
    funext credential
    by_cases hk : credential.kind = kind
    · simp [hk, contains, get?, hs]
    · simp [hk]

theorem contains_union (set other : CredentialSet) (kind : CredentialKind) :
    (set.union other).contains kind = (set.contains kind || other.contains kind) := by
  simp only [contains, get?_union, Option.isSome_or]

/-- A union with nothing new adds nothing. -/
theorem union_eq_self {set other : CredentialSet}
    (h : ∀ credential ∈ other.entries, set.contains credential.kind = true) :
    set.union other = set := by
  have hnone : other.entries.filter (fun credential => !set.contains credential.kind) = [] := by
    apply List.filter_eq_nil_iff.mpr
    intro credential hm
    simp [h credential hm]
  rw [union, hnone, List.append_nil]

theorem contains_eq_false_iff {set : CredentialSet} {kind : CredentialKind} :
    set.contains kind = false ↔ set.get? kind = none := by
  rw [contains, Option.isSome_eq_false_iff, Option.isNone_iff_eq_none]

theorem get?_erase_self (set : CredentialSet) (kind : CredentialKind) :
    (set.erase kind).get? kind = none := by
  apply List.find?_eq_none.mpr
  intro credential hm
  simpa using (List.mem_filter.mp hm).2

theorem get?_erase_of_ne (set : CredentialSet) {kind hidden : CredentialKind} (h : kind ≠ hidden) :
    (set.erase hidden).get? kind = set.get? kind := by
  unfold get? erase
  rw [List.find?_filter]
  congr 1
  funext credential
  by_cases hk : credential.kind = kind
  · simp [hk, h]
  · simp [hk]

end CredentialSet

namespace CredentialSource

variable {co : Collaborators m} {kind : CredentialKind}

theorem eq_none_of_isNone {source : CredentialSource} (h : source.isNone = true) :
    source = .none := by
  match source with
  | held ⟨[]⟩ => rfl

theorem none_orElse (source : CredentialSource) : CredentialSource.none.orElse source = source := by
  by_cases h : source.isNone = true
  · rw [eq_none_of_isNone h]
    rfl
  · unfold orElse
    rw [if_neg h]
    rfl

/-- An empty set is left out of the join as a source, and adds nothing to it as a set. -/
theorem held_orElse_held (set other : CredentialSet) :
    (held set).orElse (held other) = held (set.union other) := by
  obtain ⟨mine⟩ := set
  obtain ⟨others⟩ := other
  cases others with
  | nil =>
    show held ⟨mine⟩ = held ⟨mine ++ []⟩
    rw [List.append_nil]
  | cons head rest =>
    cases mine with
    | nil =>
      show held ⟨head :: rest⟩ = held ⟨(head :: rest).filter fun _ => true⟩
      rw [List.filter_eq_self.mpr fun _ _ => rfl]
    | cons first more => rfl

theorem acquire_none : CredentialSource.none.acquire co kind = pure (.ok Option.none) :=
  rfl

variable [LawfulMonad m]

theorem acquire_held_union (set other : CredentialSet) :
    (held (set.union other)).acquire co kind =
      Acquired.thenTry ((held set).acquire co kind) ((held other).acquire co kind) := by
  simp only [acquire, CredentialSet.get?_union]
  cases set.get? kind with
  | none => simp
  | some credential => simp [Acquired.pure_some_thenTry]

theorem acquire_orElse (first second : CredentialSource) :
    (first.orElse second).acquire co kind =
      Acquired.thenTry (first.acquire co kind) (second.acquire co kind) := by
  unfold orElse
  by_cases hs : second.isNone = true
  · rw [if_pos hs, eq_none_of_isNone hs, acquire_none, Acquired.thenTry_pure_none]
  · by_cases hf : first.isNone = true
    · rw [if_neg hs, if_pos hf, eq_none_of_isNone hf, acquire_none, Acquired.pure_none_thenTry]
    · rw [if_neg hs, if_neg hf]
      split
      · exact acquire_held_union _ _
      · rfl

/-- Of the kinds that a key store may provide, a source that may not provide one has none. -/
theorem acquire_of_mayProvide_eq_false (hk : kind = .password ∨ kind = .certificateChain)
    {source : CredentialSource} (h : source.mayProvide kind = false) :
    source.acquire co kind = pure (.ok Option.none) := by
  induction source with
  | held credentials =>
    rw [acquire, CredentialSet.contains_eq_false_iff.mp h]
  | keyStore store entry protection => rcases hk with rfl | rfl <;> simp [mayProvide] at h
  | credentialStore store entry => simp [mayProvide] at h
  | callback handler => simp [mayProvide] at h
  | layered first second ihf ihs =>
    rw [mayProvide, Bool.or_eq_false_iff] at h
    show Acquired.thenTry (first.acquire co kind) (second.acquire co kind) = _
    rw [ihf h.1, ihs h.2, Acquired.pure_none_thenTry]
  | masked inner hidden ih =>
    rw [acquire]
    by_cases hh : hidden = kind
    · rw [if_pos hh]
    · rw [if_neg hh]
      exact ih (by simpa [mayProvide, hh] using h)

theorem acquire_without_self (hk : kind = .password ∨ kind = .certificateChain)
    (source : CredentialSource) :
    (source.without kind).acquire co kind = pure (.ok Option.none) := by
  unfold without
  split
  · rw [acquire, CredentialSet.get?_erase_self]
  · split
    · rw [acquire, if_pos rfl]
    · next hm => exact acquire_of_mayProvide_eq_false hk (Bool.eq_false_iff.mpr hm)

omit [LawfulMonad m] in
theorem acquire_without_of_ne {hidden : CredentialKind} (h : kind ≠ hidden)
    (source : CredentialSource) :
    (source.without hidden).acquire co kind = source.acquire co kind := by
  unfold without
  split
  · rw [acquire, acquire, CredentialSet.get?_erase_of_ne _ h]
  · split
    · rw [acquire, if_neg h.symm]
    · rfl

end CredentialSource

namespace Configuration

theorem stackSources_cons (source : CredentialSource) (sources : List CredentialSource) :
    stackSources (source :: sources) = sources.foldl CredentialSource.orElse source := by
  rw [stackSources, List.foldl_cons, CredentialSource.none_orElse]

/-- Of stacked sources the first is asked first. -/
theorem acquire_stackSources_cons [LawfulMonad m] (co : Collaborators m) (kind : CredentialKind)
    (source : CredentialSource) (sources : List CredentialSource) :
    (stackSources (source :: sources)).acquire co kind =
      Acquired.thenTry (source.acquire co kind) ((stackSources sources).acquire co kind) := by
  rw [stackSources_cons]
  induction sources generalizing source with
  | nil => exact (Acquired.thenTry_pure_none _).symm
  | cons next rest ih =>
    rw [List.foldl_cons, ih, CredentialSource.acquire_orElse, Acquired.thenTry_assoc,
      stackSources_cons, ih]

end Configuration

end ClientAuth
