import ClientAuth.Proofs.Acquisition

/-! What a source gives when it says that it has none of a kind. Only the entry of a key store can
still be given then, where the store keeps what key stores are not for. To hide a kind is to have
none of it, and leaves all other kinds as they are. -/

namespace ClientAuth

open MonadAttach (CanReturn)

/-- An entry of a key store, as a source names it. -/
structure KeyStoreEntry where
  store : Ref .keyStore
  name : String
  protection : Option Password

namespace KeyStoreEntry

variable {m : Type → Type}

def read (co : Collaborators m) (entry : KeyStoreEntry) : m Acquired :=
  co.keyStoreEntry entry.store entry.name entry.protection

/-- The entry is of a kind that key stores are for, whenever it can be read. -/
def Keyed [Monad m] [MonadAttach m] (co : Collaborators m) (entry : KeyStoreEntry) : Prop :=
  ∀ credential, CanReturn (entry.read co) (.ok (some credential)) →
    credential.kind = .password ∨ credential.kind = .certificateChain

end KeyStoreEntry

namespace CredentialSet

theorem kind_of_get? {set : CredentialSet} {kind : CredentialKind} {credential : Credential}
    (h : set.get? kind = some credential) : credential.kind = kind := by
  unfold get? at h
  simpa using List.find?_some h

theorem contains_erase_self (set : CredentialSet) (kind : CredentialKind) :
    (set.erase kind).contains kind = false :=
  contains_eq_false_iff.mpr (set.get?_erase_self kind)

theorem contains_erase_of_ne (set : CredentialSet) {kind hidden : CredentialKind}
    (h : kind ≠ hidden) : (set.erase hidden).contains kind = set.contains kind := by
  rw [contains, contains, get?_erase_of_ne set h]

theorem erase_of_contains_eq_false {set : CredentialSet} {kind : CredentialKind}
    (h : set.contains kind = false) : set.erase kind = set := by
  have hne : ∀ credential ∈ set.entries, credential.kind ≠ kind := by
    simpa [get?] using contains_eq_false_iff.mp h
  unfold erase
  rw [List.filter_eq_self.mpr fun credential hm => by simpa using hne credential hm]

end CredentialSet

namespace CredentialSource

/-- The entries of key stores that are found anywhere in the source, hidden or not. -/
def keyStoreEntries : CredentialSource → List KeyStoreEntry
  | keyStore store name protection => [⟨store, name, protection⟩]
  | layered first second => first.keyStoreEntries ++ second.keyStoreEntries
  | masked inner _ => inner.keyStoreEntries
  | _ => []

section Without

variable {kind hidden : CredentialKind} {source : CredentialSource}

theorem without_of_mayProvide_eq_false (h : source.mayProvide kind = false) :
    source.without kind = source := by
  cases source with
  | held credentials => rw [without, CredentialSet.erase_of_contains_eq_false h]
  | _ => exact if_neg (Bool.eq_false_iff.mp h)

theorem mayProvide_without_self (source : CredentialSource) (kind : CredentialKind) :
    (source.without kind).mayProvide kind = false := by
  unfold without
  split
  · exact CredentialSet.contains_erase_self _ kind
  · split
    · simp [mayProvide]
    · next hm => exact Bool.eq_false_iff.mpr hm

theorem mayProvide_without_of_ne (h : kind ≠ hidden) :
    (source.without hidden).mayProvide kind = source.mayProvide kind := by
  unfold without
  split
  · exact CredentialSet.contains_erase_of_ne _ h
  · split
    · simp [mayProvide, h.symm]
    · rfl

theorem keyStoreEntries_without : (source.without kind).keyStoreEntries = source.keyStoreEntries := by
  unfold without
  split
  · rfl
  · split <;> rfl

end Without

variable {m : Type → Type} [Monad m] [LawfulMonad m] [MonadAttach m] [LawfulMonadAttach m]
  {co : Collaborators m} {kind : CredentialKind} {source : CredentialSource}
  {credential : Credential}

section Given

theorem canReturn_held {credentials : CredentialSet}
    (hc : CanReturn ((held credentials).acquire co kind) (.ok (some credential))) :
    credentials.get? kind = some credential :=
  Except.ok.inj (LawfulMonadAttach.eq_of_canReturn_pure hc)

theorem canReturn_keyStore {store : Ref .keyStore} {name : String} {protection : Option Password}
    (hc : CanReturn ((keyStore store name protection).acquire co kind) (.ok (some credential))) :
    credential.kind = kind ∧
      CanReturn (co.keyStoreEntry store name protection) (.ok (some credential)) := by
  obtain ⟨acquired, hr, hp⟩ := LawfulMonadAttach.canReturn_bind_imp' hc
  have heq := LawfulMonadAttach.eq_of_canReturn_pure hp
  cases acquired with
  | error error => cases heq
  | ok acquired =>
    obtain ⟨rfl, hk⟩ := Option.filter_eq_some_iff.mp (Except.ok.inj heq)
    exact ⟨of_decide_eq_true hk, hr⟩

theorem canReturn_layered {first second : CredentialSource}
    (hc : CanReturn ((layered first second).acquire co kind) (.ok (some credential))) :
    CanReturn (first.acquire co kind) (.ok (some credential)) ∨
      CanReturn (second.acquire co kind) (.ok (some credential)) := by
  obtain ⟨acquired, hf, hr⟩ := LawfulMonadAttach.canReturn_bind_imp' hc
  match acquired with
  | .ok Option.none => exact .inr hr
  | .ok (some given) =>
    cases LawfulMonadAttach.eq_of_canReturn_pure hr
    exact .inl hf
  | .error error => cases LawfulMonadAttach.eq_of_canReturn_pure hr

theorem canReturn_masked {inner : CredentialSource} {hidden : CredentialKind}
    (hc : CanReturn ((masked inner hidden).acquire co kind) (.ok (some credential))) :
    hidden ≠ kind ∧ CanReturn (inner.acquire co kind) (.ok (some credential)) := by
  rw [acquire] at hc
  by_cases hh : hidden = kind
  · rw [if_pos hh] at hc
    cases LawfulMonadAttach.eq_of_canReturn_pure hc
  · rw [if_neg hh] at hc
    exact ⟨hh, hc⟩

end Given

/-- Of a kind that the source says it has none of, it can still give the entry of a key store. -/
theorem exists_mem_keyStoreEntries_of_acquire (h : source.mayProvide kind = false)
    (hc : CanReturn (source.acquire co kind) (.ok (some credential))) :
    credential.kind = kind ∧
      ∃ entry ∈ source.keyStoreEntries, CanReturn (entry.read co) (.ok (some credential)) := by
  induction source with
  | held credentials =>
    have hget := canReturn_held hc
    rw [CredentialSet.contains_eq_false_iff.mp h] at hget
    cases hget
  | keyStore store name protection =>
    obtain ⟨hk, hread⟩ := canReturn_keyStore hc
    exact ⟨hk, ⟨store, name, protection⟩, List.mem_singleton_self _, hread⟩
  | credentialStore store name => cases h
  | callback handler => cases h
  | layered first second ihf ihs =>
    -- both sources deny the kind, so it does not matter which of them has given the credential
    rw [mayProvide, Bool.or_eq_false_iff] at h
    rcases canReturn_layered hc with hf | hs
    · obtain ⟨hk, entry, he, hread⟩ := ihf h.1 hf
      exact ⟨hk, entry, List.mem_append_left _ he, hread⟩
    · obtain ⟨hk, entry, he, hread⟩ := ihs h.2 hs
      exact ⟨hk, entry, List.mem_append_right _ he, hread⟩
  | masked inner hidden ih =>
    obtain ⟨hh, hinner⟩ := canReturn_masked hc
    exact ih (by simpa [mayProvide, hh] using h) hinner

/-- Of the kinds that a key store is for, a source gives only what it says it may. -/
theorem mayProvide_of_acquire (hk : kind = .password ∨ kind = .certificateChain)
    (hc : CanReturn (source.acquire co kind) (.ok (some credential))) :
    source.mayProvide kind = true := by
  cases hp : source.mayProvide kind with
  | true => rfl
  | false =>
    rw [acquire_of_mayProvide_eq_false hk hp] at hc
    cases LawfulMonadAttach.eq_of_canReturn_pure hc

theorem not_canReturn_acquire (h : source.mayProvide kind = false)
    (hkeyed : ∀ entry ∈ source.keyStoreEntries, entry.Keyed co) :
    ¬ CanReturn (source.acquire co kind) (.ok (some credential)) := by
  intro hc
  obtain ⟨rfl, entry, he, hread⟩ := exists_mem_keyStoreEntries_of_acquire h hc
  rw [mayProvide_of_acquire (hkeyed entry he credential hread) hc] at h
  cases h

end CredentialSource

variable {m : Type → Type} [Monad m] [LawfulMonad m] [MonadAttach m] [LawfulMonadAttach m]

/-- A source has none of what it denies. The exception is an entry of a key store that is neither of
the kinds key stores are for. -/
theorem acquire_of_denied (co : Collaborators m) {source : CredentialSource} {kind : CredentialKind}
    (h : source.mayProvide kind = false) :
    (kind = .password ∨ kind = .certificateChain → source.acquire co kind = pure (.ok none)) ∧
    ((∀ entry ∈ source.keyStoreEntries, entry.Keyed co) →
      ∀ credential, ¬ CanReturn (source.acquire co kind) (.ok (some credential))) ∧
    ∀ credential, CanReturn (source.acquire co kind) (.ok (some credential)) →
      credential.kind = kind ∧
        ∃ entry ∈ source.keyStoreEntries, CanReturn (entry.read co) (.ok (some credential)) :=
  ⟨fun hk => CredentialSource.acquire_of_mayProvide_eq_false hk h,
    fun hkeyed _ => CredentialSource.not_canReturn_acquire h hkeyed,
    fun _ => CredentialSource.exists_mem_keyStoreEntries_of_acquire h⟩

theorem acquire_of_denied_token :
    let key : Credential := .password ⟨"key"⟩
    let co : Collaborators Id := { (Collaborators.inert : Collaborators Id) with
      keyStoreEntry := fun _ _ _ => .ok (some key)
      storedCredential := fun _ _ _ => .ok (some (.bearerToken ⟨"token"⟩)) }
    let source : CredentialSource := .layered
      (.masked (.credentialStore default "entry") .bearerToken) (.keyStore default "entry" none)
    source.mayProvide .bearerToken = false ∧
      (∀ entry ∈ source.keyStoreEntries, entry.Keyed co) ∧
      ∀ credential, (source.acquire co .bearerToken).run ≠ .ok (some credential) := by
  intro key co source
  have hkeyed : ∀ entry ∈ source.keyStoreEntries, entry.Keyed co := by
    intro entry _ credential hread
    cases hread
    exact .inl rfl
  have hdenied : source.mayProvide .bearerToken = false := rfl
  exact ⟨hdenied, hkeyed, (acquire_of_denied co hdenied).2.1 hkeyed⟩

/-- A key store that keeps a bearer token gives it, though the source denies that it may. -/
theorem acquire_of_bearer_entry :
    let token : Credential := .bearerToken ⟨"t"⟩
    let co : Collaborators Id := { (Collaborators.inert : Collaborators Id) with
      keyStoreEntry := fun _ _ _ => .ok (some token) }
    let source : CredentialSource := .keyStore default "tok" none
    source.mayProvide .bearerToken = false ∧
      (source.acquire co .bearerToken).run = .ok (some token) :=
  ⟨rfl, rfl⟩

/-- Nothing of the hidden kind is left and nothing of another kind is lost. -/
theorem hides_without (co : Collaborators m) (source : CredentialSource) (hidden : CredentialKind) :
    (source.without hidden).mayProvide hidden = false ∧
    (source.without hidden).without hidden = source.without hidden ∧
    (∀ kind, kind ≠ hidden → (source.without hidden).mayProvide kind = source.mayProvide kind ∧
      (source.without hidden).acquire co kind = source.acquire co kind) ∧
    (hidden = .password ∨ hidden = .certificateChain →
      (source.without hidden).acquire co hidden = pure (.ok none)) ∧
    ((∀ entry ∈ source.keyStoreEntries, entry.Keyed co) → ∀ credential,
      ¬ CanReturn ((source.without hidden).acquire co hidden) (.ok (some credential))) := by
  have hdenied := source.mayProvide_without_self hidden
  refine ⟨hdenied, CredentialSource.without_of_mayProvide_eq_false hdenied, ?_, ?_, ?_⟩
  · exact fun kind hne => ⟨CredentialSource.mayProvide_without_of_ne hne,
      CredentialSource.acquire_without_of_ne hne source⟩
  · exact fun hk => CredentialSource.acquire_without_self hk source
  · intro hkeyed _
    rw [← CredentialSource.keyStoreEntries_without] at hkeyed
    exact CredentialSource.not_canReturn_acquire hdenied hkeyed

theorem hides_without_of_locked_store :
    let key : Credential := .password ⟨"key"⟩
    let locked := fun kind => CredentialError.unavailable kind "locked"
    let co : Collaborators Id := { (Collaborators.inert : Collaborators Id) with
      keyStoreEntry := fun _ _ _ => .ok (some key)
      storedCredential := fun _ _ kind => .error (locked kind) }
    let source : CredentialSource := .layered
      (.keyStore default "entry" none) (.credentialStore default "entry")
    CredentialKind.certificateChain ≠ .password ∧
      (source.acquire co .password).run = .ok (some key) ∧
      ((source.without .password).acquire co .password).run = .ok none ∧
      ((source.without .password).acquire co .certificateChain).run =
        .error (locked .certificateChain) ∧
      (∀ entry ∈ source.keyStoreEntries, entry.Keyed co) ∧
      ∀ credential, ((source.without .bearerToken).acquire co .bearerToken).run ≠
        .ok (some credential) := by
  intro key locked co source
  have hne : CredentialKind.certificateChain ≠ .password := by decide
  obtain ⟨-, -, hother, hnone, -⟩ := hides_without co source .password
  have hkeyed : ∀ entry ∈ source.keyStoreEntries, entry.Keyed co := by
    intro entry _ credential hread
    cases hread
    exact .inl rfl
  refine ⟨hne, rfl, congrArg Id.run (hnone (.inl rfl)), ?_, hkeyed, ?_⟩
  · rw [(hother .certificateChain hne).2]
    rfl
  · exact (hides_without co source .bearerToken).2.2.2.2 hkeyed

end ClientAuth
