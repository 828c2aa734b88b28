import ClientAuth.Proofs.Mechanisms
import ClientAuth.Proofs.Relay

/-! Joined sources are layers. Leaving out a source that is none, or joining two sets into one, makes a
smaller tree, and no query tells it from the layers it stands for. -/

namespace ClientAuth

variable {m : Type → Type} [Monad m] [LawfulMonad m]

namespace Acquired

theorem yields_thenTry {first second : m Acquired} {acquired acquired' : Acquired}
    (hf : Yields first acquired) (hs : Yields second acquired') :
    Yields (thenTry first second) (if acquired = .ok none then acquired' else acquired) := by
  refine hf.bind ?_
  match acquired with
  | .ok none => simpa using hs
  | .ok (some credential) => exact .pure _
  | .error error => exact .pure _

end Acquired

namespace CredentialSource

theorem orElse_none (source : CredentialSource) : source.orElse none = source :=
  if_pos rfl

/-- However three sources are joined, they are asked in the same order. -/
theorem acquire_orElse_assoc (co : Collaborators m) (kind : CredentialKind)
    (first second third : CredentialSource) :
    ((first.orElse second).orElse third).acquire co kind =
      (first.orElse (second.orElse third)).acquire co kind := by
  simp only [acquire_orElse, Acquired.thenTry_assoc]

end CredentialSource

namespace Configuration

variable {co : Collaborators m} {kind : CredentialKind}

theorem acquire_stackSources (co : Collaborators m) (kind : CredentialKind)
    (sources : List CredentialSource) :
    (stackSources sources).acquire co kind =
      (sources.map fun source => source.acquire co kind).foldr Acquired.thenTry
        (pure (.ok none)) := by
  induction sources with
  | nil => rfl
  | cons source rest ih => rw [acquire_stackSources_cons, ih, List.map_cons, List.foldr_cons]

theorem yields_acquire_stackSources {answer : CredentialSource → Acquired}
    (h : ∀ source : CredentialSource, Yields (source.acquire co kind) (answer source))
    (sources : List CredentialSource) :
    Yields ((stackSources sources).acquire co kind)
      (((sources.map answer).find? fun acquired => acquired ≠ .ok none).getD (.ok none)) := by
  induction sources with
  | nil => exact .pure _
  | cons source rest ih =>
    rw [acquire_stackSources_cons, List.map_cons, List.find?_cons]
    have hboth := Acquired.yields_thenTry (h source) ih
    by_cases hn : answer source = .ok none
    · simpa [hn] using hboth
    · simpa [hn] using hboth

end Configuration

open ClientAuth.Configuration (stackSources)

/-- To join two sources is to layer the one over the other, and a stack of sources answers with the
first credential or error in it. -/
theorem orElse_eq_layered (co : Collaborators m) (kind : CredentialKind) :
    (∀ first second : CredentialSource,
      (first.orElse second).acquire co kind = (first.layered second).acquire co kind ∧
      (first.orElse second).mayProvide kind = (first.mayProvide kind || second.mayProvide kind)) ∧
    (∀ first second third : CredentialSource,
      ((first.orElse second).orElse third).acquire co kind =
        (first.orElse (second.orElse third)).acquire co kind ∧
      ((first.orElse second).orElse third).mayProvide kind =
        (first.orElse (second.orElse third)).mayProvide kind) ∧
    (∀ source : CredentialSource, source.orElse .none = source ∧
      CredentialSource.none.orElse source = source) ∧
    (∀ sources, (stackSources sources).acquire co kind =
      (sources.map fun source => source.acquire co kind).foldr Acquired.thenTry
        (pure (.ok none))) ∧
    (co.Steady → ∃ answer : CredentialSource → Acquired,
      (∀ source, Yields (source.acquire co kind) (answer source)) ∧
      ∀ sources, Yields ((stackSources sources).acquire co kind)
        (((sources.map answer).find? fun acquired => acquired ≠ .ok none).getD (.ok none))) := by
  refine ⟨?_, ?_, ?_, Configuration.acquire_stackSources co kind, ?_⟩
  · intro first second
    exact ⟨CredentialSource.acquire_orElse first second, first.mayProvide_orElse second kind⟩
  · intro first second third
    refine ⟨CredentialSource.acquire_orElse_assoc co kind first second third, ?_⟩
    simp only [CredentialSource.mayProvide_orElse, Bool.or_assoc]
  · exact fun source => ⟨source.orElse_none, source.none_orElse⟩
  · intro hco
    obtain ⟨answer, hanswer⟩ := Classical.axiomOfChoice
      (CredentialSource.exists_yields_acquire hco kind)
    exact ⟨answer, hanswer, Configuration.yields_acquire_stackSources hanswer⟩

/-- A handler that has nothing to give is passed over, and a store that fails hides what is below it. -/
theorem orElse_eq_layered_of_locked_store :
    let locked : Acquired := .error (.unavailable .password "locked")
    let co : Collaborators Id := { (Collaborators.inert : Collaborators Id) with
      storedCredential := fun _ _ kind => if kind = .password then locked else .ok none }
    let sources : List CredentialSource := [.callback default, .held ⟨[.bearerToken ⟨"token"⟩]⟩,
      .credentialStore default "entry", .held ⟨[.password ⟨"below"⟩]⟩]
    co.Steady ∧ ((stackSources sources).acquire co .password).run = locked := by
  intro locked co sources
  have hco : co.Steady := ⟨fun _ _ => ⟨_, rfl⟩, fun _ _ _ => ⟨_, rfl⟩, fun _ _ _ => ⟨_, rfl⟩⟩
  obtain ⟨answer, hanswer, hstack⟩ := (orElse_eq_layered co .password).2.2.2.2 hco
  have hanswers : sources.map answer =
      [.ok none, .ok none, locked, .ok (some (.password ⟨"below"⟩))] := by
    refine (List.map_congr_left fun source _ => hanswer source).trans ?_
    rfl
  refine ⟨hco, (hstack sources).symm.trans ?_⟩
  rw [hanswers]
  rfl

end ClientAuth
