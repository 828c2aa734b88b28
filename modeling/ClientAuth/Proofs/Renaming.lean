import ClientAuth.Proofs.Interleaving

/-! How names are mapped. Each mapping that a call adds is applied to what the earlier ones have made
of the name, and adding the identity mapping tells nothing new. -/

namespace ClientAuth

namespace NameMapping

theorem apply_andThen (env : Environment) (first second : NameMapping) (next : Nat)
    (name : String) : ((first.andThen second).run next).1.apply env name =
      second.apply env (first.apply env name) := by
  unfold andThen
  split
  · next h =>
    rw [h]
    rfl
  · split
    · next h =>
      rw [h]
      rfl
    · rfl

theorem identity_andThen (mapping : NameMapping) : identity.andThen mapping = pure mapping :=
  if_pos rfl

theorem andThen_identity (mapping : NameMapping) : mapping.andThen identity = pure mapping := by
  unfold andThen
  split
  · next h => rw [h]
  · rw [if_pos rfl]

end NameMapping

namespace Configuration

variable {c after : Configuration}

/-- Whoever asks for the name is given `text`. -/
def AnswersName {m : Type → Type} [Monad m] (co : Collaborators m) (c : Configuration)
    (text : String) : Prop :=
  ∀ callback : NameCallback,
    c.answer co (.name callback) = pure (.name (callback.answer text), none)

theorem answersName_of_named {m : Type → Type} [Monad m] {co : Collaborators m}
    {name : PrincipalName} (h : c.principal co.toEnvironment = .named name) :
    c.AnswersName co (c.nameMapping.apply co.toEnvironment name.text) := by
  intro callback
  simp only [answer, answerName, h, Principal.name?]

theorem nameMapping_useNameMapping (hs : Settled c.settings) (mapping : NameMapping)
    (next : Nat) : ((c.useNameMapping mapping).run next).1.nameMapping = mapping := by
  rw [nameMapping, useNameMapping, settings_overlay hs]
  rfl

theorem nameMapping_addNameMapping (hs : Settled c.settings) (mapping : NameMapping)
    (next : Nat) : ((c.addNameMapping mapping).run next).1.nameMapping =
      ((c.nameMapping.andThen mapping).run next).1 := by
  rw [addNameMapping, Mint.run_bind]
  exact nameMapping_useNameMapping hs _ _

theorem nameMapping_eq_identity (h : c.hasKind .nameMapping = false) :
    c.nameMapping = .identity := by
  rw [nameMapping, findSome?_eq_none_of_hasKind h]
  · rfl
  · intro setting hr
    cases setting <;> simp [Setting.kind] at hr ⊢

/-- Each mapping is applied to what those before it have made of the name. -/
theorem Interleaved.apply_nameMapping {mappings : List NameMapping} (hc : c.Lawful)
    (h : c.Interleaved .nameMapping .addNameMapping mappings after) (env : Environment)
    (name : String) : after.nameMapping.apply env name =
      mappings.foldl (fun text mapping => mapping.apply env text)
        (c.nameMapping.apply env name) := by
  refine h.foldl_eq (fun c => c.nameMapping.apply env name)
    (fun text mapping => mapping.apply env text) (by simp [SettingKind.IsPersonal]) ?_ ?_ hc
  · intro a b hsame
    rw [hsame.nameMapping (List.mem_singleton_self _)]
  · intro before mapping action next hl hd
    cases hd
    rw [nameMapping_addNameMapping hl.settled, NameMapping.apply_andThen]

theorem told_addNameMapping_identity (hc : c.Lawful) (next : Nat) (kind : SettingKind) :
    ((c.addNameMapping .identity).run next).1.told kind = c.told kind := by
  have hd : (Derivation.addNameMapping .identity).derive c = .ok _ := rfl
  by_cases hk : kind = .nameMapping
  · subst hk
    have hname := nameMapping_addNameMapping hc.settled .identity next
    rw [NameMapping.andThen_identity] at hname
    refine told_eq_of_getD_eq .nameMapping ?_ (hc.derive hd next).wellFormed hc.wellFormed
      (by decide) ?_ ?_ hname
    · constructor <;> intro setting <;> cases setting <;> simp [Setting.kind, eq_comm]
    · exact fun mapping hdefault => of_decide_eq_true hdefault
    · exact fun mapping _ hother => of_decide_eq_false hother
  · refine Derivation.told_derive_of_not_touched hc.settled ?_ hd next
    simpa [touched, Derivation.footprint, SettingKind.displaces] using hk

/-- Where nothing maps the name yet, the mapping is stored as it is. -/
theorem settings_addNameMapping (hs : Settled c.settings) (h : c.hasKind .nameMapping = false)
    (mapping : NameMapping) (next : Nat) :
    ((c.addNameMapping mapping).run next).1.settings = .nameMapping mapping :: c.settings := by
  rw [addNameMapping, nameMapping_eq_identity h, NameMapping.identity_andThen, Mint.run_bind,
    Mint.run_pure, settings_overlay hs, List.filter_eq_self.mpr]
  intro lower hm
  simpa [Setting.kind, SettingKind.displaces] using kind_ne_of_hasKind h hm

/-- How calls about the mapping of the name change what is answered and what is stored. -/
structure MapsName (stock : Stock) (c : Configuration) : Prop where
  answers : ∀ {m : Type → Type} [Monad m] (co : Collaborators m) {name : PrincipalName},
    c.principal co.toEnvironment = .named name →
      c.AnswersName co (c.nameMapping.apply co.toEnvironment name.text)
  composed : ∀ {m : Type → Type} [Monad m] (co : Collaborators m) {name : PrincipalName}
    {mappings : List NameMapping} {after : Configuration},
    c.principal co.toEnvironment = .named name →
      c.Interleaved .nameMapping .addNameMapping mappings after →
        after.principal co.toEnvironment = .named name →
          after.AnswersName co
            (mappings.foldl (fun text mapping => mapping.apply co.toEnvironment text)
              (c.nameMapping.apply co.toEnvironment name.text))
  replaced : ∀ {m : Type → Type} [Monad m] (co : Collaborators m) {name : PrincipalName},
    c.principal co.toEnvironment = .named name → ∀ mapping next,
      ((c.useNameMapping mapping).run next).1.AnswersName co
        (mapping.apply co.toEnvironment name.text)
  identity : (stock.add (c.addNameMapping .identity)).Equates
    ((c.addNameMapping .identity).run stock.next).1 c
  stored : c.hasKind .nameMapping = false → ∀ mapping next,
    ((c.addNameMapping mapping).run next).1.settings = .nameMapping mapping :: c.settings

theorem answersName_useNameMapping {m : Type → Type} [Monad m] {co : Collaborators m}
    {name : PrincipalName} (hs : Settled c.settings)
    (h : c.principal co.toEnvironment = .named name) (mapping : NameMapping) (next : Nat) :
    ((c.useNameMapping mapping).run next).1.AnswersName co
      (mapping.apply co.toEnvironment name.text) := by
  have hd : (Derivation.useNameMapping mapping).derive c = .ok _ := rfl
  have hkeep := (Derivation.frame hs hd next).principal
    (by simp [touched, Derivation.footprint, SettingKind.displaces])
    (by simp [touched, Derivation.footprint, SettingKind.displaces])
  have hanswers := answersName_of_named ((hkeep co.toEnvironment).trans h)
  rwa [nameMapping_useNameMapping hs] at hanswers

end Configuration

open ClientAuth.Configuration

/-- The mappings that calls add are applied in the order of the calls, whatever else is set in between,
and a call that replaces them leaves one alone. Composing them is associative on every name, and the
identity mapping is a unit on either side. -/
theorem mapsName_of_reachable {stock : Stock} (hs : stock.Reachable) {c : Configuration}
    (hc : c ∈ stock.made) :
    c.MapsName stock ∧
      (∀ (env : Environment) (first second third : NameMapping) (next next' : Nat)
        (name : String),
        (((do (← first.andThen second).andThen third) : Mint NameMapping).run next).1.apply env
            name =
          (((do first.andThen (← second.andThen third)) : Mint NameMapping).run next').1.apply env
            name) ∧
      ∀ mapping, NameMapping.identity.andThen mapping = pure mapping ∧
        mapping.andThen .identity = pure mapping := by
  have hl := hs.coherent.lawful c hc
  refine ⟨⟨fun co name => answersName_of_named, ?_, ?_, ?_, ?_⟩, ?_, ?_⟩
  · intro m _ co name mappings after _ h hafter
    rw [← h.apply_nameMapping hl]
    exact answersName_of_named hafter
  · exact fun co name => answersName_useNameMapping hl.settled
  · have hd : (Derivation.addNameMapping .identity).derive c = .ok _ := rfl
    exact (hs.coherent.derive hc hd).equates List.mem_cons_self (List.mem_cons_of_mem _ hc)
      (told_addNameMapping_identity hl stock.next)
  · exact settings_addNameMapping hl.settled
  · intro env first second third next next' name
    simp only [Mint.run_bind, NameMapping.apply_andThen]
  · exact fun mapping => ⟨NameMapping.identity_andThen mapping, NameMapping.andThen_identity mapping⟩

theorem mapsName_of_three_mappings :
    let co : Collaborators Id := { (Collaborators.inert : Collaborators Id) with
      mapName := fun mapping name =>
        if mapping = default then name ++ "@local" else name ++ "/admin" }
    let qualify := NameMapping.custom default
    let elevate := NameMapping.custom ⟨⟨1⟩⟩
    let run := Stock.initial.follow .base [.useName "alice", .addNameMapping qualify]
    let after := (run.1.follow run.2 [.addNameMapping elevate, .useHost "localhost",
      .addNameMapping .identity, .useRealm (some "local"), .addNameMapping qualify]).2
    run.1.Reachable ∧ run.2 ∈ run.1.made ∧
      run.2.principal co.toEnvironment = .named ⟨"alice"⟩ ∧
      run.2.Interleaved .nameMapping .addNameMapping [elevate, .identity, qualify] after ∧
      after.principal co.toEnvironment = .named ⟨"alice"⟩ ∧
      after.AnswersName co "alice@local/admin@local" := by
  intro co qualify elevate run after
  have h := Stock.reachable_initial.follow Stock.mem_base
    [.useName "alice", .addNameMapping qualify]
  have hname : run.2.principal co.toEnvironment = .named ⟨"alice"⟩ := by decide +kernel
  have hname' : after.principal co.toEnvironment = .named ⟨"alice"⟩ := by decide +kernel
  have helevate : run.2.Interleaved .nameMapping .addNameMapping [elevate] _ :=
    Interleaved.start.call elevate rfl run.1.next
  have hhost := helevate.between (.useHost "localhost") (by decide) rfl
  have hmappings : run.2.Interleaved .nameMapping .addNameMapping
      [elevate, .identity, qualify] after :=
    (((hhost _).call .identity rfl _).between (.useRealm (some "local")) (by decide) rfl _).call
      qualify rfl _
  have hmaps := (mapsName_of_reachable h.1 h.2.1).1
  have htext : "alice@local/admin@local" = [elevate, .identity, qualify].foldl
      (fun text mapping => mapping.apply co.toEnvironment text)
      (run.2.nameMapping.apply co.toEnvironment "alice") := by decide +kernel
  refine ⟨h.1, h.2.1, hname, hmappings, hname', ?_⟩
  rw [htext]
  exact hmaps.composed co hname hmappings hname'

end ClientAuth
