import ClientAuth.Configuration.Responder
import ClientAuth.Proofs.Change
import ClientAuth.Proofs.Interchange
import ClientAuth.Proofs.Locality

/-! What becomes selected in a choice. The calls that set up standing choices nest one operation in
another, and yet the first of them that fits decides; where none fits, a choice of realm falls back
to the configured realm. -/

namespace ClientAuth

theorem idxOf?_eq_some_idxOf {options : List String} {option : String} (h : option ∈ options) :
    options.idxOf? option = some (options.idxOf option) := by
  obtain ⟨index, hi⟩ := Option.isSome_iff_exists.mp (List.isSome_idxOf?.mpr h)
  rw [List.idxOf_eq_getD_idxOf?, hi, Option.getD_some]

/-- What one call sets up: the prompts to answer, and the option to give, if not the suggested one. -/
structure Pick where
  test : Ref .promptTest
  option : Option String

namespace Pick

/-- Whether the pick is meant for the prompt and the option that it gives is there. -/
def fits (env : Environment) (callback : ChoiceCallback) (pick : Pick) : Bool :=
  env.acceptsPrompt pick.test callback.kind callback.prompt &&
    pick.option.all fun option => option ∈ callback.options

def index (callback : ChoiceCallback) (pick : Pick) : Nat :=
  match pick.option with
  | none => callback.suggestion
  | some option => callback.options.idxOf option

variable {env : Environment} {callback : ChoiceCallback} {pick : Pick}

theorem pick_eq (env : Environment) (callback : ChoiceCallback) (pick : Pick) :
    ChoiceOperation.pick (env.acceptsPrompt pick.test) pick.option callback =
      if pick.fits env callback then some (pick.index callback) else none := by
  obtain ⟨test, option⟩ := pick
  unfold ChoiceOperation.pick fits index
  cases env.acceptsPrompt test callback.kind callback.prompt with
  | false => rfl
  | true =>
    cases option with
    | none => rfl
    | some option =>
      by_cases hm : option ∈ callback.options
      · simp [hm, idxOf?_eq_some_idxOf hm]
      · simp [hm]

theorem index_lt (h : pick.fits env callback = true)
    (hs : callback.suggestion < callback.options.length) :
    pick.index callback < callback.options.length := by
  unfold index
  split
  · exact hs
  · next option ho =>
    have hm : option ∈ callback.options := by
      simpa [fits, ho] using (Bool.and_eq_true_iff.mp h).2
    exact List.idxOf_lt_length_of_mem hm

end Pick

namespace ChoiceOperation

/-- The operation selects by the first of the picks that fits, and leaves alone what none fits. -/
def SelectsBy (operation : ChoiceOperation) (picks : List Pick) : Prop :=
  ∀ env callback, operation.apply env callback =
    match picks.find? (Pick.fits env callback) with
    | some pick => (true, callback.select (pick.index callback))
    | none => (false, callback)

theorem selectsBy_never : never.SelectsBy [] :=
  fun _ _ => rfl

theorem selectsBy_picking (id : Identity) (test : Ref .promptTest) (option : Option String) :
    (picking id test option).SelectsBy [⟨test, option⟩] := by
  intro env callback
  rw [apply, Pick.pick_eq env callback ⟨test, option⟩, List.find?_singleton]
  cases Pick.fits env callback ⟨test, option⟩ <;> rfl

theorem SelectsBy.orElse {first fallback : ChoiceOperation} {picks picks' : List Pick}
    (h : first.SelectsBy picks) (h' : fallback.SelectsBy picks') (id : Identity) :
    (orElse id first fallback).SelectsBy (picks ++ picks') := by
  intro env callback
  rw [apply, h, List.find?_append]
  cases picks.find? (Pick.fits env callback) with
  | some pick => rfl
  | none => exact h' env callback

end ChoiceOperation

theorem not_mem_touched {kinds : List SettingKind} {kind : SettingKind} (hk : ¬ kind.IsPersonal)
    (h : kind ∉ kinds) : kind ∉ touched kinds := by
  intro hm
  obtain ⟨upper, hu, hor⟩ := mem_touched.mp hm
  have hr : upper.replaces kind = true := by simpa [SettingKind.replaces] using hor
  by_cases he : kind = upper
  · exact h (he ▸ hu)
  · exact hk (SettingKind.replaces_personal hr he).2

namespace Configuration

/-- The calls that have set up choices since the configuration last had none, the earliest first. A
merge takes over what its argument has set up, if anything. -/
inductive Chooses : Configuration → List Pick → Prop
  | absent {c : Configuration} (hc : c.Reachable) (h : c.hasKind .choice = false) : Chooses c []
  | useChoice {c : Configuration} {picks : List Pick} (h : Chooses c picks)
    (test : Ref .promptTest) (option : Option String) (next : Nat) :
    Chooses ((c.useChoice test option).run next).1 (picks ++ [⟨test, option⟩])
  | derive {c : Configuration} {picks : List Pick} (h : Chooses c picks) (call : Derivation)
    (hk : .choice ∉ call.footprint) {action : Mint Configuration}
    (hd : call.derive c = .ok action) (next : Nat) : Chooses (action.run next).1 picks
  | merge {c other : Configuration} {picks picks' : List Pick} (h : Chooses c picks)
    (h' : Chooses other picks') (next : Nat) :
    Chooses ((c.merge other).run next).1 (if other.hasKind .choice then picks' else picks)

variable {c other : Configuration} {picks : List Pick}

theorem Chooses.lawful (h : c.Chooses picks) : c.Lawful := by
  induction h with
  | absent hc h => exact hc.lawful
  | @useChoice c picks h test option next ih =>
    have hd : (Derivation.useChoice test option).derive c = .ok _ := rfl
    exact ih.derive hd next
  | derive h call hk hd next ih => exact ih.derive hd next
  | merge h h' next ih ih' => exact ih.merge ih' next

theorem choiceOperation_eq_never (h : c.hasKind .choice = false) : c.choiceOperation = .never := by
  rw [choiceOperation, findSome?_eq_none_of_hasKind h]
  · rfl
  · intro setting hr
    cases setting <;> simp [Setting.kind] at hr ⊢

theorem choiceOperation_useChoice (hs : Settled c.settings) (test : Ref .promptTest)
    (option : Option String) (next : Nat) :
    ((c.useChoice test option).run next).1.choiceOperation =
      .orElse ⟨next + 1⟩ c.choiceOperation (.picking ⟨next⟩ test option) := by
  unfold choiceOperation
  rw [show (c.useChoice test option).run next = (c.overlay (.choice (.orElse ⟨next + 1⟩
    c.choiceOperation (.picking ⟨next⟩ test option)))).run (next + 2) from rfl, settings_overlay hs]
  rfl

theorem choiceOperation_merge (hc : Settled c.settings) (ho : Settled other.settings)
    (next : Nat) : ((c.merge other).run next).1.choiceOperation =
      if other.hasKind .choice then other.choiceOperation else c.choiceOperation := by
  have hk : ¬ SettingKind.choice.IsPersonal := by simp [SettingKind.IsPersonal]
  unfold choiceOperation
  rw [findSome?_merge hc ho hk]
  · split <;> rfl
  · intro setting
    cases setting <;> simp [Setting.kind]

theorem Chooses.selectsBy (h : c.Chooses picks) : c.choiceOperation.SelectsBy picks := by
  induction h with
  | absent hc h =>
    rw [choiceOperation_eq_never h]
    exact ChoiceOperation.selectsBy_never
  | useChoice h test option next ih =>
    rw [choiceOperation_useChoice h.lawful.settled]
    exact ih.orElse (ChoiceOperation.selectsBy_picking _ test option) _
  | derive h call hk hd next ih =>
    have hk' := not_mem_touched (by simp [SettingKind.IsPersonal]) hk
    rw [(Derivation.frame h.lawful.settled hd next).choiceOperation hk']
    exact ih
  | @merge c other picks picks' h h' next ih ih' =>
    rw [choiceOperation_merge h.lawful.settled h'.lawful.settled]
    cases other.hasKind .choice with
    | true => exact ih'
    | false => exact ih

theorem hasKind_withoutAny (hs : Settled c.settings) {kinds : List SettingKind}
    {kind : SettingKind} (hk : kind ∈ kinds) (next : Nat) :
    ((c.withoutAny kinds).run next).1.hasKind kind = false := by
  apply Bool.eq_false_iff.mpr
  intro h
  obtain ⟨setting, hm, rfl⟩ := hasKind_iff.mp h
  rw [settings_withoutAny hs] at hm
  simpa [hk] using (List.mem_filter.mp hm).2

/-- A call about choices sets one up, or leaves none. -/
theorem Chooses.exists_derive (h : c.Chooses picks) {call : Derivation}
    {action : Mint Configuration} (hd : call.derive c = .ok action) (next : Nat)
    (hr : (action.run next).1.Reachable) : ∃ picks', (action.run next).1.Chooses picks' := by
  by_cases hk : .choice ∈ call.footprint
  · cases call with
    | useChoice test option =>
      cases hd
      exact ⟨_, h.useChoice test option next⟩
    | without kind =>
      cases hd
      obtain rfl := List.mem_singleton.mp hk
      exact ⟨[], .absent hr (hasKind_withoutAny h.lawful.settled (List.mem_singleton_self _) next)⟩
    | withoutAny kinds =>
      cases hd
      exact ⟨[], .absent hr (hasKind_withoutAny h.lawful.settled hk next)⟩
    | _ => simp [Derivation.footprint] at hk
  · exact ⟨picks, h.derive call hk hd next⟩

end Configuration

theorem Stock.Step.forall_chooses {stock stock' : Stock} (hs : Step stock stock')
    (hr : stock.Reachable) (h : ∀ c ∈ stock.made, ∃ picks, c.Chooses picks) :
    ∀ c ∈ stock'.made, ∃ picks, c.Chooses picks := by
  have hr' : stock'.Reachable := .tail hr hs
  cases hs with
  | derive hc hd =>
    refine List.forall_mem_cons.mpr ⟨?_, h⟩
    obtain ⟨picks, hp⟩ := h _ hc
    exact hp.exists_derive hd stock.next ⟨_, hr', List.mem_cons_self⟩
  | merge hc ho =>
    refine List.forall_mem_cons.mpr ⟨?_, h⟩
    obtain ⟨picks, hp⟩ := h _ hc
    obtain ⟨picks', hp'⟩ := h _ ho
    exact ⟨_, hp.merge hp' stock.next⟩
  | mint hnext => exact h

theorem Stock.Reachable.exists_chooses {stock : Stock} (hs : stock.Reachable) :
    ∀ c ∈ stock.made, ∃ picks, c.Chooses picks := by
  induction hs with
  | refl =>
    intro c hc
    refine ⟨[], .absent ⟨initial, .refl, hc⟩ ?_⟩
    rcases List.mem_cons.mp hc with rfl | hc
    · rfl
    · rw [List.mem_singleton.mp hc]
      decide +kernel
  | tail hs hstep ih => exact hstep.forall_chooses hs ih

/-- How a choice is settled by what calls have set up. -/
structure Configuration.Settles (c : Configuration) (env : Environment) (picks : List Pick)
    (callback : ChoiceCallback) (outcome : Answered) : Prop where
  picked : ∀ before pick after, picks = before ++ pick :: after →
    (∀ earlier ∈ before, earlier.fits env callback = false) → pick.fits env callback = true →
      outcome = (.choice { callback with selected := [pick.index callback] }, none)
  kept : (∀ pick ∈ picks, pick.fits env callback = false) → callback.kind = .realm →
    callback.selected ≠ [] → outcome = (.choice callback, none)
  configured : (∀ pick ∈ picks, pick.fits env callback = false) → callback.kind = .realm →
    callback.selected = [] → ∀ realm, c.realm = some realm → realm ∈ callback.options →
      outcome = (.choice { callback with selected := [callback.options.idxOf realm] }, none)
  suggested : (∀ pick ∈ picks, pick.fits env callback = false) → callback.kind = .realm →
    callback.selected = [] → (∀ realm, c.realm = some realm → realm ∉ callback.options) →
      outcome = (.choice { callback with selected := [callback.suggestion] }, none)
  refused : (∀ pick ∈ picks, pick.fits env callback = false) → callback.kind = .generic →
    outcome = (.choice callback, some (.unsupported .choice))
  valid : callback.suggestion < callback.options.length →
    (∀ index ∈ callback.selected, index < callback.options.length) →
      ∃ answered, outcome.1 = .choice answered ∧ answered.options = callback.options ∧
        ∀ index ∈ answered.selected, index < callback.options.length

namespace Configuration

variable {c : Configuration} {env : Environment} {picks : List Pick} {callback : ChoiceCallback}

theorem find?_fits_eq_some {before after : List Pick} {pick : Pick}
    (hb : ∀ earlier ∈ before, earlier.fits env callback = false)
    (hp : pick.fits env callback = true) :
    (before ++ pick :: after).find? (Pick.fits env callback) = some pick :=
  List.find?_eq_some_iff_append.mpr ⟨hp, before, after, rfl, by simpa using hb⟩

theorem answerChoice_of_fits (h : c.choiceOperation.SelectsBy picks) {pick : Pick}
    (hp : picks.find? (Pick.fits env callback) = some pick) :
    c.answerChoice env callback = (.choice (callback.select (pick.index callback)), none) := by
  rw [answerChoice, h, hp]

theorem answerChoice_of_unfit (h : c.choiceOperation.SelectsBy picks)
    (hp : ∀ pick ∈ picks, pick.fits env callback = false) :
    c.answerChoice env callback = match callback.kind with
      | .realm => (.choice (if callback.selected.isEmpty then
          callback.select (c.realmIndex callback) else callback), none)
      | .generic => (.choice callback, some (.unsupported .choice)) := by
  have hnone : picks.find? (Pick.fits env callback) = none :=
    List.find?_eq_none.mpr (by simpa using hp)
  rw [answerChoice, h, hnone]
  cases hk : callback.kind <;> simp only [hk, Callback.kind]

theorem realmIndex_eq_idxOf {realm : String} (hr : c.realm = some realm)
    (hm : realm ∈ callback.options) : c.realmIndex callback = callback.options.idxOf realm := by
  rw [realmIndex, hr, Option.bind_some, idxOf?_eq_some_idxOf hm, Option.getD_some]

theorem realmIndex_eq_suggestion (h : ∀ realm, c.realm = some realm → realm ∉ callback.options) :
    c.realmIndex callback = callback.suggestion := by
  unfold realmIndex
  cases hr : c.realm with
  | none => rfl
  | some realm => rw [Option.bind_some, List.idxOf?_eq_none_iff.mpr (h realm hr), Option.getD_none]

theorem realmIndex_lt (hs : callback.suggestion < callback.options.length) :
    c.realmIndex callback < callback.options.length := by
  by_cases h : ∃ realm, c.realm = some realm ∧ realm ∈ callback.options
  · obtain ⟨realm, hr, hm⟩ := h
    rw [realmIndex_eq_idxOf hr hm]
    exact List.idxOf_lt_length_of_mem hm
  · rw [realmIndex_eq_suggestion fun realm hr hm => h ⟨realm, hr, hm⟩]
    exact hs

theorem answerChoice_valid (h : c.choiceOperation.SelectsBy picks)
    (hs : callback.suggestion < callback.options.length)
    (hsel : ∀ index ∈ callback.selected, index < callback.options.length) :
    ∃ answered, (c.answerChoice env callback).1 = .choice answered ∧
      answered.options = callback.options ∧
        ∀ index ∈ answered.selected, index < callback.options.length := by
  cases hp : picks.find? (Pick.fits env callback) with
  | some pick =>
    rw [answerChoice_of_fits h hp]
    refine ⟨_, rfl, rfl, List.forall_mem_singleton.mpr ?_⟩
    exact Pick.index_lt (List.find?_some hp) hs
  | none =>
    rw [answerChoice_of_unfit h (by simpa using hp)]
    cases callback.kind with
    | generic => exact ⟨callback, rfl, rfl, hsel⟩
    | realm =>
      dsimp only
      split
      · exact ⟨_, rfl, rfl, List.forall_mem_singleton.mpr (realmIndex_lt hs)⟩
      · exact ⟨callback, rfl, rfl, hsel⟩

theorem Chooses.settles (h : c.Chooses picks) (env : Environment) (callback : ChoiceCallback) :
    c.Settles env picks callback (c.answerChoice env callback) where
  picked before pick after hpicks hb hp := by
    subst hpicks
    exact answerChoice_of_fits h.selectsBy (find?_fits_eq_some hb hp)
  kept hp hk hs := by
    rw [answerChoice_of_unfit h.selectsBy hp, hk]
    simp [hs]
  configured hp hk hs realm hr hm := by
    rw [answerChoice_of_unfit h.selectsBy hp, realmIndex_eq_idxOf hr hm]
    simp [hk, hs, ChoiceCallback.select]
  suggested hp hk hs hr := by
    rw [answerChoice_of_unfit h.selectsBy hp, realmIndex_eq_suggestion hr]
    simp [hk, hs, ChoiceCallback.select]
  refused hp hk := by
    rw [answerChoice_of_unfit h.selectsBy hp, hk]
  valid := answerChoice_valid h.selectsBy

end Configuration

/-- In every configuration calls have set up some choices in some order, and a choice is settled by
the first of them that fits, or else by the realm. -/
theorem settles_of_chooses {m : Type → Type} [Monad m] (co : Collaborators m) {stock : Stock}
    (hs : stock.Reachable) {c : Configuration} (hc : c ∈ stock.made) :
    (∃ picks, c.Chooses picks) ∧ ∀ picks, c.Chooses picks → ∀ callback,
      ∃ outcome, c.answer co (.choice callback) = pure outcome ∧
        c.Settles co.toEnvironment picks callback outcome := by
  refine ⟨hs.exists_chooses c hc, ?_⟩
  intro picks h callback
  exact ⟨_, rfl, h.settles co.toEnvironment callback⟩

theorem settles_of_missing_option :
    let co : Collaborators Id := { (Collaborators.inert : Collaborators Id) with
      acceptsPrompt := fun _ kind _ => kind = .generic }
    let run := Stock.initial.follow .base [.useChoice default (some "west"), .useRealm (some "north"),
      .useChoice default (some "north"), .useChoice default none]
    let picks : List Pick := [⟨default, some "west"⟩, ⟨default, some "north"⟩, ⟨default, none⟩]
    let site : ChoiceCallback := ⟨.generic, "site", ["south", "north"], 0, [0]⟩
    let realm : ChoiceCallback := ⟨.realm, "realm", ["south", "north"], 0, []⟩
    run.1.Reachable ∧ run.2 ∈ run.1.made ∧ run.2.Chooses picks ∧
      (run.2.answer co (.choice site)).run = (.choice { site with selected := [1] }, none) ∧
      (run.2.answer co (.choice realm)).run = (.choice { realm with selected := [1] }, none) := by
  intro co run picks site realm
  have h := Stock.reachable_initial.follow Stock.mem_base [.useChoice default (some "west"),
    .useRealm (some "north"), .useChoice default (some "north"), .useChoice default none]
  have hbase : Configuration.base.Chooses [] :=
    .absent ⟨Stock.initial, Stock.reachable_initial, Stock.mem_base⟩ rfl
  have hwest := hbase.useChoice default (some "west") Stock.initial.next
  have hrealm := hwest.derive (.useRealm (some "north")) (by decide) rfl
  have hpicks : run.2.Chooses picks :=
    ((hrealm _).useChoice default (some "north") _).useChoice default none _
  have hsettles := (settles_of_chooses co h.1 h.2.1).2 picks hpicks
  obtain ⟨outcome, hsite, hs⟩ := hsettles site
  obtain ⟨outcome', hrealm, hr⟩ := hsettles realm
  refine ⟨h.1, h.2.1, hpicks, ?_, ?_⟩
  · rw [hsite]
    exact hs.picked [⟨default, some "west"⟩] ⟨default, some "north"⟩ [⟨default, none⟩] rfl
      (by decide) (by decide)
  · rw [hrealm]
    exact hr.configured (by decide) rfl rfl "north" (by decide +kernel) (by decide)

end ClientAuth
