import ClientAuth.Proofs.Locality
import ClientAuth.Proofs.Mechanisms

/-! What is allowed and forbidden after many calls. About each mechanism the last call that names it
decides, whatever is called in between, for no other call touches the filter unless it drops it. -/

namespace ClientAuth

theorem NameSet.exists_mem_of_isEmpty {set : NameSet} (h : set.isEmpty = false) :
    ∃ name, name ∈ set :=
  List.exists_mem_of_ne_nil _ (List.isEmpty_eq_false_iff.mp h)

theorem NameSet.eq_empty_of_isEmpty {set : NameSet} (h : set.isEmpty = true) : set = .empty := by
  obtain ⟨names, sorted⟩ := set
  cases names with
  | nil => rfl
  | cons name rest => cases h

inductive Ruling
  | allow
  | forbid
  deriving DecidableEq

/-- The mechanisms that a filter holds to have been ruled on in this way. -/
def Ruling.among (filter : NameSet × NameSet) : Ruling → NameSet
  | allow => filter.1
  | forbid => filter.2

namespace Derivation

/-- How a call rules on a mechanism, if it names it. -/
def ruling? (mechanism : String) : Derivation → Option Ruling
  | allowMechanisms mechanisms => if mechanism ∈ mechanisms then some .allow else none
  | forbidMechanisms mechanisms => if mechanism ∈ mechanisms then some .forbid else none
  | _ => none

def dropsFilter : Derivation → Bool
  | allowAllMechanisms => true
  | without kind => kind = .mechanismFilter
  | withoutAny kinds => .mechanismFilter ∈ kinds
  | _ => false

/-- What a call that does not drop the filter makes of it. -/
def refilter (filter : NameSet × NameSet) : Derivation → NameSet × NameSet
  | allowMechanisms mechanisms => (filter.1.insertAll mechanisms, filter.2.removeAll mechanisms)
  | forbidMechanisms mechanisms => (filter.1.removeAll mechanisms, filter.2.insertAll mechanisms)
  | _ => filter

end Derivation

namespace Configuration

variable {c : Configuration}

theorem mechanismFilter_useMechanismFilter (hs : Settled c.settings) (allowed denied : NameSet)
    (next : Nat) :
    ((c.useMechanismFilter allowed denied).run next).1.mechanismFilter = (allowed, denied) := by
  unfold useMechanismFilter mechanismFilter
  by_cases he : (allowed.isEmpty && denied.isEmpty) = true
  · have hempty := Bool.and_eq_true_iff.mp he
    rw [if_pos he, NameSet.eq_empty_of_isEmpty hempty.1, NameSet.eq_empty_of_isEmpty hempty.2,
      allowAllMechanisms, without, settings_withoutAny hs, List.findSome?_eq_none_iff.mpr]
    · rfl
    · intro setting hm
      have hkept := (List.mem_filter.mp hm).2
      cases setting <;> simp [Setting.kind] at hkept ⊢
  · rw [if_neg he, settings_overlay hs]
    rfl

/-- A filter that is there says something about some mechanism. -/
theorem Lawful.hasKind_mechanismFilter_iff (hc : c.Lawful) :
    c.hasKind .mechanismFilter = true ↔
      ∃ mechanism, mechanism ∈ c.allowedMechanisms ∨ mechanism ∈ c.deniedMechanisms := by
  rw [hasKind_iff]
  constructor
  · rintro ⟨setting, hm, hk⟩
    cases setting <;> simp [Setting.kind] at hk
    next allowed denied =>
      rw [allowedMechanisms, deniedMechanisms, hc.wellFormed.mechanismFilter_eq hm]
      rcases Bool.and_eq_false_iff.mp (hc.sound _ hm).2 with he | he
      · exact (NameSet.exists_mem_of_isEmpty he).imp fun _ => .inl
      · exact (NameSet.exists_mem_of_isEmpty he).imp fun _ => .inr
  · rintro ⟨mechanism, hm⟩
    rcases c.mem_settings_of_mechanismFilter with he | hin
    · rw [allowedMechanisms, deniedMechanisms, he] at hm
      exact absurd hm (not_or_intro List.not_mem_nil List.not_mem_nil)
    · exact ⟨_, hin, rfl⟩

end Configuration

namespace Derivation

variable {c : Configuration} {call : Derivation} {mechanism : String} {ruling : Ruling}

theorem mem_refilter (filter : NameSet × NameSet) :
    mechanism ∈ ruling.among (call.refilter filter) ↔
      call.ruling? mechanism = some ruling ∨
        call.ruling? mechanism = none ∧ mechanism ∈ ruling.among filter := by
  cases call with
  | allowMechanisms mechanisms =>
    cases ruling <;> by_cases hm : mechanism ∈ mechanisms <;>
      simp [Ruling.among, refilter, ruling?, NameSet.mem_insertAll, NameSet.mem_removeAll, hm]
  | forbidMechanisms mechanisms =>
    cases ruling <;> by_cases hm : mechanism ∈ mechanisms <;>
      simp [Ruling.among, refilter, ruling?, NameSet.mem_insertAll, NameSet.mem_removeAll, hm]
  | _ => simp [refilter, ruling?]

theorem ruling?_of_error {error : ConfigurationError} (h : call.derive c = .error error) :
    call.ruling? mechanism = none := by
  cases call <;> first | rfl | cases h

theorem mechanismFilter_derive (hs : Configuration.Settled c.settings)
    (hn : call.dropsFilter = false) {action : Mint Configuration}
    (h : call.derive c = .ok action) (next : Nat) :
    (action.run next).1.mechanismFilter = call.refilter c.mechanismFilter := by
  have hkeep : .mechanismFilter ∉ touched call.footprint →
      (action.run next).1.mechanismFilter = c.mechanismFilter := fun hk =>
    Prod.ext ((frame hs h next).allowedMechanisms hk) ((frame hs h next).deniedMechanisms hk)
  have hself : ∀ kind : SettingKind,
      .mechanismFilter = kind ∨ .mechanismFilter ∈ kind.displaces → kind = .mechanismFilter := by
    intro kind
    cases kind <;> simp [SettingKind.displaces]
  cases call with
  | allowMechanisms mechanisms =>
    cases h
    exact Configuration.mechanismFilter_useMechanismFilter hs _ _ next
  | forbidMechanisms mechanisms =>
    cases h
    exact Configuration.mechanismFilter_useMechanismFilter hs _ _ next
  | allowAllMechanisms => cases hn
  | without kind =>
    apply hkeep
    intro hm
    obtain ⟨upper, hu, hk⟩ := mem_touched.mp hm
    rw [List.mem_singleton.mp hu] at hk
    exact of_decide_eq_false hn (hself kind hk)
  | withoutAny kinds =>
    apply hkeep
    intro hm
    obtain ⟨upper, hu, hk⟩ := mem_touched.mp hm
    rw [hself upper hk] at hu
    exact of_decide_eq_false hn hu
  | _ => exact hkeep (by simp [touched, footprint, SettingKind.displaces])

/-- A call about the filter alone leaves the other settings to serve and refuse as before. -/
theorem supportsMechanism_refilter (hc : c.Lawful) (hn : call.dropsFilter = false)
    (hk : call.footprint = [.mechanismFilter]) {action : Mint Configuration}
    (h : call.derive c = .ok action) (next : Nat) (env : Environment) (mechanism : String) :
    let filter := c.mechanismFilter
    ∃ served : Prop,
      (c.supportsMechanism env mechanism = true ↔
        (mechanism ∈ filter.1 ∨ served) ∧ mechanism ∉ filter.2 ∧
          ¬(mechanism = Mechanism.anonymous ∧ ∃ name, .identity (.named name) ∈ c.settings)) ∧
      ((action.run next).1.supportsMechanism env mechanism = true ↔
        (mechanism ∈ (call.refilter filter).1 ∨ served) ∧ mechanism ∉ (call.refilter filter).2 ∧
          ¬(mechanism = Mechanism.anonymous ∧ ∃ name, .identity (.named name) ∈ c.settings)) := by
  intro filter
  have huntouched := filter_untouched_derive hc.settled h next
  rw [hk] at huntouched
  have hframe := Frame.of_filter huntouched
  have hidentity : ∀ principal, .identity principal ∈ (action.run next).1.settings ↔
      .identity principal ∈ c.settings := fun principal =>
    Configuration.mem_settings_iff_of_filter huntouched
      (by simp [Setting.kind, touched, SettingKind.displaces])
  have hbefore := hc.wellFormed.supportsMechanism_iff env mechanism
  have hafter := (hc.derive h next).wellFormed.supportsMechanism_iff env mechanism
  simp only [Configuration.allowedMechanisms, Configuration.deniedMechanisms,
    mechanismFilter_derive hc.settled hn h next, hframe.callbackHandler (by decide),
    hframe.keyManagerFactory (by decide), hframe.credentialSource (by decide) (by decide),
    hidentity] at hbefore hafter
  rw [or_left_comm] at hbefore hafter
  exact ⟨_, hbefore, hafter⟩

end Derivation

/-- How the last call that names a mechanism rules on it. -/
def lastRuling? (calls : List Derivation) (mechanism : String) : Option Ruling :=
  calls.reverse.findSome? (Derivation.ruling? mechanism)

theorem lastRuling?_cons (call : Derivation) (calls : List Derivation) (mechanism : String) :
    lastRuling? (call :: calls) mechanism =
      (lastRuling? calls mechanism).or (call.ruling? mechanism) := by
  simp [lastRuling?, List.findSome?_append]

theorem Stock.mem_mechanismFilter_follow {stock : Stock} {c : Configuration} (hc : c.Lawful)
    {calls : List Derivation} (hn : ∀ call ∈ calls, call.dropsFilter = false) (mechanism : String)
    (ruling : Ruling) :
    mechanism ∈ ruling.among (stock.follow c calls).2.mechanismFilter ↔
      lastRuling? calls mechanism = some ruling ∨
        lastRuling? calls mechanism = none ∧ mechanism ∈ ruling.among c.mechanismFilter := by
  induction calls generalizing stock c with
  | nil => simp [Stock.follow, lastRuling?]
  | cons call rest ih =>
    have hrest : ∀ later ∈ rest, later.dropsFilter = false :=
      fun later hm => hn later (List.mem_cons_of_mem call hm)
    rw [lastRuling?_cons]
    cases hd : call.derive c with
    | error error =>
      simp only [Stock.follow, hd, Derivation.ruling?_of_error hd, Option.or_none]
      exact ih hc hrest
    | ok action =>
      have hstep := Derivation.mechanismFilter_derive hc.settled (hn call List.mem_cons_self) hd
        stock.next
      simp only [Stock.follow, hd]
      rw [ih (hc.derive hd stock.next) hrest, hstep, Derivation.mem_refilter]
      -- A ruling of a later call stands; only where there is none does this call come in.
      cases lastRuling? rest mechanism <;> simp

namespace Configuration

section

variable {c : Configuration} (hc : c.Lawful) (env : Environment) (mechanisms : List String)
  (next : Nat) (mechanism : String)
include hc

theorem Lawful.supportsMechanism_forbidMechanisms :
    ((c.forbidMechanisms mechanisms).run next).1.supportsMechanism env mechanism = true ↔
      c.supportsMechanism env mechanism = true ∧ mechanism ∉ mechanisms := by
  have hd : (Derivation.forbidMechanisms mechanisms).derive c = .ok _ := rfl
  obtain ⟨served, hbefore, hafter⟩ :=
    Derivation.supportsMechanism_refilter hc rfl rfl hd next env mechanism
  rw [hbefore, hafter]
  simp only [Derivation.refilter, NameSet.mem_insertAll, NameSet.mem_removeAll]
  by_cases hm : mechanism ∈ mechanisms <;> simp [hm]

theorem Lawful.supportsMechanism_allowMechanisms :
    ((c.allowMechanisms mechanisms).run next).1.supportsMechanism env mechanism = true ↔
      c.supportsMechanism env mechanism = true ∨ mechanism ∈ mechanisms ∧
        ¬(mechanism = Mechanism.anonymous ∧ ∃ name, .identity (.named name) ∈ c.settings) := by
  have hd : (Derivation.allowMechanisms mechanisms).derive c = .ok _ := rfl
  obtain ⟨served, hbefore, hafter⟩ :=
    Derivation.supportsMechanism_refilter hc rfl rfl hd next env mechanism
  rw [hbefore, hafter]
  simp only [Derivation.refilter, NameSet.mem_insertAll, NameSet.mem_removeAll]
  by_cases hm : mechanism ∈ mechanisms <;> simp [hm]

end

end Configuration

/-- Allowing and forbidding, with any calls in between that do not drop the filter: about a mechanism
the last call that names it decides, and where none does all is as it was. A filter is there as long
as it says something. What is forbidden is no longer supported and what is allowed is, save anonymous
login for a client that has a name; nothing else changes. -/
theorem rulings_of_calls {stock : Stock} (hs : stock.Reachable) {c : Configuration}
    (hc : c ∈ stock.made) :
    (∀ calls : List Derivation, (∀ call ∈ calls, call.dropsFilter = false) →
      let after := (stock.follow c calls).2
      (∀ mechanism,
        (mechanism ∈ after.allowedMechanisms ↔ lastRuling? calls mechanism = some .allow ∨
          lastRuling? calls mechanism = none ∧ mechanism ∈ c.allowedMechanisms) ∧
        (mechanism ∈ after.deniedMechanisms ↔ lastRuling? calls mechanism = some .forbid ∨
          lastRuling? calls mechanism = none ∧ mechanism ∈ c.deniedMechanisms)) ∧
      (after.hasKind .mechanismFilter = true ↔
        ∃ mechanism, mechanism ∈ after.allowedMechanisms ∨ mechanism ∈ after.deniedMechanisms)) ∧
    ∀ env mechanisms next mechanism,
      (((c.forbidMechanisms mechanisms).run next).1.supportsMechanism env mechanism = true ↔
        c.supportsMechanism env mechanism = true ∧ mechanism ∉ mechanisms) ∧
      (((c.allowMechanisms mechanisms).run next).1.supportsMechanism env mechanism = true ↔
        c.supportsMechanism env mechanism = true ∨ mechanism ∈ mechanisms ∧
          ¬(mechanism = Mechanism.anonymous ∧ ∃ name, .identity (.named name) ∈ c.settings)) := by
  have hl := hs.coherent.lawful c hc
  constructor
  · intro calls hn after
    have hfollow := hs.follow hc calls
    have hla : after.Lawful := hfollow.1.coherent.lawful after hfollow.2.1
    refine ⟨?_, hla.hasKind_mechanismFilter_iff⟩
    intro mechanism
    exact ⟨Stock.mem_mechanismFilter_follow hl hn mechanism .allow,
      Stock.mem_mechanismFilter_follow hl hn mechanism .forbid⟩
  · intro env mechanisms next mechanism
    exact ⟨hl.supportsMechanism_forbidMechanisms env mechanisms next mechanism,
      hl.supportsMechanism_allowMechanisms env mechanisms next mechanism⟩

theorem rulings_of_named :
    let calls := [Derivation.useHost "localhost", .allowMechanisms [Mechanism.plain],
      .forbidMechanisms [Mechanism.plain, Mechanism.anonymous], .usePort 0,
      .allowMechanisms [Mechanism.anonymous], .useName "alice"]
    let run := Stock.initial.follow .empty calls
    run.1.Reachable ∧ run.2 ∈ run.1.made ∧
      Mechanism.anonymous ∈ run.2.allowedMechanisms ∧ Mechanism.plain ∈ run.2.deniedMechanisms ∧
      Mechanism.external ∈ run.2.deniedMechanisms ∧
      ∀ env next,
        let after := ((run.2.allowMechanisms [Mechanism.plain, Mechanism.anonymous]).run next).1
        after.supportsMechanism env Mechanism.plain = true ∧
          after.supportsMechanism env Mechanism.anonymous = false := by
  intro calls run
  have h := Stock.reachable_initial.follow Stock.mem_empty calls
  have hrulings :=
    ((rulings_of_calls Stock.reachable_initial Stock.mem_empty).1 calls (by decide)).1
  have hnamed : .identity (.named ⟨"alice"⟩) ∈ run.2.settings := by decide +kernel
  refine ⟨h.1, h.2.1, (hrulings _).1.mpr (by decide +kernel), (hrulings _).2.mpr (by decide +kernel),
    (hrulings _).2.mpr (by decide +kernel), ?_⟩
  intro env next after
  have hafter := fun mechanism => ((rulings_of_calls h.1 h.2.1).2 env
    [Mechanism.plain, Mechanism.anonymous] next mechanism).2
  refine ⟨(hafter _).mpr (.inr ⟨by decide, fun hp => absurd hp.1 (by decide)⟩), ?_⟩
  apply Bool.eq_false_iff.mpr
  intro hs
  rcases (hafter _).mp hs with hs | ⟨-, hnot⟩
  · have hwf := (h.1.coherent.lawful run.2 h.2.1).wellFormed
    exact ((hwf.supportsMechanism_iff env _).mp hs).2.2 ⟨rfl, _, hnamed⟩
  · exact hnot ⟨rfl, _, hnamed⟩

end ClientAuth
