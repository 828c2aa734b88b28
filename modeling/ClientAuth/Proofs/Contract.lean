import Mathlib.Logic.Relation
import ClientAuth.Proofs.FirstPerKey

/-! What a factory owes, and what a search makes of it. A factory is to take the first requested
mechanism that it can run. A search through such factories takes the first factory that can run any
requested mechanism, so that the order of the providers goes before the order of the request. -/

namespace ClientAuth

open MonadAttach (CanReturn)

section Choice

variable {requested names : List String} {reports : List (List String)} {report : List String}

/-- The first requested mechanism of the first report that has any. -/
def choiceAmong (requested : List String) (reports : List (List String)) : Option String :=
  reports.findSome? fun report => requested.find? fun name => name ∈ report

theorem choiceAmong_eq_none_iff (hn : ∀ name, name ∈ names ↔ ∃ report ∈ reports, name ∈ report) :
    choiceAmong requested reports = none ↔ ∀ name ∈ requested, name ∉ names := by
  simp only [choiceAmong, List.findSome?_eq_none_iff, List.find?_eq_none, decide_eq_true_eq, hn]
  constructor
  · rintro h name hm ⟨report, hr, hin⟩
    exact h report hr name hm hin
  · exact fun h report hr name hm hin => h name hm ⟨report, hr, hin⟩

theorem choiceAmong_of_find?
    (h : (reports.find? fun report => requested.any fun name => name ∈ report) = some report) :
    choiceAmong requested reports = requested.find? fun name => name ∈ report := by
  obtain ⟨hany, before, after, rfl, hbefore⟩ := List.find?_eq_some_iff_append.mp h
  have hskip : choiceAmong requested before = none := by
    have hnames : ∀ name, name ∈ before.flatten ↔ ∃ report ∈ before, name ∈ report :=
      fun _ => List.mem_flatten
    rw [choiceAmong_eq_none_iff hnames]
    intro name hm hin
    obtain ⟨earlier, he, hin⟩ := List.mem_flatten.mp hin
    have hno := hbefore earlier he
    simp only [Bool.not_eq_true', List.any_eq_false, decide_eq_true_eq] at hno
    exact hno name hm hin
  have hsome : (requested.find? fun name => name ∈ report).isSome = true := by
    rw [List.find?_isSome]
    exact List.any_eq_true.mp hany
  obtain ⟨chosen, hchosen⟩ := Option.isSome_iff_exists.mp hsome
  rw [choiceAmong, List.findSome?_append, show before.findSome? _ = none from hskip, Option.none_or,
    List.findSome?_cons, hchosen]

/-- The choice is the first requested mechanism that any report has, unless the first report with a
requested mechanism lacks it. -/
theorem choiceAmong_eq_find?_iff
    (hn : ∀ name, name ∈ names ↔ ∃ report ∈ reports, name ∈ report) :
    (choiceAmong requested reports = requested.find? fun name => name ∈ names) ↔
      ∀ report wanted,
        (reports.find? fun report => requested.any fun name => name ∈ report) = some report →
          (requested.find? fun name => name ∈ names) = some wanted → wanted ∈ report := by
  constructor
  · intro heq report wanted hreport hwanted
    rw [choiceAmong_of_find? hreport, hwanted] at heq
    simpa using List.find?_some heq
  · intro h
    cases hwanted : requested.find? fun name => name ∈ names with
    | none =>
      rw [choiceAmong_eq_none_iff hn]
      simpa using hwanted
    | some wanted =>
      obtain ⟨hin, before, after, heq, hbefore⟩ := List.find?_eq_some_iff_append.mp hwanted
      have hm : wanted ∈ requested := heq ▸ List.mem_append_right before List.mem_cons_self
      obtain ⟨having, hr, hin'⟩ := (hn wanted).mp (of_decide_eq_true hin)
      have hsome : (reports.find? fun report =>
          requested.any fun name => name ∈ report).isSome = true := by
        rw [List.find?_isSome]
        exact ⟨having, hr, List.any_eq_true.mpr ⟨wanted, hm, decide_eq_true hin'⟩⟩
      obtain ⟨report, hreport⟩ := Option.isSome_iff_exists.mp hsome
      rw [choiceAmong_of_find? hreport]
      refine List.find?_eq_some_iff_append.mpr ⟨?_, before, after, heq, ?_⟩
      · exact decide_eq_true (h report wanted hreport hwanted)
      · -- what is requested earlier is in no report
        intro earlier he
        have hnot := hbefore earlier he
        simp only [Bool.not_eq_true', decide_eq_false_iff_not] at hnot ⊢
        exact fun hin => hnot ((hn earlier).mpr ⟨report, List.mem_of_find?_eq_some hreport, hin⟩)

/-- What is taken where the reports go one after the other, and all of them together have these
names. -/
structure TakenInTurn (requested : List String) (reports : List (List String))
    (names : List String) (taken : Option String) : Prop where
  mem_names : ∀ name, name ∈ names ↔ ∃ report ∈ reports, name ∈ report
  taken_eq : taken = reports.findSome? fun report => requested.find? fun name => name ∈ report
  none_iff : taken = none ↔ ∀ name ∈ requested, name ∉ names
  preferred_iff : (taken = requested.find? fun name => name ∈ names) ↔
    ∀ report wanted,
      (reports.find? fun report => requested.any fun name => name ∈ report) = some report →
        (requested.find? fun name => name ∈ names) = some wanted → wanted ∈ report

theorem takenInTurn (hn : ∀ name, name ∈ names ↔ ∃ report ∈ reports, name ∈ report) :
    TakenInTurn requested reports names (choiceAmong requested reports) where
  mem_names := hn
  taken_eq := rfl
  none_iff := choiceAmong_eq_none_iff hn
  preferred_iff := choiceAmong_eq_find?_iff hn

end Choice

variable {m : Type → Type} [Monad m]

/-- The factories of all providers, in the order in which they are searched. -/
def ProviderSupplier.factories (co : Collaborators m) (supplier : ProviderSupplier) :
    List (ClientFactory m) :=
  (supplier.providers co.toEnvironment).flatMap fun provider =>
    provider.factories.map co.clientFactory

theorem ProviderSupplier.discovery_eq_search (co : Collaborators m) (supplier : ProviderSupplier) :
    supplier.discovery co = .search (supplier.factories co) := by
  unfold discovery factories SecurityProvider.allFactories
  rw [List.map_flatMap]

namespace ClientFactory

/-- A factory that can run these mechanisms, whatever the properties, and never fails. -/
def offering (names : List String) : ClientFactory m where
  create request _ :=
    return .ok ((request.mechanisms.find? fun mechanism => mechanism ∈ names).map Client.mk)
  mechanismNames _ := return names

variable [MonadAttach m]

/-- Where the factory does not fail, it makes a client for the first requested mechanism that it
says it can run, and none where there is no such mechanism. -/
def Lawful (factory : ClientFactory m) : Prop :=
  ∀ request handler client names, CanReturn (factory.mechanismNames request.properties) names →
    CanReturn (factory.create request handler) (.ok client) →
      client.map Client.mechanism = request.mechanisms.find? fun mechanism => mechanism ∈ names

/-- The factories can report their mechanisms so. -/
def Report (properties : PropertyMap) (factories : List (ClientFactory m))
    (reports : List (List String)) : Prop :=
  List.Forall₂ (fun factory report => CanReturn (factory.mechanismNames properties) report)
    factories reports

variable [LawfulMonad m] [LawfulMonadAttach m] {factories : List (ClientFactory m)}
  {properties : PropertyMap} {request : ClientRequest} {handler : CallbackHandler m}
  {reports : List (List String)} {names : List String} {client : Option Client}

theorem lawful_offering (names : List String) : (offering names : ClientFactory m).Lawful := by
  intro request handler client reported hreported hclient
  cases LawfulMonadAttach.eq_of_canReturn_pure hreported
  cases LawfulMonadAttach.eq_of_canReturn_pure hclient
  rw [Option.map_map]
  exact congrFun Option.map_id _

theorem report_of_mapM (h : CanReturn (factories.mapM fun factory =>
    factory.mechanismNames properties) reports) : Report properties factories reports := by
  induction factories generalizing reports with
  | nil =>
    rw [List.mapM_nil] at h
    cases LawfulMonadAttach.eq_of_canReturn_pure h
    exact .nil
  | cons factory rest ih =>
    rw [List.mapM_cons] at h
    obtain ⟨report, hreport, h⟩ := LawfulMonadAttach.canReturn_bind_imp' h
    obtain ⟨others, hothers, h⟩ := LawfulMonadAttach.canReturn_bind_imp' h
    cases LawfulMonadAttach.eq_of_canReturn_pure h
    exact .cons hreport (ih hothers)

theorem report_of_search (h : CanReturn ((search factories).mechanismNames properties) names) :
    ∃ reports, Report properties factories reports ∧ names = firstPerKey id reports.flatten := by
  obtain ⟨reports, hreports, h⟩ := LawfulMonadAttach.canReturn_bind_imp' h
  have heq := LawfulMonadAttach.eq_of_canReturn_pure h
  rw [firstOccurrences_eq_firstPerKey] at heq
  exact ⟨reports, report_of_mapM hreports, heq.symm⟩

theorem mechanism_of_search (hl : ∀ factory ∈ factories, factory.Lawful)
    (hr : Report request.properties factories reports)
    (h : CanReturn ((search factories).create request handler) (.ok client)) :
    client.map Client.mechanism = choiceAmong request.mechanisms reports := by
  induction hr with
  | nil =>
    cases LawfulMonadAttach.eq_of_canReturn_pure h
    rfl
  | @cons factory report rest reports hreport _ ih =>
    obtain ⟨answer, hanswer, h⟩ := LawfulMonadAttach.canReturn_bind_imp' h
    have hfirst := hl factory List.mem_cons_self request handler
    rw [choiceAmong, List.findSome?_cons]
    match answer with
    | .ok none =>
      rw [← hfirst none report hreport hanswer]
      exact ih (fun other hm => hl other (List.mem_cons_of_mem factory hm)) h
    | .ok (some made) =>
      cases LawfulMonadAttach.eq_of_canReturn_pure h
      rw [← hfirst (some made) report hreport hanswer]
      rfl
    | .error error => cases LawfulMonadAttach.eq_of_canReturn_pure h

end ClientFactory

def Collaborators.offering (mechanisms : Ref .clientFactory → List String) : Collaborators m :=
  { (inert : Collaborators m) with clientFactory := fun factory => .offering (mechanisms factory) }

variable [MonadAttach m] [LawfulMonad m] [LawfulMonadAttach m]

theorem lawful_factories_offering (mechanisms : Ref .clientFactory → List String)
    (supplier : ProviderSupplier) :
    ∀ factory ∈ supplier.factories (.offering mechanisms : Collaborators m), factory.Lawful := by
  intro factory hf
  obtain ⟨provider, -, hf⟩ := List.mem_flatMap.mp hf
  obtain ⟨reference, -, rfl⟩ := List.mem_map.mp hf
  exact ClientFactory.lawful_offering _

/-- A search through lawful factories takes the first requested mechanism of the first factory that
can run any, and none where no requested mechanism is among its own names. It is lawful itself in so
far as that factory can run the first requested one among them. -/
theorem takenInTurn_of_discovery (co : Collaborators m) (supplier : ProviderSupplier)
    (hl : ∀ factory ∈ supplier.factories co, factory.Lawful) {request : ClientRequest}
    {handler : CallbackHandler m} {client : Option Client} {names : List String}
    (hn : CanReturn ((supplier.discovery co).mechanismNames request.properties) names)
    (hc : CanReturn ((supplier.discovery co).create request handler) (.ok client)) :
    ∃ reports, ClientFactory.Report request.properties (supplier.factories co) reports ∧
      TakenInTurn request.mechanisms reports names (client.map Client.mechanism) := by
  rw [supplier.discovery_eq_search co] at hn hc
  obtain ⟨reports, hreports, rfl⟩ := ClientFactory.report_of_search hn
  refine ⟨reports, hreports, ?_⟩
  rw [ClientFactory.mechanism_of_search hl hreports hc]
  exact takenInTurn fun _ => ClientFactory.mem_firstPerKey_flatten

/-- The second of three factories is the first one that can run any of the requested mechanisms. -/
theorem takenInTurn_of_offering :
    let co : Collaborators Id := .offering fun factory =>
      [["OTP"], ["GSSAPI", "EXTERNAL"], ["PLAIN", "GSSAPI"]].getD factory.id.index []
    let supplier : ProviderSupplier := .fixed default [⟨⟨0⟩, "first", [⟨⟨0⟩⟩, ⟨⟨1⟩⟩], none⟩,
      ⟨⟨1⟩, "second", [⟨⟨2⟩⟩], none⟩]
    let request : ClientRequest :=
      { (default : ClientRequest) with mechanisms := ["PLAIN", "EXTERNAL", "GSSAPI"] }
    let handler : CallbackHandler Id := fun callbacks => ⟨callbacks, none⟩
    let names := ["OTP", "GSSAPI", "EXTERNAL", "PLAIN"]
    (∀ factory ∈ supplier.factories co, factory.Lawful) ∧
      ((supplier.discovery co).mechanismNames request.properties).run = names ∧
      ((supplier.discovery co).create request handler).run = .ok (some ⟨"EXTERNAL"⟩) ∧
      ∃ reports, ClientFactory.Report request.properties (supplier.factories co) reports ∧
        TakenInTurn request.mechanisms reports names (some "EXTERNAL") := by
  intro co supplier request handler names
  have hl : ∀ factory ∈ supplier.factories co, factory.Lawful :=
    lawful_factories_offering _ supplier
  have hnames : ((supplier.discovery co).mechanismNames request.properties).run = names := by
    decide +kernel
  have hclient : ((supplier.discovery co).create request handler).run =
      .ok (some ⟨"EXTERNAL"⟩) := by
    decide +kernel
  exact ⟨hl, hnames, hclient, takenInTurn_of_discovery co supplier hl hnames hclient⟩

/-- The order of the providers goes before the order of the request: of two lawful factories the
first one decides, although the second could run what is requested first. -/
theorem not_lawful_discovery :
    let co : Collaborators Id := .offering fun factory =>
      if factory = ⟨⟨0⟩⟩ then ["GSSAPI"] else ["PLAIN", "GSSAPI"]
    let supplier : ProviderSupplier := .fixed default
      [⟨⟨0⟩, "first", [⟨⟨0⟩⟩], none⟩, ⟨⟨1⟩, "second", [⟨⟨1⟩⟩], none⟩]
    let request : ClientRequest :=
      { (default : ClientRequest) with mechanisms := ["PLAIN", "GSSAPI"] }
    let handler : CallbackHandler Id := fun callbacks => ⟨callbacks, none⟩
    (∀ factory ∈ supplier.factories co, factory.Lawful) ∧
      ((supplier.discovery co).mechanismNames request.properties).run = ["GSSAPI", "PLAIN"] ∧
      ((supplier.discovery co).create request handler).run = .ok (some ⟨"GSSAPI"⟩) ∧
      ¬ (supplier.discovery co).Lawful := by
  intro co supplier request handler
  have hnames : ((supplier.discovery co).mechanismNames request.properties).run =
      ["GSSAPI", "PLAIN"] := by
    decide +kernel
  have hclient : ((supplier.discovery co).create request handler).run =
      .ok (some ⟨"GSSAPI"⟩) := by
    decide +kernel
  refine ⟨lawful_factories_offering _ supplier, hnames, hclient, ?_⟩
  intro hlawful
  have hpreferred := hlawful request handler _ _ hnames hclient
  exact absurd hpreferred (by decide +kernel)

end ClientAuth
