import ClientAuth.Proofs.Contract

/-! How providers are searched. The factories are asked one after the other, in whatever state of
the world the one before has left, until one gives a client or fails. -/

namespace ClientAuth

open MonadAttach (CanReturn)

variable {World : Type}

/-- Asked for a client one after the other, all these factories decline. -/
inductive Declined (request : ClientRequest) (handler : CallbackHandler (StateM World)) :
    List (ClientFactory (StateM World)) → World → World → Prop
  | nobody {world : World} : Declined request handler [] world world
  | next {factory : ClientFactory (StateM World)} {rest : List (ClientFactory (StateM World))}
    {start between stop : World}
    (first : (factory.create request handler).run start = (.ok none, between))
    (others : Declined request handler rest between stop) :
    Declined request handler (factory :: rest) start stop

/-- One of the factories gives this answer, a client or an error, after all before it have
declined. -/
def Settled (request : ClientRequest) (handler : CallbackHandler (StateM World))
    (factories : List (ClientFactory (StateM World))) (start : World)
    (answer : Except NegotiationError (Option Client)) (stop : World) : Prop :=
  answer ≠ .ok none ∧ ∃ before factory after between, factories = before ++ factory :: after ∧
    Declined request handler before start between ∧
    (factory.create request handler).run between = (answer, stop)

/-- Asked for their mechanisms one after the other, the factories report these. -/
inductive Reported (properties : PropertyMap) :
    List (ClientFactory (StateM World)) → List (List String) → World → World → Prop
  | nobody {world : World} : Reported properties [] [] world world
  | next {factory : ClientFactory (StateM World)} {rest : List (ClientFactory (StateM World))}
    {report : List String} {reports : List (List String)} {start between stop : World}
    (first : (factory.mechanismNames properties).run start = (report, between))
    (others : Reported properties rest reports between stop) :
    Reported properties (factory :: rest) (report :: reports) start stop

/-- `found` searches these factories: it asks them in this order and no longer than it must, and it
lists what they report. Where they are lawful and none fails, it makes a client as soon as it lists
a requested mechanism. -/
structure Searches (factories : List (ClientFactory (StateM World)))
    (found : ClientFactory (StateM World)) : Prop where
  create_iff : ∀ request handler start answer stop,
    (found.create request handler).run start = (answer, stop) ↔
      (answer = .ok none ∧ Declined request handler factories start stop) ∨
        Settled request handler factories start answer stop
  declines_iff : ∀ request handler start,
    ((found.create request handler).run start).1 = .ok none ↔
      ∃ stop, Declined request handler factories start stop
  mechanismNames : ∀ properties start, ∃ reports names stop,
    Reported properties factories reports start stop ∧
      (found.mechanismNames properties).run start = (names, stop) ∧ names.Nodup ∧
      (∀ name, name ∈ names ↔ ∃ report ∈ reports, name ∈ report) ∧
      names.Pairwise fun a b => reports.flatten.idxOf a < reports.flatten.idxOf b
  creates_iff : (∀ factory ∈ factories, factory.Lawful) → ∀ request handler,
    (∀ factory ∈ factories, ∀ error, ¬ CanReturn (factory.create request handler) (.error error)) →
      ∀ start names, CanReturn (found.mechanismNames request.properties) names →
        ((∃ client, ((found.create request handler).run start).1 = .ok (some client)) ↔
          ∃ mechanism ∈ request.mechanisms, mechanism ∈ names)

theorem canReturn_run {α : Type} (program : StateM World α) (world : World) :
    CanReturn program (program.run world).1 :=
  ⟨world, _, rfl⟩

namespace ClientFactory

variable {request : ClientRequest} {handler : CallbackHandler (StateM World)}
  {factory : ClientFactory (StateM World)} {factories before : List (ClientFactory (StateM World))}
  {start between stop : World} {answer : Except NegotiationError (Option Client)}

theorem run_firstClient_of_answer (rest : List (ClientFactory (StateM World)))
    (h : (factory.create request handler).run start = (answer, stop)) (hne : answer ≠ .ok none) :
    (firstClient request handler (factory :: rest)).run start = (answer, stop) := by
  rw [firstClient, StateT.run_bind, h]
  match answer with
  | .ok none => exact absurd rfl hne
  | .ok (some _) => rfl
  | .error _ => rfl

theorem run_firstClient_append (h : Declined request handler before start between)
    (rest : List (ClientFactory (StateM World))) :
    (firstClient request handler (before ++ rest)).run start =
      (firstClient request handler rest).run between := by
  induction h with
  | nobody => rfl
  | next first _ ih =>
    rw [List.cons_append, firstClient, StateT.run_bind, first]
    exact ih

theorem run_firstClient_of_declined (h : Declined request handler factories start stop) :
    (firstClient request handler factories).run start = (.ok none, stop) := by
  have hall := run_firstClient_append h []
  rwa [List.append_nil] at hall

theorem run_firstClient_of_settled (h : Settled request handler factories start answer stop) :
    (firstClient request handler factories).run start = (answer, stop) := by
  obtain ⟨hne, before, factory, after, between, rfl, hbefore, hfactory⟩ := h
  rw [run_firstClient_append hbefore]
  exact run_firstClient_of_answer after hfactory hne

theorem declined_or_settled (request : ClientRequest) (handler : CallbackHandler (StateM World))
    (factories : List (ClientFactory (StateM World))) (start : World) :
    (∃ stop, Declined request handler factories start stop) ∨
      ∃ answer stop, Settled request handler factories start answer stop := by
  induction factories generalizing start with
  | nil => exact .inl ⟨start, .nobody⟩
  | cons factory rest ih =>
    rcases hfirst : (factory.create request handler).run start with ⟨answer, between⟩
    by_cases hne : answer = .ok none
    · rw [hne] at hfirst
      rcases ih between with ⟨stop, hrest⟩ | ⟨answer, stop, hans, before, found, after, hrest⟩
      · exact .inl ⟨stop, .next hfirst hrest⟩
      · obtain ⟨reached, heq, hbefore, hfound⟩ := hrest
        exact .inr ⟨answer, stop, hans, factory :: before, found, after, reached,
          congrArg (factory :: ·) heq, .next hfirst hbefore, hfound⟩
    · exact .inr ⟨answer, between, hne, [], factory, rest, start, rfl, .nobody, hfirst⟩

theorem run_firstClient_iff :
    (firstClient request handler factories).run start = (answer, stop) ↔
      (answer = .ok none ∧ Declined request handler factories start stop) ∨
        Settled request handler factories start answer stop := by
  constructor
  · intro h
    rcases declined_or_settled request handler factories start with
      ⟨reached, hdeclined⟩ | ⟨given, reached, hsettled⟩
    · rw [run_firstClient_of_declined hdeclined] at h
      cases h
      exact .inl ⟨rfl, hdeclined⟩
    · rw [run_firstClient_of_settled hsettled] at h
      cases h
      exact .inr hsettled
  · rintro (⟨rfl, hdeclined⟩ | hsettled)
    · exact run_firstClient_of_declined hdeclined
    · exact run_firstClient_of_settled hsettled

theorem run_firstClient_eq_none_iff :
    ((firstClient request handler factories).run start).1 = .ok none ↔
      ∃ stop, Declined request handler factories start stop := by
  rcases declined_or_settled request handler factories start with
    ⟨stop, hdeclined⟩ | ⟨answer, stop, hsettled⟩
  · rw [run_firstClient_of_declined hdeclined]
    exact iff_of_true rfl ⟨stop, hdeclined⟩
  · rw [run_firstClient_of_settled hsettled]
    refine iff_of_false hsettled.1 ?_
    rintro ⟨reached, hdeclined⟩
    have hrun := run_firstClient_of_settled hsettled
    rw [run_firstClient_of_declined hdeclined] at hrun
    exact hsettled.1 (Prod.ext_iff.mp hrun).1.symm

theorem run_firstClient_ne_error
    (h : ∀ factory ∈ factories, ∀ error,
      ¬ CanReturn (factory.create request handler) (.error error))
    (error : NegotiationError) :
    ((firstClient request handler factories).run start).1 ≠ .error error := by
  rcases declined_or_settled request handler factories start with
    ⟨stop, hdeclined⟩ | ⟨answer, stop, hsettled⟩
  · rw [run_firstClient_of_declined hdeclined]
    exact nofun
  · rw [run_firstClient_of_settled hsettled]
    rintro rfl
    obtain ⟨-, before, factory, after, between, rfl, -, hfactory⟩ := hsettled
    have hreturned := canReturn_run (factory.create request handler) between
    rw [hfactory] at hreturned
    exact h factory (List.mem_append_right before List.mem_cons_self) error hreturned

theorem reported_of_mapM (properties : PropertyMap)
    (factories : List (ClientFactory (StateM World))) (start : World) :
    ∃ reports stop, Reported properties factories reports start stop ∧
      (factories.mapM fun factory : ClientFactory (StateM World) =>
        factory.mechanismNames properties).run start = (reports, stop) := by
  induction factories generalizing start with
  | nil => exact ⟨[], start, .nobody, rfl⟩
  | cons factory rest ih =>
    rcases hfirst : (factory.mechanismNames properties).run start with ⟨report, between⟩
    obtain ⟨reports, stop, hreported, hrest⟩ := ih between
    refine ⟨report :: reports, stop, .next hfirst hreported, ?_⟩
    rw [List.mapM_cons, StateT.run_bind, hfirst]
    show (do
      let others ← rest.mapM fun factory => factory.mechanismNames properties
      return report :: others : StateM World _).run between = _
    rw [StateT.run_bind, hrest]
    rfl

theorem creates_search_iff (hl : ∀ factory ∈ factories, factory.Lawful)
    (hf : ∀ factory ∈ factories, ∀ error,
      ¬ CanReturn (factory.create request handler) (.error error)) {names : List String}
    (hn : CanReturn ((search factories).mechanismNames request.properties) names) :
    (∃ client, (((search factories).create request handler).run start).1 = .ok (some client)) ↔
      ∃ mechanism ∈ request.mechanisms, mechanism ∈ names := by
  obtain ⟨reports, hreports, rfl⟩ := report_of_search hn
  have hreturned := canReturn_run ((search factories).create request handler) start
  have hnofail : ∀ error, (((search factories).create request handler).run start).1 ≠
      .error error := run_firstClient_ne_error hf
  cases hans : (((search factories).create request handler).run start).1 with
  | error error => exact absurd hans (hnofail error)
  | ok client =>
    rw [hans] at hreturned
    have hnames : ∀ name, name ∈ firstPerKey id reports.flatten ↔
        ∃ report ∈ reports, name ∈ report := fun _ => mem_firstPerKey_flatten
    have hnone : choiceAmong request.mechanisms reports = none ↔ _ :=
      choiceAmong_eq_none_iff hnames
    rw [← mechanism_of_search hl hreports hreturned, Option.map_eq_none_iff] at hnone
    cases client with
    | none =>
      refine iff_of_false nofun ?_
      rintro ⟨mechanism, hm, hin⟩
      exact hnone.mp rfl mechanism hm hin
    | some client =>
      have hsome := mt hnone.mpr (Option.some_ne_none client)
      push Not at hsome
      exact iff_of_true ⟨client, rfl⟩ hsome

theorem searches_search (factories : List (ClientFactory (StateM World))) :
    Searches factories (search factories) where
  create_iff _ _ _ _ _ := run_firstClient_iff
  declines_iff _ _ _ := run_firstClient_eq_none_iff
  mechanismNames properties start := by
    obtain ⟨reports, stop, hreported, hrun⟩ := reported_of_mapM properties factories start
    refine ⟨reports, firstPerKey id reports.flatten, stop, hreported, ?_, ?_,
      fun _ => mem_firstPerKey_flatten, pairwise_idxOf_firstPerKey reports.flatten⟩
    · rw [search, StateT.run_bind, hrun, ← firstOccurrences_eq_firstPerKey]
      rfl
    · have hnodup : ((firstPerKey id reports.flatten).map id).Nodup := nodup_map_firstPerKey _
      rwa [List.map_id] at hnodup
  creates_iff hl _ _ hf _ _ hn := creates_search_iff hl hf hn

end ClientFactory

/-- The providers of a supplier are searched in their order, and the factories of each in theirs. -/
theorem searches_of_discovery (co : Collaborators (StateM World)) (supplier : ProviderSupplier) :
    Searches (supplier.factories co) (supplier.discovery co) := by
  rw [supplier.discovery_eq_search co]
  exact ClientFactory.searches_search _

def ClientFactory.telling (index : Nat) (names : List String) :
    ClientFactory (StateM (List Nat)) where
  create request handler := do
    modify fun asked => asked ++ [index]
    (offering names).create request handler
  mechanismNames := (offering names).mechanismNames

theorem ClientFactory.create_of_telling {index : Nat} {names : List String}
    {request : ClientRequest} {handler : CallbackHandler (StateM (List Nat))}
    {answer : Except NegotiationError (Option Client)}
    (h : CanReturn ((telling index names).create request handler) answer) :
    CanReturn ((offering names).create request handler : StateM (List Nat) _) answer := by
  obtain ⟨_, -, h⟩ := LawfulMonadAttach.canReturn_bind_imp' h
  exact h

/-- The first two factories are asked for what only the second of them can run. -/
theorem searches_of_telling :
    let co : Collaborators (StateM (List Nat)) :=
      { (Collaborators.inert : Collaborators (StateM (List Nat))) with
        clientFactory := fun factory => .telling factory.id.index
          ([["OTP"], ["GSSAPI", "OTP"], ["PLAIN", "GSSAPI"]].getD factory.id.index []) }
    let supplier : ProviderSupplier := .fixed default [⟨⟨0⟩, "first", [⟨⟨0⟩⟩, ⟨⟨1⟩⟩], none⟩,
      ⟨⟨1⟩, "second", [⟨⟨2⟩⟩], none⟩]
    let request : ClientRequest :=
      { (default : ClientRequest) with mechanisms := ["PLAIN", "GSSAPI"] }
    let handler : CallbackHandler (StateM (List Nat)) := fun callbacks => return ⟨callbacks, none⟩
    let found := supplier.discovery co
    (found.create request handler).run [] = (.ok (some ⟨"GSSAPI"⟩), [0, 1]) ∧
      Settled request handler (supplier.factories co) [] (.ok (some ⟨"GSSAPI"⟩)) [0, 1] ∧
      (found.mechanismNames request.properties).run [] = (["OTP", "GSSAPI", "PLAIN"], []) ∧
      ∀ start, ∃ client, ((found.create request handler).run start).1 = .ok (some client) := by
  intro co supplier request handler found
  have h := searches_of_discovery co supplier
  have hrun : (found.create request handler).run [] = (.ok (some ⟨"GSSAPI"⟩), [0, 1]) :=
    rfl
  have hsettled := (h.create_iff request handler [] _ _).mp hrun
  have hnames : (found.mechanismNames request.properties).run [] =
      (["OTP", "GSSAPI", "PLAIN"], []) :=
    rfl
  have htelling : ∀ factory ∈ supplier.factories co,
      ∃ index names, factory = .telling index names := by
    intro factory hf
    obtain ⟨provider, -, hf⟩ := List.mem_flatMap.mp hf
    obtain ⟨reference, -, rfl⟩ := List.mem_map.mp hf
    exact ⟨_, _, rfl⟩
  have hlawful : ∀ factory ∈ supplier.factories co, factory.Lawful := by
    intro factory hf request handler client reported hreported hclient
    obtain ⟨index, names, rfl⟩ := htelling factory hf
    exact ClientFactory.lawful_offering names request handler client reported hreported
      (ClientFactory.create_of_telling hclient)
  have hnofail : ∀ factory ∈ supplier.factories co, ∀ error,
      ¬ CanReturn (factory.create request handler) (.error error) := by
    intro factory hf error herror
    obtain ⟨index, names, rfl⟩ := htelling factory hf
    cases LawfulMonadAttach.eq_of_canReturn_pure (ClientFactory.create_of_telling herror)
  have hlisted := canReturn_run (found.mechanismNames request.properties) []
  rw [hnames] at hlisted
  refine ⟨hrun, hsettled.resolve_left nofun, hnames, fun start => ?_⟩
  exact (h.creates_iff hlawful request handler hnofail start _ hlisted).mpr
    ⟨"PLAIN", by decide, by decide⟩

end ClientAuth
