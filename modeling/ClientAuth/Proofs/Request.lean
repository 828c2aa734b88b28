import ClientAuth.Proofs.Delivery
import ClientAuth.Proofs.Reachability
import ClientAuth.Proofs.Response

/-! Making a client is one request. Whatever a configuration puts around the factory that an
operator gives, the factory sees a single request, for the offered mechanisms that the configuration
supports. -/

namespace ClientAuth

variable {m : Type → Type} [Monad m]

namespace Configuration

variable {env : Environment} {c : Configuration} {offered : List String} {mechanism : String}

theorem supportsMechanism_of_mem (h : mechanism ∈ c.filterMechanisms env offered) :
    c.supportsMechanism env mechanism = true :=
  (List.mem_filter.mp h).2

theorem filterMechanisms_sublist : (c.filterMechanisms env offered).Sublist offered :=
  List.filter_sublist

theorem count_filterMechanisms :
    (c.filterMechanisms env offered).count mechanism =
      if c.supportsMechanism env mechanism then offered.count mechanism else 0 := by
  by_cases hs : c.supportsMechanism env mechanism = true
  · rw [if_pos hs, filterMechanisms, List.count_filter hs]
  · rw [if_neg hs]
    apply List.count_eq_zero.mpr
    exact fun hm => hs (supportsMechanism_of_mem hm)

theorem responder_eq_getD (co : Collaborators m) (c : Configuration) :
    c.responder co = (c.callbackHandler.map co.handler).getD (c.respond co) := by
  unfold responder
  cases c.callbackHandler <;> rfl

end Configuration

/-- A client is made by applying the operator to the configuration's own factory, and by one request
to what it gives, whose answer is the answer. Nothing is requested where no offered mechanism is
supported. -/
theorem createClient_eq_create [LawfulMonad m] (co : Collaborators m) (c : Configuration) :
    ∃ own : CallbackHandler m, own.AnswersBy (c.answer co) ∧
      ∀ (target : Target) (offered : List String),
        let mechanisms := c.filterMechanisms co.toEnvironment offered
        mechanisms.Sublist offered ∧
        (∀ mechanism, mechanisms.count mechanism =
          if c.supportsMechanism co.toEnvironment mechanism then offered.count mechanism else 0) ∧
        (∀ mechanism ∈ mechanisms, c.supportsMechanism co.toEnvironment mechanism = true) ∧
        ∀ operator : BaseFactory → m (ClientFactory m),
          c.createClient co target offered operator = (do
            let factory ← operator (← c.baseFactory co)
            if mechanisms = [] then return .ok none
            else
              factory.create
                { mechanisms := mechanisms
                  authorizationId := c.authorizationName
                  protocol := c.protocol.getD target.scheme
                  serverName := c.host.getD (target.host.getD "")
                  properties := c.mechanismProperties }
                ((c.callbackHandler.map co.handler).getD own)) := by
  refine ⟨c.respond co, Configuration.answersBy_iff.mpr rfl, ?_⟩
  intro target offered mechanisms
  refine ⟨Configuration.filterMechanisms_sublist,
    fun mechanism => Configuration.count_filterMechanisms,
    fun mechanism => Configuration.supportsMechanism_of_mem, ?_⟩
  intro operator
  rw [c.createClient_eq]
  congr 1
  funext base
  congr 1
  funext factory
  rw [← c.responder_eq_getD]
  by_cases he : c.filterMechanisms co.toEnvironment offered = []
  · rw [if_pos he, Configuration.delivery, he]
    exact liftM_pure (Except.ok none)
  · rw [if_neg he, Configuration.delivery, List.isEmpty_eq_false_iff.mpr he]
    rfl

/-- A factory that keeps the requests put to it, the last one first, and can run every mechanism. -/
def ClientFactory.recorder : ClientFactory (StateM (List ClientRequest)) where
  create request _ := do
    modify fun requests => request :: requests
    return .ok (request.mechanisms.head?.map Client.mk)
  mechanismNames _ := return []

theorem createClient_of_recorder :
    let co : Collaborators (StateM (List ClientRequest)) := .inert
    let c := (Stock.initial.follow .base [.useBearerToken ⟨"token"⟩, .useHost "localhost",
      .useAuthorizationName (some "admin"), .useMechanismProperties [("realm", "a")]]).2
    let made := ((c.createClient co ⟨"remote", some "server"⟩
      ["PLAIN", "OAUTHBEARER", "JBOSS-LOCAL-USER", "OAUTHBEARER"]
        fun _ => return .recorder).run .empty).run []
    made.1.1 = .ok (some ⟨"OAUTHBEARER"⟩) ∧
      made.2 = [⟨["OAUTHBEARER", "JBOSS-LOCAL-USER", "OAUTHBEARER"], some "admin", "remote",
        "localhost", .ofList [("realm", "a")]⟩] := by
  intro co c made
  obtain ⟨own, -, hcreate⟩ := createClient_eq_create co c
  obtain ⟨-, -, -, heq⟩ := hcreate ⟨"remote", some "server"⟩
    ["PLAIN", "OAUTHBEARER", "JBOSS-LOCAL-USER", "OAUTHBEARER"]
  have hmechanisms : c.filterMechanisms co.toEnvironment
      ["PLAIN", "OAUTHBEARER", "JBOSS-LOCAL-USER", "OAUTHBEARER"] =
        ["OAUTHBEARER", "JBOSS-LOCAL-USER", "OAUTHBEARER"] := by decide +kernel
  have hc : c = ⟨[⟨⟨6⟩, .mechanismProperties (.ofList [("realm", "a")])⟩,
      ⟨⟨5⟩, .authorizationName "admin"⟩, ⟨⟨4⟩, .host "localhost"⟩,
      ⟨⟨3⟩, .credentials (.held ⟨[.bearerToken ⟨"token"⟩]⟩)⟩]⟩ := by decide +kernel
  have hmade : made = (((c.createClient co ⟨"remote", some "server"⟩
      ["PLAIN", "OAUTHBEARER", "JBOSS-LOCAL-USER", "OAUTHBEARER"]
        fun _ => return .recorder).run .empty).run []) := rfl
  rw [heq, hmechanisms, hc] at hmade
  rw [hmade]
  exact ⟨rfl, rfl⟩

end ClientAuth
