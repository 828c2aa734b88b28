import Mathlib.Logic.Basic
import ClientAuth.Negotiation.Decorator

/-! A stack of decorators is one rewrite of the request. The protocol and the server name are settled
by the innermost decorator, since it has the last word on the way down, and a property by the
outermost, since each of them only adds to what it is given. -/

namespace ClientAuth

namespace PropertyMap

variable {sought : String}

theorem lookup_cons (entry : String × String) (rest : List (String × String)) :
    (entry :: rest).lookup sought =
      if sought = entry.1 then some entry.2 else rest.lookup sought := by
  rw [List.lookup_cons]
  by_cases h : sought = entry.1
  · rw [if_pos h, beq_iff_eq.mpr h]
  · rw [if_neg h, beq_eq_false_iff_ne.mpr h]

theorem lookup_putSorted (key value : String) (entries : List (String × String)) :
    (putSorted key value entries).lookup sought =
      if sought = key then some value else entries.lookup sought := by
  induction entries with
  | nil => exact lookup_cons (key, value) []
  | cons head rest ih =>
    unfold putSorted
    split
    · exact lookup_cons (key, value) (head :: rest)
    · split
      · next _ heq =>
        rw [lookup_cons, lookup_cons, ← heq]
        by_cases h : sought = key
        · rw [if_pos h, if_pos h]
        · rw [if_neg h, if_neg h, if_neg h]
      · next _ hne =>
        rw [lookup_cons, lookup_cons, ih]
        by_cases h : sought = head.1
        · rw [if_pos h, if_neg (h ▸ Ne.symm hne), if_pos h]
        · rw [if_neg h, if_neg h]

theorem get?_put (properties : PropertyMap) (key value : String) :
    (properties.put key value).get? sought =
      if sought = key then some value else properties.get? sought :=
  lookup_putSorted key value properties.entries

theorem lookup_eq_none {entries : List (String × String)} (h : sought ∉ entries.map Prod.fst) :
    entries.lookup sought = none := by
  induction entries with
  | nil => rfl
  | cons entry rest ih =>
    rw [List.map_cons, List.mem_cons, not_or] at h
    rw [lookup_cons, if_neg h.1, ih h.2]

theorem get?_putAll_of_nodup (properties : PropertyMap) {others : List (String × String)}
    (h : (others.map Prod.fst).Nodup) :
    (properties.putAll others).get? sought = (others.lookup sought).or (properties.get? sought) := by
  induction others generalizing properties with
  | nil => rfl
  | cons entry rest ih =>
    obtain ⟨hnew, hrest⟩ := List.nodup_cons.mp h
    show ((properties.put entry.1 entry.2).putAll rest).get? sought = _
    rw [ih _ hrest, get?_put, lookup_cons]
    by_cases hk : sought = entry.1
    · rw [if_pos hk, if_pos hk, lookup_eq_none (hk ▸ hnew)]
      rfl
    · rw [if_neg hk, if_neg hk]

/-- Where both have a key, the value of `others` is found. -/
theorem get?_putAll (properties others : PropertyMap) :
    (properties.putAll others.entries).get? sought =
      (others.get? sought).or (properties.get? sought) :=
  have hnodup : (others.entries.map Prod.fst).Nodup := by
    refine others.sorted.imp ?_
    rintro key _ hlt rfl
    exact String.lt_irrefl key hlt
  properties.get?_putAll_of_nodup hnodup

end PropertyMap

namespace Decorator

def predicate? : Decorator → Option (String → Bool)
  | filter accepts => some accepts
  | _ => none

def defaults? : Decorator → Option PropertyMap
  | properties defaults => some defaults
  | _ => none

def protocol? : Decorator → Option String
  | protocol name => some name
  | _ => none

def serverName? : Decorator → Option String
  | serverName name => some name
  | _ => none

/-- Whether every filter of the stack accepts the mechanism. -/
def passes (decorators : List Decorator) (mechanism : String) : Bool :=
  (decorators.filterMap predicate?).all fun accepts => accepts mechanism

/-- The properties that come out below the stack, where these go in above. -/
def merged (decorators : List Decorator) (properties : PropertyMap) : PropertyMap :=
  (decorators.filterMap defaults?).foldl (fun merged defaults => defaults.putAll merged.entries)
    properties

def rewrite (decorators : List Decorator) (request : ClientRequest) : ClientRequest where
  mechanisms := request.mechanisms.filter (passes decorators)
  authorizationId := request.authorizationId
  protocol := (decorators.filterMap protocol?).getLast?.getD request.protocol
  serverName := (decorators.filterMap serverName?).getLast?.getD request.serverName
  properties := merged decorators request.properties

variable {rest : List Decorator} {request : ClientRequest}

theorem filter_passes {decorators : List Decorator} (h : decorators.filterMap predicate? = [])
    (mechanisms : List String) : mechanisms.filter (passes decorators) = mechanisms := by
  refine List.filter_eq_self.mpr fun mechanism _ => ?_
  rw [passes, h, List.all_nil]

/-- Without a filter nothing is taken from the mechanisms. -/
theorem ne_nil_of_mechanisms_rewrite {decorators : List Decorator} (hm : request.mechanisms ≠ [])
    (h : (rewrite decorators request).mechanisms = []) : decorators.filterMap predicate? ≠ [] :=
  fun hfree => hm ((filter_passes hfree request.mechanisms).symm.trans h)

theorem rewrite_nil : rewrite [] request = request := by
  show ({ request with mechanisms := request.mechanisms.filter (passes []) } : ClientRequest) = _
  rw [filter_passes rfl]

theorem rewrite_filter (accepts : String → Bool) :
    rewrite (filter accepts :: rest) request =
      rewrite rest { request with mechanisms := request.mechanisms.filter accepts } := by
  unfold rewrite
  simp only [List.filter_filter, Bool.and_comm]
  rfl

theorem rewrite_protocol (name : String) :
    rewrite (protocol name :: rest) request = rewrite rest { request with protocol := name } := by
  unfold rewrite
  rw [show (protocol name :: rest).filterMap protocol? = name :: rest.filterMap protocol? from rfl,
    List.getLast?_cons]
  rfl

theorem rewrite_serverName (name : String) :
    rewrite (serverName name :: rest) request =
      rewrite rest { request with serverName := name } := by
  unfold rewrite
  rw [show (serverName name :: rest).filterMap serverName? =
    name :: rest.filterMap serverName? from rfl, List.getLast?_cons]
  rfl

theorem get?_merged (decorators : List Decorator) (properties : PropertyMap) (key : String) :
    (merged decorators properties).get? key =
      (properties.get? key).or ((decorators.filterMap defaults?).findSome? (·.get? key)) := by
  unfold merged
  induction decorators.filterMap defaults? generalizing properties with
  | nil => simp
  | cons defaults rest ih =>
    rw [List.foldl_cons, ih, PropertyMap.get?_putAll, List.findSome?_cons, Option.or_assoc]
    cases defaults.get? key <;> rfl

end Decorator

namespace ClientFactory

variable {m : Type → Type} [Monad m] {factory : ClientFactory m} {handler : CallbackHandler m}

open ClientAuth.Decorator (rewrite merged passes predicate?)

theorem create_decoratedBy (decorators : List Decorator) (request : ClientRequest) :
    (factory.decoratedBy decorators).create request handler =
      if decorators.filterMap predicate? ≠ [] ∧ (rewrite decorators request).mechanisms = [] then
        return .ok none
      else factory.create (rewrite decorators request) handler := by
  induction decorators generalizing request with
  | nil => rw [Decorator.rewrite_nil]; rfl
  | cons decorator rest ih =>
    cases decorator with
    | filter accepts =>
      -- the rest of the stack is asked for what is left, and stops at that if it has a filter itself
      rw [Decorator.rewrite_filter]
      by_cases he : request.mechanisms.filter accepts = []
      · have hnone : (rewrite rest { request with
            mechanisms := request.mechanisms.filter accepts }).mechanisms = [] :=
          congrArg (List.filter (passes rest)) he
        rw [if_pos ⟨List.cons_ne_nil _ _, hnone⟩]
        exact if_pos (List.isEmpty_iff.mpr he)
      · refine (if_neg (mt List.isEmpty_iff.mp he)).trans ((ih _).trans (if_congr ?_ rfl rfl))
        constructor
        · exact fun h => ⟨List.cons_ne_nil _ _, h.2⟩
        · exact fun h => ⟨Decorator.ne_nil_of_mechanisms_rewrite he h.2, h.2⟩
    | properties defaults => exact ih _
    | protocol name => rw [Decorator.rewrite_protocol]; exact ih _
    | serverName name => rw [Decorator.rewrite_serverName]; exact ih _

theorem mechanismNames_decoratedBy [LawfulMonad m] (decorators : List Decorator)
    (properties : PropertyMap) :
    (factory.decoratedBy decorators).mechanismNames properties = do
      return (← factory.mechanismNames (merged decorators properties)).filter
        (passes decorators) := by
  induction decorators generalizing properties with
  | nil =>
    have hall : ∀ names : List String, names.filter (passes []) = names :=
      Decorator.filter_passes rfl
    simp only [hall, bind_pure]
    rfl
  | cons decorator rest ih =>
    cases decorator with
    | filter accepts =>
      show (do return (← (factory.decoratedBy rest).mechanismNames properties).filter accepts) = _
      simp only [ih, bind_assoc, pure_bind, List.filter_filter]
      rfl
    | properties defaults => exact ih _
    | protocol name => exact ih _
    | serverName name => exact ih _

end ClientFactory

open ClientAuth.Decorator (predicate? protocol? serverName? defaults? passes merged)

/-- Of a stack, whose outermost decorator comes first, the factory sees no more than one request, and
its answer is the answer. The filters work as one, the innermost name is the one that counts, and a
property is the request's own or else that of the outermost decorator that has it. -/
theorem decoratedBy_eq_rewrite {m : Type → Type} [Monad m] [LawfulMonad m]
    (factory : ClientFactory m) (decorators : List Decorator) :
    (∀ (request : ClientRequest) (handler : CallbackHandler m),
      (factory.decoratedBy decorators).create request handler =
        let mechanisms := request.mechanisms.filter (passes decorators)
        if decorators.filterMap predicate? ≠ [] ∧ mechanisms = [] then return .ok none
        else
          factory.create
            { mechanisms := mechanisms
              authorizationId := request.authorizationId
              protocol := (decorators.filterMap protocol?).getLast?.getD request.protocol
              serverName := (decorators.filterMap serverName?).getLast?.getD request.serverName
              properties := merged decorators request.properties }
            handler) ∧
    (∀ properties, (factory.decoratedBy decorators).mechanismNames properties = do
      return (← factory.mechanismNames (merged decorators properties)).filter
        (passes decorators)) ∧
    ∀ properties key, (merged decorators properties).get? key =
      (properties.get? key).or ((decorators.filterMap defaults?).findSome? (·.get? key)) :=
  ⟨fun _ _ => ClientFactory.create_decoratedBy decorators _,
    ClientFactory.mechanismNames_decoratedBy decorators, Decorator.get?_merged decorators⟩

theorem decoratedBy_eq_rewrite_of_nested :
    let factory : ClientFactory (StateM (List ClientRequest)) :=
      { create := fun request _ => do
          modify fun requests => request :: requests
          return .ok none
        mechanismNames := fun _ => return ["PLAIN", "EXTERNAL", "OTP"] }
    let stack : List Decorator := [.properties (.ofList [("a", "outer"), ("b", "outer")]),
      .protocol "outer", .filter fun mechanism => mechanism ≠ "PLAIN",
      .properties (.ofList [("b", "inner"), ("c", "inner")]), .protocol "inner",
      .filter fun mechanism => mechanism ≠ "OTP"]
    let request : ClientRequest := ⟨["OTP", "EXTERNAL", "PLAIN"], some "admin", "remote", "server",
      .ofList [("a", "own")]⟩
    let handler : CallbackHandler (StateM (List ClientRequest)) := fun callbacks =>
      return ⟨callbacks, none⟩
    ((factory.decoratedBy stack).create request handler).run [] = (.ok none,
        [⟨["EXTERNAL"], some "admin", "inner", "server",
          .ofList [("a", "own"), ("b", "outer"), ("c", "inner")]⟩]) ∧
      ((factory.decoratedBy stack).create { request with mechanisms := ["OTP", "PLAIN"] }
        handler).run [] = (.ok none, []) ∧
      ((factory.decoratedBy stack).mechanismNames request.properties).run [] =
        (["EXTERNAL"], []) := by
  intro factory stack request handler
  obtain ⟨hcreate, hnames, -⟩ := decoratedBy_eq_rewrite factory stack
  have hpassing : request.mechanisms.filter (passes stack) = ["EXTERNAL"] := by decide +kernel
  have hstopped : ["OTP", "PLAIN"].filter (passes stack) = [] := by decide +kernel
  have hmerged : merged stack request.properties =
      .ofList [("a", "own"), ("b", "outer"), ("c", "inner")] := by decide +kernel
  refine ⟨?_, ?_, ?_⟩
  · rw [hcreate request handler, hpassing, hmerged]
    rfl
  · rw [hcreate _ handler]
    simp only [hstopped]
    rfl
  · rw [hnames request.properties]
    rfl

end ClientAuth
