import Mathlib.Data.List.Induction
import ClientAuth.Proofs.Interleaving

/-! The parameters that calls leave behind. Of each type the last call counts, and its place among the
others is where the call was made. -/

namespace ClientAuth

namespace ParameterSpec

/-- Of the specs of each type the last one, each where it stands. -/
def latest : List ParameterSpec → List ParameterSpec
  | [] => []
  | spec :: later =>
    if spec.type ∈ later.map ParameterSpec.type then latest later else spec :: latest later

theorem latest_append (before later : List ParameterSpec) :
    latest (before ++ later) =
      (latest before).filter (fun spec => spec.type ∉ later.map ParameterSpec.type) ++
        latest later := by
  induction before with
  | nil => rfl
  | cons spec rest ih =>
    rw [List.cons_append, latest, latest, ih, List.map_append]
    by_cases hr : spec.type ∈ rest.map ParameterSpec.type
    · rw [if_pos (List.mem_append_left _ hr), if_pos hr]
    · by_cases hl : spec.type ∈ later.map ParameterSpec.type
      · rw [if_pos (List.mem_append_right _ hl), if_neg hr,
          List.filter_cons_of_neg (by simpa using hl)]
      · rw [if_neg fun h => (List.mem_append.mp h).elim hr hl, if_neg hr,
          List.filter_cons_of_pos (by simpa using hl), List.cons_append]

theorem latest_cons_of_not_mem {spec : ParameterSpec} {later : List ParameterSpec}
    (h : spec.type ∉ later.map ParameterSpec.type) : latest (spec :: later) = spec :: latest later :=
  if_neg h

theorem mem_latest {spec : ParameterSpec} {calls : List ParameterSpec} :
    spec ∈ latest calls ↔ ∃ before later, calls = before ++ spec :: later ∧
      spec.type ∉ later.map ParameterSpec.type := by
  constructor
  · intro h
    fun_induction latest calls with
    | case1 => exact absurd h List.not_mem_nil
    | case2 call rest hc ih =>
      obtain ⟨before, later, rfl, hl⟩ := ih h
      exact ⟨call :: before, later, rfl, hl⟩
    | case3 call rest hc ih =>
      rcases List.mem_cons.mp h with rfl | hm
      · exact ⟨[], rest, rfl, hc⟩
      · obtain ⟨before, later, rfl, hl⟩ := ih hm
        exact ⟨call :: before, later, rfl, hl⟩
  · rintro ⟨before, later, rfl, h⟩
    rw [latest_append, latest_cons_of_not_mem h]
    exact List.mem_append_right _ List.mem_cons_self

theorem foldl_addTo (held calls : List ParameterSpec) :
    calls.foldl (fun specs spec => spec.addTo specs) held =
      held.filter (fun spec => spec.type ∉ calls.map ParameterSpec.type) ++ latest calls := by
  induction calls using List.reverseRecOn with
  | nil => simp [latest]
  | append_singleton rest spec ih =>
    rw [List.foldl_append, ih, List.foldl_cons, List.foldl_nil, addTo, List.filter_append,
      List.filter_filter, List.append_assoc, latest_append, latest_cons_of_not_mem List.not_mem_nil]
    congr 1
    · apply List.filter_congr
      intro existing _
      by_cases he : existing.type = spec.type <;> simp [he]
    · simp [latest]

/-- What `calls` leave behind where there was `held` before. -/
structure KeepsLatest (held calls specs : List ParameterSpec) : Prop where
  eq_append : specs =
    held.filter (fun spec => spec.type ∉ calls.map ParameterSpec.type) ++ latest calls
  mem_latest_iff : ∀ spec, spec ∈ latest calls ↔ ∃ before later,
    calls = before ++ spec :: later ∧ spec.type ∉ later.map ParameterSpec.type
  ordered : ∀ before spec between spec' later,
    calls = before ++ spec :: (between ++ spec' :: later) →
      spec.type ∉ (between ++ spec' :: later).map ParameterSpec.type →
        spec'.type ∉ later.map ParameterSpec.type → [spec, spec'].Sublist (latest calls)
  nodup : (specs.map ParameterSpec.type).Nodup

theorem latest_ordered {before between later : List ParameterSpec} {spec spec' : ParameterSpec}
    (h : spec.type ∉ (between ++ spec' :: later).map ParameterSpec.type)
    (h' : spec'.type ∉ later.map ParameterSpec.type) :
    [spec, spec'].Sublist (latest (before ++ spec :: (between ++ spec' :: later))) := by
  rw [latest_append, latest_cons_of_not_mem h, latest_append, latest_cons_of_not_mem h']
  refine .trans (.cons_cons spec ?_) (List.sublist_append_right _ _)
  exact .trans (.cons_cons spec' (List.nil_sublist _)) (List.sublist_append_right _ _)

end ParameterSpec

namespace Configuration

variable {c after : Configuration} {calls : List ParameterSpec}

theorem parameterSpecs_useParameterSpec (hs : Settled c.settings) (spec : ParameterSpec)
    (next : Nat) :
    ((c.useParameterSpec spec).run next).1.parameterSpecs = spec.addTo c.parameterSpecs := by
  rw [parameterSpecs, useParameterSpec, settings_overlay hs]
  rfl

theorem Interleaved.parameterSpecs_eq (hc : c.Lawful)
    (h : c.Interleaved .parameterSpecs .useParameterSpec calls after) :
    after.parameterSpecs = calls.foldl (fun specs spec => spec.addTo specs) c.parameterSpecs := by
  refine h.foldl_eq parameterSpecs (fun specs spec => spec.addTo specs)
    (by simp [SettingKind.IsPersonal]) ?_ ?_ hc
  · exact fun hsame => hsame.parameterSpecs (List.mem_singleton_self _)
  · intro before spec action next hl hd
    cases hd
    exact parameterSpecs_useParameterSpec hl.settled spec next

end Configuration

/-- Calls that add parameters, whatever else is set in between, leave those of other types as they
were, and after them the last of each type, in the order of the calls. -/
theorem keepsLatest_of_interleaved {c after : Configuration} (hc : c.Reachable)
    {calls : List ParameterSpec}
    (h : c.Interleaved .parameterSpecs .useParameterSpec calls after) :
    ParameterSpec.KeepsLatest c.parameterSpecs calls after.parameterSpecs where
  eq_append := by rw [h.parameterSpecs_eq hc.lawful, ParameterSpec.foldl_addTo]
  mem_latest_iff _ := ParameterSpec.mem_latest
  ordered := by
    rintro before spec between spec' later rfl hspec hspec'
    exact ParameterSpec.latest_ordered hspec hspec'
  nodup := (h.lawful hc.lawful).nodup_parameterSpecs

theorem keepsLatest_of_repeated_types :
    let salt (text : String) : ParameterSpec := ⟨"salt", .text text⟩
    let iterations (count : Nat) : ParameterSpec := ⟨"iterations", .number count⟩
    let binding : ParameterSpec := ⟨"binding", .text "tls-unique"⟩
    let run := Stock.initial.follow .base
      [.useParameterSpec (iterations 1), .useParameterSpec binding]
    let after := (run.1.follow run.2 [.useParameterSpec (salt "old"),
      .useParameterSpec (iterations 2), .useHost "localhost", .useParameterSpec (salt "new"),
      .useParameterSpec (iterations 3)]).2
    run.2.Reachable ∧
      run.2.Interleaved .parameterSpecs .useParameterSpec
        [salt "old", iterations 2, salt "new", iterations 3] after ∧
      after.parameterSpecs = [binding, salt "new", iterations 3] := by
  intro salt iterations binding run after
  have h := Stock.reachable_initial.follow Stock.mem_base
    [.useParameterSpec (iterations 1), .useParameterSpec binding]
  have hc : run.2.Reachable := ⟨run.1, h.1, h.2.1⟩
  have hsalt : run.2.Interleaved .parameterSpecs .useParameterSpec [salt "old"] _ :=
    Configuration.Interleaved.start.call (salt "old") rfl run.1.next
  have hhost := fun next => (hsalt.call (iterations 2) rfl next).between (.useHost "localhost")
    (by decide) rfl
  have hafter : run.2.Interleaved .parameterSpecs .useParameterSpec
      [salt "old", iterations 2, salt "new", iterations 3] after :=
    ((hhost _ _).call (salt "new") rfl _).call (iterations 3) rfl _
  refine ⟨hc, hafter, ?_⟩
  rw [(keepsLatest_of_interleaved hc hafter).eq_append]
  decide +kernel

end ClientAuth
