import ClientAuth.Proofs.Footprint
import ClientAuth.Proofs.Reachability

/-! Standing choices. All that calls put on a chain is composed of picks, and such an operation
either selects an option or leaves the callback as it is. -/

namespace ClientAuth

namespace ChoiceOperation

/-- Nothing is known of a custom operation: it may even change a callback that it declines. -/
def Standing : ChoiceOperation → Prop
  | never => True
  | custom _ => False
  | picking _ _ _ => True
  | orElse _ first fallback => first.Standing ∧ fallback.Standing

theorem Standing.apply_cases {operation : ChoiceOperation} (h : operation.Standing)
    (env : Environment) (callback : ChoiceCallback) :
    operation.apply env callback = (false, callback) ∨
      ∃ index, operation.apply env callback = (true, callback.select index) := by
  induction operation with
  | never => exact .inl rfl
  | custom operation => cases h
  | picking id test option =>
    unfold apply
    split
    · next index hp => exact .inr ⟨index, rfl⟩
    · exact .inl rfl
  | orElse id first fallback ihf ihs =>
    unfold apply
    rcases ihf h.1 with hf | ⟨index, hf⟩
    · -- What declines leaves the callback as it is, so the fallback sees it unchanged.
      rw [hf]
      exact ihs h.2
    · rw [hf]
      exact .inr ⟨index, rfl⟩

end ChoiceOperation

def Setting.Standing : Setting → Prop
  | .choice operation => operation.Standing
  | _ => True

theorem Configuration.standing_choiceOperation {c : Configuration}
    (h : ∀ setting ∈ c.settings, setting.Standing) : c.choiceOperation.Standing := by
  apply findSome?_getD_induction (P := ChoiceOperation.Standing)
  · trivial
  · intro setting hm operation hr
    cases setting <;> simp at hr
    subst hr
    exact h _ hm

/-- Only the call that adds a pick puts a choice on a chain. -/
theorem Derivation.keeps_standing : Keeps Setting.Standing := by
  intro c call minted next hc he setting hm
  cases setting with
  | choice operation =>
    have hf := footprint_of_push_mem he hm
    cases call with
    | useChoice test option =>
      cases he
      cases List.mem_singleton.mp hm
      exact ⟨Configuration.standing_choiceOperation hc, trivial⟩
    | without kind =>
      cases he
      cases List.mem_singleton.mp hm
    | withoutAny kinds =>
      cases he
      cases List.mem_singleton.mp hm
    | _ => cases hf
  | _ => trivial

theorem Stock.Reachable.standing {stock : Stock} (hs : stock.Reachable) {c : Configuration}
    (hc : c ∈ stock.made) : c.choiceOperation.Standing :=
  Configuration.standing_choiceOperation (hs.forall_settings Derivation.keeps_standing c hc)

end ClientAuth
