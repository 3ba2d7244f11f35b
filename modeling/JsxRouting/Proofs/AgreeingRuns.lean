import JsxRouting.Proofs.Outcomes
import Mathlib.Data.List.Forall2

namespace JsxRouting

/-- Both fail with the same error, or both succeed with related results. -/
inductive Agree {α β : Type} (related : α → β → Prop) : Except Error α → Except Error β → Prop
  | ok {value : α} {other : β} : related value other → Agree related (.ok value) (.ok other)
  | error (error : Error) : Agree related (.error error) (.error error)

/-- From related states, both fail with the same error, or both succeed with related results and leave related
states. -/
def AgreeFrom {σ α β : Type} (states : σ → σ → Prop) (related : α → β → Prop) (action : StateT σ (Except Error) α)
    (other : StateT σ (Except Error) β) : Prop :=
  ∀ state after, states state after →
    Agree (fun result other => related result.1 other.1 ∧ states result.2 other.2) (action state) (other after)

section Plain

variable {α β γ δ : Type} {related : α → β → Prop} {results : γ → δ → Prop}

namespace Agree

theorem refl {related : α → α → Prop} {run : Except Error α}
    (holds : ∀ value, run = .ok value → related value value) :
    Agree related run run := by
  cases run with
  | ok value => exact .ok (holds value rfl)
  | error error => exact .error error

theorem imp {others : α → β → Prop} {first : Except Error α} {second : Except Error β}
    (agree : Agree related first second) (implies : ∀ value other, related value other → others value other) :
    Agree others first second := by
  cases agree with
  | ok values => exact .ok (implies _ _ values)
  | error error => exact .error error

/-- What comes next has to agree only for what the first computation succeeds with. -/
theorem bind_of_ok {first : Except Error α} {second : Except Error β} {next : α → Except Error γ}
    {after : β → Except Error δ} (agree : Agree related first second)
    (agreeNext : ∀ value other, first = .ok value → related value other →
      Agree results (next value) (after other)) :
    Agree results (first >>= next) (second >>= after) := by
  cases agree with
  | ok values => exact agreeNext _ _ rfl values
  | error error => exact .error error

theorem bind {first : Except Error α} {second : Except Error β} {next : α → Except Error γ}
    {after : β → Except Error δ}
    (agree : Agree related first second)
    (agreeNext : ∀ value other, related value other → Agree results (next value) (after other)) :
    Agree results (first >>= next) (second >>= after) := agree.bind_of_ok fun value other _ => agreeNext value other

theorem map {first : Except Error α} {second : Except Error β} {change : α → γ} {other : β → δ}
    (agree : Agree related first second)
    (changed : ∀ value after, related value after → results (change value) (other after)) :
    Agree results (first.map change) (second.map other) := by
  cases agree with
  | ok values => exact .ok (changed _ _ values)
  | error error => exact .error error

theorem mapM {step : α → Except Error γ} {change : β → Except Error δ} {list : List α} {others : List β}
    (lists : List.Forall₂ related list others)
    (agree : ∀ value other, related value other → Agree results (step value) (change other)) :
    Agree (List.Forall₂ results) (list.mapM step) (others.mapM change) := by
  induction lists with
  | nil => exact .ok .nil
  | @cons value other rest tail values _ ih =>
    rw [List.mapM_cons, List.mapM_cons]
    refine (agree value other values).bind fun result change results => ih.bind fun _ _ tails => ?_
    exact .ok (.cons results tails)

/-- What one run succeeds with is related to what the other succeeds with. -/
theorem of_ok {first : Except Error α} {second : Except Error β} {value : α} (agree : Agree related first second)
    (ran : first = .ok value) : ∃ other, second = .ok other ∧ related value other := by
  cases agree with
  | ok values =>
    cases ran
    exact ⟨_, rfl, values⟩
  | error error => cases ran

/-- Runs that agree up to equality are one. -/
theorem eq {first second : Except Error α} (agree : Agree Eq first second) : first = second := by
  cases agree with
  | ok same => rw [same]
  | error => rfl

end Agree

end Plain

namespace AgreeFrom

variable {σ α β γ δ : Type} {states : σ → σ → Prop} {related : α → β → Prop} {results : γ → δ → Prop}

theorem pure {value : α} {other : β} (values : related value other) :
    AgreeFrom states related (Pure.pure value) (Pure.pure other) := fun _ _ held => .ok ⟨values, held⟩

theorem bind {action : StateT σ (Except Error) α} {other : StateT σ (Except Error) β}
    {next : α → StateT σ (Except Error) γ} {after : β → StateT σ (Except Error) δ}
    (agree : AgreeFrom states related action other)
    (agreeNext : ∀ value other, related value other → AgreeFrom states results (next value) (after other)) :
    AgreeFrom states results (action >>= next) (other >>= after) := fun state final held =>
  Agree.bind (agree state final held) fun _ _ both => agreeNext _ _ both.1 _ _ both.2

/-- A computation that knows no state leaves the states as they are. -/
theorem lift {first : Except Error α} {second : Except Error β} (agree : Agree related first second) :
    AgreeFrom states related (liftM first : StateT σ (Except Error) α) (liftM second : StateT σ (Except Error) β) :=
  fun _ _ held => agree.bind fun _ _ values => .ok ⟨values, held⟩

end AgreeFrom

end JsxRouting
