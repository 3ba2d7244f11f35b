import JsxRouting.Pass.Progress

namespace JsxRouting

theorem bind_eq_ok_iff {ε α β : Type} {first : Except ε α} {next : α → Except ε β} {result : β} :
    first >>= next = .ok result ↔ ∃ value, first = .ok value ∧ next value = .ok result := by
  cases first with
  | error error => exact ⟨nofun, nofun⟩
  | ok value => exact ⟨fun run => ⟨value, rfl, run⟩, fun ⟨_, same, run⟩ => by cases same; exact run⟩

theorem map_eq_ok_iff {α β : Type} {first : Except Error α} {change : α → β} {result : β} :
    first.map change = .ok result ↔ ∃ value, first = .ok value ∧ change value = result := by
  cases first with
  | error error => exact ⟨nofun, nofun⟩
  | ok value => exact ⟨fun run => ⟨value, rfl, Except.ok.inj run⟩,
    fun ⟨_, same, run⟩ => by cases same; rw [← run]; rfl⟩

/-- An action that, from any progress of which `holds`, does what a plain computation does and leaves
an effect. -/
def Acts (holds : Progress → Prop) {α : Type} (action : PassM α) (plain : Except Error α)
    (effect : Progress → Progress) : Prop :=
  ∀ progress, holds progress → action progress = plain.map fun value => (value, effect progress)

namespace Acts

variable {holds : Progress → Prop} {α β : Type}

theorem pure (value : α) : Acts holds (Pure.pure value) (Pure.pure value) id := fun _ _ => rfl

/-- One action after another, if the effect of the first leaves what the second needs. -/
theorem bind {action : PassM α} {plain : Except Error α} {effect after : Progress → Progress}
    {next : α → PassM β} {plainNext : α → Except Error β} (first : Acts holds action plain effect)
    (keeps : ∀ progress, holds progress → holds (effect progress))
    (second : ∀ value, plain = .ok value → Acts holds (next value) (plainNext value) after) :
    Acts holds (action >>= next) (plain >>= plainNext) (after ∘ effect) := by
  intro progress held
  have run : (action >>= next) progress = action progress >>= fun (value, progress) => next value progress := rfl
  rw [run, first progress held]
  cases plain with
  | error error => rfl
  | ok value => exact second value rfl (effect progress) (keeps progress held)

end Acts

end JsxRouting
