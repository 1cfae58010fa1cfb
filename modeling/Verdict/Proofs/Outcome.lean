/-!
Outcomes that may be errors: when a computation made of steps succeeds, and with which errors it can fail.
-/

namespace Verdict.Outcome

variable {ε α β : Type}

theorem bind_eq_ok_iff {outcome : Except ε α} {next : α → Except ε β} {result : β} :
    outcome >>= next = .ok result ↔ ∃ value, outcome = .ok value ∧ next value = .ok result := by
  constructor
  · intro success
    cases outcome with
    | error error => cases success
    | ok value => exact ⟨value, rfl, success⟩
  · intro reached
    obtain ⟨value, rfl, success⟩ := reached
    exact success

/-- A step that only checks leaves nothing behind. -/
theorem check_bind_eq_ok_iff {check : Except ε Unit} {next : Except ε β} {result : β} :
    (check >>= fun _ => next) = .ok result ↔ check = .ok () ∧ next = .ok result := by
  rw [bind_eq_ok_iff]
  constructor
  · exact fun ⟨_, passed, success⟩ => ⟨passed, success⟩
  · exact fun ⟨passed, success⟩ => ⟨(), passed, success⟩

theorem map_eq_ok_iff {outcome : Except ε α} {change : α → β} {result : β} :
    outcome.map change = .ok result ↔ ∃ value, outcome = .ok value ∧ change value = result := by
  constructor
  · intro success
    cases outcome with
    | error error => cases success
    | ok value => exact ⟨value, rfl, Except.ok.inj success⟩
  · intro reached
    obtain ⟨value, rfl, rfl⟩ := reached
    rfl

/-- Outcomes without a decidable equality are compared by their values. -/
theorem eq_ok_of_toOption {outcome : Except ε α} {value : α} (found : outcome.toOption = some value) :
    outcome = .ok value := by
  cases outcome with
  | error error => cases found
  | ok result => exact congrArg Except.ok (Option.some.inj found)

/-- An outcome whose error, if any, is a permitted one. -/
def FailsOnly (permitted : ε → Prop) (outcome : Except ε α) : Prop :=
  ∀ error, outcome = .error error → permitted error

namespace FailsOnly

variable {permitted : ε → Prop}

theorem ok (value : α) : FailsOnly permitted (.ok value : Except ε α) := by
  intro error failed
  cases failed

theorem error {error : ε} (known : permitted error) : FailsOnly permitted (.error error : Except ε α) := by
  intro other failed
  cases failed
  exact known

theorem bind {outcome : Except ε α} {next : α → Except ε β} (first : FailsOnly permitted outcome)
    (later : ∀ value, FailsOnly permitted (next value)) : FailsOnly permitted (outcome >>= next) := by
  cases outcome with
  | error problem => exact error (first problem rfl)
  | ok value => exact later value

theorem map {outcome : Except ε α} (first : FailsOnly permitted outcome) (change : α → β) :
    FailsOnly permitted (outcome.map change) := by
  cases outcome with
  | error problem => exact error (first problem rfl)
  | ok value => exact ok (change value)

theorem mapError {φ : Type} {outcome : Except ε α} {change : ε → φ} {allowed : φ → Prop}
    (first : FailsOnly permitted outcome)
    (carried : ∀ problem, permitted problem → allowed (change problem)) :
    FailsOnly allowed (outcome.mapError change) := by
  cases outcome with
  | error problem => exact error (carried problem (first problem rfl))
  | ok value => exact ok value

end FailsOnly

/-- Two computations both succeed, or fail with one and the same error. -/
inductive FailAlike : Except ε α → Except ε β → Prop
  | ok (value : α) (other : β) : FailAlike (.ok value) (.ok other)
  | error (error : ε) : FailAlike (.error error) (.error error)

namespace FailAlike

theorem refl (outcome : Except ε α) : FailAlike outcome outcome := by
  cases outcome with
  | error error => exact .error error
  | ok value => exact .ok value value

theorem of_ok {first : Except ε α} {second : Except ε β} {value : α} {other : β} (succeeds : first = .ok value)
    (succeeds' : second = .ok other) : FailAlike first second := by
  rw [succeeds, succeeds']
  exact .ok value other

theorem bind {α' β' : Type} {first : Except ε α} {second : Except ε β} {next : α → Except ε α'}
    {following : β → Except ε β'} (alike : FailAlike first second)
    (later : ∀ value other, FailAlike (next value) (following other)) :
    FailAlike (first >>= next) (second >>= following) := by
  cases alike with
  | error error => exact .error error
  | ok value other => exact later value other

end FailAlike

end Verdict.Outcome
