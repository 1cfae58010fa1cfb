import Verdict.Evaluation.Combination
/-!
When a list of verdicts comes to true. Verdicts are joined from left to right without precedence, so a true
verdict that begins anew, first in the list or behind an OR, carries the whole list exactly if no later
verdict behind an AND is false.
-/

namespace Verdict.Connective

/-- A place that makes a list of verdicts come to true: the verdict there is true, the connective before it, if
there is one, is an OR, and no verdict behind a later AND is false. -/
structure Carries (connectives : List Connective) (verdicts : List Bool) (place : Nat) : Prop where
  holds : verdicts[place]? = some true
  begins : ∀ before, place = before + 1 → connectives[before]? = some .or
  lasts : ∀ before, place ≤ before → connectives[before]? = some .and → verdicts[before + 1]? ≠ some false

theorem join_eq_true_iff {connective : Connective} {verdict next : Bool} :
    connective.join verdict next = true ↔
      (verdict = true ∧ (connective = .and → next ≠ false)) ∨ (connective = .or ∧ next = true) := by
  cases connective <;> cases verdict <;> cases next <;> simp [join]

namespace Carries

variable {connectives : List Connective} {connective : Connective} {verdicts : List Bool} {verdict next : Bool}

theorem first_iff : Carries connectives (verdict :: verdicts) 0 ↔
    verdict = true ∧ ∀ before : Nat, connectives[before]? = some .and → verdicts[before]? ≠ some false := by
  constructor
  · intro carries
    exact ⟨Option.some.inj carries.holds, fun before joined => carries.lasts before (Nat.zero_le _) joined⟩
  · rintro ⟨holds, lasts⟩
    exact ⟨congrArg some holds, nofun, fun before _ joined => lasts before joined⟩

theorem second_iff : Carries (connective :: connectives) (verdict :: next :: verdicts) 1 ↔
    connective = .or ∧ Carries connectives (next :: verdicts) 0 := by
  rw [first_iff]
  constructor
  · intro carries
    refine ⟨Option.some.inj (carries.begins 0 rfl), Option.some.inj carries.holds, fun before joined => ?_⟩
    exact carries.lasts (before + 1) (Nat.le_add_left 1 before) joined
  · rintro ⟨begins, holds, lasts⟩
    refine ⟨congrArg some holds, fun before same => ?_, fun before later joined => ?_⟩
    · obtain rfl : 0 = before := Nat.succ.inj same
      exact congrArg some begins
    · obtain ⟨before, rfl⟩ := Nat.exists_eq_add_of_le' later
      exact lasts before joined

/-- How the first two verdicts are joined does not matter for the places behind them. -/
theorem behind_iff {joined : Bool} {place : Nat} :
    Carries (connective :: connectives) (verdict :: next :: verdicts) (place + 2) ↔
      Carries connectives (joined :: verdicts) (place + 1) := by
  constructor
  · intro carries
    refine ⟨carries.holds, fun before same => ?_, fun before later joined => ?_⟩
    · exact carries.begins (before + 1) (congrArg Nat.succ same)
    · exact carries.lasts (before + 1) (Nat.succ_le_succ later) joined
  · intro carries
    refine ⟨carries.holds, fun before same => ?_, fun before later joined => ?_⟩
    · obtain rfl : place + 1 = before := Nat.succ.inj same
      exact carries.begins place rfl
    · obtain ⟨before, rfl⟩ := Nat.exists_eq_add_of_le' later
      exact carries.lasts (before + (place + 1)) (Nat.le_add_left _ _) joined

theorem lasts_cons_iff :
    (∀ before : Nat, (connective :: connectives)[before]? = some .and →
        (next :: verdicts)[before]? ≠ some false) ↔
      (connective = .and → next ≠ false) ∧
        ∀ before : Nat, connectives[before]? = some .and → verdicts[before]? ≠ some false := by
  constructor
  · intro lasts
    exact ⟨by simpa using lasts 0, fun before => lasts (before + 1)⟩
  · rintro ⟨first, lasts⟩ before
    cases before with
    | zero => simpa using first
    | succ before => exact lasts before

/-- The first two verdicts may be joined beforehand. -/
theorem exists_cons_cons_iff :
    (∃ place, Carries (connective :: connectives) (verdict :: next :: verdicts) place) ↔
      ∃ place, Carries connectives (connective.join verdict next :: verdicts) place := by
  have start : Carries connectives (connective.join verdict next :: verdicts) 0 ↔
      Carries (connective :: connectives) (verdict :: next :: verdicts) 0 ∨
        Carries (connective :: connectives) (verdict :: next :: verdicts) 1 := by
    rw [second_iff, first_iff, first_iff, first_iff, lasts_cons_iff, join_eq_true_iff, ← and_assoc,
      ← and_assoc, or_and_right]
  constructor
  · rintro ⟨place, carries⟩
    match place, carries with
    | 0, carries => exact ⟨0, start.2 (.inl carries)⟩
    | 1, carries => exact ⟨0, start.2 (.inr carries)⟩
    | place + 2, carries => exact ⟨place + 1, behind_iff.1 carries⟩
  · rintro ⟨place, carries⟩
    match place, carries with
    | 0, carries => exact (start.1 carries).elim (⟨0, ·⟩) (⟨1, ·⟩)
    | place + 1, carries => exact ⟨place + 2, behind_iff.2 carries⟩

/-- Where nothing is joined, the first verdict is all that counts. -/
theorem exists_iff_of_unjoined (unjoined : connectives = [] ∨ verdicts = []) :
    (∃ place, Carries connectives (verdict :: verdicts) place) ↔ verdict = true := by
  have never {before : Nat} {connective : Connective} {found : Bool} (joined : connectives[before]? = some connective)
      (there : verdicts[before]? = some found) : False := by
    rcases unjoined with rfl | rfl
    · cases joined
    · cases there
  constructor
  · rintro ⟨place, carries⟩
    cases place with
    | zero => exact Option.some.inj carries.holds
    | succ place => exact (never (carries.begins place rfl) carries.holds).elim
  · intro holds
    exact ⟨0, first_iff.2 ⟨holds, fun before joined failed => never joined failed⟩⟩

/-- Only the connectives in front of a verdict count. -/
theorem congr {others : List Connective} {place : Nat}
    (same : ∀ before, before + 1 < verdicts.length → others[before]? = connectives[before]?)
    (carries : Carries connectives verdicts place) : Carries others verdicts place := by
  have inRange {index : Nat} {found : Bool} (there : verdicts[index]? = some found) : index < verdicts.length :=
    (List.getElem?_eq_some_iff.1 there).1
  refine ⟨carries.holds, fun before behind => ?_, fun before later joined failed => ?_⟩
  · rw [same before (behind ▸ inRange carries.holds)]
    exact carries.begins before behind
  · rw [same before (inRange failed)] at joined
    exact carries.lasts before later joined failed

/-- A verdict that turns true takes nothing away. -/
theorem set_true {place : Nat} (carries : Carries connectives verdicts place) (changed : Nat) :
    Carries connectives (verdicts.set changed true) place := by
  have kept {index : Nat} (failed : (verdicts.set changed true)[index]? = some false) :
      verdicts[index]? = some false := by
    rw [List.getElem?_set] at failed
    split at failed
    · split at failed <;> cases failed
    · exact failed
  refine ⟨?_, carries.begins, fun before later joined failed => carries.lasts before later joined (kept failed)⟩
  rw [List.getElem?_set]
  split
  next same => rw [same, if_pos (List.getElem?_eq_some_iff.1 carries.holds).1]
  next => exact carries.holds

/-- The first of verdicts that are all true carries them. -/
theorem of_all_true (someVerdict : verdicts ≠ []) (passed : false ∉ verdicts) :
    Carries connectives verdicts 0 := by
  cases verdicts with
  | nil => exact absurd rfl someVerdict
  | cons verdict verdicts =>
    have holds : verdict = true :=
      eq_true_of_ne_false (fun failed => passed (failed ▸ List.mem_cons_self))
    exact first_iff.2 ⟨holds, fun before _ failed =>
      passed (List.mem_cons_of_mem _ (List.mem_of_getElem? failed))⟩

end Carries

/-- The closed form of joining from left to right: the list has a place that carries it. -/
theorem combine_eq_true_iff {connectives : List Connective} {verdicts : List Bool} :
    combine connectives verdicts = true ↔ ∃ place, Carries connectives verdicts place := by
  cases verdicts with
  | nil =>
    refine iff_of_false nofun ?_
    rintro ⟨place, carries⟩
    cases carries.holds
  | cons verdict verdicts =>
    change joinAll connectives verdict verdicts = true ↔ _
    induction verdicts generalizing verdict connectives with
    | nil =>
      rw [joinAll, Carries.exists_iff_of_unjoined (.inr rfl)]
      exact nofun
    | cons next verdicts ih =>
      cases connectives with
      | nil => exact (Carries.exists_iff_of_unjoined (.inl rfl)).symm
      | cons connective connectives => exact (ih _).trans Carries.exists_cons_cons_iff.symm

variable {connectives others : List Connective} {verdicts : List Bool}

/-- The connective of the last verdict joins it to nothing. -/
theorem combine_congr (same : ∀ before, before + 1 < verdicts.length → others[before]? = connectives[before]?) :
    combine others verdicts = combine connectives verdicts := by
  rw [Bool.eq_iff_iff, combine_eq_true_iff, combine_eq_true_iff]
  refine exists_congr (fun place => ⟨Carries.congr (fun before inRange => ?_), Carries.congr same⟩)
  exact (same before inRange).symm

theorem combine_set_true (holds : combine connectives verdicts = true) (changed : Nat) :
    combine connectives (verdicts.set changed true) = true := by
  obtain ⟨place, carries⟩ := combine_eq_true_iff.1 holds
  exact combine_eq_true_iff.2 ⟨place, carries.set_true changed⟩

/-- Verdicts fail together only if one of them fails. -/
theorem false_mem_of_combine (someVerdict : verdicts ≠ []) (failed : combine connectives verdicts = false) :
    false ∈ verdicts := by
  refine Decidable.byContradiction (fun passed => ?_)
  have carries : Carries connectives verdicts 0 := .of_all_true someVerdict passed
  exact Bool.noConfusion (failed.symm.trans (combine_eq_true_iff.2 ⟨0, carries⟩))

/-- For conditions with a result each: they hold together exactly if a true result that is the first or stands
behind an OR is followed by no false one behind an AND. The connective of the last condition does not matter, a
result that turns true never makes them fail, and they fail only if some result is false. -/
theorem conditions_hold_iff_carried {conditions : List Condition} (someCondition : conditions ≠ [])
    {results : List Bool} (each : results.length = conditions.length) :
    (combine (conditions.map Condition.connective) results = true ↔
        ∃ place, Carries (conditions.map Condition.connective) results place) ∧
      (∀ last : Condition, combine ((conditions.dropLast ++ [last]).map Condition.connective) results =
        combine (conditions.map Condition.connective) results) ∧
      (∀ changed, combine (conditions.map Condition.connective) results = true →
        combine (conditions.map Condition.connective) (results.set changed true) = true) ∧
      (combine (conditions.map Condition.connective) results = false → false ∈ results) := by
  have someResult : results ≠ [] := List.ne_nil_of_length_pos (each ▸ List.length_pos_iff.2 someCondition)
  refine ⟨combine_eq_true_iff, fun last => combine_congr (fun before inRange => ?_),
    fun changed holds => combine_set_true holds changed, false_mem_of_combine someResult⟩
  have inFront : before < conditions.length - 1 := by omega
  rw [List.getElem?_map, List.getElem?_map, List.getElem?_append_left (by simpa using inFront),
    List.getElem?_dropLast, if_pos inFront]

/-- Conditions that are joined by OR, AND and OR; the connective of the last one joins nothing. -/
def joinedTests : List Condition :=
  [⟨.expression "approved", .or⟩, ⟨.expression "urgent", .and⟩, ⟨.expression "amount < 5", .or⟩,
    ⟨.expression "amount > 9", .and⟩]

/-- The third result takes from the first two what they came to, and the fourth one begins anew. -/
theorem joined_tests_carried :
    joinedTests ≠ [] ∧ [true, true, false, true].length = joinedTests.length ∧
      combine (joinedTests.map Condition.connective) [true, true, false, false] = false ∧
      (∃ place, Carries (joinedTests.map Condition.connective) [true, true, false, true] place) ∧
      (∀ last, combine ((joinedTests.dropLast ++ [last]).map Condition.connective) [true, true, false, true] =
        combine (joinedTests.map Condition.connective) [true, true, false, true]) ∧
      combine (joinedTests.map Condition.connective) ([true, true, false, true].set 2 true) = true ∧
      false ∈ [true, true, false, false] := by
  have someTest : joinedTests ≠ [] := List.cons_ne_nil _ _
  obtain ⟨closed, last, raised, _⟩ :=
    conditions_hold_iff_carried someTest (rfl : [true, true, false, true].length = joinedTests.length)
  obtain ⟨_, _, _, failing⟩ :=
    conditions_hold_iff_carried someTest (rfl : [true, true, false, false].length = joinedTests.length)
  exact ⟨someTest, rfl, rfl, closed.1 rfl, last, raised 2 rfl, failing rfl⟩

end Verdict.Connective
