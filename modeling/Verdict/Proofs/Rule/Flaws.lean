import Mathlib
import Verdict.Proofs.Rule.Validation
/-!
The flaws of a rule set. A flaw is one thing that is wrong, at the place where it is wrong, whatever else may be
wrong with the rule set; the violations that validation finds are the entries of the flaws, each flaw once, and no
two flaws have the same entry.
-/

namespace Verdict

open FieldViolation (report)
open Validation

/-- The constraints that the fields of a rule are declared with. -/
inductive RuleConstraint where
  | id
  | name
  | priority
  | conditions
  | actions
deriving DecidableEq, Repr

namespace RuleConstraint

/-- Every constraint, in the order of the fields. -/
def all : List RuleConstraint := [id, name, priority, conditions, actions]

/-- The field that is constrained. -/
def field : RuleConstraint → String
  | id => "id"
  | name => "name"
  | priority => "priority"
  | conditions => "conditions"
  | actions => "actions"

/-- What is wrong where the constraint is broken. -/
def violation : RuleConstraint → Violation
  | id => .emptyRuleId
  | name => .emptyRuleName
  | priority => .priorityOutOfRange
  | conditions => .noConditions
  | actions => .noActions

/-- The rule breaks the constraint. -/
def Broken (rule : Rule) : RuleConstraint → Prop
  | id => rule.id = ""
  | name => rule.name = ""
  | priority => rule.priority < 1 ∨ 10 < rule.priority
  | conditions => rule.conditions = []
  | actions => rule.actions = []

/-- The test for the constraint. -/
def breaks (rule : Rule) : RuleConstraint → Bool
  | id => rule.id.isEmpty
  | name => rule.name.isEmpty
  | priority => !isPriority rule.priority
  | conditions => rule.conditions.isEmpty
  | actions => rule.actions.isEmpty

theorem breaks_iff {rule : Rule} {constraint : RuleConstraint} :
    constraint.breaks rule = true ↔ constraint.Broken rule := by
  cases constraint with
  | id => exact String.isEmpty_iff
  | name => exact String.isEmpty_iff
  | priority =>
    simp only [breaks, Broken, isPriority, Bool.not_eq_true', Bool.and_eq_false_iff, decide_eq_false_iff_not,
      Int32.not_le]
  | conditions => exact List.isEmpty_iff
  | actions => exact List.isEmpty_iff

theorem mem_all (constraint : RuleConstraint) : constraint ∈ all := by
  cases constraint <;> decide

theorem field_inj {first second : RuleConstraint} (same : first.field = second.field) : first = second := by
  revert same
  cases first <;> cases second <;> decide

theorem violation_inj {first second : RuleConstraint} (same : first.violation = second.violation) :
    first = second := by
  revert same
  cases first <;> cases second <;> decide

end RuleConstraint

/-- One thing that is wrong with a rule set, at its place. -/
inductive Flaw where
  | noVersion
  | noTitle
  | field (place : Nat) (constraint : RuleConstraint)
  | repeatedId (place : Nat) (id : String)
  | unknownAction (place index : Nat)
deriving DecidableEq, Repr

/-- How a flaw is reported. -/
def Flaw.entry : Flaw → FieldViolation
  | noVersion => ⟨"version", .emptyVersion⟩
  | noTitle => ⟨"metadata.name", .emptySetName⟩
  | field place constraint => ⟨rulePath place ++ constraint.field, constraint.violation⟩
  | repeatedId place id => ⟨rulePath place ++ "id", .duplicateId id⟩
  | unknownAction place index =>
    ⟨rulePath place ++ "actions" ++ "." ++ toString index ++ ".type", .unknownAction⟩

/-- The rule set has the flaw. -/
def RuleSet.Has (ruleSet : RuleSet) : Flaw → Prop
  | .noVersion => ruleSet.version = ""
  | .noTitle => ruleSet.metadata.name = ""
  | .field place constraint => ∃ rule, ruleSet.rules[place]? = some rule ∧ constraint.Broken rule
  | .repeatedId place id => ∃ rule, ruleSet.rules[place]? = some rule ∧ rule.id = id ∧
      ∃ earlier < place, ∃ first, ruleSet.rules[earlier]? = some first ∧ first.id = id
  | .unknownAction place index => ∃ rule, ruleSet.rules[place]? = some rule ∧
      ∃ action, rule.actions[index]? = some action ∧ action.kind = .unknown

/-- The violations of the constraints that fields are declared with, in the order of the declarations. -/
def RuleSet.declaredViolations (ruleSet : RuleSet) : List FieldViolation :=
  report ruleSet.version.isEmpty "version" .emptyVersion ++
    report ruleSet.metadata.name.isEmpty "metadata.name" .emptySetName ++ rulesFieldViolations 0 ruleSet.rules

/-- What holds of an item of a list at a place from a given one on. -/
def Standing {α : Type} (items : List α) (start : Nat) (such : Nat → α → Prop) : Prop :=
  ∃ place item, start ≤ place ∧ items[place]? = some item ∧ such place item

namespace Standing

variable {α : Type} {items rest : List α} {start : Nat} {item : α} {such : Nat → α → Prop}

theorem none_of_drop_eq_nil (ends : items.drop start = []) : ¬Standing items start such := by
  rintro ⟨place, item, reached, found, _⟩
  have inside := (List.getElem?_eq_some_iff.1 found).1
  have short := List.drop_eq_nil_iff.1 ends
  omega

theorem getElem?_of_drop_eq_cons (here : items.drop start = item :: rest) : items[start]? = some item := by
  have first : (items.drop start)[0]? = some item := by rw [here, List.getElem?_cons_zero]
  rwa [List.getElem?_drop, Nat.add_zero] at first

theorem drop_succ_of_drop_eq_cons (here : items.drop start = item :: rest) : items.drop (start + 1) = rest := by
  rw [List.drop_add_one_eq_tail_drop, here, List.tail_cons]

/-- The item at the first place, or one of those behind it. -/
theorem iff_of_drop_eq_cons (here : items.drop start = item :: rest) :
    Standing items start such ↔ such start item ∨ Standing items (start + 1) such := by
  have found := getElem?_of_drop_eq_cons here
  constructor
  · rintro ⟨place, other, reached, stands, holds⟩
    rcases Nat.eq_or_lt_of_le reached with rfl | behind
    · cases found.symm.trans stands
      exact .inl holds
    · exact .inr ⟨place, other, behind, stands, holds⟩
  · rintro (holds | ⟨place, other, behind, stands, holds⟩)
    · exact ⟨start, item, Nat.le_refl start, found, holds⟩
    · exact ⟨place, other, Nat.le_of_succ_le behind, stands, holds⟩

end Standing

/-- The violations are the entries of the flaws of a kind, each flaw once. -/
def Enumerates (violations : List FieldViolation) (present : Flaw → Prop) : Prop :=
  ∃ flaws : List Flaw, flaws.Nodup ∧ (∀ flaw, flaw ∈ flaws ↔ present flaw) ∧ violations = flaws.map Flaw.entry

namespace Enumerates

variable {violations others : List FieldViolation} {present further either : Flaw → Prop}

theorem nil (none : ∀ flaw, ¬present flaw) : Enumerates [] present :=
  ⟨[], List.nodup_nil, fun flaw => iff_of_false List.not_mem_nil (none flaw), rfl⟩

theorem congr (listed : Enumerates violations present) (same : ∀ flaw, further flaw ↔ present flaw) :
    Enumerates violations further := by
  obtain ⟨flaws, distinct, members, rfl⟩ := listed
  exact ⟨flaws, distinct, fun flaw => (members flaw).trans (same flaw).symm, rfl⟩

theorem report {broken : Bool} {path : String} {violation : Violation} {wrong : Prop} (flaw : Flaw)
    (entry : flaw.entry = ⟨path, violation⟩) (test : broken = true ↔ wrong) :
    Enumerates (report broken path violation) (fun other => wrong ∧ other = flaw) := by
  cases broken with
  | false => exact nil (fun other present => Bool.false_ne_true (test.2 present.1))
  | true =>
    refine ⟨[flaw], List.nodup_singleton flaw, fun other => ?_, ?_⟩
    · exact List.mem_singleton.trans (and_iff_right (test.1 rfl)).symm
    · rw [List.map_singleton, entry]
      rfl

theorem append (listed : Enumerates violations present) (more : Enumerates others further)
    (apart : ∀ flaw, present flaw → ¬further flaw) (splits : ∀ flaw, either flaw ↔ present flaw ∨ further flaw) :
    Enumerates (violations ++ others) either := by
  obtain ⟨flaws, distinct, members, rfl⟩ := listed
  obtain ⟨rest, restDistinct, restMembers, rfl⟩ := more
  refine ⟨flaws ++ rest, distinct.append restDistinct ?_, fun flaw => ?_, List.map_append.symm⟩
  · exact fun flaw member again => apart flaw ((members flaw).1 member) ((restMembers flaw).1 again)
  · rw [List.mem_append, members, restMembers, splits]

/-- Flaws that have places of their own are listed place by place. -/
theorem standing {α : Type} {items rest : List α} {start : Nat} {item : α} {such : Flaw → Nat → α → Prop}
    (here : items.drop start = item :: rest)
    (placed : ∀ {flaw first second one other}, such flaw first one → such flaw second other → first = second)
    (listed : Enumerates violations (fun flaw => such flaw start item))
    (more : Enumerates others (fun flaw => Standing items (start + 1) (such flaw))) :
    Enumerates (violations ++ others) (fun flaw => Standing items start (such flaw)) := by
  refine listed.append more ?_ (fun flaw => Standing.iff_of_drop_eq_cons here)
  rintro flaw atStart ⟨place, other, behind, _, present⟩
  obtain rfl := placed atStart present
  exact Nat.not_succ_le_self _ behind

end Enumerates

namespace Validation

/-- A constraint on a field of a rule at a place is broken. -/
def FieldFlaw (flaw : Flaw) (place : Nat) (rule : Rule) : Prop :=
  ∃ constraint, RuleConstraint.Broken rule constraint ∧ flaw = .field place constraint

/-- An action of a rule at a place is of unknown kind. -/
def ActionFlaw (place : Nat) (flaw : Flaw) (index : Nat) (action : Action) : Prop :=
  action.kind = .unknown ∧ flaw = .unknownAction place index

/-- A rule at a place repeats the id of an earlier one, or has an action of unknown kind. -/
def UseFlaw (rules : List Rule) (flaw : Flaw) (place : Nat) (rule : Rule) : Prop :=
  ((∃ earlier < place, ∃ first, rules[earlier]? = some first ∧ first.id = rule.id) ∧
      flaw = .repeatedId place rule.id) ∨
    Standing rule.actions 0 (ActionFlaw place flaw)

/-- The constraints are tested one after another. -/
theorem fieldViolations_eq_flatMap (above : String) (rule : Rule) :
    fieldViolations above rule = RuleConstraint.all.flatMap (fun constraint =>
      report (constraint.breaks rule) (above ++ constraint.field) constraint.violation) := by
  simp only [fieldViolations, RuleConstraint.all, List.flatMap_cons, List.flatMap_nil, List.append_nil,
    List.append_assoc]
  rfl

theorem enumerates_constraints (place : Nat) (rule : Rule) {constraints : List RuleConstraint}
    (distinct : constraints.Nodup) :
    Enumerates
      (constraints.flatMap (fun constraint =>
        report (constraint.breaks rule) (rulePath place ++ constraint.field) constraint.violation))
      (fun flaw => ∃ constraint ∈ constraints, constraint.Broken rule ∧ flaw = .field place constraint) := by
  induction constraints with
  | nil => exact .nil (by simp)
  | cons constraint rest ih =>
    obtain ⟨fresh, distinct⟩ := List.nodup_cons.1 distinct
    refine .append (.report (.field place constraint) rfl RuleConstraint.breaks_iff) (ih distinct) ?_
      (fun flaw => ?_)
    · rintro flaw ⟨_, rfl⟩ ⟨other, member, _, same⟩
      cases same
      exact fresh member
    · simp only [List.mem_cons, exists_eq_or_imp]

theorem enumerates_fieldViolations (place : Nat) (rule : Rule) :
    Enumerates (fieldViolations (rulePath place) rule) (fun flaw => FieldFlaw flaw place rule) := by
  rw [fieldViolations_eq_flatMap]
  refine (enumerates_constraints place rule (by decide : RuleConstraint.all.Nodup)).congr (fun flaw => ?_)
  simp only [FieldFlaw, RuleConstraint.mem_all, true_and]

theorem enumerates_rulesFieldViolations {rules rest : List Rule} {start : Nat} (behind : rules.drop start = rest) :
    Enumerates (rulesFieldViolations start rest) (fun flaw => Standing rules start (FieldFlaw flaw)) := by
  induction rest generalizing start with
  | nil => exact .nil (fun _ => Standing.none_of_drop_eq_nil behind)
  | cons rule rest ih =>
    refine .standing behind ?_ (enumerates_fieldViolations start rule)
      (ih (Standing.drop_succ_of_drop_eq_cons behind))
    rintro flaw first second one other ⟨constraint, _, rfl⟩ ⟨_, _, same⟩
    exact (Flaw.field.inj same).1

theorem enumerates_actionViolations {actions rest : List Action} {start : Nat} (place : Nat)
    (behind : actions.drop start = rest) :
    Enumerates (actionViolations (rulePath place ++ "actions") start rest)
      (fun flaw => Standing actions start (ActionFlaw place flaw)) := by
  induction rest generalizing start with
  | nil => exact .nil (fun _ => Standing.none_of_drop_eq_nil behind)
  | cons action rest ih =>
    refine .standing behind ?_ (.report (.unknownAction place start) rfl beq_iff_eq)
      (ih (Standing.drop_succ_of_drop_eq_cons behind))
    rintro flaw first second one other ⟨_, rfl⟩ ⟨_, same⟩
    exact (Flaw.unknownAction.inj same).2

theorem UseFlaw.place_unique {rules : List Rule} {flaw : Flaw} {first second : Nat} {one other : Rule}
    (present : UseFlaw rules flaw first one) (again : UseFlaw rules flaw second other) : first = second := by
  rcases present with ⟨_, rfl⟩ | ⟨_, _, _, _, _, rfl⟩
  · rcases again with ⟨_, same⟩ | ⟨_, _, _, _, _, same⟩
    · exact (Flaw.repeatedId.inj same).1
    · cases same
  · rcases again with ⟨_, same⟩ | ⟨_, _, _, _, _, same⟩
    · cases same
    · exact (Flaw.unknownAction.inj same).1

/-- The scan knows the ids of the rules before the place that it has come to. -/
theorem enumerates_rulesUseViolations {rules rest : List Rule} {start : Nat} {earlier : List String}
    (behind : rules.drop start = rest)
    (known : ∀ id, id ∈ earlier ↔ ∃ place < start, ∃ first, rules[place]? = some first ∧ first.id = id) :
    Enumerates (rulesUseViolations earlier start rest) (fun flaw => Standing rules start (UseFlaw rules flaw)) := by
  induction rest generalizing start earlier with
  | nil => exact .nil (fun _ => Standing.none_of_drop_eq_nil behind)
  | cons rule rest ih =>
    have here : Enumerates
        (report (earlier.contains rule.id) (rulePath start ++ "id") (.duplicateId rule.id) ++
          actionViolations (rulePath start ++ "actions") 0 rule.actions)
        (fun flaw => UseFlaw rules flaw start rule) := by
      refine .append (.report (.repeatedId start rule.id) rfl (List.contains_iff_mem.trans (known rule.id)))
        (enumerates_actionViolations start rfl) ?_ (fun flaw => Iff.rfl)
      rintro flaw ⟨_, rfl⟩ ⟨_, _, _, _, _, same⟩
      cases same
    have next (id : String) : id ∈ rule.id :: earlier ↔
        ∃ place < start + 1, ∃ first, rules[place]? = some first ∧ first.id = id := by
      simp only [List.mem_cons, known, Nat.lt_succ_iff_lt_or_eq, or_and_right, exists_or, exists_eq_left',
        Standing.getElem?_of_drop_eq_cons behind, Option.some.injEq, or_comm, eq_comm]
    exact .standing behind UseFlaw.place_unique here (ih (Standing.drop_succ_of_drop_eq_cons behind) next)

/-- A numeral ends at the full stop behind it. -/
theorem takeWhile_repr_append (number : Nat) (rest : List Char) :
    (number.repr.toList ++ '.' :: rest).takeWhile (· != '.') = number.repr.toList := by
  have digits : ∀ digit ∈ number.repr.toList, (digit != '.') = true := by
    rw [Nat.toList_repr]
    intro digit member
    have isDigit := Nat.isDigit_of_mem_toDigits (by decide) (by decide) member
    exact bne_iff_ne.2 (fun stop => absurd (stop ▸ isDigit) (by decide))
  rw [List.takeWhile_append_of_pos digits, List.takeWhile_cons_of_neg (by decide), List.append_nil]

theorem repr_append_inj {first second : Nat} {rest other : String}
    (same : first.repr ++ ("." ++ rest) = second.repr ++ ("." ++ other)) : first = second ∧ rest = other := by
  have characters := congrArg String.toList same
  rw [String.toList_append, String.toList_append, String.toList_append, String.toList_append] at characters
  have numerals := congrArg (List.takeWhile (· != '.')) characters
  obtain rfl : first = second :=
    Nat.repr_inj.1 (String.toList_inj.1 ((takeWhile_repr_append first _).symm.trans
      (numerals.trans (takeWhile_repr_append second _))))
  exact ⟨rfl, (String.append_right_inj ".").1 ((String.append_right_inj first.repr).1 same)⟩

theorem rulePath_append_inj {first second : Nat} {rest other : String}
    (same : rulePath first ++ rest = rulePath second ++ other) : first = second ∧ rest = other := by
  rw [rulePath, rulePath, String.append_assoc, String.append_assoc, String.append_assoc, String.append_assoc] at same
  exact repr_append_inj ((String.append_right_inj "rules.").1 same)

/-- The paths of the fields of rules start as no other path does. -/
theorem rulePath_append_ne {path : String} (other : path.toList.head? ≠ some 'r') (place : Nat) (name : String) :
    rulePath place ++ name ≠ path := by
  rintro rfl
  refine other ?_
  rw [rulePath, String.append_assoc, String.append_assoc, String.toList_append]
  rfl

theorem actionPath_inj {first second index other : Nat}
    (same : rulePath first ++ "actions" ++ "." ++ toString index ++ ".type" =
      rulePath second ++ "actions" ++ "." ++ toString other ++ ".type") : first = second ∧ index = other := by
  simp only [String.append_assoc] at same
  obtain ⟨places, behind⟩ := rulePath_append_inj same
  have indices := (String.append_right_inj ".").1 ((String.append_right_inj "actions").1 behind)
  exact ⟨places, Nat.repr_inj.1 ((String.append_left_inj ".type").1 indices)⟩

end Validation

namespace Flaw

/-- No two flaws are reported in the same way: what is wrong tells the kind of flaw, and its path the place. -/
theorem entry_injective : Function.Injective entry := by
  intro first second same
  have paths : first.entry.path = second.entry.path := congrArg FieldViolation.path same
  have violations : first.entry.violation = second.entry.violation := congrArg FieldViolation.violation same
  cases first with
  | noVersion =>
    cases second with
    | noVersion => rfl
    | field _ constraint => cases constraint <;> cases violations
    | _ => cases violations
  | noTitle =>
    cases second with
    | noTitle => rfl
    | field _ constraint => cases constraint <;> cases violations
    | _ => cases violations
  | field place constraint =>
    cases second with
    | field other further =>
      obtain rfl := (rulePath_append_inj paths).1
      obtain rfl := RuleConstraint.violation_inj violations
      rfl
    | _ => cases constraint <;> cases violations
  | repeatedId place id =>
    cases second with
    | repeatedId other id =>
      obtain rfl := (rulePath_append_inj paths).1
      obtain rfl := Violation.duplicateId.inj violations
      rfl
    | field _ constraint => cases constraint <;> cases violations
    | _ => cases violations
  | unknownAction place index =>
    cases second with
    | unknownAction other further =>
      obtain ⟨rfl, rfl⟩ := actionPath_inj paths
      rfl
    | field _ constraint => cases constraint <;> cases violations
    | _ => cases violations

/-- A constraint that is declared at a field is broken. -/
def Declared : Flaw → Prop
  | noVersion | noTitle | field _ _ => True
  | repeatedId _ _ | unknownAction _ _ => False

/-- Declared constraints are told apart by their paths alone. -/
theorem path_inj_of_declared {first second : Flaw} (declared : first.Declared) (further : second.Declared)
    (paths : first.entry.path = second.entry.path) : first = second := by
  cases first with
  | noVersion =>
    cases second with
    | noVersion => rfl
    | noTitle => exact absurd paths (by decide)
    | field place constraint => exact absurd paths.symm (rulePath_append_ne (by decide) place _)
    | _ => cases further
  | noTitle =>
    cases second with
    | noVersion => exact absurd paths (by decide)
    | noTitle => rfl
    | field place constraint => exact absurd paths.symm (rulePath_append_ne (by decide) place _)
    | _ => cases further
  | field place constraint =>
    cases second with
    | noVersion => exact absurd paths (rulePath_append_ne (by decide) place _)
    | noTitle => exact absurd paths (rulePath_append_ne (by decide) place _)
    | field other further =>
      obtain ⟨rfl, names⟩ := rulePath_append_inj paths
      obtain rfl := RuleConstraint.field_inj names
      rfl
    | _ => cases further
  | _ => cases declared

end Flaw

namespace RuleSet

variable {ruleSet : RuleSet}

/-- A flaw of a declared constraint. -/
def HasDeclared (ruleSet : RuleSet) (flaw : Flaw) : Prop :=
  ((ruleSet.version = "" ∧ flaw = .noVersion) ∨ (ruleSet.metadata.name = "" ∧ flaw = .noTitle)) ∨
    Standing ruleSet.rules 0 (FieldFlaw flaw)

theorem HasDeclared.declared {flaw : Flaw} (present : ruleSet.HasDeclared flaw) : flaw.Declared := by
  rcases present with (⟨_, rfl⟩ | ⟨_, rfl⟩) | ⟨_, _, _, _, _, _, rfl⟩ <;> trivial

/-- A flaw is one of a declared constraint, or of how ids and actions are used. -/
theorem has_iff {flaw : Flaw} :
    ruleSet.Has flaw ↔ ruleSet.HasDeclared flaw ∨ Standing ruleSet.rules 0 (UseFlaw ruleSet.rules flaw) := by
  cases flaw with
  | repeatedId place id =>
    simp only [Has, HasDeclared, Standing, FieldFlaw, UseFlaw, ActionFlaw, reduceCtorEq, and_false, exists_false,
      or_false, false_or, Nat.zero_le, true_and, Flaw.repeatedId.injEq]
    constructor
    · rintro ⟨rule, stands, rfl, repeats⟩
      exact ⟨place, rule, stands, repeats, rfl, rfl⟩
    · rintro ⟨_, rule, stands, repeats, rfl, rfl⟩
      exact ⟨rule, stands, rfl, repeats⟩
  | _ => simp [Has, HasDeclared, Standing, FieldFlaw, UseFlaw, ActionFlaw]

theorem enumerates_declaredViolations (ruleSet : RuleSet) :
    Enumerates ruleSet.declaredViolations ruleSet.HasDeclared := by
  have heading : Enumerates
      (report ruleSet.version.isEmpty "version" .emptyVersion ++
        report ruleSet.metadata.name.isEmpty "metadata.name" .emptySetName)
      (fun flaw => (ruleSet.version = "" ∧ flaw = .noVersion) ∨ (ruleSet.metadata.name = "" ∧ flaw = .noTitle)) := by
    refine .append (.report .noVersion rfl String.isEmpty_iff) (.report .noTitle rfl String.isEmpty_iff) ?_
      (fun flaw => Iff.rfl)
    rintro flaw ⟨_, rfl⟩ ⟨_, same⟩
    cases same
  refine heading.append (enumerates_rulesFieldViolations rfl) ?_ (fun flaw => Iff.rfl)
  rintro flaw (⟨_, rfl⟩ | ⟨_, rfl⟩) ⟨_, _, _, _, _, _, same⟩ <;> cases same

/-- The violations of a rule set are the entries of its flaws. -/
theorem enumerates_setViolations (ruleSet : RuleSet) : Enumerates (setViolations ruleSet) ruleSet.Has := by
  have uses := @enumerates_rulesUseViolations ruleSet.rules _ 0 [] rfl (by simp)
  refine (enumerates_declaredViolations ruleSet).append uses ?_ (fun flaw => has_iff)
  rintro flaw declared ⟨_, _, _, _, ⟨_, rfl⟩ | ⟨_, _, _, _, _, rfl⟩⟩ <;> exact declared.declared

theorem setViolations_eq_nil_iff : setViolations ruleSet = [] ↔ ∀ flaw, ¬ruleSet.Has flaw := by
  obtain ⟨flaws, _, members, listed⟩ := enumerates_setViolations ruleSet
  rw [listed, List.map_eq_nil_iff, List.eq_nil_iff_forall_not_mem]
  simp only [members]

end RuleSet

end Verdict
