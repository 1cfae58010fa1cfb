import Mathlib
import Verdict.Proofs.Rule.Flaws
import Verdict.Proofs.Sorting
/-!
What validation reports. A rule set with flaws is refused with one detail for each of them and no other, in the
order of their paths. The expressions of a rule set without flaws are parsed in the order in which they are
declared, and the first that does not parse is the error.
-/

namespace Verdict

open Expression (SyntaxError parse)
open Validation

/-- Details that stand for the flaws of a rule set: in the order of their paths, no two the same, one for each flaw
and no other. -/
structure RuleSet.ToldBy (ruleSet : RuleSet) (details : List FieldViolation) : Prop where
  ascending : Sorting.Ascending FieldViolation.path details
  distinct : details.Nodup
  each : ∃ flaws : List Flaw, flaws.Nodup ∧ (∀ flaw, flaw ∈ flaws ↔ ruleSet.Has flaw) ∧
    details.Perm (flaws.map Flaw.entry)

/-- Validation when the violations of declared constraints are reported as given. -/
def RuleSet.validateReporting (ruleSet : RuleSet) (reported : List FieldViolation) : Except RuleError Unit := do
  require .ruleSet (reported ++ rulesUseViolations [] 0 ruleSet.rules)
  requireAllParse ruleSet.rules

namespace RuleSet

variable {ruleSet : RuleSet}

theorem toldBy_inOrder : ruleSet.ToldBy (inOrder (setViolations ruleSet)) := by
  obtain ⟨flaws, distinct, members, listed⟩ := enumerates_setViolations ruleSet
  have sorted : (inOrder (setViolations ruleSet)).Perm (flaws.map Flaw.entry) :=
    listed ▸ Sorting.byKey_perm FieldViolation.path _
  constructor
  case ascending => exact Sorting.ascending_byKey FieldViolation.path _
  case distinct => exact sorted.nodup_iff.2 (distinct.map Flaw.entry_injective)
  case each => exact ⟨flaws, distinct, members, sorted⟩

theorem nodup_declared_paths : (ruleSet.declaredViolations.map FieldViolation.path).Nodup := by
  obtain ⟨flaws, distinct, members, listed⟩ := enumerates_declaredViolations ruleSet
  rw [listed, List.map_map]
  refine distinct.map_on (fun first member second further paths => ?_)
  exact Flaw.path_inj_of_declared ((members first).1 member).declared ((members second).1 further).declared paths

/-- No two declared constraints have the same path, so the order in which their violations are reported is lost
when all violations are ordered by path. -/
theorem validateReporting_of_perm {reported : List FieldViolation}
    (rearranged : reported.Perm ruleSet.declaredViolations) :
    ruleSet.validateReporting reported = ruleSet.validate := by
  have same : inOrder (reported ++ rulesUseViolations [] 0 ruleSet.rules) = inOrder (setViolations ruleSet) := by
    have agree (path : String) : Sorting.ofKey FieldViolation.path path
        (reported ++ rulesUseViolations [] 0 ruleSet.rules) =
          Sorting.ofKey FieldViolation.path path (setViolations ruleSet) := by
      rw [Sorting.ofKey_append, Sorting.ofKey_eq_of_perm nodup_declared_paths rearranged, ← Sorting.ofKey_append]
      rfl
    exact Sorting.byKey_congr agree
  have none : (reported ++ rulesUseViolations [] 0 ruleSet.rules).isEmpty = (setViolations ruleSet).isEmpty :=
    (rearranged.append_right _).isEmpty_eq
  rw [validateReporting, validate, require, require, same, none]

end RuleSet

/-- The expressions of a rule, in the order in which they are declared. -/
def Rule.expressions (rule : Rule) : List ExpressionOwner :=
  rule.conditions.filterMap (fun condition => condition.source?.map (fun source => ⟨rule.id, source⟩))

/-- The expressions of a rule set, in the order in which they are declared. -/
def RuleSet.expressions (ruleSet : RuleSet) : List ExpressionOwner :=
  ruleSet.rules.flatMap Rule.expressions

/-- Each of these expressions parses. -/
def AllParse (expressions : List ExpressionOwner) : Prop :=
  ∀ owner ∈ expressions, ∃ program, parse owner.source = .ok program

/-- The first of these expressions that does not parse, and its error. -/
inductive FirstUnparsed : List ExpressionOwner → ExpressionOwner → SyntaxError → Prop where
  | here {owner : ExpressionOwner} {error : SyntaxError} (later : List ExpressionOwner)
      (failed : parse owner.source = .error error) : FirstUnparsed (owner :: later) owner error
  | later {first owner : ExpressionOwner} {error : SyntaxError} {rest : List ExpressionOwner}
      (parses : ∃ program, parse first.source = .ok program) (behind : FirstUnparsed rest owner error) :
      FirstUnparsed (first :: rest) owner error

namespace FirstUnparsed

variable {expressions : List ExpressionOwner} {owner : ExpressionOwner} {error : SyntaxError}

theorem not_allParse (failing : FirstUnparsed expressions owner error) : ¬AllParse expressions := by
  induction failing with
  | here later failed =>
    intro parses
    obtain ⟨program, parsed⟩ := parses _ List.mem_cons_self
    cases failed.symm.trans parsed
  | later _ _ ih => exact fun parses => ih (List.forall_mem_cons.1 parses).2

theorem append (failing : FirstUnparsed expressions owner error) (more : List ExpressionOwner) :
    FirstUnparsed (expressions ++ more) owner error := by
  induction failing with
  | here later failed => exact .here (later ++ more) failed
  | later parses _ ih => exact .later parses ih

end FirstUnparsed

/-- Parsing expressions in order either parses them all, or stops at the first that does not parse. -/
inductive ParsedInOrder (expressions : List ExpressionOwner) : Except RuleError Unit → Prop where
  | all (parses : AllParse expressions) : ParsedInOrder expressions (.ok ())
  | first {owner : ExpressionOwner} {error : SyntaxError} (failing : FirstUnparsed expressions owner error) :
    ParsedInOrder expressions (.error (.badExpression error (some owner)))

namespace ParsedInOrder

variable {expressions more : List ExpressionOwner} {answer next : Except RuleError Unit}

theorem nil : ParsedInOrder [] (.ok ()) :=
  .all (List.forall_mem_nil _)

theorem cons {owner : ExpressionOwner} (parses : ∃ program, parse owner.source = .ok program)
    (rest : ParsedInOrder expressions answer) : ParsedInOrder (owner :: expressions) answer := by
  cases rest with
  | all others => exact .all (List.forall_mem_cons.2 ⟨parses, others⟩)
  | first failing => exact .first (.later parses failing)

theorem append (before : AllParse expressions) (rest : ParsedInOrder more answer) :
    ParsedInOrder (expressions ++ more) answer := by
  induction expressions with
  | nil => exact rest
  | cons owner others ih =>
    obtain ⟨parses, before⟩ := List.forall_mem_cons.1 before
    exact cons parses (ih before)

theorem bind (first : ParsedInOrder expressions answer) (rest : ParsedInOrder more next) :
    ParsedInOrder (expressions ++ more) (answer >>= fun _ => next) := by
  cases first with
  | all parses => exact append parses rest
  | first failing => exact .first (failing.append more)

end ParsedInOrder

theorem Validation.requireParses_inOrder (ruleId : String) (conditions : List Condition) :
    ParsedInOrder
      (conditions.filterMap (fun condition => condition.source?.map (fun source => ⟨ruleId, source⟩)))
      (requireParses ruleId conditions) := by
  induction conditions with
  | nil => exact .nil
  | cons condition rest ih =>
    rw [requireParses, List.filterMap_cons]
    cases condition.source? with
    | none => exact ih
    | some source =>
      simp only [Option.map_some]
      cases parsed : parse source with
      | ok program => exact .cons ⟨program, parsed⟩ ih
      | error error => exact .first (.here _ parsed)

theorem Validation.requireAllParse_inOrder (rules : List Rule) :
    ParsedInOrder (rules.flatMap Rule.expressions) (requireAllParse rules) := by
  induction rules with
  | nil => exact .nil
  | cons rule rest ih =>
    rw [requireAllParse, List.flatMap_cons]
    exact .bind (requireParses_inOrder rule.id rule.conditions) ih

/-- What becomes of a rule set: it is refused if it has a flaw, with the flaws told; else for the first of its
expressions that does not parse; and it is accepted if there is neither. The order in which broken declared
constraints are reported makes no difference. -/
structure RuleSet.Judged (ruleSet : RuleSet) (answer : Except RuleError Unit) : Prop where
  refused : (∃ fault, answer = .error (.schema fault)) ↔ ∃ flaw, ruleSet.Has flaw
  told : ∀ fault, answer = .error (.schema fault) →
    ∃ details, fault = .invalid .ruleSet details ∧ ruleSet.ToldBy details
  unparsed : (∃ error owner, answer = .error (.badExpression error owner)) ↔
    (∀ flaw, ¬ruleSet.Has flaw) ∧ ¬AllParse ruleSet.expressions
  named : ∀ error owner, answer = .error (.badExpression error owner) →
    ∃ first, owner = some first ∧ FirstUnparsed ruleSet.expressions first error
  accepted : answer = .ok () ↔ (∀ flaw, ¬ruleSet.Has flaw) ∧ AllParse ruleSet.expressions
  unordered : ∀ reported, reported.Perm ruleSet.declaredViolations → answer = ruleSet.validateReporting reported

namespace RuleSet

variable {ruleSet : RuleSet}

theorem judged_of_flaw (flawed : ∃ flaw, ruleSet.Has flaw) : ruleSet.Judged ruleSet.validate := by
  have unclean : ¬∀ flaw, ¬ruleSet.Has flaw := not_forall_not.2 flawed
  have answer := validate_eq_of_violations (mt setViolations_eq_nil_iff.1 unclean)
  constructor
  case refused => exact iff_of_true ⟨_, answer⟩ flawed
  case told =>
    intro fault same
    cases answer.symm.trans same
    exact ⟨_, rfl, toldBy_inOrder⟩
  case unparsed =>
    rw [answer]
    exact iff_of_false (by simp) (fun failing => unclean failing.1)
  case named =>
    rw [answer]
    exact nofun
  case accepted =>
    rw [answer]
    exact iff_of_false (by simp) (fun passed => unclean passed.1)
  case unordered => exact fun _ rearranged => (validateReporting_of_perm rearranged).symm

theorem judged_of_no_flaw (clean : ∀ flaw, ¬ruleSet.Has flaw) : ruleSet.Judged ruleSet.validate := by
  have flawless : ¬∃ flaw, ruleSet.Has flaw := not_exists.2 clean
  have unordered : ∀ reported, reported.Perm ruleSet.declaredViolations →
      ruleSet.validate = ruleSet.validateReporting reported :=
    fun _ rearranged => (validateReporting_of_perm rearranged).symm
  have answer := validate_of_no_violations (setViolations_eq_nil_iff.2 clean)
  have parsed : ParsedInOrder ruleSet.expressions ruleSet.validate :=
    answer ▸ requireAllParse_inOrder ruleSet.rules
  generalize ruleSet.validate = outcome at parsed unordered
  cases parsed with
  | all parses =>
    constructor
    case refused => exact iff_of_false (by simp) flawless
    case told => exact nofun
    case unparsed => exact iff_of_false (by simp) (fun failing => failing.2 parses)
    case named => exact nofun
    case accepted => exact iff_of_true rfl ⟨clean, parses⟩
    case unordered => exact unordered
  | @first owner error failing =>
    constructor
    case refused => exact iff_of_false (by simp) flawless
    case told => exact nofun
    case unparsed => exact iff_of_true ⟨error, some owner, rfl⟩ ⟨clean, failing.not_allParse⟩
    case named =>
      intro other blamed same
      cases same
      exact ⟨owner, rfl, failing⟩
    case accepted => exact iff_of_false (by simp) (fun parses => failing.not_allParse parses.2)
    case unordered => exact unordered

/-- Every rule set is judged by its flaws, all of which are told at once, and then by its expressions in order. -/
theorem validate_judged (ruleSet : RuleSet) : ruleSet.Judged ruleSet.validate := by
  by_cases clean : ∀ flaw, ¬ruleSet.Has flaw
  case pos => exact judged_of_no_flaw clean
  case neg => exact judged_of_flaw (not_forall_not.1 clean)

end RuleSet

end Verdict
