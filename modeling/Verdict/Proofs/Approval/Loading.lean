import Mathlib
import Verdict.Approval.Basic
import Verdict.Proofs.Store.Operations
import Verdict.Service.Basic
/-!
Putting an approval list in force. An entry without an id or a name is given one, from its place and from its
condition, and the constraints on rules are then asked of what it was given as well: a list whose conditions all
parse is refused when an id that was made up stands in it already, and an empty condition is refused as an empty
name.
-/

namespace Verdict

open Expression (parse)
open Time (Instant)
open Validation

namespace ApprovalRule

/-- The id that is made up for an entry without one. -/
def madeUpId (place : Nat) : String := "approval_" ++ toString (place + 1)

theorem madeUpId_inj {first second : Nat} (same : madeUpId first = madeUpId second) : first = second := by
  have digits : (first + 1).repr = (second + 1).repr := (String.append_right_inj "approval_").1 same
  exact Nat.succ.inj (Nat.repr_inj.1 digits)

theorem madeUpId_ne_empty (place : Nat) : madeUpId place ≠ "" := by
  simp [madeUpId]

theorem violations_eq_nil {entries : List ApprovalRule}
    (known : ∀ entry ∈ entries, (ApprovalAction.of? entry).isSome = true) (place : Nat) :
    violations place entries = [] := by
  induction entries generalizing place with
  | nil => rfl
  | cons entry rest ih =>
    obtain ⟨first, others⟩ := List.forall_mem_cons.1 known
    rw [violations, ih others, List.append_nil, report_eq_nil_iff, Option.isNone_iff_eq_none]
    exact fun missing => by simp [missing] at first

/-- With known actions every entry becomes a rule. -/
theorem map_id_toRules {entries : List ApprovalRule}
    (known : ∀ entry ∈ entries, (ApprovalAction.of? entry).isSome = true) (now : Instant) (place : Nat) :
    (toRules now place entries).map Rule.id =
      entries.mapIdx (fun offset entry => entry.idAt (place + offset)) := by
  induction entries generalizing place with
  | nil => rfl
  | cons entry rest ih =>
    obtain ⟨first, others⟩ := List.forall_mem_cons.1 known
    obtain ⟨action, found⟩ := Option.isSome_iff_exists.1 first
    rw [toRules, found, List.map_append, ih others, List.mapIdx_cons]
    simp only [Nat.add_right_comm place]
    rfl

theorem mem_toRules {entries : List ApprovalRule} {now : Instant} {place : Nat} {rule : Rule} :
    rule ∈ toRules now place entries ↔
      ∃ offset entry action, entries[offset]? = some entry ∧ ApprovalAction.of? entry = some action ∧
        rule = entry.toRule action (place + offset) now := by
  induction entries generalizing place with
  | nil => simp [toRules]
  | cons first rest ih =>
    rw [toRules, List.mem_append, ih]
    constructor
    · rintro (here | ⟨offset, entry, action, found, known, rfl⟩)
      · obtain ⟨action, known, rfl⟩ := Option.map_eq_some_iff.1 (Option.mem_toList.1 here)
        exact ⟨0, first, action, rfl, known, rfl⟩
      · exact ⟨offset + 1, entry, action, found, known, by rw [Nat.add_right_comm, Nat.add_assoc]⟩
    · rintro ⟨offset, entry, action, found, known, rfl⟩
      cases offset with
      | zero =>
        cases found
        exact .inl (Option.mem_toList.2 (Option.map_eq_some_iff.2 ⟨action, known, rfl⟩))
      | succ offset =>
        exact .inr ⟨offset, entry, action, found, known, by rw [Nat.add_right_comm, Nat.add_assoc]⟩

theorem fieldViolations_toRule {entry : ApprovalRule} {action : ApprovalAction} {place : Nat}
    {now : Instant} :
    fieldViolations "" (entry.toRule action place now) = [] ↔
      entry.idAt place ≠ "" ∧ entry.name.getD entry.condition ≠ "" := by
  rw [fieldViolations_eq_nil_iff]
  have priority : (1 : Int32) ≤ Rule.defaultPriority ∧ Rule.defaultPriority ≤ 10 := by decide
  simp [toRule, priority]

end ApprovalRule

theorem nodup_mapIdx_iff {α β : Type} {items : List α} {change : Nat → α → β} :
    (items.mapIdx change).Nodup ↔
      ∀ {first second : Nat} {item other : α}, items[first]? = some item → items[second]? = some other →
        change first item = change second other → first = second := by
  rw [List.nodup_iff_getElem?_ne_getElem?]
  constructor
  · intro apart first second item other found listed same
    have equal : (items.mapIdx change)[first]? = (items.mapIdx change)[second]? := by
      simp [found, listed, same]
    have inside (place : Nat) {item : α} (found : items[place]? = some item) :
        place < (items.mapIdx change).length := by
      rw [List.length_mapIdx]
      exact (List.getElem?_eq_some_iff.1 found).1
    rcases Nat.lt_trichotomy first second with before | equals | after
    · exact absurd equal (apart first second before (inside second listed))
    · exact equals
    · exact absurd equal.symm (apart second first after (inside first found))
  · intro apart first second before inside equal
    rw [List.length_mapIdx] at inside
    rw [List.getElem?_mapIdx, List.getElem?_mapIdx, List.getElem?_eq_getElem inside,
      List.getElem?_eq_getElem (before.trans inside), Option.map_some, Option.map_some] at equal
    have same := apart (List.getElem?_eq_getElem (before.trans inside)) (List.getElem?_eq_getElem inside)
      (Option.some.inj equal)
    omega

namespace ApprovalRules

variable {list : ApprovalRules} (now : Instant)

/-- What a list says by itself is in order: its actions are known, the ids that it gives are not empty and pairwise
distinct, and the names that it gives are not empty. -/
structure WellWritten (list : ApprovalRules) : Prop where
  known : ∀ entry ∈ list.entries, (ApprovalAction.of? entry).isSome = true
  named : ∀ entry ∈ list.entries, entry.id ≠ some ""
  distinct : (list.entries.filterMap ApprovalRule.id).Nodup
  titled : ∀ entry ∈ list.entries, entry.name ≠ some ""

/-- An id that is made up for an entry is one that another entry was given. -/
def Clashes (list : ApprovalRules) : Prop :=
  ∃ place entry, list.entries[place]? = some entry ∧ entry.id = none ∧
    ∃ other ∈ list.entries, other.id = some (ApprovalRule.madeUpId place)

/-- An entry without a name has an empty condition to be called by. -/
def Untitled (list : ApprovalRules) : Prop :=
  ∃ entry ∈ list.entries, entry.name = none ∧ entry.condition = ""

/-- Every condition parses as an expression. -/
def AllParse (list : ApprovalRules) : Prop :=
  ∀ entry ∈ list.entries, ∃ program, parse entry.condition = .ok program

/-- The rule set of a list with known actions. -/
def asRuleSet (list : ApprovalRules) (now : Instant) : RuleSet :=
  ⟨"legacy", ⟨"Purchase request approval rules", none, none, none⟩,
    ApprovalRule.toRules now 0 list.entries⟩

theorem WellWritten.toRuleSet_eq (written : list.WellWritten) :
    list.toRuleSet now = .ok (list.asRuleSet now) := by
  rw [toRuleSet, ApprovalRule.violations_eq_nil written.known]
  rfl

theorem WellWritten.eq_of_id_eq (written : list.WellWritten) {first second : Nat}
    {entry other : ApprovalRule} {id : String} (found : list.entries[first]? = some entry)
    (listed : list.entries[second]? = some other) (given : entry.id = some id)
    (same : other.id = some id) : first = second := by
  have apart := List.pairwise_iff_getElem.1 (List.pairwise_filterMap.1 written.distinct)
  obtain ⟨inside, rfl⟩ := List.getElem?_eq_some_iff.1 found
  obtain ⟨within, rfl⟩ := List.getElem?_eq_some_iff.1 listed
  rcases Nat.lt_trichotomy first second with before | equal | after
  · exact absurd rfl (apart first second inside within before id given id same)
  · exact equal
  · exact absurd rfl (apart second first within inside after id same id given)

/-- The ids of the rules are told apart exactly if no made-up id clashes with a given one: made-up ids differ from
each other, as given ones do. -/
theorem WellWritten.nodup_iff (written : list.WellWritten) :
    (list.entries.mapIdx (fun place entry => entry.idAt place)).Nodup ↔ ¬list.Clashes := by
  rw [nodup_mapIdx_iff]
  constructor
  · rintro apart ⟨place, entry, found, nameless, other, member, given⟩
    obtain ⟨index, listed⟩ := List.mem_iff_getElem?.1 member
    obtain rfl : place = index := apart found listed (by
      rw [ApprovalRule.idAt, ApprovalRule.idAt, nameless, given]
      rfl)
    cases found.symm.trans listed
    rw [nameless] at given
    cases given
  · intro apart first second entry other found listed same
    rw [ApprovalRule.idAt, ApprovalRule.idAt] at same
    cases own : entry.id with
    | some id =>
      cases others : other.id with
      | some id' =>
        rw [own, others] at same
        exact written.eq_of_id_eq found listed own (others.trans (congrArg some same.symm))
      | none =>
        rw [own, others] at same
        exact absurd ⟨second, other, listed, others, entry, List.mem_of_getElem? found,
          own.trans (congrArg some same)⟩ apart
    | none =>
      cases others : other.id with
      | some id =>
        rw [own, others] at same
        exact absurd ⟨first, entry, found, own, other, List.mem_of_getElem? listed,
          others.trans (congrArg some same.symm)⟩ apart
      | none =>
        rw [own, others] at same
        exact ApprovalRule.madeUpId_inj same

/-- The rules have ids and names, made up or given, unless an empty condition has to serve as a name. -/
theorem WellWritten.fieldViolations_eq_nil_iff (written : list.WellWritten) :
    (∀ rule ∈ (list.asRuleSet now).rules, fieldViolations "" rule = []) ↔ ¬list.Untitled := by
  constructor
  · rintro clean ⟨entry, member, nameless, empty⟩
    obtain ⟨place, found⟩ := List.mem_iff_getElem?.1 member
    obtain ⟨action, known⟩ := Option.isSome_iff_exists.1 (written.known entry member)
    have kept := clean _ (ApprovalRule.mem_toRules.2 ⟨place, entry, action, found, known, rfl⟩)
    refine (ApprovalRule.fieldViolations_toRule.1 kept).2 ?_
    rw [nameless, empty]
    rfl
  · intro titled rule member
    obtain ⟨place, entry, action, found, known, rfl⟩ := ApprovalRule.mem_toRules.1 member
    have inList := List.mem_of_getElem? found
    rw [ApprovalRule.fieldViolations_toRule, ApprovalRule.idAt]
    constructor
    · cases own : entry.id with
      | none => exact ApprovalRule.madeUpId_ne_empty _
      | some id => exact fun empty => written.named entry inList (own.trans (congrArg some empty))
    · cases own : entry.name with
      | none => exact fun empty => titled ⟨entry, inList, own, empty⟩
      | some name => exact fun empty => written.titled entry inList (own.trans (congrArg some empty))

/-- A list in order keeps the constraints on rules unless what is made up for its entries breaks them. -/
theorem WellWritten.setViolations_eq_nil_iff (written : list.WellWritten) :
    setViolations (list.asRuleSet now) = [] ↔ ¬list.Clashes ∧ ¬list.Untitled := by
  have ids : ((list.asRuleSet now).rules.map Rule.id).Nodup ↔ ¬list.Clashes := by
    rw [asRuleSet, ApprovalRule.map_id_toRules written.known]
    simp only [Nat.zero_add]
    exact written.nodup_iff
  have actions : ∀ rule ∈ (list.asRuleSet now).rules, ∀ action ∈ rule.actions, action.kind ≠ .unknown := by
    intro rule member
    obtain ⟨place, entry, action, found, known, rfl⟩ := ApprovalRule.mem_toRules.1 member
    rw [ApprovalRule.toRule, List.forall_mem_singleton]
    cases action <;> exact nofun
  have version : ¬(list.asRuleSet now).version.isEmpty = true := (by decide : ¬"legacy".isEmpty = true)
  have title : ¬(list.asRuleSet now).metadata.name.isEmpty = true :=
    (by decide : ¬"Purchase request approval rules".isEmpty = true)
  rw [setViolations]
  simp only [List.append_eq_nil_iff, report_eq_nil_iff, rulesFieldViolations_eq_nil_iff,
    rulesUseViolations_eq_nil_iff, written.fieldViolations_eq_nil_iff, ids]
  constructor
  · rintro ⟨⟨_, titled⟩, _, apart, _⟩
    exact ⟨apart, titled⟩
  · rintro ⟨apart, titled⟩
    exact ⟨⟨⟨version, title⟩, titled⟩, by simp, apart, actions⟩

theorem WellWritten.requireAllParse_eq_ok_iff (written : list.WellWritten) :
    requireAllParse (list.asRuleSet now).rules = .ok () ↔ list.AllParse := by
  rw [Validation.requireAllParse_eq_ok_iff]
  simp only [requireParses_eq_ok_iff]
  constructor
  · intro parses entry member
    obtain ⟨place, found⟩ := List.mem_iff_getElem?.1 member
    obtain ⟨action, known⟩ := Option.isSome_iff_exists.1 (written.known entry member)
    exact parses _ (ApprovalRule.mem_toRules.2 ⟨place, entry, action, found, known, rfl⟩) _
      (List.mem_singleton_self _) _ rfl
  · intro parses rule member condition stands source given
    obtain ⟨place, entry, action, found, known, rfl⟩ := ApprovalRule.mem_toRules.1 member
    cases List.mem_singleton.1 stands
    cases given
    exact parses entry (List.mem_of_getElem? found)

/-- An empty condition is no expression. -/
theorem Untitled.not_allParse (untitled : list.Untitled) : ¬list.AllParse := by
  obtain ⟨entry, member, _, empty⟩ := untitled
  intro parses
  obtain ⟨program, parsed⟩ := parses entry member
  have refused : (parse "").toOption.isNone = true := by decide +kernel
  rw [← empty, parsed] at refused
  cases refused

end ApprovalRules

theorem RuleSet.validate_of_violations {ruleSet : RuleSet} (broken : setViolations ruleSet ≠ []) :
    ∃ fault, ruleSet.validate = .error (.schema fault) :=
  ⟨_, RuleSet.validate_eq_of_violations broken⟩

namespace Validation

/-- The errors of expressions that do not parse. -/
abbrev Unparsed (error : RuleError) : Prop := ∃ fault owner, error = .badExpression fault owner

theorem requireParses_unparsed (ruleId : String) (conditions : List Condition) :
    Outcome.FailsOnly Unparsed (requireParses ruleId conditions) := by
  induction conditions with
  | nil => exact .ok ()
  | cons condition rest ih =>
    unfold requireParses
    split
    · exact ih
    · split
      · exact ih
      · exact .error ⟨_, _, rfl⟩

theorem requireAllParse_unparsed (rules : List Rule) :
    Outcome.FailsOnly Unparsed (requireAllParse rules) := by
  induction rules with
  | nil => exact .ok ()
  | cons rule rest ih => exact (requireParses_unparsed rule.id rule.conditions).bind (fun _ => ih)

end Validation

theorem Snapshot.ofRuleSet_of_invalid {ruleSet : RuleSet} {error : RuleError}
    (invalid : ruleSet.validate = .error error) (now : Instant) : ofRuleSet ruleSet now = .error error := by
  rw [ofRuleSet, invalid]
  rfl

namespace Service

variable {service : Service} {payload : Json} {now : Instant} {list : ApprovalRules}

/-- What becomes of an approval list: it is loaded exactly if no made-up id clashes and all conditions parse; a
condition that does not parse is the error exactly if nothing made up is at fault; and every other refusal blames an
id or a name that was made up. -/
structure LoadsApproval (list : ApprovalRules) (answer : Except RuleError LoadReport) : Prop where
  loaded : (∃ report, answer = .ok report) ↔ ¬list.Clashes ∧ list.AllParse
  unparsed : (∃ fault owner, answer = .error (.badExpression fault owner)) ↔
    (¬list.Clashes ∧ ¬list.Untitled) ∧ ¬list.AllParse
  refused : (∃ fault, answer = .error (.schema fault)) ↔ list.Clashes ∨ list.Untitled

theorem loadApprovalRules_of_valid (accepted : ApprovalRules.accept payload = .ok list)
    (written : list.WellWritten) (valid : (list.asRuleSet now).validate = .ok ()) :
    ∃ report, (service.loadApprovalRules payload now).1 = .ok report := by
  obtain ⟨snapshot, made⟩ := Snapshot.exists_ofRuleSet (RuleSet.validate_eq_ok_iff.1 valid) now
  have loaded : (ApprovalRules.accept payload >>= (·.toRuleSet now) >>= (service.approvalRules.save · now)) =
      .ok (snapshot, ⟨some snapshot⟩) := by
    rw [accepted]
    change (list.toRuleSet now >>= (service.approvalRules.save · now)) = _
    rw [written.toRuleSet_eq]
    exact congrArg (Except.map _) made
  exact ⟨LoadReport.of snapshot, by rw [loadApprovalRules, loaded]⟩

theorem loadApprovalRules_of_invalid (accepted : ApprovalRules.accept payload = .ok list)
    (written : list.WellWritten) {error : RuleError}
    (invalid : (list.asRuleSet now).validate = .error error) :
    (service.loadApprovalRules payload now).1 = .error error := by
  have failed : (ApprovalRules.accept payload >>= (·.toRuleSet now) >>= (service.approvalRules.save · now)) =
      .error error := by
    rw [accepted]
    change (list.toRuleSet now >>= (service.approvalRules.save · now)) = _
    rw [written.toRuleSet_eq]
    exact congrArg (Except.map _) (Snapshot.ofRuleSet_of_invalid invalid now)
  rw [loadApprovalRules, failed]

/-- Whatever list is in order by itself, its conditions alone decide whether it is loaded, and a condition that
does not parse is what it is refused for, except where an id or a name that was made up for an entry is at fault. -/
theorem approval_list_loads_iff (service : Service) (now : Instant)
    (accepted : ApprovalRules.accept payload = .ok list) (written : list.WellWritten) :
    LoadsApproval list (service.loadApprovalRules payload now).1 := by
  by_cases sound : ¬list.Clashes ∧ ¬list.Untitled
  case pos =>
    have valid := RuleSet.validate_of_no_violations ((written.setViolations_eq_nil_iff now).2 sound)
    have parses := written.requireAllParse_eq_ok_iff now
    cases outcome : requireAllParse (list.asRuleSet now).rules with
    | ok checked =>
      obtain ⟨report, answer⟩ : ∃ report, (service.loadApprovalRules payload now).1 = .ok report :=
        loadApprovalRules_of_valid accepted written (valid.trans outcome)
      have all : list.AllParse := parses.1 outcome
      rw [answer]
      constructor
      case loaded => exact iff_of_true ⟨report, rfl⟩ ⟨sound.1, all⟩
      case unparsed => exact iff_of_false nofun (fun failing => failing.2 all)
      case refused => exact iff_of_false nofun (not_or.2 sound)
    | error error =>
      obtain ⟨fault, owner, rfl⟩ := requireAllParse_unparsed _ error outcome
      have failing : ¬list.AllParse := by
        rw [← parses, outcome]
        exact nofun
      rw [loadApprovalRules_of_invalid accepted written (valid.trans outcome)]
      constructor
      case loaded => exact iff_of_false nofun (fun loads => failing loads.2)
      case unparsed => exact iff_of_true ⟨fault, owner, rfl⟩ ⟨sound, failing⟩
      case refused => exact iff_of_false nofun (not_or.2 sound)
  case neg =>
    -- The constraints on rules come before the expressions, so a made-up part at fault is reported first.
    obtain ⟨fault, invalid⟩ :=
      RuleSet.validate_of_violations (mt (written.setViolations_eq_nil_iff now).1 sound)
    have blamed : list.Clashes ∨ list.Untitled := by
      by_contra none
      exact sound (not_or.1 none)
    rw [loadApprovalRules_of_invalid accepted written invalid]
    constructor
    case loaded =>
      refine iff_of_false nofun (fun loads => ?_)
      rcases blamed with clashes | untitled
      · exact loads.1 clashes
      · exact untitled.not_allParse loads.2
    case unparsed => exact iff_of_false nofun (fun failing => sound failing.1)
    case refused => exact iff_of_true ⟨fault, rfl⟩ blamed

end Service

/-- An approval rule with the given id, if any, and without a name. -/
def plainApproval (id : Option String) (condition action : String) : ApprovalRule :=
  ⟨id, none, condition, action, none, none, none⟩

/-- How a list of such rules is written. -/
def approvalPayload (entries : List (Option String × String × String)) : Json :=
  .object [("approvalRules", .array (entries.map (fun (id, condition, action) =>
    .object ([("action", .string action), ("condition", .string condition)] ++
      (id.map (fun id => ("id", Json.string id))).toList))))]

/-- The second entry is given an id that would be made up for the third, and its condition breaks off. -/
def reservedIdPayload : Json :=
  approvalPayload [(none, "amount < 5", "autoApprove"), (some "approval_3", "amount >", "setUrgency"),
    (some "level", "amount > 9", "requireApproval")]

/-- The list that is read from it. -/
def reservedIdList : ApprovalRules :=
  ⟨[plainApproval none "amount < 5" "autoApprove", plainApproval (some "approval_3") "amount >" "setUrgency",
    plainApproval (some "level") "amount > 9" "requireApproval"]⟩

theorem reserved_id_list_loads :
    ApprovalRules.accept reservedIdPayload = .ok reservedIdList ∧ reservedIdList.WellWritten ∧
      Service.LoadsApproval reservedIdList
        ((Service.new 1).loadApprovalRules reservedIdPayload ⟨0, 0⟩).1 := by
  have accepted : ApprovalRules.accept reservedIdPayload = .ok reservedIdList := rfl
  have written : reservedIdList.WellWritten := by constructor <;> decide +kernel
  exact ⟨accepted, written, Service.approval_list_loads_iff (Service.new 1) ⟨0, 0⟩ accepted written⟩

/-- A list that is in order by itself and gets a schema error. -/
def RefusedForDefaults (payload : Json) (list : ApprovalRules) : Prop :=
  ApprovalRules.accept payload = .ok list ∧ list.WellWritten ∧
    ∃ fault, ((Service.new 1).loadApprovalRules payload ⟨0, 0⟩).1 = .error (.schema fault)

theorem refusedForDefaults {payload : Json} {list : ApprovalRules}
    (accepted : ApprovalRules.accept payload = .ok list) (written : list.WellWritten)
    (broken : setViolations (list.asRuleSet ⟨0, 0⟩) ≠ []) : RefusedForDefaults payload list := by
  obtain ⟨fault, invalid⟩ := RuleSet.validate_of_violations broken
  exact ⟨accepted, written, fault, Service.loadApprovalRules_of_invalid accepted written invalid⟩

/-- Two lists in order get a schema error: in the first all conditions parse, and the id that is made up for the
second entry is the one that the first was given; the condition of the second list does not parse. -/
theorem lists_refused_for_defaults :
    (∃ list : ApprovalRules, list.AllParse ∧
      RefusedForDefaults (approvalPayload [(some "approval_2", "amount < 5", "autoApprove"),
        (none, "amount > 9", "setUrgency")]) list) ∧
      ∃ list : ApprovalRules, ¬list.AllParse ∧
        RefusedForDefaults (approvalPayload [(none, "", "autoApprove")]) list := by
  constructor
  · refine ⟨⟨[plainApproval (some "approval_2") "amount < 5" "autoApprove",
      plainApproval none "amount > 9" "setUrgency"]⟩, ?_,
      refusedForDefaults rfl (by constructor <;> decide +kernel) (by decide +kernel)⟩
    have parses : ∀ source ∈ ["amount < 5", "amount > 9"], (parse source).toOption.isSome = true := by
      decide +kernel
    intro entry member
    have listed : entry.condition ∈ ["amount < 5", "amount > 9"] := List.mem_map_of_mem member
    obtain ⟨program, found⟩ := Option.isSome_iff_exists.1 (parses _ listed)
    exact ⟨program, Outcome.eq_ok_of_toOption found⟩
  · refine ⟨⟨[plainApproval none "" "autoApprove"]⟩, ?_,
      refusedForDefaults rfl (by constructor <;> decide +kernel) (by decide +kernel)⟩
    exact ApprovalRules.Untitled.not_allParse ⟨_, List.mem_singleton_self _, rfl, rfl⟩

end Verdict
