import Verdict.Store.Snapshot
import Verdict.Proofs.Rule.Validation
/-!
Compiling rules. Parsing the expressions changes nothing in a rule, and of well-formed rules every one can
be compiled, so validation is the only obstacle to a snapshot.
-/

namespace Verdict

open Expression (parse)

namespace Condition

theorem exists_compileAll {conditions : List Condition}
    (parses : ∀ condition ∈ conditions, ∀ source, condition.source? = some source →
      ∃ program, parse source = .ok program) :
    ∃ programs, compileAll conditions = .ok programs := by
  induction conditions with
  | nil => exact ⟨[], rfl⟩
  | cons condition rest ih =>
    obtain ⟨headParses, restParses⟩ := List.forall_mem_cons.1 parses
    obtain ⟨programs, compiled⟩ := ih restParses
    cases kind : condition.source? with
    | none => exact ⟨none :: programs, by simp only [compileAll, kind, compiled, Except.map]⟩
    | some source =>
      obtain ⟨program, parsed⟩ := headParses source kind
      exact ⟨some program :: programs, by simp only [compileAll, kind, parsed, compiled, Except.map]⟩

end Condition

namespace CompiledRule

theorem rule_of_compile {rule : Rule} {compiled : CompiledRule} (success : compile rule = .ok compiled) :
    compiled.rule = rule := by
  obtain ⟨programs, _, rfl⟩ := Outcome.map_eq_ok_iff.1 success
  rfl

theorem exists_compile {rule : Rule} (wellFormed : rule.WellFormed) :
    ∃ compiled, compile rule = .ok compiled := by
  obtain ⟨programs, success⟩ := Condition.exists_compileAll wellFormed.parses
  exact ⟨⟨rule, programs⟩, Outcome.map_eq_ok_iff.2 ⟨programs, success, rfl⟩⟩

theorem compileAll_cons_eq_ok_iff {rule : Rule} {rest : List Rule} {all : List CompiledRule} :
    compileAll (rule :: rest) = .ok all ↔
      ∃ compiled others, compile rule = .ok compiled ∧ compileAll rest = .ok others ∧
        all = compiled :: others := by
  rw [compileAll, Outcome.bind_eq_ok_iff]
  constructor
  · intro steps
    obtain ⟨compiled, first, success⟩ := steps
    obtain ⟨others, later, same⟩ := Outcome.bind_eq_ok_iff.1 success
    exact ⟨compiled, others, first, later, (Except.ok.inj same).symm⟩
  · intro steps
    obtain ⟨compiled, others, first, later, rfl⟩ := steps
    exact ⟨compiled, first, Outcome.bind_eq_ok_iff.2 ⟨others, later, rfl⟩⟩

theorem map_rule_of_compileAll {rules : List Rule} {all : List CompiledRule}
    (success : compileAll rules = .ok all) : all.map rule = rules := by
  induction rules generalizing all with
  | nil => cases success; rfl
  | cons rule rest ih =>
    obtain ⟨compiled, others, first, later, rfl⟩ := compileAll_cons_eq_ok_iff.1 success
    rw [List.map_cons, rule_of_compile first, ih later]

theorem exists_compileAll {rules : List Rule} (wellFormed : ∀ rule ∈ rules, rule.WellFormed) :
    ∃ all, compileAll rules = .ok all := by
  induction rules with
  | nil => exact ⟨[], rfl⟩
  | cons rule rest ih =>
    obtain ⟨headFormed, restFormed⟩ := List.forall_mem_cons.1 wellFormed
    obtain ⟨compiled, first⟩ := exists_compile headFormed
    obtain ⟨others, later⟩ := ih restFormed
    exact ⟨compiled :: others, compileAll_cons_eq_ok_iff.2 ⟨compiled, others, first, later, rfl⟩⟩

end CompiledRule

end Verdict
