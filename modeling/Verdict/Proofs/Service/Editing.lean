import Verdict.Service.Basic
import Verdict.Proofs.Rule.Patching
import Verdict.Proofs.Store.Invariant
/-!
What a service does with a rule in force. The rule is found by its name and taken out by it, and a patch that
was accepted changes it exactly if the expressions of the patch parse.
-/

namespace Verdict.Service

open Time (Instant)

variable {service : Service} {snapshot : Snapshot} {rule : Rule}

theorem rules_of_load {payload : Json} {now : Instant} {report : LoadReport}
    (success : (service.loadRules payload now).1 = .ok report) :
    ∃ ruleSet snapshot, RuleSet.accept payload now = .ok ruleSet ∧
      Snapshot.ofRuleSet ruleSet now = .ok snapshot ∧
      (service.loadRules payload now).2.rules = ⟨some snapshot⟩ := by
  unfold loadRules at success ⊢
  split at success
  next snapshot store loaded =>
    obtain ⟨ruleSet, accepted, saved⟩ := Outcome.bind_eq_ok_iff.1 loaded
    obtain ⟨made, rfl⟩ := Store.save_eq_ok_iff.1 saved
    exact ⟨ruleSet, snapshot, accepted, made, rfl⟩
  next failed => cases success

section InForce

variable (present : service.rules.snapshot = some snapshot) (wellFormed : snapshot.WellFormed)
  (member : rule ∈ snapshot.plainRules)

include present wellFormed member

theorem getRule_of_mem : service.getRule rule.id = .ok rule := by
  have found : snapshot.find? rule.id = some rule := Rule.find?_id_eq_some wellFormed.kept.distinct member
  rw [getRule, Store.get, present, Option.bind_some, found]

theorem deleteRule_of_mem (now : Instant) :
    ∃ left, service.deleteRule rule.id now = (.ok rule, { service with rules := ⟨some left⟩ }) ∧
      left.plainRules = snapshot.plainRules.filter (fun other => other.id != rule.id) := by
  obtain ⟨left, success⟩ := Snapshot.exists_delete wellFormed member now
  have deleted := Store.delete_eq_ok_iff.2 ⟨snapshot, left, present, success, rfl⟩
  refine ⟨left, ?_, (Snapshot.delete_eq_ok wellFormed success).2.2.2.2⟩
  simp only [deleteRule, deleted, changed]

variable {payload : Json} {patch : RulePatch} (accepted : RulePatch.accept payload = .ok patch)
  (now : Instant)

include accepted

theorem updateRule_of_mem (parses : patch.Parses) :
    ∃ patched, service.updateRule rule.id payload now =
        (.ok (rule.patched patch now), { service with rules := ⟨some patched⟩ }) ∧
      patched.plainRules = Rule.byPriority (snapshot.plainRules.map (Rule.patchedAt rule.id patch now)) := by
  have kept := (Rule.wellFormed_patched_iff (wellFormed.kept.rules rule member)
    (RulePatch.wellFormed_of_accept accepted) now).2 parses
  obtain ⟨patched, success⟩ := Snapshot.exists_update wellFormed member kept
  have updated : RulePatch.accept payload >>= (service.rules.update rule.id · now) =
      .ok (rule.patched patch now, ⟨some patched⟩) :=
    Outcome.bind_eq_ok_iff.2
      ⟨patch, accepted, Store.update_eq_ok_iff.2 ⟨snapshot, patched, present, success, rfl⟩⟩
  obtain ⟨_, _, _, _, _, _, _, rules⟩ := Snapshot.update_eq_ok wellFormed success
  refine ⟨patched, ?_, rules⟩
  simp only [updateRule, updated, changed]

omit member in
theorem parses_of_updateRule {answer : Rule}
    (success : (service.updateRule rule.id payload now).1 = .ok answer) : patch.Parses := by
  unfold updateRule changed at success
  split at success
  next changed store updated =>
    obtain ⟨same, read, updated⟩ := Outcome.bind_eq_ok_iff.1 updated
    cases accepted.symm.trans read
    obtain ⟨before, after, found, made, rfl⟩ := Store.update_eq_ok_iff.1 updated
    cases present.symm.trans found
    obtain ⟨old, oldMember, named, rfl, patched, _⟩ := Snapshot.update_eq_ok wellFormed made
    have kept := RulePatch.wellFormed_of_accept accepted
    exact (Rule.wellFormed_patched_iff (wellFormed.kept.rules old oldMember) kept now).1 patched
  next failed => cases success

end InForce

end Verdict.Service
