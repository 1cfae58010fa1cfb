import Verdict.Proofs.Expression.Completeness
/-!
What is read does not depend on what stands far behind it. Each function of the parser reads as far as its phrase goes
on, so it has seen one token of the rest at most: in front of any other rest that starts with the same token it reads
the same tokens to the same tree.
-/

namespace Verdict.Expression

section Stops

variable {phrase : Phrase} {rest other : List Located}

theorem stops_congr (same : other.head? = rest.head?) (stops : Stops phrase rest) : Stops phrase other :=
  fun next present => stops next (same ▸ present)

theorem stops_primary (rest : List Located) : Stops .primary rest := by
  intro next _ looseness sign
  cases token : next.token <;> rw [token] at sign <;> cases sign <;> decide

/-- Without the one sign that is left, a phrase does not go on as a looser phrase either. -/
theorem Stops.looser {looser : Phrase} {sign : Token} (stops : Stops phrase rest)
    (only : ∀ token : Token, token.looseness? = some looser.looseness → token = sign)
    (next : looser.looseness = phrase.looseness + 1) (absent : behind? sign rest = none) : Stops looser rest := by
  cases rest with
  | nil => nofun
  | cons first tail =>
    apply stops_cons
    intro looseness known
    have above := stops first rfl looseness known
    have other : looseness ≠ looser.looseness := by
      rintro rfl
      rw [behind?, if_pos (only _ known)] at absent
      cases absent
    omega

/-- Connectives are looser than a comparison. -/
theorem stops_comparison (absent : ∀ first ∈ rest.head?, ∀ comparator, first.token ≠ .comparison comparator) :
    Stops .comparison rest := by
  intro first present looseness known
  cases token : first.token with
  | comparison comparator => exact absurd token (absent first present comparator)
  | and | or =>
    rw [token] at known
    cases known
    decide
  | _ =>
    rw [token] at known
    cases known

theorem stops_of_leadingComparator? (absent : leadingComparator? rest = none) : Stops .comparison rest := by
  apply stops_comparison
  rintro first present comparator sign
  obtain ⟨tail, rfl⟩ := List.head?_eq_some_iff.1 present
  simp only [leadingComparator?, sign] at absent
  cases absent

theorem stops_of_refuseComparison (allowed : refuseComparison rest = .ok ()) : Stops .comparison rest := by
  apply stops_comparison
  rintro first present comparator sign
  obtain ⟨tail, rfl⟩ := List.head?_eq_some_iff.1 present
  simp only [refuseComparison, sign] at allowed
  cases allowed

end Stops

section Longest

variable {finish depth : Nat} {tokens : List Located} {expression : Expr}

theorem stops_of_parseComparison {rest : Rest tokens}
    (parsed : parseComparison finish depth tokens = .ok (expression, rest)) : Stops .comparison rest.val := by
  unfold parseComparison at parsed
  split at parsed
  next => cases parsed
  next left next nextShorter leftParsed =>
    split at parsed
    next absent =>
      cases parsed
      exact stops_of_leadingComparator? absent
    next comparator rightTokens rightShorter found =>
      split at parsed
      next => cases parsed
      next right rest restShorter rightParsed =>
        split at parsed
        next => cases parsed
        next allowed =>
          cases parsed
          exact stops_of_refuseComparison allowed

theorem stops_of_parseConjuncts {finish depth : Nat} {tokens : List Located} {operands : List Expr}
    {rest : Remainder tokens} (stops : Stops .comparison tokens)
    (parsed : parseConjuncts finish depth tokens = .ok (operands, rest)) : Stops .all rest.val := by
  unfold parseConjuncts at parsed
  split at parsed
  next absent =>
    cases parsed
    exact stops.looser (fun token known => by cases token <;> cases known; rfl) rfl absent
  next operandTokens operandShorter found =>
    split at parsed
    next => cases parsed
    next operand next nextShorter operandParsed =>
      split at parsed
      next => cases parsed
      next others rest restShorter othersParsed =>
        cases parsed
        change Stops .all rest
        exact stops_of_parseConjuncts (stops_of_parseComparison operandParsed) othersParsed
termination_by tokens.length

theorem stops_of_parseAll {rest : Rest tokens} (parsed : parseAll finish depth tokens = .ok (expression, rest)) :
    Stops .all rest.val := by
  unfold parseAll at parsed
  split at parsed
  next => cases parsed
  next first next nextShorter operandParsed =>
    split at parsed
    next => cases parsed
    next others rest restShorter othersParsed =>
      cases parsed
      exact stops_of_parseConjuncts (stops_of_parseComparison operandParsed) othersParsed

theorem stops_of_parseAlternatives {finish depth : Nat} {tokens : List Located} {operands : List Expr}
    {rest : Remainder tokens} (stops : Stops .all tokens)
    (parsed : parseAlternatives finish depth tokens = .ok (operands, rest)) : Stops .any rest.val := by
  unfold parseAlternatives at parsed
  split at parsed
  next absent =>
    cases parsed
    exact stops.looser (fun token known => by cases token <;> cases known; rfl) rfl absent
  next operandTokens operandShorter found =>
    split at parsed
    next => cases parsed
    next operand next nextShorter operandParsed =>
      split at parsed
      next => cases parsed
      next others rest restShorter othersParsed =>
        cases parsed
        change Stops .any rest
        exact stops_of_parseAlternatives (stops_of_parseAll operandParsed) othersParsed
termination_by tokens.length

theorem stops_of_parseAny {rest : Rest tokens} (parsed : parseAny finish depth tokens = .ok (expression, rest)) :
    Stops .any rest.val := by
  unfold parseAny at parsed
  split at parsed
  next => cases parsed
  next first next nextShorter operandParsed =>
    split at parsed
    next => cases parsed
    next others rest restShorter othersParsed =>
      cases parsed
      exact stops_of_parseAlternatives (stops_of_parseAll operandParsed) othersParsed

end Longest

/-- Tokens begin with a phrase of one tree, which the function of the phrase reads whatever stands behind it, as long
as that starts with the same token. -/
def Resumes (finish : Nat) (phrase : Phrase) (depth : Nat) (tokens rest : List Located) (expression : Expr) : Prop :=
  ∃ consumed, consumed ++ rest = tokens ∧ Derives phrase (plain consumed) [expression] ∧
    deepest depth (plain consumed) ≤ nestingLimit ∧
      ∀ other, other.head? = rest.head? → Reads finish depth (consumed ++ other) phrase [expression] other

theorem Begins.resumes {phrase : Phrase} {depth : Nat} {tokens rest : List Located} {expression : Expr}
    (begins : Begins phrase depth tokens rest [expression]) (stops : Stops phrase rest) (finish : Nat) :
    Resumes finish phrase depth tokens rest expression := by
  obtain ⟨consumed, whole, derivation, within⟩ := begins
  exact ⟨consumed, whole, derivation, within, fun other same =>
    reads_of_derives derivation rfl within (stops_congr same stops)⟩

section

variable {finish depth : Nat} {tokens : List Located} {expression : Expr} {rest : Rest tokens}

theorem resumes_of_parseAny (within : depth ≤ nestingLimit)
    (parsed : parseAny finish depth tokens = .ok (expression, rest)) :
    Resumes finish .any depth tokens rest.val expression :=
  (begins_of_parseAny within parsed).resumes (stops_of_parseAny parsed) finish

theorem resumes_of_parseAll (within : depth ≤ nestingLimit)
    (parsed : parseAll finish depth tokens = .ok (expression, rest)) :
    Resumes finish .all depth tokens rest.val expression :=
  (begins_of_parseAll within parsed).resumes (stops_of_parseAll parsed) finish

theorem resumes_of_parseComparison (within : depth ≤ nestingLimit)
    (parsed : parseComparison finish depth tokens = .ok (expression, rest)) :
    Resumes finish .comparison depth tokens rest.val expression :=
  (begins_of_parseComparison within parsed).resumes (stops_of_parseComparison parsed) finish

theorem resumes_of_parsePrimary (within : depth ≤ nestingLimit)
    (parsed : parsePrimary finish depth tokens = .ok (expression, rest)) :
    Resumes finish .primary depth tokens rest.val expression :=
  (begins_of_parsePrimary within parsed).resumes (stops_primary rest.val) finish

end

end Verdict.Expression
