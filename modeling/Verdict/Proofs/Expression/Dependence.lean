import Verdict.Proofs.Expression.Composition
/-!
What the value of an expression depends on: the fields whose names occur as identifiers in its source and, only if the
derived field occurs, the time and the date from which the days are counted.
-/

namespace Verdict.Expression

open Time (Instant)

/-- The name that an identifier is. -/
def Token.identifier? : Token → Option String
  | .identifier name => some name
  | _ => none

/-- The identifiers of a source text, which has none if it cannot be cut into tokens. -/
def identifiers (source : String) : List String :=
  match tokenize source with
  | .error _ => []
  | .ok tokens => (plain tokens).filterMap Token.identifier?

theorem Token.identifier?_eq_some_iff {token : Token} {name : String} :
    token.identifier? = some name ↔ token = .identifier name := by
  cases token <;> simp [identifier?]

/-- A parsed expression mentions what occurs in its source. -/
theorem mentions_iff_mem_identifiers {source : String} {program : Expr} (parsed : parse source = .ok program)
    (name : String) : program.mentions name = true ↔ name ∈ identifiers source := by
  obtain ⟨tokens, cut, -, -⟩ := exists_tokenize_of_parse parsed
  rw [mentions_iff_of_parse cut parsed, identifiers, cut]
  simp only [List.mem_filterMap, Token.identifier?_eq_some_iff, exists_eq_right]

section

variable {record other : Record} {now later : Instant}

/-- The derived field comes from one field of the record and the time. -/
theorem derivedDeliveryDays_congr (date : record.get? requiredDeliveryDate = other.get? requiredDeliveryDate) :
    record.derivedDeliveryDays now = other.derivedDeliveryDays now := by
  rw [Record.derivedDeliveryDays, Record.derivedDeliveryDays, date]

/-- What an identifier stands for does not change where its field does not, if for the derived field neither the
date nor the time does. -/
theorem lookup_congr {program : Expr} {name : String} (mentioned : program.mentions name = true)
    (field : record.get? name = other.get? name)
    (derived : name = deliveryDays →
      record.get? requiredDeliveryDate = other.get? requiredDeliveryDate ∧ now = later) :
    (program.scope record now).lookup name = (program.scope other later).lookup name := by
  by_cases days : name = deliveryDays
  · obtain ⟨date, rfl⟩ := derived days
    subst days
    rw [Expr.scope, Expr.scope, if_pos mentioned, if_pos mentioned, derivedDeliveryDays_congr date, Scope.lookup,
      Scope.lookup, field]
  · rw [Scope.lookup_of_ne days, Scope.lookup_of_ne days]
    exact field

/-- Two records that hold the same under the identifiers of a source cannot be told apart by its expression. The time
does not matter to a source in which the derived field does not occur; where it occurs, the same date and the same
time are needed as well. -/
theorem verdict_depends_on_identifiers {source : String} {program : Expr} (parsed : parse source = .ok program)
    (fields : ∀ name ∈ identifiers source, record.get? name = other.get? name)
    (date : deliveryDays ∈ identifiers source →
      record.get? requiredDeliveryDate = other.get? requiredDeliveryDate)
    (time : deliveryDays ∈ identifiers source → now = later) :
    program.holds record now = program.holds other later := by
  rw [Expr.holds, Expr.holds]
  refine congrArg isTruthy (Expr.value_congr program fun name mentioned => ?_)
  have occurs := (mentions_iff_mem_identifiers parsed name).1 mentioned
  refine lookup_congr mentioned (fields name occurs) fun days => ?_
  subst days
  exact ⟨date occurs, time occurs⟩

end

/-- A request with an approver and a date, which may have notes as well. -/
def request (notes : Fields) : Record :=
  Fields.ofEntries ([("approver", .string "lead"), ("requiredDeliveryDate", .string "2024-03-04")] ++ notes)

theorem notes_do_not_matter :
    (∃ program, parse "approver == 'lead' || (urgent && approver != null)" = .ok program ∧
      program.holds (request [("note", .null)]) ⟨0, 0⟩ =
        program.holds (request [("note", .string "soon"), ("other", .null)]) ⟨1709294400, 1⟩) ∧
    ∃ program, parse "deliveryDays > urgent || approver == null" = .ok program ∧
      program.holds (request [("note", .null)]) ⟨1709294400, 1⟩ =
        program.holds (request [("note", .string "soon"), ("other", .null)]) ⟨1709294400, 1⟩ := by
  have undated : parse "approver == 'lead' || (urgent && approver != null)" = .ok (.any
      [.compare .equal (.identifier "approver") (.literal (.string "lead")),
        .all [.identifier "urgent", .compare .different (.identifier "approver") (.literal .null)]]) := by
    cbv
  have dated : parse "deliveryDays > urgent || approver == null" = .ok (.any
      [.compare .greater (.identifier "deliveryDays") (.identifier "urgent"),
        .compare .equal (.identifier "approver") (.literal .null)]) := by
    cbv
  have undatedNames : identifiers "approver == 'lead' || (urgent && approver != null)" =
      ["approver", "urgent", "approver"] := by cbv
  have datedNames : identifiers "deliveryDays > urgent || approver == null" =
      ["deliveryDays", "urgent", "approver"] := by cbv
  refine ⟨⟨_, undated, verdict_depends_on_identifiers undated ?_ ?_ ?_⟩,
    ⟨_, dated, verdict_depends_on_identifiers dated ?_ (fun _ => rfl) (fun _ => rfl)⟩⟩
  · rw [undatedNames]
    simp only [List.forall_mem_cons]
    exact ⟨rfl, rfl, rfl, List.forall_mem_nil _⟩
  · rw [undatedNames]
    exact fun occurs => absurd occurs (by decide)
  · rw [undatedNames]
    exact fun occurs => absurd occurs (by decide)
  · rw [datedNames]
    simp only [List.forall_mem_cons]
    exact ⟨rfl, rfl, rfl, List.forall_mem_nil _⟩

end Verdict.Expression
