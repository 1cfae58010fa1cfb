import Verdict.Expression.Lexer
/-!
Where tokens and lexical errors lie in a source. Tokens stand one behind the other before its end, and a source that
cannot be cut into tokens is blamed between two of its characters or at its end.
-/

namespace Verdict

namespace Text

theorem byteLength_append (left right : List Char) :
    byteLength (left ++ right) = byteLength left + byteLength right := by
  induction left with
  | nil => exact (Nat.zero_add _).symm
  | cons first rest ih => rw [List.cons_append, byteLength, ih, byteLength, Nat.add_assoc]

theorem byteLength_pos {text : List Char} (nonempty : text ≠ []) : 0 < byteLength text := by
  cases text with
  | nil => exact absurd rfl nonempty
  | cons first rest => exact Nat.lt_of_lt_of_le first.utf8Size_pos (Nat.le_add_right ..)

theorem utf8ByteSize_ofList (text : List Char) : (String.ofList text).utf8ByteSize = byteLength text := by
  induction text with
  | nil => rfl
  | cons first rest ih =>
    rw [String.ofList_cons, String.utf8ByteSize_append, String.utf8ByteSize_singleton, ih, byteLength]

end Text

namespace Expression

open Text (byteLength byteLength_append byteLength_pos)

/-- A position between two characters of a text that starts at an offset, or at an end of the text. -/
def Boundary (offset : Nat) (text : List Char) (position : Nat) : Prop :=
  ∃ before behind, before ++ behind = text ∧ position = offset + byteLength before

theorem Boundary.start (offset : Nat) (text : List Char) : Boundary offset text offset :=
  ⟨[], text, rfl, rfl⟩

theorem Boundary.finish (offset : Nat) (text : List Char) : Boundary offset text (offset + byteLength text) :=
  ⟨text, [], List.append_nil text, rfl⟩

theorem Boundary.behind {offset position : Nat} {before rest text : List Char} (whole : before ++ rest = text)
    (boundary : Boundary (offset + byteLength before) rest position) : Boundary offset text position := by
  obtain ⟨more, behind, rfl, rfl⟩ := boundary
  exact ⟨before ++ more, behind, by rw [List.append_assoc, whole], by rw [byteLength_append, Nat.add_assoc]⟩

theorem Scanned.byteLength_eq {text : List Char} (scanned : Scanned text) :
    byteLength text = byteLength scanned.lexeme + byteLength scanned.rest := by
  rw [← byteLength_append]
  exact congrArg byteLength scanned.whole.symm

/-- An error lies at a boundary. -/
def Place.Bounds {text : List Char} (place : Place) (outcome : Except SyntaxError (Scanned text)) : Prop :=
  ∀ error, outcome = .error error → Boundary place.offset text error.position

namespace Place.Bounds

variable {place : Place} {text : List Char}

theorem ok {scanned : Scanned text} : place.Bounds (.ok scanned) := by
  rintro error ⟨⟩

theorem start {fault : SyntaxFault} : place.Bounds (.error ⟨place.offset, fault⟩ : Except SyntaxError (Scanned text)) := by
  rintro error ⟨⟩
  exact .start ..

theorem blamed {outcome : Except SyntaxFault (Scanned text)} : place.Bounds (outcome.mapError (⟨place.offset, ·⟩)) := by
  cases outcome with
  | ok scanned => exact ok
  | error fault => exact start

theorem ite {condition : Prop} [Decidable condition] {yes no : Except SyntaxError (Scanned text)}
    (holds : place.Bounds yes) (fails : place.Bounds no) : place.Bounds (if condition then yes else no) := by
  split
  · exact holds
  · exact fails

end Place.Bounds

theorem scanNumber_bounds {place : Place} {sign : List Char} {first : Char} {rest : List Char} :
    place.Bounds (place.scanNumber sign first rest) := by
  simp only [Place.scanNumber]
  split
  next =>
    rintro error ⟨⟩
    exact ⟨sign, first :: rest, rfl, rfl⟩
  next => exact .ok

theorem scan_bounds {place : Place} {first : Char} {rest : List Char}
    (whole : place.length = place.offset + byteLength (first :: rest)) : place.Bounds (place.scan first rest) := by
  unfold Place.scan
  refine .ite .ok (.ite .ok (.ite .ok (.ite .ok (.ite .blamed (.ite .blamed (.ite .blamed (.ite .blamed
    (.ite ?string (.ite ?sign (.ite scanNumber_bounds (.ite .ok .start)))))))))))
  case string =>
    split
    next => exact .start
    next =>
      rintro error ⟨⟩
      rw [whole]
      exact .finish ..
    next => exact .ok
  case sign =>
    cases rest with
    | nil => exact .start
    | cons second after => exact .ite scanNumber_bounds .start

/-- A text that cannot be cut into tokens is blamed at a boundary of its characters. -/
theorem boundary_of_tokensFrom {length offset : Nat} {previous : Option Token} {text : List Char} {error : SyntaxError}
    (refused : tokensFrom length previous offset text = .error error) (whole : length = offset + byteLength text) :
    Boundary offset text error.position := by
  fun_induction tokensFrom length previous offset text with
  | case1 => cases refused
  | case2 previous offset first rest _ ih =>
    rw [byteLength, ← Nat.add_assoc] at whole
    exact .behind (rfl : [first] ++ rest = first :: rest) (ih refused whole)
  | case3 previous offset first rest _ error' found =>
    cases refused
    exact scan_bounds whole _ found
  | case4 previous offset first rest _ scanned _ error' failed ih =>
    cases refused
    rw [scanned.byteLength_eq, ← Nat.add_assoc] at whole
    exact .behind scanned.whole (ih failed whole)
  | case5 => cases refused

/-- Tokens of a text that starts at an offset: one behind the other, and each before the end of the text. -/
structure Laid (offset : Nat) (text : List Char) (located : List Located) : Prop where
  ascending : located.Pairwise (·.offset < ·.offset)
  started : ∀ token ∈ located, offset ≤ token.offset
  ended : ∀ token ∈ located, token.offset < offset + byteLength text

namespace Laid

variable {offset : Nat} {located : List Located}

theorem nil (offset : Nat) (text : List Char) : Laid offset text [] :=
  ⟨.nil, nofun, nofun⟩

theorem blank {first : Char} {rest : List Char} (laid : Laid (offset + first.utf8Size) rest located) :
    Laid offset (first :: rest) located := by
  refine ⟨laid.ascending, fun token present => ?_, fun token present => ?_⟩
  · exact Nat.le_trans (Nat.le_add_right ..) (laid.started token present)
  · have ended := laid.ended token present
    rw [byteLength]
    omega

theorem lexeme {text : List Char} (scanned : Scanned text)
    (laid : Laid (offset + byteLength scanned.lexeme) scanned.rest located) :
    Laid offset text (⟨scanned.token, offset⟩ :: located) := by
  have positive := byteLength_pos scanned.nonempty
  have whole := scanned.byteLength_eq
  refine ⟨.cons (fun token present => ?_) laid.ascending, ?_, ?_⟩
  · have started := laid.started token present
    exact Nat.lt_of_lt_of_le (Nat.lt_add_of_pos_right positive) started
  · refine List.forall_mem_cons.2 ⟨Nat.le_refl offset, fun token present => ?_⟩
    exact Nat.le_trans (Nat.le_add_right ..) (laid.started token present)
  · refine List.forall_mem_cons.2 ⟨by dsimp only; omega, fun token present => ?_⟩
    have ended := laid.ended token present
    omega

end Laid

/-- The tokens of a text lie in it in their order. -/
theorem laid_of_tokensFrom {length offset : Nat} {previous : Option Token} {text : List Char} {located : List Located}
    (success : tokensFrom length previous offset text = .ok located) : Laid offset text located := by
  fun_induction tokensFrom length previous offset text generalizing located with
  | case1 =>
    cases success
    exact .nil ..
  | case2 previous offset first rest _ ih => exact (ih success).blank
  | case3 => cases success
  | case4 => cases success
  | case5 previous offset first rest _ scanned _ located further ih =>
    cases success
    exact .lexeme scanned (ih further)

section

variable {source : String}

theorem laid_of_tokenize {tokens : List Located} (cut : tokenize source = .ok tokens) : Laid 0 source.toList tokens :=
  laid_of_tokensFrom cut

theorem byteLength_toList (source : String) : byteLength source.toList = source.utf8ByteSize := by
  rw [← Text.utf8ByteSize_ofList, String.ofList_toList]

/-- A source that cannot be cut into tokens is blamed at one of its character boundaries. -/
theorem isValid_of_tokenize {error : SyntaxError} (refused : tokenize source = .error error) :
    (⟨error.position⟩ : String.Pos.Raw).IsValid source := by
  obtain ⟨before, behind, whole, position⟩ := boundary_of_tokensFrom refused (Nat.zero_add _).symm
  rw [String.Pos.Raw.isValid_iff_exists_append]
  refine ⟨String.ofList before, String.ofList behind, ?_, ?_⟩
  · rw [← String.ofList_append, whole, String.ofList_toList]
  · rw [String.Pos.Raw.ext_iff, String.byteIdx_rawEndPos, Text.utf8ByteSize_ofList, position, Nat.zero_add]

end

end Expression

end Verdict
