import Verdict.Proofs.Expression.Offsets
import Verdict.Proofs.Expression.Spelling
/-!
Written sources are cut into what was written: a text of lexemes with blanks between them has exactly the tokens of
the lexemes, each at the offset of the first byte of its lexeme.
-/

namespace Verdict.Expression

open Decimal (FiniteFloat)
open Text (byteLength byteLength_append)

section

variable {length offset : Nat} {previous : Option Token} {blanks rest : List Char}

/-- No lexeme goes on into a blank. -/
theorem separates_of_blank (blank : ∀ first ∈ rest.head?, Text.isBlank first = true) : Separates rest := by
  intro first present
  have isBlank := blank first present
  refine ⟨?_, ne_of_class isBlank (by decide), ne_of_class isBlank (by decide)⟩
  rw [← Bool.not_eq_true]
  intro continues
  exact Bool.false_ne_true ((not_isBlank_of_continuesName continues).symm.trans isBlank)

theorem tokensFrom_blanks (areBlank : ∀ blank ∈ blanks, Text.isBlank blank = true) :
    tokensFrom length previous offset (blanks ++ rest) =
      tokensFrom length previous (offset + byteLength blanks) rest := by
  induction blanks generalizing offset with
  | nil => rfl
  | cons first blanks ih =>
    obtain ⟨isBlank, areBlank⟩ := List.forall_mem_cons.1 areBlank
    rw [List.cons_append, tokensFrom, if_pos isBlank, ih areBlank, byteLength, Nat.add_assoc]

end

namespace Spaced

/-- Behind a lexeme, more lexemes start with a blank. -/
theorem head_isBlank {previous : Lexeme} {items : List Spaced} (joined : Joined (some previous) items)
    {trailing : List Char} (areBlank : trailing.all Text.isBlank = true) :
    ∀ first ∈ (items.flatMap text ++ trailing).head?, Text.isBlank first = true := by
  cases items with
  | nil => exact fun first present => List.all_eq_true.1 areBlank first (List.mem_of_mem_head? present)
  | cons item rest =>
    obtain ⟨-, apart, -⟩ := joined
    obtain ⟨blank, blanks, shape⟩ := List.exists_cons_of_ne_nil (apart rfl)
    rintro first present
    simp only [List.flatMap_cons, text, shape, List.cons_append, List.head?_cons, Option.mem_some_iff] at present
    exact present ▸ List.all_eq_true.1 item.areBlank blank (shape ▸ List.mem_cons_self)

end Spaced

/-- Behind a lexeme a hyphen is a sign exactly if it is one behind its token. -/
theorem Lexeme.StandsFor.operandDueAfter_eq {lexeme : Lexeme} {token : Token} (stands : lexeme.StandsFor token) :
    operandDueAfter (some token) = Lexeme.signMayFollow (some lexeme) := by
  cases stands <;> rfl

/-- Lexemes are cut off one after the other; the one that was cut off last decides whether a hyphen is a sign. -/
theorem exists_tokensFrom {previous : Option Lexeme} {last : Option Token}
    (due : operandDueAfter last = Lexeme.signMayFollow previous) {items : List Spaced}
    (joined : Spaced.Joined previous items) {trailing : List Char} (areBlank : trailing.all Text.isBlank = true)
    (length offset : Nat) :
    ∃ located, tokensFrom length last offset (items.flatMap Spaced.text ++ trailing) = .ok located ∧
      ∀ others, Spaced.StandFor offset items others ↔ others = located := by
  induction items generalizing previous last offset with
  | nil =>
    refine ⟨[], ?_, fun others => ⟨fun none => ?_, ?_⟩⟩
    · rw [List.flatMap_nil, List.nil_append, ← List.append_nil trailing,
        tokensFrom_blanks (List.all_eq_true.1 areBlank), tokensFrom]
    · cases none
      rfl
    · rintro rfl
      exact .nil
  | cons item rest ih =>
    obtain ⟨allowed, -, further⟩ := joined
    obtain ⟨token, stands⟩ := Lexeme.exists_standsFor allowed
    obtain ⟨later, success, unique⟩ :=
      ih stands.operandDueAfter_eq further (offset + byteLength item.blanks + byteLength item.lexeme.text)
    have bytes : (String.ofList item.text).utf8ByteSize = byteLength item.blanks + byteLength item.lexeme.text := by
      rw [Text.utf8ByteSize_ofList, Spaced.text, byteLength_append]
    refine ⟨⟨token, offset + byteLength item.blanks⟩ :: later, ?_, fun others => ⟨?_, ?_⟩⟩
    · rw [List.flatMap_cons, List.append_assoc, Spaced.text, List.append_assoc,
        tokensFrom_blanks (List.all_eq_true.1 item.areBlank)]
      have separates := separates_of_blank (Spaced.head_isBlank further areBlank)
      exact tokensFrom_lexeme allowed (fun sign => due.trans sign) stands separates success
    · rintro (_ | ⟨stands', behind⟩)
      rw [bytes, ← Nat.add_assoc] at behind
      rw [(unique _).1 behind, stands.unique allowed stands', Text.utf8ByteSize_ofList]
    · rintro rfl
      rw [← Text.utf8ByteSize_ofList]
      refine .cons stands ?_
      rw [bytes, ← Nat.add_assoc]
      exact (unique later).2 rfl

/-- Lexemes that may follow one another, with blanks between them, are cut into the tokens that they stand for and
nothing else, each at the offset of the first byte of its lexeme, whatever the blanks and whatever is quoted in the
strings. -/
theorem tokenize_joined_lexemes (items : List Spaced) (joined : Spaced.Joined none items) (trailing : List Char)
    (areBlank : trailing.all Text.isBlank = true) :
    ∃ located, tokenize (String.ofList (items.flatMap Spaced.text ++ trailing)) = .ok located ∧
      ∀ others, Spaced.StandFor 0 items others ↔ others = located := by
  rw [tokenize, String.toList_ofList]
  exact exists_tokensFrom rfl joined areBlank _ 0

/-- A signed number, a wide blank, and a string with quotes of both kinds, a letter of two bytes and a backslash. -/
def shortageItems : List Spaced :=
  [⟨[], rfl, .word 'd' ['u', 'e']⟩,
    ⟨[' '], rfl, .comparison .lessEqual⟩,
    ⟨['\t', ' '], rfl, .number true ['1', '0'] (some ['5'])⟩,
    ⟨['\u3000'], rfl, .or⟩,
    ⟨[' '], rfl, .openParenthesis⟩,
    ⟨[' '], rfl, .word 'n' ['u', 'l', 'l']⟩,
    ⟨[' '], rfl, .comparison .different⟩,
    ⟨['\n'], rfl, .string '\x27' ['i', 't', '\x27', 's', ' ', '\x22', 'ö', '\x22', '\\']⟩,
    ⟨[' '], rfl, .closeParenthesis⟩]

def shortageTokens : List Located :=
  [⟨.identifier "due", 0⟩, ⟨.comparison .lessEqual, 4⟩, ⟨.number ⟨-10.5, by decide +kernel⟩, 8⟩, ⟨.or, 16⟩,
    ⟨.openParenthesis, 19⟩, ⟨.null, 21⟩, ⟨.comparison .different, 26⟩, ⟨.string "it's \"ö\"\\", 29⟩,
    ⟨.closeParenthesis, 44⟩]

theorem shortage_tokenized :
    tokenize "due <=\t -10.5\u3000|| ( null !=\n'it\\'s \"ö\"\\\\' ) " = .ok shortageTokens := by
  have text : String.ofList (shortageItems.flatMap Spaced.text ++ [' ']) =
      "due <=\t -10.5\u3000|| ( null !=\n'it\\'s \"ö\"\\\\' ) " := by decide +kernel
  have joined : Spaced.Joined none shortageItems := by decide +kernel
  have stand : Spaced.StandFor 0 shortageItems shortageTokens := by
    have exact : (⟨-10.5, by decide +kernel⟩ : FiniteFloat).parts.value = -Lexeme.amount ['1', '0'] (some ['5']) := by
      decide +kernel
    have nearest := exact ▸ FiniteFloat.isNearest_value _
    refine .cons (.identifier (by decide)) <| .cons (.comparison _) <| .cons (.number nearest (by decide +kernel)) ?_
    exact .cons .or <| .cons .openParenthesis <| .cons .null <| .cons (.comparison _) <| .cons (.string _ _) <|
      .cons .closeParenthesis .nil
  obtain ⟨located, success, unique⟩ := tokenize_joined_lexemes shortageItems joined [' '] rfl
  rw [← text, success, (unique shortageTokens).1 stand]

end Verdict.Expression
