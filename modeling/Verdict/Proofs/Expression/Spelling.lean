import Mathlib.Data.List.TakeWhile
import Verdict.Expression.Lexeme
import Verdict.Proofs.Decimal.Scientific
import Verdict.Proofs.Expression.Lexing
/-!
Lexemes are read as what they are: the text of a lexeme that may stand behind another one is scanned as the token that
the lexeme stands for, and nothing of it is left over. So a text that starts with a lexeme, and goes on with what
separates it, is cut into this token and those of the rest.
-/

namespace Verdict.Expression

open Decimal (FiniteFloat)

section Characters

variable {first : Char}

/-- Characters told apart by a class. -/
theorem ne_of_class {p : Char → Bool} {other : Char} (inside : p first = true) (outside : p other = false) :
    first ≠ other := by
  rintro rfl
  exact Bool.false_ne_true (outside.symm.trans inside)

theorem not_isDigit_of_startsName (starts : startsName first = true) : Text.isDigit first = false := by
  simp only [startsName, Text.isLetter, Text.isDigit, Bool.or_eq_true, Bool.and_eq_true, decide_eq_true_eq,
    Bool.and_eq_false_iff, decide_eq_false_iff_not, Char.le_def, UInt32.le_iff_toNat_le] at starts ⊢
  obtain letter | rfl := starts
  · have nine : ('9' : Char).val.toNat = 57 := rfl
    have lower : ('a' : Char).val.toNat = 97 := rfl
    have upper : ('A' : Char).val.toNat = 65 := rfl
    omega
  · decide

/-- Blanks lie outside of the characters of words and numbers. -/
theorem not_isBlank_of_continuesName (continues : continuesName first = true) : Text.isBlank first = false := by
  simp only [continuesName, startsName, Text.isLetter, Text.isDigit, Bool.or_eq_true, Bool.and_eq_true,
    decide_eq_true_eq, Char.le_def, UInt32.le_iff_toNat_le] at continues
  have code : first.toNat = first.val.toNat := rfl
  have zero : ('0' : Char).val.toNat = 48 := rfl
  have nine : ('9' : Char).val.toNat = 57 := rfl
  have lower : ('a' : Char).val.toNat = 97 := rfl
  have lower' : ('z' : Char).val.toNat = 122 := rfl
  have upper : ('A' : Char).val.toNat = 65 := rfl
  have upper' : ('Z' : Char).val.toNat = 90 := rfl
  have range : (48 ≤ first.toNat ∧ first.toNat ≤ 122) := by
    obtain (letter | rfl) | digit := continues
    · omega
    · decide
    · omega
  simp only [Text.isBlank, Bool.or_eq_false_iff, Bool.and_eq_false_iff, decide_eq_false_iff_not, beq_eq_false_iff_ne]
  omega

theorem isDigit_eq (character : Char) : Text.isDigit character = character.isDigit :=
  rfl

theorem isLetter_eq (character : Char) : Text.isLetter character = character.isAlpha := by
  rw [Text.isLetter, Bool.or_comm, Char.isAlpha, Char.isUpper, Bool.decide_and]
  rfl

theorem startsName_iff : startsName first = true ↔ first.isAlpha = true ∨ first = '_' := by
  rw [startsName, isLetter_eq, Bool.or_eq_true, decide_eq_true_eq]

theorem continuesName_eq (character : Char) : continuesName character = (character.isAlphanum || character = '_') := by
  rw [continuesName, startsName, isLetter_eq, isDigit_eq, Char.isAlphanum, Bool.or_right_comm]

end Characters

namespace Lexeme

theorem digitsValue_eq (digits : List Char) : digitsValue digits = Text.decimalValue digits := by
  induction digits using List.reverseRecOn with
  | nil => rfl
  | append_singleton digits digit ih =>
    rw [digitsValue, List.reverse_append, List.reverse_singleton, List.singleton_append, List.map_cons,
      Nat.ofDigits_cons, ← digitsValue, ih, Text.decimalValue, Text.decimalValue, List.foldl_append, Nat.add_comm]
    rfl

theorem digitsValue_append (whole fraction : List Char) :
    digitsValue (whole ++ fraction) = digitsValue fraction + 10 ^ fraction.length * digitsValue whole := by
  rw [digitsValue, List.reverse_append, List.map_append, Nat.ofDigits_append, List.length_map, List.length_reverse]
  rfl

/-- All digits together write the number in units of the last decimal place. -/
theorem amount_eq (whole : List Char) (fraction : Option (List Char)) :
    amount whole fraction = Text.decimalValue (whole ++ fraction.getD []) *
      (10 : ℚ) ^ (0 - ((fraction.getD []).length : Int)) := by
  rw [← digitsValue_eq, digitsValue_append, zero_sub, zpow_neg, zpow_natCast, amount]
  cases fraction with
  | none => simp [digitsValue]
  | some digits =>
    have unit : (10 : ℚ) ^ digits.length ≠ 0 := by positivity
    rw [Option.elim_some, Option.getD_some]
    push_cast
    field_simp
    ring

/-- A number that is not too large stands for the one token that is read for it. -/
theorem exists_ofFloat? {negative : Bool} {whole : List Char} {fraction : Option (List Char)}
    (small : amount whole fraction < Decimal.overflowThreshold) :
    ∃ value : FiniteFloat,
      FiniteFloat.ofFloat?
        (if negative then -Decimal.ofDigits whole (fraction.getD []) 0
          else Decimal.ofDigits whole (fraction.getD []) 0) = some value ∧
      ∀ other : FiniteFloat,
        other.IsNearest (if negative then -amount whole fraction else amount whole fraction) ∧
          other.parts.negative = negative ↔ other = value := by
  rw [amount_eq] at small ⊢
  exact Decimal.exists_ofFloat?_nearestFloat small negative

/-- The three words are told from the names. -/
theorem standsFor_word {first : Char} {others : List Char} {token : Token} :
    (word first others).StandsFor token ↔ wordToken (first :: others) = token := by
  constructor
  · rintro (_ | _ | _ | ⟨other⟩)
    · rfl
    · rfl
    · rfl
    · have distinct {text : String} (reserved : text ∈ ["true", "false", "null"]) : first :: others ≠ text.toList := by
        intro same
        rw [same, String.ofList_toList] at other
        exact other reserved
      have notTrue := distinct (show "true" ∈ _ by decide)
      have notFalse := distinct (show "false" ∈ _ by decide)
      have notNull := distinct (show "null" ∈ _ by decide)
      exact (if_neg notTrue).trans ((if_neg notFalse).trans (if_neg notNull))
  · rintro rfl
    rw [wordToken]
    split
    next same => cases same; exact .truth
    next notTrue =>
      split
      next same => cases same; exact .falsehood
      next notFalse =>
        split
        next same => cases same; exact .null
        next notNull =>
          refine .identifier fun reserved => ?_
          have letters {text : String} (same : String.ofList (first :: others) = text) :
              first :: others = text.toList := by
            rw [← same, String.toList_ofList]
          simp only [List.mem_cons, List.not_mem_nil, or_false] at reserved
          obtain same | same | same := reserved
          · exact notTrue (letters same)
          · exact notFalse (letters same)
          · exact notNull (letters same)

end Lexeme

/-- A text is scanned as a token, whole. -/
def Spells (place : Place) (text : List Char) (token : Token) : Prop :=
  ∃ first rest, text = first :: rest ∧ Text.isBlank first = false ∧
    ∃ scanned, place.scan first rest = .ok scanned ∧ scanned.token = token ∧ scanned.rest = []

section Scan

variable {place : Place} {first : Char} {rest : List Char} {token : Token}

theorem scan_word (starts : startsName first = true) (continues : ∀ other ∈ rest, continuesName other = true) :
    ∃ scanned, place.scan first rest = .ok scanned ∧ scanned.token = wordToken (first :: rest) ∧ scanned.rest = [] := by
  have other {character : Char} (outside : startsName character = false) : first ≠ character :=
    ne_of_class starts outside
  have noQuote : (first = '\x27' || first = '\x22') = false := by
    simp [other (rfl : startsName '\x27' = false), other (rfl : startsName '\x22' = false)]
  simp only [Place.scan, other (rfl : startsName '(' = false), other (rfl : startsName ')' = false),
    other (rfl : startsName '>' = false), other (rfl : startsName '<' = false), other (rfl : startsName '=' = false),
    other (rfl : startsName '!' = false), other (rfl : startsName '&' = false), other (rfl : startsName '|' = false),
    other (rfl : startsName '-' = false), noQuote, not_isDigit_of_startsName starts, starts, Bool.false_eq_true,
    ↓reduceIte]
  refine ⟨_, rfl, ?_, ?_⟩
  · dsimp only
    rw [List.takeWhile_eq_self_iff.2 continues]
  · exact List.dropWhile_eq_nil_iff.2 continues

/-- The characters before the digits of a number. -/
def signOf (negative : Bool) : List Char :=
  if negative then ['-'] else []

theorem scanNumber_digits (place : Place) (negative : Bool) (others : ∀ other ∈ rest, Text.isDigit other = true)
    {fraction : Option (List Char)} (digits : ∀ digits ∈ fraction, Lexeme.IsDigits digits)
    {value : FiniteFloat}
    (finite : FiniteFloat.ofFloat?
      (if negative then -Decimal.ofDigits (first :: rest) (fraction.getD []) 0
        else Decimal.ofDigits (first :: rest) (fraction.getD []) 0) = some value) :
    ∃ scanned, place.scanNumber (signOf negative) first (rest ++ fraction.elim [] ('.' :: ·)) = .ok scanned ∧
      scanned.token = .number value ∧ scanned.rest = [] := by
  have stopped : ∀ first ∈ (fraction.elim [] ('.' :: ·)).head?, Text.isDigit first = false := by
    cases fraction with
    | none => nofun
    | some digits =>
      rintro first ⟨⟩
      decide
  have whole : (rest ++ fraction.elim [] ('.' :: ·)).takeWhile Text.isDigit = rest := by
    rw [takeWhile_append_stopped stopped, List.takeWhile_eq_self_iff.2 others]
  have behind : (rest ++ fraction.elim [] ('.' :: ·)).dropWhile Text.isDigit = fraction.elim [] ('.' :: ·) := by
    rw [dropWhile_append_stopped stopped, List.dropWhile_eq_nil_iff.2 others, List.nil_append]
  have point : splitPoint (fraction.elim [] ('.' :: ·)) = (fraction.elim [] ('.' :: ·), []) := by
    cases fraction with
    | none => rfl
    | some after =>
      obtain ⟨nonempty, all⟩ := digits after rfl
      rw [List.all_eq_true] at all
      simp only [← isDigit_eq] at all
      simp only [Option.elim_some, splitPoint, List.takeWhile_eq_self_iff.2 all, List.dropWhile_eq_nil_iff.2 all,
        List.isEmpty_iff, nonempty, ↓reduceIte]
  have dropped : (fraction.elim [] ('.' :: ·)).drop 1 = fraction.getD [] := by
    cases fraction <;> rfl
  have signed (magnitude : Float) : (if (signOf negative).isEmpty then magnitude else -magnitude) =
      if negative then -magnitude else magnitude := by
    cases negative <;> rfl
  simp only [Place.scanNumber, whole, behind, point, dropped, signed]
  split
  next none => cases none.symm.trans finite
  next some found =>
    cases found.symm.trans finite
    exact ⟨_, rfl, rfl, rfl⟩

theorem scan_digit (place : Place) (isDigit : Text.isDigit first = true) :
    place.scan first rest = place.scanNumber [] first rest := by
  have other {character : Char} (outside : Text.isDigit character = false) : first ≠ character :=
    ne_of_class isDigit outside
  have noQuote : (first = '\x27' || first = '\x22') = false := by
    simp [other (rfl : Text.isDigit '\x27' = false), other (rfl : Text.isDigit '\x22' = false)]
  simp only [Place.scan, other (rfl : Text.isDigit '(' = false), other (rfl : Text.isDigit ')' = false),
    other (rfl : Text.isDigit '>' = false), other (rfl : Text.isDigit '<' = false),
    other (rfl : Text.isDigit '=' = false), other (rfl : Text.isDigit '!' = false),
    other (rfl : Text.isDigit '&' = false), other (rfl : Text.isDigit '|' = false),
    other (rfl : Text.isDigit '-' = false), noQuote, isDigit, Bool.false_eq_true, ↓reduceIte]

theorem scan_sign (due : place.operandDue = true) (isDigit : Text.isDigit first = true) :
    place.scan '-' (first :: rest) = place.scanNumber ['-'] first rest := by
  change (if place.operandDue && Text.isDigit first then place.scanNumber ['-'] first rest
    else .error ⟨place.offset, .strayCharacter '-'⟩) = _
  rw [due, isDigit]
  rfl

variable {quote : Char}

theorem quote_ne_backslash (isQuote : quote = '\x27' ∨ quote = '\x22') : '\\' ≠ quote := by
  obtain rfl | rfl := isQuote <;> decide

/-- The quote and the backslash stand for themselves behind a backslash. -/
theorem unescape_special (isQuote : quote = '\x27' ∨ quote = '\x22') {character : Char}
    (special : character = quote ∨ character = '\\') : unescape character = character := by
  obtain rfl | rfl := special
  · obtain rfl | rfl := isQuote <;> rfl
  · rfl

theorem exists_scanString (isQuote : quote = '\x27' ∨ quote = '\x22') (content : List Char) :
    ∃ quoted, scanString quote (content.flatMap (Lexeme.quotedCharacter quote) ++ [quote]) = .ok quoted ∧
      quoted.content = content ∧ quoted.rest = [] := by
  induction content with
  | nil => exact ⟨_, if_pos rfl, rfl, rfl⟩
  | cons character content ih =>
    obtain ⟨second, rest, shape⟩ : ∃ second rest,
        content.flatMap (Lexeme.quotedCharacter quote) ++ [quote] = second :: rest :=
      List.exists_cons_of_ne_nil (by simp)
    rw [List.flatMap_cons, List.append_assoc, shape]
    rw [shape] at ih
    obtain ⟨quoted, success, rfl, done⟩ := ih
    by_cases special : character = quote ∨ character = '\\'
    · rw [Lexeme.quotedCharacter, if_pos special]
      refine ⟨_, scanString_escaped (quote_ne_backslash isQuote) success, ?_, done⟩
      exact congrArg (· :: _) (unescape_special isQuote special)
    · rw [Lexeme.quotedCharacter, if_neg special]
      obtain ⟨notQuote, notBackslash⟩ := not_or.1 special
      exact ⟨_, scanString_plain notQuote notBackslash success, rfl, done⟩

theorem scan_string (isQuote : quote = '\x27' ∨ quote = '\x22') (content : List Char) :
    ∃ scanned, place.scan quote (content.flatMap (Lexeme.quotedCharacter quote) ++ [quote]) = .ok scanned ∧
      scanned.token = .string (String.ofList content) ∧ scanned.rest = [] := by
  obtain ⟨quoted, success, same, done⟩ := exists_scanString isQuote content
  obtain rfl | rfl := isQuote
  · simp only [Place.scan, success]
    exact ⟨_, rfl, congrArg (Token.string <| String.ofList ·) same, done⟩
  · simp only [Place.scan, success]
    exact ⟨_, rfl, congrArg (Token.string <| String.ofList ·) same, done⟩

end Scan

/-- The digits of a number are scanned as one, behind a sign only where an operand is due. -/
theorem spells_number {place : Place} {negative : Bool} {whole : List Char} {fraction : Option (List Char)}
    {value : FiniteFloat} (digits : Lexeme.IsDigits whole) (behind : ∀ digits ∈ fraction, Lexeme.IsDigits digits)
    (finite : FiniteFloat.ofFloat? (if negative then -Decimal.ofDigits whole (fraction.getD []) 0
      else Decimal.ofDigits whole (fraction.getD []) 0) = some value)
    (due : negative = true → place.operandDue = true) :
    Spells place (Lexeme.number negative whole fraction).text (.number value) := by
  obtain ⟨nonempty, all⟩ := digits
  cases whole with
  | nil => exact absurd rfl nonempty
  | cons first rest =>
    obtain ⟨isDigit, others⟩ := List.forall_mem_cons.1 (List.all_eq_true.1 all)
    have scanned := scanNumber_digits place negative others behind finite
    cases negative with
    | false =>
      have notBlank : Text.isBlank first = false :=
        not_isBlank_of_continuesName (by rw [continuesName, isDigit_eq, isDigit, Bool.or_true])
      exact ⟨first, _, rfl, notBlank, scan_digit place isDigit ▸ scanned⟩
    | true => exact ⟨'-', _, rfl, by decide, scan_sign (due rfl) isDigit ▸ scanned⟩

/-- A lexeme that may stand behind another one is scanned as the token that it stands for. -/
theorem spells_lexeme {previous : Option Lexeme} {lexeme : Lexeme} {token : Token} (allowed : lexeme.Allowed previous)
    (stands : lexeme.StandsFor token) (place : Place)
    (due : Lexeme.signMayFollow previous = true → place.operandDue = true) : Spells place lexeme.text token := by
  cases lexeme with
  | word first others =>
    obtain ⟨starts, continues⟩ := allowed
    rw [← startsName_iff] at starts
    simp only [← continuesName_eq, List.all_eq_true] at continues
    have notBlank : Text.isBlank first = false := not_isBlank_of_continuesName (by rw [continuesName, starts]; rfl)
    rw [← Lexeme.standsFor_word.1 stands]
    exact ⟨first, others, rfl, notBlank, scan_word starts continues⟩
  | number negative whole fraction =>
    obtain ⟨digits, behind, small, minus⟩ := allowed
    obtain ⟨value, finite, unique⟩ := @Lexeme.exists_ofFloat? negative _ _ small
    cases stands with
    | number nearest signed =>
      obtain rfl := (unique _).1 ⟨nearest, signed⟩
      exact spells_number digits behind finite fun negative => due (minus negative)
  | string quote content =>
    cases stands
    refine ⟨quote, _, rfl, ?_, scan_string allowed content⟩
    obtain rfl | rfl := allowed <;> decide
  | comparison comparator =>
    cases stands
    cases comparator with
    | greater => exact ⟨'>', [], rfl, by decide, _, rfl, rfl, rfl⟩
    | less => exact ⟨'<', [], rfl, by decide, _, rfl, rfl, rfl⟩
    | greaterEqual => exact ⟨'>', ['='], rfl, by decide, _, rfl, rfl, rfl⟩
    | lessEqual => exact ⟨'<', ['='], rfl, by decide, _, rfl, rfl, rfl⟩
    | equal => exact ⟨'=', ['='], rfl, by decide, _, rfl, rfl, rfl⟩
    | different => exact ⟨'!', ['='], rfl, by decide, _, rfl, rfl, rfl⟩
  | and =>
    cases stands
    exact ⟨'&', ['&'], rfl, by decide, _, rfl, rfl, rfl⟩
  | or =>
    cases stands
    exact ⟨'|', ['|'], rfl, by decide, _, rfl, rfl, rfl⟩
  | openParenthesis =>
    cases stands
    exact ⟨'(', [], rfl, by decide, _, rfl, rfl, rfl⟩
  | closeParenthesis =>
    cases stands
    exact ⟨')', [], rfl, by decide, _, rfl, rfl, rfl⟩

/-- What may stand behind another lexeme stands for a token. -/
theorem Lexeme.exists_standsFor {previous : Option Lexeme} {lexeme : Lexeme} (allowed : lexeme.Allowed previous) :
    ∃ token, lexeme.StandsFor token := by
  cases lexeme with
  | word first others => exact ⟨_, standsFor_word.2 rfl⟩
  | number negative whole fraction =>
    obtain ⟨-, -, small, -⟩ := allowed
    obtain ⟨value, -, unique⟩ := @exists_ofFloat? negative _ _ small
    obtain ⟨nearest, signed⟩ := (unique value).2 rfl
    exact ⟨_, .number nearest signed⟩
  | string quote content => exact ⟨_, .string quote content⟩
  | comparison comparator => exact ⟨_, .comparison comparator⟩
  | and => exact ⟨_, .and⟩
  | or => exact ⟨_, .or⟩
  | openParenthesis => exact ⟨_, .openParenthesis⟩
  | closeParenthesis => exact ⟨_, .closeParenthesis⟩

/-- What may stand behind another lexeme stands for one token only. -/
theorem Lexeme.StandsFor.unique {previous : Option Lexeme} {lexeme : Lexeme} {token other : Token}
    (allowed : lexeme.Allowed previous) (stands : lexeme.StandsFor token) (stands' : lexeme.StandsFor other) :
    token = other := by
  obtain ⟨first, rest, text, -, scanned, found, rfl, -⟩ := spells_lexeme allowed stands ⟨0, 0, true⟩ fun _ => rfl
  obtain ⟨_, _, text', -, scanned', found', rfl, -⟩ := spells_lexeme allowed stands' ⟨0, 0, true⟩ fun _ => rfl
  cases text.symm.trans text'
  cases found.symm.trans found'
  rfl

section Cutting

variable {previous : Option Lexeme} {last : Option Token} {written : Lexeme} {token : Token} {behind : List Char}
  (allowed : written.Allowed previous) (due : Lexeme.signMayFollow previous = true → operandDueAfter last = true)
  (stands : written.StandsFor token) (separates : Separates behind)

include allowed due stands separates

/-- The text of a lexeme is cut off as its token, at the offset at which the text stands. -/
theorem tokensFrom_lexeme {length offset : Nat} {later : List Located}
    (success : tokensFrom length (some token) (offset + Text.byteLength written.text) behind = .ok later) :
    tokensFrom length last offset (written.text ++ behind) = .ok (⟨token, offset⟩ :: later) := by
  obtain ⟨first, rest, text, notBlank, scanned, found, rfl, done⟩ :=
    spells_lexeme allowed stands ⟨offset, length, operandDueAfter last⟩ due
  obtain ⟨moved, movedFound, token, same, left⟩ := scan_append separates rfl first rest scanned found
  have whole : scanned.lexeme = written.text := by
    calc
      scanned.lexeme = scanned.lexeme ++ scanned.rest := by rw [done, List.append_nil]
      _ = first :: rest := scanned.whole
      _ = written.text := text.symm
  rw [done, List.nil_append] at left
  rw [text, List.cons_append, tokensFrom]
  simp only [notBlank, Bool.false_eq_true, ↓reduceIte, movedFound, token, same, left, whole, success]

/-- A text that starts with a lexeme is cut into its token and those of the rest. -/
theorem Cuts.lexeme {later : List Token} (cuts : Cuts (some token) behind later) :
    Cuts last (written.text ++ behind) (token :: later) := by
  intro length offset
  obtain ⟨located, success, rfl⟩ := cuts length (offset + Text.byteLength written.text)
  exact ⟨_, tokensFrom_lexeme allowed due stands separates success, rfl⟩

end Cutting

end Verdict.Expression
