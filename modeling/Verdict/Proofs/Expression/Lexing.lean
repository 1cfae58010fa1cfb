import Verdict.Proofs.Outcome
import Verdict.Proofs.Expression.Soundness
/-!
Cutting a text with more text behind it. If no lexeme can go on into the text behind it, a text is cut into
the tokens it has by itself, wherever it stands, and the cutting goes on behind them.
-/

namespace Verdict.Expression

/-- No lexeme goes on into a text that starts like this. -/
def Separates (behind : List Char) : Prop :=
  ∀ first ∈ behind.head?, continuesName first = false ∧ first ≠ '.' ∧ first ≠ '='

namespace Separates

variable {first : Char} {rest behind : List Char}

theorem of_closing (rest : List Char) : Separates (')' :: rest) := by
  rintro first ⟨⟩
  decide

theorem not_continuesName (separates : Separates behind) : ∀ first ∈ behind.head?, continuesName first = false :=
  fun first present => (separates first present).1

theorem not_isDigit (separates : Separates behind) : ∀ first ∈ behind.head?, Text.isDigit first = false := by
  intro first present
  have neither := separates.not_continuesName first present
  rw [continuesName, Bool.or_eq_false_iff] at neither
  exact neither.2

theorem ne_equals (separates : Separates (first :: rest)) : first ≠ '=' :=
  (separates first rfl).2.2

theorem ne_point (separates : Separates (first :: rest)) : first ≠ '.' :=
  (separates first rfl).2.1

end Separates

section

variable {p : Char → Bool} {behind : List Char}

theorem takeWhile_append_stopped (stopped : ∀ first ∈ behind.head?, p first = false) (text : List Char) :
    (text ++ behind).takeWhile p = text.takeWhile p := by
  induction text with
  | nil =>
    cases behind with
    | nil => rfl
    | cons first rest => rw [List.nil_append, List.takeWhile_cons, stopped first rfl]; rfl
  | cons first rest ih => simp only [List.cons_append, List.takeWhile_cons, ih]

theorem dropWhile_append_stopped (stopped : ∀ first ∈ behind.head?, p first = false) (text : List Char) :
    (text ++ behind).dropWhile p = text.dropWhile p ++ behind := by
  induction text with
  | nil =>
    cases behind with
    | nil => rfl
    | cons first rest => rw [List.nil_append, List.dropWhile_cons, stopped first rfl]; rfl
  | cons first rest ih =>
    simp only [List.cons_append, List.dropWhile_cons, ih]
    split <;> rfl

end

theorem splitPoint_eq_nil {first : Char} (rest : List Char) (other : first ≠ '.') :
    splitPoint (first :: rest) = ([], first :: rest) := by
  unfold splitPoint
  split
  next after same => exact absurd (List.cons.inj same).1 other
  next => rfl

theorem splitPoint_append_separated {behind : List Char} (separates : Separates behind) (text : List Char) :
    splitPoint (text ++ behind) = ((splitPoint text).1, (splitPoint text).2 ++ behind) := by
  cases text with
  | nil =>
    cases behind with
    | nil => rfl
    | cons first rest => exact splitPoint_eq_nil rest separates.ne_point
  | cons first rest =>
    by_cases point : first = '.'
    · subst point
      simp only [List.cons_append, splitPoint, takeWhile_append_stopped separates.not_isDigit,
        dropWhile_append_stopped separates.not_isDigit]
      split <;> rfl
    · rw [List.cons_append, splitPoint_eq_nil _ point, splitPoint_eq_nil _ point]
      rfl

/-- The same lexeme at the start of a text with more text behind it. -/
def Scanned.Lengthens {text longer : List Char} (moved : Scanned longer) (scanned : Scanned text)
    (behind : List Char) : Prop :=
  moved.token = scanned.token ∧ moved.lexeme = scanned.lexeme ∧ moved.rest = scanned.rest ++ behind

/-- What is scanned at the start of a text is scanned at the start of the longer text, too. -/
def Persists {text longer : List Char} (outcome : Except SyntaxError (Scanned text))
    (further : Except SyntaxError (Scanned longer)) (behind : List Char) : Prop :=
  ∀ scanned, outcome = .ok scanned → ∃ moved, further = .ok moved ∧ moved.Lengthens scanned behind

namespace Persists

variable {text longer behind : List Char}

theorem of_ok {scanned : Scanned text} {moved : Scanned longer} (lengthens : moved.Lengthens scanned behind) :
    Persists (.ok scanned) (.ok moved) behind := by
  rintro scanned ⟨⟩
  exact ⟨moved, rfl, lengthens⟩

theorem of_error {error : SyntaxError} {further : Except SyntaxError (Scanned longer)} :
    Persists (.error error : Except SyntaxError (Scanned text)) further behind := by
  rintro scanned ⟨⟩

theorem ite {condition : Prop} [Decidable condition] {yes no : Except SyntaxError (Scanned text)}
    {furtherYes furtherNo : Except SyntaxError (Scanned longer)}
    (holds : condition → Persists yes furtherYes behind) (fails : ¬condition → Persists no furtherNo behind) :
    Persists (if condition then yes else no) (if condition then furtherYes else furtherNo) behind := by
  by_cases known : condition
  · rw [if_pos known, if_pos known]
    exact holds known
  · rw [if_neg known, if_neg known]
    exact fails known

end Persists

theorem scanComparison_append {behind : List Char} (separates : Separates behind) (first : Char)
    (strict lax : Comparator) (rest : List Char) :
    (scanComparison first strict lax (rest ++ behind)).Lengthens (scanComparison first strict lax rest)
      behind := by
  cases rest with
  | nil =>
    cases behind with
    | nil => exact ⟨rfl, rfl, rfl⟩
    | cons second more =>
      rw [List.nil_append, scanComparison, scanComparison, if_neg separates.ne_equals]
      exact ⟨rfl, rfl, rfl⟩
  | cons second more =>
    rw [List.cons_append, scanComparison, scanComparison]
    split <;> exact ⟨rfl, rfl, rfl⟩

/-- A pair of signs that is complete does not depend on what is behind it. -/
theorem scanPair_append {token : Token} {fault : SyntaxFault} {first wanted : Char}
    {blame otherBlame : SyntaxFault → SyntaxError} {rest behind : List Char} :
    Persists ((scanPair token fault first wanted rest).mapError blame)
      ((scanPair token fault first wanted (rest ++ behind)).mapError otherBlame) behind := by
  cases rest with
  | nil => exact .of_error
  | cons second more =>
    rw [List.cons_append, scanPair, scanPair]
    by_cases same : second = wanted
    · rw [if_pos same, if_pos same]
      exact .of_ok ⟨rfl, rfl, rfl⟩
    · rw [if_neg same, if_neg same]
      exact .of_error

theorem scanString_escaped {quote second : Char} {rest : List Char} {quoted : Quoted rest}
    (other : '\\' ≠ quote) (success : scanString quote rest = .ok quoted) :
    scanString quote ('\\' :: second :: rest) = .ok (quoted.behind (unescape second) ['\\', second]) := by
  rw [scanString, if_neg other, if_pos rfl, success]
  rfl

theorem scanString_plain {quote first second : Char} {rest : List Char} {quoted : Quoted (second :: rest)}
    (notQuote : first ≠ quote) (notBackslash : first ≠ '\\')
    (success : scanString quote (second :: rest) = .ok quoted) :
    scanString quote (first :: second :: rest) = .ok (quoted.behind first [first]) := by
  rw [scanString, if_neg notQuote, if_neg notBackslash, success]
  rfl

/-- A string that is closed does not depend on what is behind it. -/
theorem scanString_append {quote : Char} {text : List Char} {quoted : Quoted text}
    (success : scanString quote text = .ok quoted) (behind : List Char) :
    ∃ moved, scanString quote (text ++ behind) = .ok moved ∧ moved.content = quoted.content ∧
      moved.lexeme = quoted.lexeme ∧ moved.rest = quoted.rest ++ behind := by
  fun_induction scanString quote text with
  | case1 => cases success
  | case2 =>
    cases success
    cases behind with
    | nil => exact ⟨_, if_pos rfl, rfl, rfl, rfl⟩
    | cons next more => exact ⟨_, if_pos rfl, rfl, rfl, rfl⟩
  | case3 => cases success
  | case4 => cases success
  | case5 =>
    cases success
    exact ⟨_, if_pos rfl, rfl, rfl, rfl⟩
  | case6 second rest notQuote ih =>
    obtain ⟨inner, found, rfl⟩ := Outcome.map_eq_ok_iff.1 success
    obtain ⟨moved, movedFound, content, lexeme, movedRest⟩ := ih found
    exact ⟨_, scanString_escaped notQuote movedFound, congrArg (_ :: ·) content, congrArg (_ ++ ·) lexeme,
      movedRest⟩
  | case7 first second rest notQuote notBackslash ih =>
    obtain ⟨inner, found, rfl⟩ := Outcome.map_eq_ok_iff.1 success
    obtain ⟨moved, movedFound, content, lexeme, movedRest⟩ := ih found
    exact ⟨_, scanString_plain notQuote notBackslash movedFound, congrArg (_ :: ·) content,
      congrArg (_ ++ ·) lexeme, movedRest⟩

theorem scanNumber_append {behind : List Char} (separates : Separates behind) {place moved : Place}
    {sign : List Char} {first : Char} {rest : List Char} :
    Persists (place.scanNumber sign first rest) (moved.scanNumber sign first (rest ++ behind)) behind := by
  simp only [Place.scanNumber, takeWhile_append_stopped separates.not_isDigit,
    dropWhile_append_stopped separates.not_isDigit, splitPoint_append_separated separates]
  split
  next => exact .of_error
  next value known => exact .of_ok ⟨rfl, rfl, rfl⟩

/-- A lexeme does not depend on what is behind it, nor on its offset. -/
theorem scan_append {behind : List Char} (separates : Separates behind) {place moved : Place}
    (due : moved.operandDue = place.operandDue) (first : Char) (rest : List Char) :
    Persists (place.scan first rest) (moved.scan first (rest ++ behind)) behind := by
  have fixed (token : Token) : (single token first (rest ++ behind)).Lengthens (single token first rest) behind :=
    ⟨rfl, rfl, rfl⟩
  unfold Place.scan
  refine .ite (fun _ => .of_ok (fixed _)) fun _ => ?_
  refine .ite (fun _ => .of_ok (fixed _)) fun _ => ?_
  refine .ite (fun _ => .of_ok (scanComparison_append separates ..)) fun _ => ?_
  refine .ite (fun _ => .of_ok (scanComparison_append separates ..)) fun _ => ?_
  refine .ite (fun _ => scanPair_append) fun _ => ?_
  refine .ite (fun _ => scanPair_append) fun _ => ?_
  refine .ite (fun _ => scanPair_append) fun _ => ?_
  refine .ite (fun _ => scanPair_append) fun _ => ?_
  apply Persists.ite
  case holds =>
    intro _ scanned success
    split at success
    next => cases success
    next => cases success
    next quoted found =>
      cases success
      obtain ⟨longer, longerFound, content, lexeme, longerRest⟩ := scanString_append found behind
      simp only [longerFound]
      exact ⟨_, rfl, congrArg (Token.string <| String.ofList ·) content, congrArg (first :: ·) lexeme, longerRest⟩
  intro _
  apply Persists.ite
  case holds =>
    intro _
    cases rest with
    | nil => exact .of_error
    | cons second after =>
      rw [List.cons_append, due]
      exact .ite (fun _ => scanNumber_append separates) fun _ => .of_error
  intro _
  refine .ite (fun _ => scanNumber_append separates) fun _ => ?_
  apply Persists.ite
  case holds =>
    intro _
    simp only [takeWhile_append_stopped separates.not_continuesName,
      dropWhile_append_stopped separates.not_continuesName]
    exact .of_ok ⟨rfl, rfl, rfl⟩
  exact fun _ => .of_error

/-- Behind a token, a text is cut into these tokens, wherever it stands in a source. -/
def Cuts (previous : Option Token) (text : List Char) (tokens : List Token) : Prop :=
  ∀ length offset, ∃ located, tokensFrom length previous offset text = .ok located ∧ plain located = tokens

/-- The token behind which the text behind these tokens stands. -/
def lastToken (previous : Option Token) (tokens : List Token) : Option Token :=
  tokens.foldl (fun _ token => some token) previous

namespace Cuts

variable {previous : Option Token} {text behind : List Char} {tokens later : List Token}

theorem nil : Cuts previous [] [] := by
  intro length offset
  unfold tokensFrom
  exact ⟨[], rfl, rfl⟩

theorem blank {first : Char} (isBlank : Text.isBlank first = true) (cuts : Cuts previous text tokens) :
    Cuts previous (first :: text) tokens := by
  intro length offset
  obtain ⟨located, success, same⟩ := cuts length (offset + first.utf8Size)
  refine ⟨located, ?_, same⟩
  unfold tokensFrom
  rw [if_pos isBlank, success]

/-- A lexeme that is scanned at every place, and the tokens behind it. -/
theorem scan {first : Char} {token : Token} {rest : List Char} (notBlank : Text.isBlank first = false)
    (scans : ∀ place : Place, place.operandDue = operandDueAfter previous →
      ∃ scanned, place.scan first text = .ok scanned ∧ scanned.token = token ∧ scanned.rest = rest)
    (cuts : Cuts (some token) rest tokens) : Cuts previous (first :: text) (token :: tokens) := by
  intro length offset
  obtain ⟨scanned, found, rfl, rfl⟩ := scans ⟨offset, length, operandDueAfter previous⟩ rfl
  obtain ⟨located, success, rfl⟩ := cuts length (offset + Text.byteLength scanned.lexeme)
  refine ⟨⟨scanned.token, offset⟩ :: located, ?_, rfl⟩
  unfold tokensFrom
  simp only [notBlank, Bool.false_eq_true, ↓reduceIte, found, success]

end Cuts

/-- A text that is cut somewhere is cut into the same tokens elsewhere, and the cutting goes on behind it. -/
theorem cuts_append {length offset : Nat} {previous other : Option Token} {text behind : List Char}
    {located : List Located} {later : List Token}
    (success : tokensFrom length previous offset text = .ok located) (separates : Separates behind)
    (due : operandDueAfter other = operandDueAfter previous)
    (cuts : Cuts (lastToken other (plain located)) behind later) :
    Cuts other (text ++ behind) (plain located ++ later) := by
  fun_induction tokensFrom length previous offset text generalizing other located with
  | case1 =>
    cases success
    exact cuts
  | case2 previous offset first rest isBlank ih =>
    exact .blank isBlank (ih success due cuts)
  | case3 => cases success
  | case4 => cases success
  | case5 previous offset first rest notBlank scanned found located cutBehind ih =>
    cases success
    refine .scan (Bool.eq_false_iff.2 notBlank) ?_ (ih cutBehind rfl cuts)
    intro place known
    obtain ⟨moved, movedFound, token, _, movedRest⟩ :=
      scan_append separates (known.trans due) first rest scanned found
    exact ⟨moved, movedFound, token, movedRest⟩

section

variable {previous : Option Token} {behind : List Char} {later : List Token}

theorem Cuts.openParenthesis (cuts : Cuts (some .openParenthesis) behind later) :
    Cuts previous ('(' :: behind) (.openParenthesis :: later) :=
  .scan (by decide) (fun _ _ => ⟨_, if_pos rfl, rfl, rfl⟩) cuts

theorem Cuts.closeParenthesis (cuts : Cuts (some .closeParenthesis) behind later) :
    Cuts previous (')' :: behind) (.closeParenthesis :: later) :=
  .scan (by decide) (fun _ _ => ⟨_, rfl, rfl, rfl⟩) cuts

/-- A source text in parentheses has its tokens in parentheses. -/
theorem cuts_parentheses {source : String} {tokens : List Located} (success : tokenize source = .ok tokens)
    (cuts : Cuts (some .closeParenthesis) behind later) :
    Cuts previous ('(' :: (source.toList ++ ')' :: behind))
      (.openParenthesis :: plain tokens ++ .closeParenthesis :: later) :=
  .openParenthesis (cuts_append success (.of_closing behind) rfl (.closeParenthesis cuts))

theorem Cuts.conjunction (cuts : Cuts (some .and) behind later) :
    Cuts previous (' ' :: '&' :: '&' :: ' ' :: behind) (.and :: later) :=
  .blank (by decide) (.scan (by decide) (fun _ _ => ⟨_, rfl, rfl, rfl⟩) (.blank (by decide) cuts))

theorem Cuts.disjunction (cuts : Cuts (some .or) behind later) :
    Cuts previous (' ' :: '|' :: '|' :: ' ' :: behind) (.or :: later) :=
  .blank (by decide) (.scan (by decide) (fun _ _ => ⟨_, rfl, rfl, rfl⟩) (.blank (by decide) cuts))

theorem exists_tokenize_of_cuts {source : String} {tokens : List Token} (cuts : Cuts none source.toList tokens) :
    ∃ located, tokenize source = .ok located ∧ plain located = tokens :=
  cuts _ _

end

end Verdict.Expression
