/-!
Texts in parts: cutting a text at a mark, joining parts, and looking for one text inside another.
-/

namespace Verdict.Text

/-- The parts of a text between the occurrences of a mark; there is always at least one. -/
def splitAtMark (mark : Char) : List Char → List (List Char)
  | [] => [[]]
  | character :: rest =>
    if character = mark then [] :: splitAtMark mark rest
    else
      match splitAtMark mark rest with
      | [] => [[character]]
      | first :: others => (character :: first) :: others

def segments (text : String) : List String :=
  (splitAtMark '.' text.toList).map String.ofList

def occursIn (wanted : List Char) : List Char → Bool
  | [] => wanted.isEmpty
  | character :: rest => wanted.isPrefixOf (character :: rest) || occursIn wanted rest

theorem splitAtMark_ne_nil (mark : Char) (text : List Char) : splitAtMark mark text ≠ [] := by
  cases text with
  | nil => simp [splitAtMark]
  | cons character rest =>
    simp only [splitAtMark]
    split
    · simp
    · split <;> simp

theorem splitAtMark_of_not_mem {mark : Char} {text : List Char} (absent : mark ∉ text) :
    splitAtMark mark text = [text] := by
  induction text with
  | nil => rfl
  | cons character rest ih =>
    have different : character ≠ mark := (List.ne_of_not_mem_cons absent).symm
    rw [splitAtMark, if_neg different, ih (List.not_mem_of_not_mem_cons absent)]

end Verdict.Text
