import Mathlib
import Verdict.Service.Paging
/-!
Pages of a history. Page by page the entries of a status are told once each, newest first: all pages but the last are
full, and there are none behind it. The numbers on the way never leave the range of machine words, since a product
that does is larger than any history.
-/

namespace Verdict

open Text (wordLimit)

theorem Text.map_toLower_eq_iff {first second : List Char} :
    first.map Char.toLower = second.map Char.toLower ↔ first.map Char.toUpper = second.map Char.toUpper := by
  constructor
  · intro same
    have again := congrArg (List.map Char.toUpper) same
    simpa only [List.map_map, Function.comp_def, Char.toUpper_toLower_eq_toUpper] using again
  · intro same
    have again := congrArg (List.map Char.toLower) same
    simpa only [List.map_map, Function.comp_def, Char.toLower_toUpper_eq_toLower] using again

theorem Status.map_toUpper_name (status : Status) : status.name.toList.map Char.toUpper = status.name.toList := by
  cases status <;> decide

/-- The parts of a list of one size, as many as are wanted, put together. -/
theorem flatMap_parts {α : Type} (items : List α) (size count : Nat) :
    (List.range' 1 count).flatMap (fun part => (items.drop ((part - 1) * size)).take size) =
      items.take (count * size) := by
  induction count with
  | zero => simp
  | succ count ih =>
    rw [List.range'_1_concat, List.flatMap_append, ih, Nat.succ_mul, List.take_add, List.flatMap_singleton,
      Nat.add_sub_cancel_left]

namespace Paging

/-- A quotient that is rounded up is the smallest count of parts that hold the whole. -/
theorem div_up_le_iff {whole size count : Nat} (positive : 0 < size) :
    (whole + size - 1) / size ≤ count ↔ whole ≤ size * count := by
  rw [← Nat.ceilDiv_eq_add_pred_div, ceilDiv_le_iff_le_mul positive]

theorem ceil_div_eq {whole size : Nat} (positive : 0 < size) :
    ⌈(whole / size : ℚ)⌉₊ = (whole + size - 1) / size := by
  refine eq_of_forall_ge_iff (fun count => ?_)
  have scaled : (0 : ℚ) < size := Nat.cast_pos.2 positive
  rw [Nat.ceil_le, div_le_iff₀ scaled, div_up_le_iff positive, Nat.mul_comm size count]
  exact_mod_cast Iff.rfl

theorem div_rounded_up {whole size : Nat} (positive : 0 < size) :
    (whole + size - 1) / size = if whole % size = 0 then whole / size else whole / size + 1 := by
  have parts := Nat.div_add_mod whole size
  have small := Nat.mod_lt whole positive
  split
  next even =>
    have sum : whole + size - 1 = size * (whole / size) + (size - 1) := by omega
    have rest : size - 1 < size := by omega
    rw [sum, Nat.mul_add_div positive, Nat.div_eq_of_lt rest, Nat.add_zero]
  next odd =>
    have sum : whole + size - 1 = size * (whole / size + 1) + (whole % size - 1) := by
      rw [Nat.mul_succ]
      omega
    have rest : whole % size - 1 < size := by omega
    rw [sum, Nat.mul_add_div positive, Nat.div_eq_of_lt rest, Nat.add_zero]

theorem toNat_boundedMul (first second : BitVec 64) :
    (boundedMul first second).toNat = min (first.toNat * second.toNat) (wordLimit - 1) := by
  unfold boundedMul
  by_cases overflows : first.umulOverflow second = true
  · have large : first.toNat * second.toNat ≥ 2 ^ 64 := by simpa [BitVec.umulOverflow] using overflows
    rw [if_pos overflows, BitVec.toNat_allOnes, wordLimit]
    omega
  · have small : first.toNat * second.toNat < 2 ^ 64 := by simpa [BitVec.umulOverflow] using overflows
    rw [if_neg overflows, BitVec.toNat_mul_of_not_umulOverflow overflows, wordLimit]
    omega

theorem toNat_start (page : BitVec 64) : (if page = 0 then 1 else page).toNat = max page.toNat 1 := by
  split
  next first =>
    rw [first]
    rfl
  next later =>
    have positive : page.toNat ≠ 0 := fun zero => later (BitVec.eq_of_toNat_eq zero)
    omega

theorem exists_sub (first second : BitVec 64) (within : second.toNat ≤ first.toNat) :
    ∃ rest, sub? first second = some rest ∧ rest.toNat = first.toNat - second.toNat := by
  have fits : ¬first.usubOverflow second = true := by
    rw [BitVec.usubOverflow, decide_eq_true_eq]
    exact Nat.not_lt.2 within
  exact ⟨first - second, if_neg fits, BitVec.toNat_sub_of_not_usubOverflow fits⟩

/-- Counting parts never leaves the range of words: a quotient with a remainder is smaller than the whole. -/
theorem exists_parts (whole size : BitVec 64) :
    ∃ count, parts? whole size = some count ∧
      count.toNat = if size.toNat = 0 then 0 else (whole.toNat + size.toNat - 1) / size.toNat := by
  unfold parts?
  by_cases none : size = 0
  · exact ⟨0, if_pos none, by simp [none]⟩
  · have positive : 0 < size.toNat := Nat.pos_of_ne_zero (fun zero => none (BitVec.eq_of_toNat_eq zero))
    rw [if_neg none, if_neg positive.ne', div_rounded_up positive, ← BitVec.toNat_umod, ← BitVec.toNat_udiv]
    by_cases even : whole % size = 0
    · have remainder : (whole % size).toNat = 0 := congrArg BitVec.toNat even
      exact ⟨whole / size, if_pos even, by rw [if_pos remainder]⟩
    · have odd : (whole % size).toNat ≠ 0 := fun zero => even (BitVec.eq_of_toNat_eq zero)
      have smaller : (whole / size).toNat < whole.toNat := by
        have parts := Nat.div_add_mod whole.toNat size.toNat
        rw [← BitVec.toNat_udiv, ← BitVec.toNat_umod] at parts
        have least := Nat.le_mul_of_pos_left (whole / size).toNat positive
        omega
      have fits : ¬(whole / size).uaddOverflow 1 = true := by
        have bound : (whole / size).toNat + 1 < 2 ^ 64 := by
          have limited := whole.isLt
          omega
        rw [BitVec.uaddOverflow, decide_eq_true_eq]
        exact Nat.not_le.2 bound
      refine ⟨whole / size + 1, ?_, ?_⟩
      · rw [if_neg even, add?, if_neg fits]
      · rw [if_neg odd, BitVec.toNat_add_of_not_uaddOverflow fits]
        rfl

end Paging

namespace History

/-- The entries of a status that a history holds, newest first. Names of statuses are written in upper case, so a
wanted name is brought to upper case. -/
def retained (history : History) (status : Option String) : List HistoryEntry :=
  (history.entries.filter (fun entry => status.all (fun text => text.toUpper == entry.status.name))).reverse

theorem matchesStatus_eq (status : Option String) (entry : HistoryEntry) :
    matchesStatus status entry = status.all (fun text => text.toUpper == entry.status.name) := by
  cases status with
  | none => rfl
  | some text =>
    rw [matchesStatus, Option.all_some, Option.all_some, Bool.eq_iff_iff, beq_iff_eq, beq_iff_eq,
      Text.map_toLower_eq_iff, Status.map_toUpper_name, ← String.toList_map, String.toList_inj, String.toUpper]

theorem filter_matchesStatus (history : History) (status : Option String) :
    history.entries.reverse.filter (matchesStatus status) = history.retained status := by
  rw [retained, ← List.filter_reverse]
  exact List.filter_congr (fun entry _ => matchesStatus_eq status entry)

/-- The largest number of skipped entries is no bound for a history that a machine holds. -/
theorem drop_skipped {α : Type} {items : List α} (held : items.length < wordLimit) (page limit : Nat) :
    items.drop (skipped page limit) = items.drop ((page - 1) * limit) := by
  rcases Nat.le_total ((page - 1) * limit) (wordLimit - 1) with within | beyond
  · rw [skipped, min_eq_left within]
  · rw [skipped, min_eq_right beyond, List.drop_of_length_le (by omega), List.drop_of_length_le (by omega)]

/-- The pages of a history: what they are together and what each of them is. -/
structure Paged (history : History) (limit : Nat) (status : Option String) (pages : Nat) : Prop where
  tiled : (List.range' 1 pages).flatMap (fun page => (history.query page limit status).entries) =
    history.retained status
  total : ∀ page, (history.query page limit status).total = (history.retained status).length
  counted : ∀ page, (history.query page limit status).pages = pages
  ceiling : pages = ⌈((history.retained status).length / limit : ℚ)⌉₊
  full : ∀ page, 1 ≤ page → page < pages → (history.query page limit status).entries.length = limit
  beyond : ∀ page, pages < page → (history.query page limit status).entries = []
  start : history.query 0 limit status = history.query 1 limit status

section Held

variable {history : History} (held : history.entries.length < wordLimit) (status : Option String)

include held

theorem length_retained_lt : (history.retained status).length < wordLimit := by
  rw [retained, List.length_reverse]
  exact Nat.lt_of_le_of_lt (List.length_filter_le _ _) held

theorem entries_query (page limit : Nat) :
    (history.query page limit status).entries =
      ((history.retained status).drop ((page - 1) * limit)).take limit := by
  have place : max page 1 - 1 = page - 1 := by omega
  have chosen := drop_skipped (length_retained_lt held status) (max page 1) limit
  rw [place] at chosen
  rw [query, filter_matchesStatus, chosen]

theorem paged {limit : Nat} (positive : 0 < limit) :
    history.Paged limit status (((history.retained status).length + limit - 1) / limit) := by
  have enough (count : Nat) :
      ((history.retained status).length + limit - 1) / limit ≤ count ↔
        (history.retained status).length ≤ count * limit := by
    rw [Paging.div_up_le_iff positive, Nat.mul_comm]
  have total (page : Nat) : (history.query page limit status).total = (history.retained status).length := by
    rw [query, filter_matchesStatus]
  constructor
  case tiled =>
    simp only [entries_query held, flatMap_parts]
    exact List.take_of_length_le ((enough _).1 le_rfl)
  case total => exact total
  case counted =>
    intro page
    rw [Page.pages, total]
    exact if_neg positive.ne'
  case ceiling => exact (Paging.ceil_div_eq positive).symm
  case full =>
    intro page first last
    have more : page * limit < (history.retained status).length :=
      Nat.lt_of_not_le (fun covered => Nat.not_le_of_lt last ((enough page).2 covered))
    have ended : (page - 1) * limit + limit = page * limit := by
      rw [← Nat.succ_mul, Nat.succ_eq_add_one, Nat.sub_add_cancel first]
    rw [entries_query held, List.length_take, List.length_drop]
    omega
  case beyond =>
    intro page behind
    have spent : (history.retained status).length ≤ (page - 1) * limit := by
      rw [← enough]
      omega
    rw [entries_query held, List.drop_of_length_le spent, List.take_nil]
  case start => rfl

end Held

/-- A page without its words. -/
def WordPage.toPage (words : WordPage) : Page :=
  ⟨words.entries, words.page.toNat, words.limit.toNat, words.total.toNat⟩

/-- Each step in words gives a word, and the number that is meant. -/
theorem exists_queryInWords {history : History} (held : history.entries.length < wordLimit) (page limit : BitVec 64)
    (status : Option String) :
    ∃ words, history.queryInWords page limit status = some words ∧
      words.toPage = history.query page.toNat limit.toNat status ∧ words.pages.toNat = words.toPage.pages := by
  obtain ⟨chosen, filtered⟩ : ∃ chosen, chosen = history.entries.reverse.filter (matchesStatus status) := ⟨_, rfl⟩
  obtain ⟨place, placed⟩ : ∃ place, place = if page = 0 then 1 else page := ⟨_, rfl⟩
  obtain ⟨total, summed⟩ : ∃ total, total = BitVec.ofNat 64 chosen.length := ⟨_, rfl⟩
  have placeValue : place.toNat = max page.toNat 1 := by rw [placed, Paging.toNat_start]
  have totalValue : total.toNat = chosen.length := by
    have fewer : chosen.length < wordLimit := by
      rw [filtered, filter_matchesStatus]
      exact length_retained_lt held status
    rw [summed, BitVec.toNat_ofNat]
    exact Nat.mod_eq_of_lt fewer
  obtain ⟨pages, counted, pagesValue⟩ := Paging.exists_parts total limit
  obtain ⟨earlier, taken, earlierValue⟩ := Paging.exists_sub place 1 (by
    rw [placeValue]
    exact Nat.le_max_right _ _)
  have offset : (Paging.boundedMul earlier limit).toNat = skipped (max page.toNat 1) limit.toNat := by
    rw [Paging.toNat_boundedMul, earlierValue, placeValue]
    rfl
  refine ⟨⟨(chosen.drop (Paging.boundedMul earlier limit).toNat).take limit.toNat, place, limit, total, pages⟩,
    ?_, ?_, pagesValue⟩
  · simp only [queryInWords, ← filtered, ← placed, ← summed, counted, taken, Option.bind_eq_bind, Option.bind_some]
  · rw [WordPage.toPage, offset, placeValue, totalValue, filtered]
    rfl

/-- Whatever a history holds and whichever status is asked for, its pages of at least one entry together are the
entries of that status, newest first; their number is the same on every page, and the page of the number zero is the
first one. And no page of any size, however large its numbers, is out of the range of words. -/
theorem pages_tile_history (history : History) (status : Option String) (held : history.entries.length < wordLimit) :
    (∀ limit, 1 ≤ limit → history.Paged limit status (history.query 1 limit status).pages) ∧
      ∀ page limit : BitVec 64, ∃ words, history.queryInWords page limit status = some words ∧
        words.toPage = history.query page.toNat limit.toNat status ∧ words.pages.toNat = words.toPage.pages := by
  refine ⟨fun limit positive => ?_, fun page limit => exists_queryInWords held page limit status⟩
  have known := paged held status positive
  rw [known.counted 1]
  exact known

/-- Three validations, the second of which passed. -/
def mixedHistory : History :=
  [Status.failed, .passed, .failed].foldl
    (fun history status => history.append (history.nextEntry .single status .null ⟨0, 0⟩)) (new 3)

theorem mixed_history_tiled :
    mixedHistory.entries.length < wordLimit ∧
      (mixedHistory.retained (some "Failed")).map HistoryEntry.serial = [2, 0] ∧
      mixedHistory.Paged 1 (some "Failed") 2 ∧
      ∃ words, mixedHistory.queryInWords (.allOnes 64) (.allOnes 64) (some "Failed") = some words ∧
        words.toPage = mixedHistory.query (wordLimit - 1) (wordLimit - 1) (some "Failed") ∧ words.pages.toNat = 1 := by
  have held : mixedHistory.entries.length < wordLimit := by decide
  have latest : (mixedHistory.retained (some "Failed")).map HistoryEntry.serial = [2, 0] := by
    rw [← filter_matchesStatus]
    decide
  obtain ⟨tiled, answered⟩ := pages_tile_history mixedHistory (some "Failed") held
  obtain ⟨words, written, meant, pages⟩ := answered (.allOnes 64) (.allOnes 64)
  refine ⟨held, latest, tiled 1 (Nat.le_refl 1), words, written, meant, ?_⟩
  rw [pages, meant]
  decide

end History

end Verdict
