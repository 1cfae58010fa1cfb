/-!
Stable sorting by a key. A sorted list is determined by the elements of each key as they stand in it, and a
stable sort leaves these as they stand; so lists that agree in the elements of each key are sorted into one and
the same list.
-/

namespace Verdict.Sorting

variable {α κ : Type}

section

variable [LE κ] (key : α → κ)

/-- Elements in ascending order of their keys. -/
def Ascending (items : List α) : Prop :=
  items.Pairwise (fun left right => key left ≤ key right)

theorem Ascending.head_le [Std.IsLinearOrder κ] {key : α → κ} {first : α} {rest : List α}
    (ascending : Ascending key (first :: rest)) {item : α} (member : item ∈ first :: rest) :
    key first ≤ key item := by
  rcases List.mem_cons.1 member with rfl | later
  · exact Std.le_refl _
  · exact (List.pairwise_cons.1 ascending).1 item later

variable [DecidableLE κ]

/-- Elements by ascending key; of one key, in the order in which they stand. -/
def byKey (items : List α) : List α :=
  items.mergeSort (fun left right => decide (key left ≤ key right))

theorem byKey_perm (items : List α) : (byKey key items).Perm items :=
  List.mergeSort_perm _ _

variable [Std.IsLinearOrder κ]

theorem key_le_trans (first second third : α) (lower : decide (key first ≤ key second) = true)
    (upper : decide (key second ≤ key third) = true) : decide (key first ≤ key third) = true := by
  rw [decide_eq_true_eq] at lower upper ⊢
  exact Std.le_trans lower upper

theorem key_le_total (first second : α) :
    (decide (key first ≤ key second) || decide (key second ≤ key first)) = true := by
  rw [Bool.or_eq_true, decide_eq_true_eq, decide_eq_true_eq]
  exact Std.le_total

theorem ascending_byKey (items : List α) : Ascending key (byKey key items) := by
  have sorted := List.pairwise_mergeSort (key_le_trans key) (key_le_total key) items
  exact sorted.imp of_decide_eq_true

omit [Std.IsLinearOrder κ] in
theorem byKey_of_ascending (key : α → κ) {items : List α} (ascending : Ascending key items) :
    byKey key items = items :=
  List.mergeSort_of_pairwise (ascending.imp decide_eq_true)

end

section

variable [DecidableEq κ] {key : α → κ} {wanted : κ} {item : α} {items left right : List α}

/-- The elements of one key, as they stand. -/
def ofKey (key : α → κ) (wanted : κ) (items : List α) : List α :=
  items.filter (fun item => key item == wanted)

theorem mem_ofKey : item ∈ ofKey key wanted items ↔ item ∈ items ∧ key item = wanted := by
  rw [ofKey, List.mem_filter, beq_iff_eq]

theorem ofKey_cons : ofKey key wanted (item :: items) =
    if key item = wanted then item :: ofKey key wanted items else ofKey key wanted items := by
  simp only [ofKey, List.filter_cons, beq_iff_eq]

theorem mem_of_same_keys (same : ∀ wanted, ofKey key wanted left = ofKey key wanted right)
    (member : item ∈ left) : item ∈ right := by
  have among : item ∈ ofKey key (key item) right := same (key item) ▸ mem_ofKey.2 ⟨member, rfl⟩
  exact (mem_ofKey.1 among).1

theorem ofKey_append : ofKey key wanted (left ++ right) = ofKey key wanted left ++ ofKey key wanted right :=
  List.filter_append _ _

/-- Where no key occurs twice, no order of the elements of a key can change. -/
theorem ofKey_eq_of_perm (distinct : (left.map key).Nodup) (rearranged : right.Perm left) :
    ofKey key wanted right = ofKey key wanted left := by
  have among : (ofKey key wanted right).Perm (ofKey key wanted left) := rearranged.filter _
  have apart : ((ofKey key wanted left).map key).Nodup := distinct.sublist (List.filter_sublist.map key)
  cases found : ofKey key wanted left with
  | nil => exact (found ▸ among).eq_nil
  | cons first rest =>
    cases rest with
    | nil => exact List.perm_singleton.1 (found ▸ among)
    | cons second rest =>
      have keyOf (item : α) (member : item ∈ ofKey key wanted left) : key item = wanted := (mem_ofKey.1 member).2
      have twice : key first = key second := by
        rw [keyOf first (by simp [found]), keyOf second (by simp [found])]
      rw [found, List.map_cons, List.map_cons, twice] at apart
      exact absurd List.mem_cons_self (List.nodup_cons.1 apart).1

variable [LE κ] [Std.IsLinearOrder κ]

/-- Sorted lists are the same if they agree in the elements of each key. -/
theorem Ascending.eq_of_same_keys (leftAscending : Ascending key left) (rightAscending : Ascending key right)
    (same : ∀ wanted, ofKey key wanted left = ofKey key wanted right) : left = right := by
  induction left generalizing right with
  | nil =>
    have none (item : α) : item ∉ right :=
      fun member => List.not_mem_nil (mem_of_same_keys (fun wanted => (same wanted).symm) member)
    exact (List.eq_nil_iff_forall_not_mem.2 none).symm
  | cons first rest ih =>
    cases right with
    | nil => exact absurd (mem_of_same_keys same List.mem_cons_self) List.not_mem_nil
    | cons other others =>
      -- Each head is of least key in its own list and stands in the other list as well.
      have below := leftAscending.head_le
        (mem_of_same_keys (fun wanted => (same wanted).symm) List.mem_cons_self)
      have above := rightAscending.head_le (mem_of_same_keys same List.mem_cons_self)
      have level : key other = key first := Std.le_antisymm above below
      obtain rfl : first = other := by
        have heads := same (key first)
        rw [ofKey_cons, ofKey_cons, if_pos rfl, if_pos level] at heads
        exact (List.cons.inj heads).1
      refine congrArg (List.cons first) (ih (List.pairwise_cons.1 leftAscending).2
        (List.pairwise_cons.1 rightAscending).2 (fun wanted => ?_))
      have tails := same wanted
      rw [ofKey_cons, ofKey_cons] at tails
      split at tails
      · exact (List.cons.inj tails).2
      · exact tails

variable [DecidableLE κ]

/-- Elements of one key are in order as they stand, and so a stable sort leaves them so. -/
theorem ofKey_byKey : ofKey key wanted (byKey key items) = ofKey key wanted items := by
  have level : (ofKey key wanted items).Pairwise (fun left right => decide (key left ≤ key right) = true) := by
    refine List.pairwise_of_forall_mem_list (fun left leftMember right rightMember => decide_eq_true ?_)
    rw [(mem_ofKey.1 leftMember).2, (mem_ofKey.1 rightMember).2]
    exact Std.le_refl wanted
  have kept : (ofKey key wanted items).Sublist (byKey key items) :=
    List.sublist_mergeSort (key_le_trans key) (key_le_total key) level List.filter_sublist
  have within : (ofKey key wanted items).Sublist (ofKey key wanted (byKey key items)) := by
    have filtered := kept.filter (fun item => key item == wanted)
    rwa [ofKey, List.filter_filter, List.filter_congr (fun _ _ => Bool.and_self _)] at filtered
  have count := ((byKey_perm key items).filter (fun item => key item == wanted)).length_eq
  exact (within.eq_of_length count.symm).symm

/-- It makes no difference whether elements are left out before or after a sort. -/
theorem filter_byKey (key : α → κ) (items : List α) (keeps : α → Bool) :
    (byKey key items).filter keeps = byKey key (items.filter keeps) := by
  have among (list : List α) (wanted : κ) :
      ofKey key wanted (list.filter keeps) = (ofKey key wanted list).filter keeps := by
    simp only [ofKey, List.filter_filter, Bool.and_comm]
  refine Ascending.eq_of_same_keys ((ascending_byKey key items).filter keeps) (ascending_byKey key _)
    (fun wanted => ?_)
  rw [among, ofKey_byKey, ofKey_byKey, among]

/-- Lists that agree in the elements of each key are sorted into the same list. -/
theorem byKey_congr (same : ∀ wanted, ofKey key wanted left = ofKey key wanted right) :
    byKey key left = byKey key right := by
  refine (ascending_byKey key left).eq_of_same_keys (ascending_byKey key right) (fun wanted => ?_)
  rw [ofKey_byKey, ofKey_byKey, same wanted]

end

end Verdict.Sorting
