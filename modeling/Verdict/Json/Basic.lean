import Verdict.Decimal.Binary
/-!
JSON values. A number is a 64 bit integer or a finite binary64 number, and the two stay apart. An object
is a list of fields; the operations on fields keep ascending key order, and their laws hold of any list.
-/

namespace Verdict

open Decimal (FiniteFloat)

/-- An integer that fits a signed or an unsigned word of 64 bits, or a finite binary64 number. -/
inductive Number where
  | integer (value : Int) (fits : -9223372036854775808 ≤ value ∧ value < 18446744073709551616)
  | float (value : FiniteFloat)
deriving DecidableEq, Repr

namespace Number

def ofInt? (value : Int) : Option Number :=
  if fits : -9223372036854775808 ≤ value ∧ value < 18446744073709551616 then some (.integer value fits)
  else none

def ofFloat? (value : Float) : Option Number :=
  (FiniteFloat.ofFloat? value).map .float

def toFloat : Number → Float
  | .integer value _ => Float.ofInt value
  | .float value => value.value

end Number

inductive Json where
  | null
  | bool (value : Bool)
  | number (value : Number)
  | string (value : String)
  | array (items : List Json)
  | object (fields : List (String × Json))
deriving Inhabited, Repr

abbrev Fields := List (String × Json)

namespace Fields

def get? : Fields → String → Option Json
  | [], _ => none
  | (key, value) :: rest, wanted => if key = wanted then some value else get? rest wanted

def hasKey (fields : Fields) (key : String) : Bool :=
  (fields.get? key).isSome

/-- Puts a value under a key: in place of the old one, or before the first greater key. -/
def insert : Fields → String → Json → Fields
  | [], key, value => [(key, value)]
  | (first, old) :: rest, key, value =>
    if first = key then (key, value) :: rest
    else if key < first then (key, value) :: (first, old) :: rest
    else (first, old) :: insert rest key value

/-- The fields of an object from entries in any order; of two entries with one key the later wins. -/
def ofEntries (entries : List (String × Json)) : Fields :=
  entries.foldl (fun fields entry => fields.insert entry.1 entry.2) []

@[simp] theorem get?_insert_self (fields : Fields) (key : String) (value : Json) :
    (fields.insert key value).get? key = some value := by
  induction fields with
  | nil => simp [insert, get?]
  | cons entry rest ih =>
    obtain ⟨first, old⟩ := entry
    simp only [insert]
    split
    · simp [get?]
    · split
      · simp [get?]
      · simp_all [get?]

theorem get?_insert_of_ne (fields : Fields) {key other : String} (value : Json) (different : key ≠ other) :
    (fields.insert key value).get? other = fields.get? other := by
  induction fields with
  | nil => simp [insert, get?, different]
  | cons entry rest ih =>
    obtain ⟨first, old⟩ := entry
    simp only [insert]
    split
    · simp_all [get?]
    · split
      · simp [get?, different]
      · simp [get?, ih]

/-- Keys in ascending order, and so each only once. -/
def Ascending (fields : Fields) : Prop :=
  fields.Pairwise (fun left right => left.1 < right.1)

theorem key_mem_insert {fields : Fields} {key : String} {value : Json} {entry : String × Json}
    (mem : entry ∈ fields.insert key value) : entry = (key, value) ∨ entry ∈ fields := by
  induction fields with
  | nil => simpa [insert] using mem
  | cons first rest ih =>
    obtain ⟨name, old⟩ := first
    simp only [insert] at mem
    split at mem
    · simp only [List.mem_cons] at mem ⊢
      exact mem.imp_right .inr
    · split at mem
      · simpa using mem
      · simp only [List.mem_cons] at mem ⊢
        rcases mem with same | inner
        · exact .inr (.inl same)
        · exact (ih inner).imp_right .inr

/-- Putting a value under a key keeps the order of the keys. -/
theorem Ascending.insert {fields : Fields} (ascending : fields.Ascending) (key : String) (value : Json) :
    (Fields.insert fields key value).Ascending := by
  induction fields with
  | nil => exact List.pairwise_singleton _ _
  | cons first rest ih =>
    obtain ⟨name, old⟩ := first
    obtain ⟨before, restAscending⟩ := List.pairwise_cons.1 ascending
    simp only [Fields.insert]
    split
    · next same => exact List.pairwise_cons.2 ⟨fun entry mem => same ▸ before entry mem, restAscending⟩
    · next different =>
      split
      · next smaller =>
        refine List.pairwise_cons.2 ⟨fun entry mem => ?_, ascending⟩
        rcases List.mem_cons.1 mem with rfl | inner
        · exact smaller
        · exact String.lt_trans smaller (before entry inner)
      · next notSmaller =>
        refine List.pairwise_cons.2 ⟨fun entry mem => ?_, ih restAscending⟩
        rcases key_mem_insert mem with rfl | inner
        · exact Decidable.byContradiction (fun notBefore =>
            different (String.le_antisymm (String.not_lt.1 notSmaller) (String.not_lt.1 notBefore)))
        · exact before entry inner

end Fields

namespace Json

/-- A whole number as JSON; numbers beyond 64 bits do not occur as counts. -/
def ofNat (value : Nat) : Json :=
  (Number.ofInt? value).elim .null .number

/-- An integer as JSON, null if it does not fit. -/
def ofInt (value : Int) : Json :=
  (Number.ofInt? value).elim .null .number

/-- A binary64 number as JSON, null if it is not finite. -/
def ofFloat (value : Float) : Json :=
  (Number.ofFloat? value).elim .null .number

def ofOption (encode : α → Json) : Option α → Json
  | none => .null
  | some value => encode value

def string? : Json → Option String
  | .string value => some value
  | _ => none

def items? : Json → Option (List Json)
  | .array items => some items
  | _ => none

def fields? : Json → Option Fields
  | .object fields => some fields
  | _ => none

/-- A whole number from zero up that is written as an integer. -/
def nat? : Json → Option Nat
  | .number (.integer value _) => if 0 ≤ value then some value.toNat else none
  | _ => none

def isNull : Json → Bool
  | .null => true
  | _ => false

def isString : Json → Bool
  | .string _ => true
  | _ => false

end Json

end Verdict
