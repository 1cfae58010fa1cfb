import Verdict.Service.History
/-!
Paging in machine words. A page is cut out of a history by numbers of 64 bits: a step whose result is no such number
gives nothing, except that a product that is too large counts as the largest number.
-/

namespace Verdict

namespace Paging

def add? (first second : BitVec 64) : Option (BitVec 64) :=
  if first.uaddOverflow second then none else some (first + second)

def sub? (first second : BitVec 64) : Option (BitVec 64) :=
  if first.usubOverflow second then none else some (first - second)

/-- The product of two words, or the largest word if it is none. -/
def boundedMul (first second : BitVec 64) : BitVec 64 :=
  if first.umulOverflow second then BitVec.allOnes 64 else first * second

/-- How many parts of a size a whole has, the last of which may be smaller: one more than the quotient if there is a
remainder. Parts of no size are not counted. -/
def parts? (whole size : BitVec 64) : Option (BitVec 64) :=
  if size = 0 then some 0
  else if whole % size = 0 then some (whole / size)
  else add? (whole / size) 1

end Paging

namespace History

structure WordPage where
  entries : List HistoryEntry
  page : BitVec 64
  limit : BitVec 64
  total : BitVec 64
  pages : BitVec 64

/-- A page of the entries of a status, newest first, computed step by step in words. -/
def queryInWords (history : History) (page limit : BitVec 64) (status : Option String) : Option WordPage := do
  let chosen := history.entries.reverse.filter (matchesStatus status)
  let place := if page = 0 then 1 else page
  let total := BitVec.ofNat 64 chosen.length
  let pages ← Paging.parts? total limit
  let earlier ← Paging.sub? place 1
  some ⟨(chosen.drop (Paging.boundedMul earlier limit).toNat).take limit.toNat, place, limit, total, pages⟩

end History

end Verdict
