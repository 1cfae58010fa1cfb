import Verdict.Text.Percent
import Verdict.Text.Segments
/-!
The query of a request for the history: pairs of keys and values parted by ampersands. Unknown keys are
passed over, and a key may stand only once.
-/

namespace Verdict.Http

inductive QueryFault where
  | repeated (key : String)
  | notNumber (key : String) (fault : Text.UnsignedFault)
deriving DecidableEq, Repr

def QueryFault.message : QueryFault → String
  | repeated key => "duplicate field `" ++ key ++ "`"
  | notNumber key fault => key ++ ": " ++ fault.message

/-- The text of a key or a value: a plus sign stands for a space. -/
def decodedPart (part : List Char) : String :=
  Text.ofBytesLenient
    (Text.percentDecoded (part.map (fun character => if character = '+' then ' ' else character)))

/-- The pairs of a query in their order; empty parts are left out, and a part without an equals sign is a
key with an empty value. -/
def queryPairs (query : List Char) : List (String × String) :=
  ((Text.splitAtMark '&' query).filter (fun part => !part.isEmpty)).map (fun part =>
    let (key, value) := part.span (· != '=')
    (decodedPart key, decodedPart (value.drop 1)))

structure HistoryQuery where
  page : Option Nat
  limit : Option Nat
  status : Option String
deriving DecidableEq, Repr

/-- A number under a key that has no value yet. -/
def numberOnce (key value : String) (old : Option Nat) : Except QueryFault Nat :=
  if old.isSome then .error (.repeated key)
  else (Text.readWord value.toList).mapError (.notNumber key)

namespace HistoryQuery

def take (query : HistoryQuery) (key value : String) : Except QueryFault HistoryQuery :=
  if key == "page" then
    (numberOnce key value query.page).map (fun page => { query with page := some page })
  else if key == "limit" then
    (numberOnce key value query.limit).map (fun limit => { query with limit := some limit })
  else if key == "status" then
    if query.status.isSome then .error (.repeated key) else .ok { query with status := some value }
  else .ok query

def takeAll : (query : HistoryQuery) → (pairs : List (String × String)) → Except QueryFault HistoryQuery
  | query, [] => .ok query
  | query, (key, value) :: rest => do
    let next ← query.take key value
    next.takeAll rest

def read (query : List Char) : Except QueryFault HistoryQuery :=
  takeAll ⟨none, none, none⟩ (queryPairs query)

end HistoryQuery

end Verdict.Http
