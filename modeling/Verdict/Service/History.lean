import Verdict.Evaluation.Summary
/-!
The history of validations: a list with a limit, from which the oldest entries go first. It is read page
by page from the newest entry on.
-/

namespace Verdict

open Time (Instant)

inductive Mode where
  | single
  | batch
deriving DecidableEq, Repr

namespace Mode

def name : Mode → String
  | single => "single"
  | batch => "batch"

def all : List Mode := [single, batch]

def decode : Decoder Mode :=
  Decoder.variant (all.map (fun mode => (mode.name, mode))) none

end Mode

/-- An entry of the history. `serial` counts the entries that were ever made. -/
structure HistoryEntry where
  serial : Nat
  id : String
  mode : Mode
  status : Status
  payload : Json
  createdAt : Instant
deriving Repr

namespace HistoryEntry

def toJson (entry : HistoryEntry) : Json :=
  .object
    [("createdAt", .string entry.createdAt.text), ("id", .string entry.id),
      ("overallStatus", .string entry.status.name), ("payload", entry.payload),
      ("type", .string entry.mode.name)]

def content (entry : HistoryEntry) : Content :=
  .fields
    [(some "id", .text entry.id), (some "type", .text entry.mode.name),
      (some "overallStatus", .text entry.status.name), (some "payload", .value entry.payload),
      (some "createdAt", .text entry.createdAt.text)]

end HistoryEntry

/-- A history with a limit of at least one entry, oldest entry first. The names of entries are drawn from `ids`. -/
structure History where
  capacity : Nat
  ids : Nat → String
  entries : List HistoryEntry
  appended : Nat
  positive : 0 < capacity

namespace History

def defaultCapacity : Nat := 1000

/-- An empty history; a limit of zero counts as one. -/
def new (capacity : Nat) (ids : Nat → String := Text.paddedHex 32) : History :=
  ⟨max capacity 1, ids, [], 0, by omega⟩

def overflow (history : History) : Nat :=
  history.entries.length + 1 - history.capacity

def nextEntry (history : History) (mode : Mode) (status : Status) (payload : Json) (now : Instant) :
    HistoryEntry :=
  ⟨history.appended, "VAL_" ++ history.ids history.appended, mode, status, payload, now⟩

/-- Adds an entry at the end and drops the oldest entries beyond the limit. -/
def append (history : History) (entry : HistoryEntry) : History :=
  { history with
    entries := (history.entries ++ [entry]).drop history.overflow
    appended := history.appended + 1 }

structure Page where
  entries : List HistoryEntry
  page : Nat
  limit : Nat
  total : Nat
deriving Repr

/-- The number of pages; pages without entries are not counted. -/
def Page.pages (page : Page) : Nat :=
  if page.limit = 0 then 0 else (page.total + page.limit - 1) / page.limit

def Page.toJson (page : Page) : Json :=
  .object
    [("data", .array (page.entries.map HistoryEntry.toJson)),
      ("pagination",
        .object
          [("limit", .ofNat page.limit), ("page", .ofNat page.page), ("pages", .ofNat page.pages),
            ("total", .ofNat page.total)])]

def Page.content (page : Page) : Content :=
  .fields
    [(some "data", .sequence (page.entries.map HistoryEntry.content)),
      (some "pagination",
        .fields
          [(some "page", .count page.page), (some "limit", .count page.limit), (some "total", .count page.total),
            (some "pages", .count page.pages)])]

/-- Whether an entry has the wanted status; letters match in either case, and no wish matches all. -/
def matchesStatus (wanted : Option String) (entry : HistoryEntry) : Bool :=
  wanted.all (fun text => text.toList.map Char.toLower == entry.status.name.toList.map Char.toLower)

/-- How many entries stand on the pages before a page; no more are counted than a word can count. -/
def skipped (page limit : Nat) : Nat :=
  min ((page - 1) * limit) (Text.wordLimit - 1)

/-- A page of the entries of a status, newest first. Pages are counted from one. -/
def query (history : History) (page limit : Nat) (status : Option String) : Page :=
  let chosen := history.entries.reverse.filter (matchesStatus status)
  let place := max page 1
  ⟨(chosen.drop (skipped place limit)).take limit, place, limit, chosen.length⟩

structure Statistics where
  total : Nat
  passed : Nat
  lastValidation : Option Instant
deriving Repr

def statistics (history : History) : Statistics where
  total := history.entries.length
  passed := history.entries.countP (fun entry => entry.status == .passed)
  lastValidation := history.entries.getLast?.map HistoryEntry.createdAt

/-- How many of a hundred validations passed, with two decimals. -/
def Statistics.successRate (statistics : Statistics) : Float :=
  if statistics.total = 0 then 0
  else
    Decimal.roundHalfAway
        (Float.ofNat statistics.passed / Float.ofNat statistics.total * 10000) / 100

def Statistics.toJson (statistics : Statistics) : Json :=
  .object
    [("failedValidations", .ofNat (statistics.total - statistics.passed)),
      ("lastValidation", .ofOption (fun moment => .string moment.text) statistics.lastValidation),
      ("passedValidations", .ofNat statistics.passed), ("successRate", .ofFloat statistics.successRate),
      ("totalValidations", .ofNat statistics.total)]

def Statistics.content (statistics : Statistics) : Content :=
  .fields
    [(some "totalValidations", .count statistics.total), (some "passedValidations", .count statistics.passed),
      (some "failedValidations", .count (statistics.total - statistics.passed)),
      (some "successRate", .value (.ofFloat statistics.successRate)),
      (some "lastValidation", .value (.ofOption (fun moment => .string moment.text) statistics.lastValidation))]

end History

end Verdict
