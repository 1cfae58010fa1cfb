import Verdict.Service.Basic
/-!
What a history keeps of what it is told. The oldest entries go first, one for each entry beyond the limit; so
after any appends the history holds the latest entries as they were given back, and all others have been
counted as evictions.
-/

namespace Verdict

open Time (Instant)

/-- What the history is told of a validation. -/
structure Service.Note where
  mode : Mode
  status : Status
  payload : Json
  now : Instant

/-- What an entry tells of its validation. -/
def HistoryEntry.note (entry : HistoryEntry) : Service.Note :=
  ⟨entry.mode, entry.status, entry.payload, entry.createdAt⟩

namespace Service

/-- The entry that is made of a note, and given back when it is appended. -/
def entryOf (service : Service) (note : Note) : HistoryEntry :=
  service.history.nextEntry note.mode note.status note.payload note.now

/-- A service after one more note in its history. -/
def append (service : Service) (note : Note) : Service :=
  service.noted note.mode note.status note.payload note.now

/-- A service after notes in its history, one after the other. -/
def appendAll : (service : Service) → (notes : List Note) → Service
  | service, [] => service
  | service, note :: rest => (service.append note).appendAll rest

/-- The entries that are given back on the way. -/
def entriesOf : (service : Service) → (notes : List Note) → List HistoryEntry
  | _, [] => []
  | service, note :: rest => service.entryOf note :: (service.append note).entriesOf rest

/-- The history holds the latest of the entries that were given back, as many as its limit allows, and the others
are counted as evictions. Serials count the entries. -/
structure Keeps (service : Service) (given : List HistoryEntry) : Prop where
  latest : service.history.entries = given.drop (given.length - service.history.capacity)
  evicted : service.counters.count .evictions = given.length - service.history.capacity
  appended : service.history.appended = given.length
  serials : given.map HistoryEntry.serial = List.range given.length
  ids : given.map HistoryEntry.id = (List.range given.length).map (fun serial => "VAL_" ++ service.history.ids serial)

namespace Keeps

variable {service : Service} {given : List HistoryEntry}

theorem new (capacity : Nat) (ids : Nat → String) : (Service.new capacity ids).Keeps [] where
  latest := List.drop_nil.symm
  evicted := (Nat.zero_sub _).symm
  appended := rfl
  serials := rfl
  ids := rfl

theorem length_entries (keeps : service.Keeps given) :
    service.history.entries.length = min given.length service.history.capacity := by
  rw [keeps.latest, List.length_drop]
  omega

/-- A full history drops one entry for the next one, and a history with room drops none. -/
theorem overflow (keeps : service.Keeps given) :
    given.length - service.history.capacity + service.history.overflow =
      given.length + 1 - service.history.capacity := by
  have limit := service.history.positive
  rw [History.overflow, keeps.length_entries]
  omega

theorem append (keeps : service.Keeps given) (note : Note) :
    (service.append note).Keeps (given ++ [service.entryOf note]) := by
  have dropped := keeps.overflow
  have length : (given ++ [service.entryOf note]).length = given.length + 1 := List.length_append
  constructor
  case latest =>
    -- What was dropped before and what is dropped now are the front of all entries together.
    change (service.history.entries ++ [service.entryOf note]).drop service.history.overflow =
      (given ++ [service.entryOf note]).drop (_ - service.history.capacity)
    rw [keeps.latest, ← List.drop_append_of_le_length (Nat.sub_le _ _), List.drop_drop, dropped, length]
  case evicted =>
    change (service.counters.add .evictions service.history.overflow).count .evictions =
      _ - service.history.capacity
    rw [Counters.count_add_self, keeps.evicted, dropped, length]
  case appended => exact (congrArg (· + 1) keeps.appended).trans length.symm
  case serials =>
    have serial : (service.entryOf note).serial = given.length := keeps.appended
    rw [List.map_append, keeps.serials, length, List.range_succ, List.map_singleton, serial]
  case ids =>
    have drawn : (service.entryOf note).id = "VAL_" ++ service.history.ids given.length := by
      rw [← keeps.appended]
      rfl
    rw [List.map_append, keeps.ids, length, List.range_succ, List.map_append, List.map_singleton, List.map_singleton,
      drawn]
    rfl

theorem appendAll (keeps : service.Keeps given) (notes : List Note) :
    (service.appendAll notes).Keeps (given ++ service.entriesOf notes) := by
  induction notes generalizing service given with
  | nil => simpa [Service.appendAll, entriesOf] using keeps
  | cons note rest ih =>
    have later := ih (keeps.append note)
    rwa [List.append_assoc, List.singleton_append] at later

end Keeps

/-- Notes change neither the limit of a history nor where the names of its entries come from. -/
theorem fixed_appendAll (service : Service) (notes : List Note) :
    (service.appendAll notes).history.capacity = service.history.capacity ∧
      (service.appendAll notes).history.ids = service.history.ids := by
  induction notes generalizing service with
  | nil => exact ⟨rfl, rfl⟩
  | cons note rest ih => exact ih (service.append note)

theorem map_note_entriesOf (service : Service) (notes : List Note) :
    (service.entriesOf notes).map HistoryEntry.note = notes := by
  induction notes generalizing service with
  | nil => rfl
  | cons note rest ih => exact congrArg (note :: ·) (ih (service.append note))

/-- What is left of notes after they were appended to a new history: the entries that were given back tell them
one by one, each under its own serial and a name drawn for it; the latest of them are kept in their order, as many as
there are and the limit allows, and the rest is counted as evictions. -/
structure Retains (capacity : Nat) (ids : Nat → String) (notes : List Note) (given : List HistoryEntry)
    (after : Service) : Prop where
  told : given.map HistoryEntry.note = notes
  serials : given.map HistoryEntry.serial = List.range notes.length
  ids : given.map HistoryEntry.id = (List.range notes.length).map (fun serial => "VAL_" ++ ids serial)
  latest : after.history.entries = given.drop (notes.length - min notes.length (max capacity 1))
  count : after.history.entries.length = min notes.length (max capacity 1)
  evicted : after.counters.count .evictions = notes.length - min notes.length (max capacity 1)

/-- Whatever limit a history is given, it keeps exactly the latest entries, and reports every other one once as
an eviction; a limit of zero counts as one. -/
theorem history_retains_latest (capacity : Nat) (ids : Nat → String) (notes : List Note) :
    Retains capacity ids notes ((new capacity ids).entriesOf notes) ((new capacity ids).appendAll notes) := by
  have told := (new capacity ids).map_note_entriesOf notes
  have length : ((new capacity ids).entriesOf notes).length = notes.length := by
    rw [← List.length_map HistoryEntry.note, told]
  have keeps : ((new capacity ids).appendAll notes).Keeps ((new capacity ids).entriesOf notes) :=
    (Keeps.new capacity ids).appendAll notes
  obtain ⟨limit, source⟩ : ((new capacity ids).appendAll notes).history.capacity = max capacity 1 ∧
      ((new capacity ids).appendAll notes).history.ids = ids := (new capacity ids).fixed_appendAll notes
  have dropped : notes.length - min notes.length (max capacity 1) = notes.length - max capacity 1 := by
    omega
  constructor
  case told => exact told
  case serials => rw [keeps.serials, length]
  case ids => rw [keeps.ids, length, source]
  case latest => rw [keeps.latest, length, limit, dropped]
  case count => rw [keeps.length_entries, length, limit]
  case evicted => rw [keeps.evicted, length, limit, dropped]

end Service

end Verdict
