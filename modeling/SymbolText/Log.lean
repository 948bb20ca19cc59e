import SymbolText.Error

/-!
# Events

What a run reports beside its outcome: the warnings and errors worth a reader's attention, in
the order in which they arise. An operation that reports has a value of `Logged`.

* `Event`: the events, with `Event.isError` for their level.
* `Logged`: an outcome with the events that led to it.

Result: `events_bind_ok` (a sequence of two operations reports the events of both).
-/

namespace SymbolText

/-- Something worth reporting. -/
inductive Event
  /-- A file that is not a catalog in the catalog tree (`catalog_file_ignored`). -/
  | fileIgnored (path : Path) (extension : String)
  /-- A key that an earlier entry of the locale has (`duplicate_catalog_key`); the later text
  replaces the earlier. -/
  | duplicateKey (key : String) (path : Path) (locale : String)
  /-- A catalog file that cannot be read (`catalog_read_error`). -/
  | unreadable (path : Path) (failure : ReadFailure)
  /-- A catalog root without catalogs (`no_catalog_files`). -/
  | noCatalogs (root : Path)
  /-- A default locale that is not among the locales (`invalid_default_locale`). -/
  | unknownDefault (locale : String) (locales : List String)
  /-- A requested type without symbols (`no_values_defined`). -/
  | noValues (typeName : String)
  /-- A symbol file that is not a document of its format (`yaml_parse_error`). -/
  | symbolsMalformed (path : Path)
  /-- A line of a report that found something (`check_report`). -/
  | reportLine (line : Text)
  /-- A number of workers that is not positive (`invalid_parse_workers`). -/
  | workerCount (count : Int)
  deriving DecidableEq

/-- Whether an event is an error; the others are warnings. -/
def Event.isError : Event → Bool
  | fileIgnored .. | duplicateKey .. | reportLine _ => false
  | _ => true

/-- The outcome of an operation, with the events that it reported. -/
structure Logged (α : Type) where
  events : List Event
  outcome : Except Error α

namespace Logged

/-- An outcome without events. -/
def of {α : Type} (outcome : Except Error α) : Logged α := ⟨[], outcome⟩

/-- Reports events. -/
def report (events : List Event) : Logged Unit := ⟨events, .ok ()⟩

/-- A failure, reported by events. -/
def fail {α : Type} (events : List Event) (e : Error) : Logged α := ⟨events, .error e⟩

/-- One operation after another; the second is left out if the first fails. -/
def bind {α β : Type} (x : Logged α) (f : α → Logged β) : Logged β :=
  match x.outcome with
  | .error e => ⟨x.events, .error e⟩
  | .ok a => ⟨x.events ++ (f a).events, (f a).outcome⟩

instance : Monad Logged where
  pure a := of (.ok a)
  bind := bind

theorem events_bind_ok {α β : Type} {x : Logged α} {a : α} (f : α → Logged β)
    (h : x.outcome = .ok a) : (x >>= f).events = x.events ++ (f a).events := by
  simp only [Bind.bind, Logged.bind, h]

end Logged

end SymbolText
