/-! What a run reports. -/
namespace DelegateClasses

/-- How important a report is. -/
inductive Level where
  | debug
  | info
  | warning
  | error
deriving DecidableEq, Repr

/-- The rank of a level, rising with its importance. -/
def Level.rank : Level → Nat
  | debug => 0
  | info => 1
  | warning => 2
  | error => 3

/-- What a report is about. -/
inductive Topic where
  | start
  | run
  | model
  | progress
  | superclass
  | processing
  | delegate
  | outcome
deriving DecidableEq, Repr

/-- One report. -/
structure LogEntry where
  level : Level
  topic : Topic
  message : String
deriving DecidableEq, Repr

/-- The reports of a run. -/
structure Log where
  /-- The reports, the latest first. -/
  latestFirst : List LogEntry

namespace Log

/-- No reports. -/
def empty : Log := ⟨[]⟩

/-- The reports, in the order in which they were made. -/
def entries (log : Log) : List LogEntry :=
  log.latestFirst.reverse

/-- Adds a report. -/
def add (log : Log) (entry : LogEntry) : Log :=
  ⟨entry :: log.latestFirst⟩

@[simp] theorem entries_empty : empty.entries = [] := rfl

@[simp] theorem entries_add (log : Log) (entry : LogEntry) :
    (log.add entry).entries = log.entries ++ [entry] :=
  List.reverse_cons

end Log

/-- The reports that are at least as important as a level. -/
def LogEntry.atLeast (level : Level) (log : List LogEntry) : List LogEntry :=
  log.filter fun entry => level.rank ≤ entry.level.rank

end DelegateClasses
