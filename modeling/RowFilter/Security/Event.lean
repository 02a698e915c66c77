import RowFilter.Json.Record
import RowFilter.Json.Printer

/-! # Security events

A record of input that looks hostile: too deep, too large, or raw text that should not be run.
Of the offending value only a short form is kept. -/

namespace RowFilter

inductive SecurityEventKind where
  | maxDepthExceeded
  | tooManyConditions
  | dangerousSql
  | tooManyInValues
  | stringTooLong
  deriving DecidableEq, Repr

namespace SecurityEventKind

def all : List SecurityEventKind :=
  [maxDepthExceeded, tooManyConditions, dangerousSql, tooManyInValues, stringTooLong]

def tag : SecurityEventKind → String
  | maxDepthExceeded => "MAX_DEPTH_EXCEEDED"
  | tooManyConditions => "TOO_MANY_CONDITIONS"
  | dangerousSql => "DANGEROUS_SQL"
  | tooManyInValues => "TOO_MANY_IN_VALUES"
  | stringTooLong => "STRING_TOO_LONG"

def ofJson? (v : Json) : Option SecurityEventKind :=
  v.asTag?.bind fun tag => all.find? fun k => k.tag == tag

end SecurityEventKind

structure SecurityEvent where
  kind : SecurityEventKind
  conditionId : String
  details : String
  /-- The short form of the offending value. -/
  value : Option Json := none

namespace SecurityEvent

/-- The most characters of a string that a short form shows. -/
def shownLength : Nat := 200

/-- A long string cut short, an array as its size, and any other value as it is. -/
def shortened : Json → Json
  | .string s =>
    if shownLength < s.length then
      .string (String.ofList (s.toList.take shownLength) ++ "...")
    else .string s
  | .array items => .string ("[" ++ Json.intText items.length ++ " values]")
  | v => v

def showing (e : SecurityEvent) (v : Json) : SecurityEvent := { e with value := some (shortened v) }

def toJson (e : SecurityEvent) : Json :=
  Json.objectOf
    [("type", some (.string e.kind.tag)), ("conditionId", some (.string e.conditionId)),
     ("details", some (.string e.details)), ("value", e.value)]

end SecurityEvent

/-- What becomes of a log when an event is raised. -/
abbrev Logger := List SecurityEvent → SecurityEvent → List SecurityEvent

namespace Logger

/-- Keeps every event, in order. -/
def keeping : Logger := fun log e => log ++ [e]

def discarding : Logger := fun log _ => log

end Logger

/-- A computation that may raise security events. -/
abbrev Logged := StateM (List SecurityEvent)

end RowFilter
