/-!
# Log records

What an activity reports while it runs is a list of records. A record has a level, a message and
named values; a threshold selects the records that are shown.
-/

namespace NetDiagram.Log

inductive Level where
  | error
  | warn
  | info
  | debug
  | trace
deriving DecidableEq, Repr

namespace Level

def rank : Level → Nat
  | error => 1
  | warn => 2
  | info => 3
  | debug => 4
  | trace => 5

def name : Level → String
  | error => "ERROR"
  | warn => "WARN"
  | info => "INFO"
  | debug => "DEBUG"
  | trace => "TRACE"

end Level

/-- The least urgent level that is shown; `none` shows nothing. -/
abbrev Threshold := Option Level

/-- The threshold with the given name, in any mix of ASCII case. -/
def Threshold.ofName? (name : String) : Option Threshold :=
  match name.toLower with
  | "off" => some none
  | "error" => some (some .error)
  | "warn" => some (some .warn)
  | "info" => some (some .info)
  | "debug" => some (some .debug)
  | "trace" => some (some .trace)
  | _ => none

def Threshold.shows (t : Threshold) (l : Level) : Bool :=
  t.any fun least => decide (l.rank ≤ least.rank)

structure Record where
  level : Level
  message : String
  values : List (String × String) := []
deriving DecidableEq, Repr

def shown (t : Threshold) (records : List Record) : List Record :=
  records.filter fun r => t.shows r.level

end NetDiagram.Log
