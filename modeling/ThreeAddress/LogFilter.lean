/-!
The filter for log lines. Tracing shows everything; otherwise the host's setting counts if it names
a level, and warnings are shown if it is missing or makes no sense.
-/

namespace ThreeAddress.LogFilter

def levels : List String := ["trace", "debug", "info", "warn", "error", "off"]

def fallback : String := "warn"

/-- The filter in force, written out. An empty setting is an empty filter. -/
def describe (tracing : Bool) (setting : Option String) : String :=
  if tracing then "trace"
  else
    match setting with
    | none => fallback
    | some "" => ""
    | some words => (levels.find? (· == words.toLower)).getD fallback

end ThreeAddress.LogFilter
