import SeriesQuery.Filter
import SeriesQuery.Series

/-!
# Scanning

* `ScanQuery` : a request for the series of one event over one window, `ScanQuery.text`;
* `Scanner m α` : answers a list of requests with series or with a message. A scanner may answer
  with wider windows than asked for; the times of each series ascend strictly.
-/

namespace SeriesQuery

structure ScanQuery where
  window : Window
  event : String
  /-- Only series whose fields satisfy this are wanted. -/
  filter : Filter
deriving DecidableEq

/-- The event with its filter, if there is one. -/
def ScanQuery.target (q : ScanQuery) : String :=
  if q.filter.isEmpty then q.event else q.event ++ q.filter.text

def ScanQuery.text (q : ScanQuery) : String :=
  s!"{q.target} [{q.window.start}, {q.window.stop}) step {q.window.step}"

abbrev Scanner (m : Type → Type) (α : Type) : Type :=
  List ScanQuery → m (Except String (Results α))

end SeriesQuery
