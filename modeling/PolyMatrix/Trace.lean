import PolyMatrix.CellMatrix.Text
import PolyMatrix.Noted

/-!
# Operation traces

A trace keeps the texts of recent matrix operations.  Without a reader it holds
the last entries up to its capacity, and handing them out makes a notice of each.
With a reader it holds back the two most recent entries only and hands every older
one to the reader at once.  Each operation gives the new trace and the entries
handed to the reader, oldest first.
-/

namespace PolyMatrix

/-- A bounded record of operations. -/
structure Trace where
  /-- The entries that are held, oldest first. -/
  entries : List String := []
  /-- How many entries are held at most where there is no reader. -/
  capacity : Nat
  /-- Whether entries are handed to a reader. -/
  hasReader : Bool := false
  deriving DecidableEq, Repr

namespace Trace

/-- A trace after an operation, and what the operation handed to the reader. -/
structure Handover where
  /-- The new trace. -/
  trace : Trace
  /-- The entries that went to the reader, oldest first. -/
  delivered : List String
  deriving DecidableEq, Repr

/-- How many entries a trace holds unless it is told. -/
def standardCapacity : Nat :=
  100

/-- How many entries are held back from a reader. -/
def heldBack : Nat :=
  2

/-- An empty trace that holds at least one entry. -/
def withCapacity (capacity : Nat) : Trace :=
  { capacity := max capacity 1 }

/-- An empty trace without a reader. -/
def standard : Trace :=
  withCapacity standardCapacity

/-- An empty trace with a reader. -/
def withReader : Trace :=
  { standard with hasReader := true }

/-- How many entries are held. -/
def size (trace : Trace) : Nat :=
  trace.entries.length

/-- How many entries a trace may hold. -/
def limit (trace : Trace) : Nat :=
  if trace.hasReader then heldBack else trace.capacity

/-- The entry that tells of an operation and its result. -/
def entryText {K : Type} [Coefficient K] (operation : String) (matrix : CellMatrix K) :
    String :=
  "\n Op: " ++ operation ++ " ->\n" ++ matrix.text

/-- Adds an entry; the oldest entries above the limit go to the reader, or are
forgotten where there is none. -/
def recordEntry (trace : Trace) (entry : String) : Handover :=
  let entries := trace.entries ++ [entry]
  let surplus := entries.length - trace.limit
  { trace := { trace with entries := entries.drop surplus }
    delivered := if trace.hasReader then entries.take surplus else [] }

/-- Adds the entry of an operation. -/
def record
    {K : Type} [Coefficient K]
    (trace : Trace)
    (operation : String)
    (matrix : CellMatrix K) : Handover :=
  trace.recordEntry (entryText operation matrix)

/-- Forgets every entry. -/
def clear (trace : Trace) : Trace :=
  { trace with entries := [] }

/-- Hands every entry to the reader, or makes a notice of it where there is none. -/
def drain (trace : Trace) : Noted Handover :=
  if trace.hasReader then pure { trace := trace.clear, delivered := trace.entries }
  else
    { value := { trace := trace.clear, delivered := [] }
      notices := trace.entries.map .traceEntry }

/-- A summary of a trace. -/
def summary (trace : Trace) : String :=
  "OpTrace \x7b entries: " ++ toString trace.size ++ ", capacity: " ++
    toString trace.capacity ++ ", consumer: " ++ toString trace.hasReader ++ " \x7d"

/-- A trace never holds more than its limit after an entry was added. -/
theorem size_recordEntry (trace : Trace) (entry : String) :
    (trace.recordEntry entry).trace.size ≤ trace.limit := by
  simp only [recordEntry, size, List.length_drop]
  omega

/-- A reader gets the entries in order: what it is handed and what is held back are
what was held and the new entry. -/
theorem delivered_recordEntry
    (trace : Trace)
    (entry : String)
    (reader : trace.hasReader = true) :
    (trace.recordEntry entry).delivered ++ (trace.recordEntry entry).trace.entries =
      trace.entries ++ [entry] := by
  simp [recordEntry, reader]

/-- Draining leaves no entry. -/
@[simp] theorem entries_drain (trace : Trace) :
    trace.drain.value.trace.entries = [] := by
  unfold drain
  split <;> rfl

end Trace
end PolyMatrix
