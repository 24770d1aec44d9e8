import Mathlib.Data.List.Induction
import PolyMatrix.Trace

/-!
# The history of a trace

Whatever is done with a trace, and in whichever order, nothing is lost, repeated or put out of
order.  A reader has received what was recorded up to the entries that are held back, except
for those that were held when the trace was cleared.  Without a reader a trace holds the last
entries since it was emptied, as many as fit, and draining logs just these.

The history carries along what a trace itself does not remember: everything that was recorded,
and which of it a clearing has dropped.
-/

namespace PolyMatrix
namespace Trace

/-- What can be done with a trace. -/
inductive Action (K : Type) where
  /-- Adding the entry of an operation. -/
  | record (operation : String) (matrix : CellMatrix K)
  /-- Handing out every entry. -/
  | drain
  /-- Forgetting every entry. -/
  | clear

/-- An entry that was recorded once. -/
structure Recording where
  text : String
  /-- Whether it was held when the trace was cleared. -/
  forgotten : Bool := false

/-- The texts of recordings that were not forgotten. -/
def keptTexts (recordings : List Recording) : List String :=
  (recordings.filter fun recording => !recording.forgotten).map Recording.text

/-- The last recordings, as many as are told, become forgotten. -/
def forgetLast (count : Nat) (recordings : List Recording) : List Recording :=
  let older := recordings.length - count
  recordings.take older ++
    (recordings.drop older).map fun recording => { recording with forgotten := true }

/-- The last entries of a list, as many as are told, or all of them. -/
def lastEntries (count : Nat) (entries : List String) : List String :=
  entries.drop (entries.length - min count entries.length)

/-- A trace with what has happened to it. -/
structure History where
  /-- The trace as it is now. -/
  trace : Trace
  /-- Everything that was recorded, oldest first. -/
  recordings : List Recording := []
  /-- The entries recorded since the trace was last drained or cleared. -/
  recent : List String := []
  /-- What the reader has received. -/
  received : List String := []
  /-- What was logged. -/
  notices : List Notice := []

variable {K : Type} [Coefficient K]

namespace History

/-- The history after an operation was recorded. -/
def record (history : History) (operation : String) (matrix : CellMatrix K) : History :=
  let handover := history.trace.record operation matrix
  { history with
    trace := handover.trace
    recordings := history.recordings ++ [{ text := entryText operation matrix }]
    recent := history.recent ++ [entryText operation matrix]
    received := history.received ++ handover.delivered }

/-- The history after every entry was handed out. -/
def drain (history : History) : History :=
  let handover := history.trace.drain
  { history with
    trace := handover.value.trace
    recent := []
    received := history.received ++ handover.value.delivered
    notices := history.notices ++ handover.notices }

/-- The history after every entry was dropped; what a trace holds was recorded last. -/
def clear (history : History) : History :=
  { history with
    trace := history.trace.clear
    recordings := forgetLast history.trace.size history.recordings
    recent := [] }

/-- The history after one more action. -/
def perform (history : History) : Action K → History
  | .record operation matrix => history.record operation matrix
  | .drain => history.drain
  | .clear => history.clear

end History

/-- The history of a trace through a list of actions. -/
def historyOf (trace : Trace) (actions : List (Action K)) : History :=
  actions.foldl History.perform { trace }

theorem historyOf_concat (trace : Trace) (actions : List (Action K)) (action : Action K) :
    historyOf trace (actions ++ [action]) = (historyOf trace actions).perform action := by
  rw [historyOf, List.foldl_append]
  rfl

/-! ## With a reader -/

/-- Recordings that were not forgotten, with the given texts. -/
def freshly (entries : List String) : List Recording :=
  entries.map fun entry => { text := entry }

theorem keptTexts_append (older newer : List Recording) :
    keptTexts (older ++ newer) = keptTexts older ++ keptTexts newer := by
  rw [keptTexts, List.filter_append, List.map_append]
  rfl

@[simp] theorem keptTexts_freshly (entries : List String) :
    keptTexts (freshly entries) = entries := by
  have kept : (freshly entries).filter (!·.forgotten) = freshly entries :=
    List.filter_eq_self.mpr <| by simp [freshly]
  rw [keptTexts, kept, freshly, List.map_map]
  exact List.map_id' entries

theorem keptTexts_forgetLast (older : List Recording) (entries : List String) :
    keptTexts (forgetLast entries.length (older ++ freshly entries)) = keptTexts older := by
  have split : (older ++ freshly entries).length - entries.length = older.length := by
    rw [List.length_append, freshly, List.length_map, Nat.add_sub_cancel]
  have dropped : keptTexts ((freshly entries).map fun recording =>
      { recording with forgotten := true }) = [] := by
    simp [keptTexts, freshly]
  rw [forgetLast, split, List.take_left, List.drop_left, keptTexts_append, dropped,
    List.append_nil]

namespace History

/-- What is held was recorded last, and the reader has received what was kept of the
recordings before. -/
structure Served (history : History) : Prop where
  hasReader : history.trace.hasReader = true
  split : ∃ older, history.recordings = older ++ freshly history.trace.entries ∧
    history.received = keptTexts older
  size_le : history.trace.size ≤ heldBack
  silent : history.notices = []

theorem served_withReader : Served { trace := withReader } where
  hasReader := rfl
  split := ⟨[], rfl, rfl⟩
  size_le := Nat.zero_le heldBack
  silent := rfl

variable {history : History}

theorem Served.record
    (served : history.Served)
    (operation : String)
    (matrix : CellMatrix K) : (history.record operation matrix).Served := by
  obtain ⟨older, recordings, received⟩ := served.split
  let entry := entryText operation matrix
  let handover := history.trace.record operation matrix
  -- What goes out and what stays make up what was held and the new entry.
  have whole : handover.delivered ++ handover.trace.entries =
      history.trace.entries ++ [entry] :=
    delivered_recordEntry history.trace entry served.hasReader
  refine ⟨served.hasReader, ⟨older ++ freshly handover.delivered, ?_, ?_⟩, ?_,
    served.silent⟩
  · change history.recordings ++ freshly [entry] = _ ++ freshly handover.trace.entries
    rw [recordings, List.append_assoc, List.append_assoc]
    unfold freshly
    rw [← List.map_append, ← List.map_append, ← whole]
  · change history.received ++ handover.delivered = _
    rw [received, keptTexts_append, keptTexts_freshly]
  · have bounded := size_recordEntry history.trace entry
    rwa [limit, if_pos served.hasReader] at bounded

theorem Served.drain (served : history.Served) : history.drain.Served := by
  obtain ⟨older, recordings, received⟩ := served.split
  have outcome : history.trace.drain =
      pure { trace := history.trace.clear, delivered := history.trace.entries } :=
    if_pos served.hasReader
  unfold History.drain
  rw [outcome]
  refine ⟨served.hasReader, ⟨history.recordings, (List.append_nil _).symm, ?_⟩,
    Nat.zero_le heldBack, ?_⟩
  · change history.received ++ history.trace.entries = _
    rw [received, recordings, keptTexts_append, keptTexts_freshly]
  · exact (List.append_nil _).trans served.silent

theorem Served.clear (served : history.Served) : history.clear.Served := by
  obtain ⟨older, recordings, received⟩ := served.split
  refine ⟨served.hasReader,
    ⟨forgetLast history.trace.size history.recordings, (List.append_nil _).symm, ?_⟩,
    Nat.zero_le heldBack, served.silent⟩
  change history.received = _
  rw [received, recordings]
  exact (keptTexts_forgetLast older history.trace.entries).symm

theorem Served.perform
    (served : history.Served)
    (action : Action K) : (history.perform action).Served := by
  cases action with
  | record operation matrix => exact served.record operation matrix
  | drain => exact served.drain
  | clear => exact served.clear

theorem served_historyOf (actions : List (Action K)) :
    (historyOf withReader actions).Served := by
  induction actions using List.reverseRecOn with
  | nil => exact served_withReader
  | append_singleton actions action inductionHypothesis =>
      rw [historyOf_concat]
      exact inductionHypothesis.perform action

/-! ## Without a reader -/

@[simp] theorem lastEntries_nil (bound : Nat) : lastEntries bound [] = [] :=
  List.drop_nil

/-- One more entry pushes the oldest one out of the last entries. -/
theorem lastEntries_concat (bound : Nat) (entries : List String) (entry : String) :
    lastEntries bound (entries ++ [entry]) =
      (lastEntries bound entries ++ [entry]).drop
        ((lastEntries bound entries ++ [entry]).length - bound) := by
  unfold lastEntries
  rw [← List.drop_append_of_le_length (Nat.sub_le _ _), List.drop_drop]
  congr 1
  simp only [List.length_append, List.length_drop, List.length_singleton]
  omega

/-- What is held are the last entries since the trace was emptied. -/
structure Bounded (bound : Nat) (history : History) : Prop where
  noReader : history.trace.hasReader = false
  capacity : history.trace.capacity = bound
  entries : history.trace.entries = lastEntries bound history.recent
  unread : history.received = []

theorem bounded_withCapacity (capacity : Nat) :
    Bounded (max capacity 1) { trace := withCapacity capacity } :=
  ⟨rfl, rfl, (lastEntries_nil _).symm, rfl⟩

variable {bound : Nat}

theorem Bounded.record
    (bounded : history.Bounded bound)
    (operation : String)
    (matrix : CellMatrix K) : (history.record operation matrix).Bounded bound := by
  have unlimited : history.trace.limit = bound := by
    rw [limit, bounded.noReader]
    exact bounded.capacity
  refine ⟨bounded.noReader, bounded.capacity, ?_, ?_⟩
  · change (history.trace.entries ++ [_]).drop _ = _
    rw [unlimited, bounded.entries]
    exact (lastEntries_concat bound history.recent _).symm
  · change history.received ++ (history.trace.recordEntry _).delivered = []
    rw [bounded.unread, recordEntry, bounded.noReader]
    rfl

theorem Bounded.drain_eq (bounded : history.Bounded bound) :
    history.trace.drain =
      { value := { trace := history.trace.clear, delivered := [] }
        notices := history.trace.entries.map .traceEntry } := by
  rw [Trace.drain, bounded.noReader]
  rfl

theorem Bounded.perform
    (bounded : history.Bounded bound)
    (action : Action K) : (history.perform action).Bounded bound := by
  cases action with
  | record operation matrix => exact bounded.record operation matrix
  | drain =>
      change history.drain.Bounded bound
      unfold History.drain
      rw [bounded.drain_eq]
      exact ⟨bounded.noReader, bounded.capacity, (lastEntries_nil _).symm,
        (List.append_nil _).trans bounded.unread⟩
  | clear =>
      exact ⟨bounded.noReader, bounded.capacity, (lastEntries_nil _).symm, bounded.unread⟩

theorem bounded_historyOf (capacity : Nat) (actions : List (Action K)) :
    (historyOf (withCapacity capacity) actions).Bounded (max capacity 1) := by
  induction actions using List.reverseRecOn with
  | nil => exact bounded_withCapacity capacity
  | append_singleton actions action inductionHypothesis =>
      rw [historyOf_concat]
      exact inductionHypothesis.perform action

end History

/-! ## Any run -/

/-- What holds with a reader, whatever has happened. -/
structure ServesReader (history : History) : Prop where
  /-- What the reader has received and what is held back are what was recorded, in order and
  once each, without what was held when the trace was cleared. -/
  received_append_entries :
    history.received ++ history.trace.entries = keptTexts history.recordings
  /-- What is held back was recorded last. -/
  entries_suffix : history.trace.entries <:+ history.recordings.map Recording.text
  size_le : history.trace.size ≤ 2
  silent : history.notices = []

/-- What holds without a reader, whatever has happened. -/
structure HoldsLast (capacity : Nat) (history : History) : Prop where
  entries_eq : history.trace.entries = lastEntries (max capacity 1) history.recent
  /-- Draining logs what is held, in order. -/
  logged : history.drain.notices.map (fun notice => (notice.level, notice.text)) =
    history.notices.map (fun notice => (notice.level, notice.text)) ++
      (lastEntries (max capacity 1) history.recent).map fun entry => (.info, entry)
  drained : history.drain.trace.entries = []
  unread : history.received = []

/-- After any actions, a reader has received everything that was recorded and is neither held
back nor was cleared, and a trace without a reader holds what was recorded last. -/
theorem history_faithful (capacity : Nat) (actions : List (Action K)) :
    ServesReader (historyOf withReader actions) ∧
      HoldsLast capacity (historyOf (withCapacity capacity) actions) := by
  constructor
  · have served := History.served_historyOf actions
    obtain ⟨older, recordings, received⟩ := served.split
    refine ⟨?_, ?_, served.size_le, served.silent⟩
    · rw [received, recordings, keptTexts_append, keptTexts_freshly]
    · refine ⟨older.map Recording.text, ?_⟩
      rw [recordings, List.map_append, freshly, List.map_map]
      exact congrArg _ (List.map_id' _).symm
  · have bounded := History.bounded_historyOf capacity actions
    refine ⟨bounded.entries, ?_, entries_drain _, bounded.unread⟩
    unfold History.drain
    rw [bounded.drain_eq, List.map_append, List.map_map, bounded.entries]
    rfl

/-- With a capacity of two the third entry pushes the first one out. -/
example : lastEntries 2 ["a", "b", "c"] = ["b", "c"] := by decide

end Trace
end PolyMatrix
