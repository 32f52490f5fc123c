import BoundaryLog.Proofs.Appends
import BoundaryLog.Proofs.Scans
import BoundaryLog.Proofs.Selections

/-! # Clients of one log

Clients read and append through gateways.  What they leave is a log of encoded events that has only
grown, and every row that they read from it decodes. -/
set_option autoImplicit false
namespace BoundaryLog

/-! ## Reads through a gateway -/

/-- A log as gateways leave it: every record is that of an event, and no rows are held. -/
structure MemoryLog.Sound (log : MemoryLog) : Prop where
  encoded : ∀ r ∈ log.records, ∃ source typePrefix t e, r = Event.record source typePrefix t e
  unheld : log.heldRows = none

theorem MemoryLog.Sound.decode_entry {log : MemoryLog} (hSound : log.Sound) (typePrefix : String)
    (hLength : log.records.length < countBound) (entry : Record × Nat)
    (hEntry : entry ∈ log.records.zipIdx 1) :
    ∃ e, Row.decode typePrefix (entry.1.envelope entry.2) = .ok e ∧
      e.position.value = entry.2 := by
  obtain ⟨r, place⟩ := entry
  have positive : 1 ≤ place := List.le_snd_of_mem_zipIdx hEntry
  have within := List.snd_lt_add_of_mem_zipIdx hEntry
  obtain ⟨source, writtenPrefix, t, e, rfl⟩ :=
    hSound.encoded r (List.fst_mem_of_mem_zipIdx hEntry)
  have bounded : place < countBound := by omega
  have decoded := Row.decode_envelope typePrefix (e.record source writtenPrefix t)
    ⟨place, positive, bounded⟩ t.shownSecond (Row.readStamp_write t)
  exact ⟨_, decoded, rfl⟩

namespace Gateway
variable (g : Gateway) (q : Query) (traversal : Traversal) (d : Deployment MemoryLog)

def readAll : Except Failure (List RecordedEvent) := (g.read q traversal d).1.bind Feed.collect

/-- The first event that a client reads, if there is one. -/
def readFirst : Except Failure (Option RecordedEvent) := (g.read q traversal d).1.bind Feed.first

theorem read_spec (text : String) (hText : q.scanText g.config.typePrefix traversal = .ok text)
    (hHeld : d.backend.heldRows = none) :
    (g.read q traversal d).1 =
        .ok ⟨(q.rows g.config.typePrefix traversal d.backend.records).map .ok,
          g.config.typePrefix⟩ ∧
      (g.read q traversal d).2.backend =
        { d.backend with programs := d.backend.programs ++ [text] } := by
  have query := q.query_scanText g.config.typePrefix traversal text hText d.backend hHeld
  rw [g.read_eq_of_scanText_ok q traversal d text hText]
  constructor
  · change (((d.backend.query text).1.map (List.map Except.ok)).map _).mapError _ = _
    rw [query]
    rfl
  · change (d.backend.query text).2 = _
    rw [query]

theorem sound_read (hSound : d.backend.Sound) :
    (g.read q traversal d).2.backend.Sound ∧
      (g.read q traversal d).2.backend.records = d.backend.records := by
  cases hText : q.scanText g.config.typePrefix traversal with
  | error e =>
      rw [g.read_of_scanText_error q traversal d e hText]
      exact ⟨hSound, rfl⟩
  | ok text =>
      have backend := (g.read_spec q traversal d text hText hSound.unheld).2
      rw [backend]
      exact ⟨⟨hSound.encoded, hSound.unheld⟩, rfl⟩

/-- A read of a sound log collects what the query is meant to find. -/
theorem readAll_shows (hSound : d.backend.Sound) (hLength : d.backend.records.length < countBound)
    (text : String) (hText : q.scanText g.config.typePrefix traversal = .ok text) :
    ∃ found, g.readAll q traversal d = .ok found ∧
      List.Forall₂ (Row.Shows g.config.typePrefix)
        (q.traverse g.config.typePrefix traversal d.backend.records) found := by
  have answer := (g.read_spec q traversal d text hText hSound.unheld).1
  obtain ⟨found, hFound, shown⟩ := Feed.collectRows_shows g.config.typePrefix
    (q.traverse g.config.typePrefix traversal d.backend.records) (by
      intro entry hEntry
      have hSelected := q.mem_of_mem_traverse _ _ _ _ hEntry
      obtain ⟨e, hShown, -⟩ := hSound.decode_entry g.config.typePrefix hLength entry
        ((q.mem_selected_iff _ _ _).1 hSelected).1
      exact ⟨e, hShown⟩)
  refine ⟨found, ?_, shown⟩
  rw [readAll, answer]
  exact hFound

end Gateway

/-! ## Clients at work -/

theorem Gateway.mem_encoded (g : Gateway) (events : List Event) (c : Timepiece) (r : Record)
    (hr : r ∈ g.encoded events c) :
    ∃ source typePrefix t e, r = Event.record source typePrefix t e := by
  induction events generalizing c with
  | nil => cases hr
  | cons e events ih =>
      rcases List.mem_cons.1 hr with rfl | hLater
      · exact ⟨_, _, _, _, rfl⟩
      · exact ih _ hLater

theorem Gateway.sound_append (g : Gateway) (events : List Event) (boundary : Boundary)
    (d : Deployment MemoryLog) (hSound : d.backend.Sound) :
    (g.append events boundary d).2.backend.Sound ∧
      d.backend.records <+: (g.append events boundary d).2.backend.records := by
  obtain ⟨-, records, heldRows⟩ := g.append_answers events boundary d
  rw [records]
  refine ⟨⟨?_, ?_⟩, List.prefix_append _ _⟩
  · intro r hr
    rw [records] at hr
    rcases List.mem_append.1 hr with hOld | hNew
    · exact hSound.encoded r hOld
    · cases hVerdict : g.verdict events boundary d.backend.records with
      | error e => rw [hVerdict] at hNew; cases hNew
      | ok answer =>
          rw [hVerdict] at hNew
          exact g.mem_encoded events _ r hNew
  · rw [heldRows]
    exact hSound.unheld

/-- What a client does through a gateway. -/
inductive Call where
  | ping (g : Gateway)
  | read (g : Gateway) (query : Query) (traversal : Traversal)
  | append (g : Gateway) (events : List Event) (boundary : Boundary)

namespace Call

def run : Call → Deployment MemoryLog → Deployment MemoryLog
  | .ping g, d => (g.ping d).2
  | .read g query traversal, d => (g.read query traversal d).2
  | .append g events boundary, d => (g.append events boundary d).2

/-- The calls of all clients, one after the other. -/
def runAll : List Call → Deployment MemoryLog → Deployment MemoryLog
  | [], d => d
  | call :: calls, d => runAll calls (call.run d)

theorem sound_run (call : Call) (d : Deployment MemoryLog) (hSound : d.backend.Sound) :
    (call.run d).backend.Sound ∧ d.backend.records <+: (call.run d).backend.records := by
  cases call with
  | ping g => exact ⟨hSound, List.prefix_refl _⟩
  | read g query traversal =>
      obtain ⟨sound, records⟩ := g.sound_read query traversal d hSound
      have same : ((Call.read g query traversal).run d).backend.records = d.backend.records :=
        records
      exact ⟨sound, same ▸ List.prefix_refl _⟩
  | append g events boundary => exact g.sound_append events boundary d hSound

/-- Whatever clients do, a log only grows. -/
theorem sound_runAll (calls : List Call) (d : Deployment MemoryLog) (hSound : d.backend.Sound) :
    (runAll calls d).backend.Sound ∧ d.backend.records <+: (runAll calls d).backend.records := by
  induction calls generalizing d with
  | nil => exact ⟨hSound, List.prefix_refl _⟩
  | cons call calls ih =>
      obtain ⟨next, grown⟩ := call.sound_run d hSound
      obtain ⟨last, more⟩ := ih (call.run d) next
      exact ⟨last, List.IsPrefix.trans grown more⟩

theorem sound_empty : MemoryLog.empty.Sound := ⟨nofun, rfl⟩

end Call

end BoundaryLog
