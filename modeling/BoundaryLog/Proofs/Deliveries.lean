import BoundaryLog.Proofs.Clients
import BoundaryLog.Proofs.Namespaces
import BoundaryLog.Proofs.Traversals

/-! # What a read delivers

A query is put to stored events and answered with decoded ones.  The filter compares the whole
stored type with the types of the query in the namespace, while the decoder takes off a number of
bytes and compares nothing.  A stored type that passes the filter starts with the namespace, so what
is delivered is admitted as it is decoded; a foreign type may decode to an admitted one, but then it
does not start with the namespace. -/
set_option autoImplicit false
namespace BoundaryLog

/-! ## Pulling events from a feed -/

/-- Whether an event comes out of a feed that is pulled often enough.  Faults before it do not matter. -/
inductive Feed.Delivers (e : RecordedEvent) : Feed → Prop where
  | now {f rest : Feed} (h : f.pull = (some (.ok e), rest)) : Delivers e f
  | later {f rest : Feed} {item : Except Failure RecordedEvent} (h : f.pull = (some item, rest))
      (hRest : Delivers e rest) : Delivers e f

theorem Feed.delivers_iff (e : RecordedEvent) (f : Feed) :
    f.Delivers e ↔ ∃ row ∈ f.rows, item f.typePrefix row = .ok e := by
  constructor
  · intro h
    induction h with
    | @now f rest hPull =>
        obtain ⟨rows, typePrefix⟩ := f
        cases rows with
        | nil => cases hPull
        | cons row rows =>
            have hItem : item typePrefix row = .ok e := Option.some.inj (congrArg Prod.fst hPull)
            exact ⟨row, List.mem_cons_self, hItem⟩
    | @later f rest _ hPull _ ih =>
        obtain ⟨rows, typePrefix⟩ := f
        cases rows with
        | nil => cases hPull
        | cons row rows =>
            obtain rfl : Feed.mk rows typePrefix = rest := congrArg Prod.snd hPull
            obtain ⟨other, hMem, hItem⟩ := ih
            exact ⟨other, List.mem_cons_of_mem row hMem, hItem⟩
  · obtain ⟨rows, typePrefix⟩ := f
    rintro ⟨row, hMem, hItem⟩
    induction rows with
    | nil => cases hMem
    | cons first rows ih =>
        rcases List.mem_cons.1 hMem with rfl | hLater
        · exact .now (congrArg (fun x => (some x, Feed.mk rows typePrefix)) hItem)
        · exact .later rfl (ih hLater hItem)

/-! ## Records and the events that they are shown as -/

/-- Whether the type of a record starts with a namespace. -/
def Record.In (typePrefix : String) (r : Record) : Prop := ∃ rest, r.type = typePrefix ++ rest

section Shown
variable {typePrefix : String} {r : Record} {place : Nat} {e : RecordedEvent}
  (hShows : Row.Shows typePrefix (r, place) e)
include hShows

theorem Row.event_of_shows : e.event = (r.row place).event typePrefix := by
  obtain ⟨p, t, -, -, rfl⟩ := (Row.shows_iff typePrefix r place e).1 hShows
  rfl

theorem Row.mem_tags_of_shows (tag : String) : tag ∈ e.event.tags.toList ↔ tag ∈ r.data.tags := by
  rw [Row.event_of_shows hShows]
  exact LabelSet.mem_ofList r.data.tags tag

/-- A type in the namespace is shown as what stands behind the namespace. -/
theorem Row.type_of_shows (rest : String) (hType : r.type = typePrefix ++ rest) :
    e.event.type = rest := by
  rw [Row.event_of_shows hShows]
  change dropNamespace typePrefix r.type = rest
  rw [hType]
  exact dropNamespace_append typePrefix typePrefix rest rfl

theorem Criterion.admits_of_matches (c : Criterion) (h : c.Matches typePrefix r) :
    c.Admits e.event := by
  constructor
  · intro types hTypes
    rcases h.1 types hTypes with hAny | ⟨type, hType, hStored⟩
    · exact Or.inl hAny
    · -- what matched is the namespace and this type, so the decoder takes off the namespace itself
      right
      rw [Row.type_of_shows hShows type hStored.symm]
      exact hType
  · intro tags hTags tag hTag
    exact (Row.mem_tags_of_shows hShows tag).2 (h.2 tags hTags tag hTag)

theorem Criterion.matches_of_admits (c : Criterion) (hIn : r.In typePrefix) (h : c.Admits e.event) :
    c.Matches typePrefix r := by
  constructor
  · intro types hTypes
    rcases h.1 types hTypes with hAny | hType
    · exact Or.inl hAny
    · obtain ⟨rest, hStored⟩ := hIn
      rw [Row.type_of_shows hShows rest hStored] at hType
      exact Or.inr ⟨rest, hType, hStored.symm⟩
  · intro tags hTags tag hTag
    exact (Row.mem_tags_of_shows hShows tag).1 (h.2 tags hTags tag hTag)

theorem Query.admits_of_selects (q : Query) (h : q.Selects typePrefix r) : q.Admits e.event := by
  cases q with
  | all => trivial
  | criteria cs =>
      rcases h with hAll | ⟨c, hc, hMatches⟩
      · exact Or.inl hAll
      · exact Or.inr ⟨c, hc, c.admits_of_matches hShows hMatches⟩

theorem Query.selects_of_admits (q : Query) (hIn : r.In typePrefix) (h : q.Admits e.event) :
    q.Selects typePrefix r := by
  cases q with
  | all => trivial
  | criteria cs =>
      rcases h with hAll | ⟨c, hc, hAdmits⟩
      · exact Or.inl hAll
      · exact Or.inr ⟨c, hc, c.matches_of_admits hShows hIn hAdmits⟩

end Shown

theorem Query.mem_traverse_unbounded (q : Query) (typePrefix : String) (traversal : Traversal)
    (hMany : q.onlyLast = false) (hBound : traversal.bound = none) (hLimit : traversal.limit = none)
    (records : List Record) (entry : Record × Nat) :
    entry ∈ q.traverse typePrefix traversal records ↔ entry ∈ q.selected typePrefix records := by
  obtain ⟨bound, backwards, limit⟩ := traversal
  obtain rfl : bound = none := hBound
  obtain rfl : limit = none := hLimit
  rw [traverse_unlimited typePrefix hMany, Traversal.filter_covers_of_unbounded _ rfl]
  cases backwards with
  | false => rfl
  | true => exact List.mem_reverse

/-! ## Reads -/

namespace Gateway
variable (g : Gateway) (q : Query) (traversal : Traversal) (d : Deployment MemoryLog)
  (hHeld : d.backend.heldRows = none)
include hHeld

/-- A read is answered exactly if its program can be written. -/
theorem exists_feed_iff : (∃ feed, (g.read q traversal d).1 = .ok feed) ↔
    ∃ text, q.scanText g.config.typePrefix traversal = .ok text := by
  constructor
  · rintro ⟨feed, hFeed⟩
    cases hText : q.scanText g.config.typePrefix traversal with
    | ok text => exact ⟨text, rfl⟩
    | error e =>
        rw [g.read_of_scanText_error q traversal d e hText] at hFeed
        cases hFeed
  · rintro ⟨text, hText⟩
    exact ⟨_, (g.read_spec q traversal d text hText hHeld).1⟩

theorem delivers_iff (feed : Feed) (hFeed : (g.read q traversal d).1 = .ok feed)
    (e : RecordedEvent) : feed.Delivers e ↔
      ∃ entry ∈ q.traverse g.config.typePrefix traversal d.backend.records,
        Row.Shows g.config.typePrefix entry e := by
  obtain ⟨text, hText⟩ := (g.exists_feed_iff q traversal d hHeld).1 ⟨feed, hFeed⟩
  have answer := (g.read_spec q traversal d text hText hHeld).1
  rw [hFeed] at answer
  obtain rfl := Except.ok.inj answer
  rw [Feed.delivers_iff]
  have shown : ∀ entry : Record × Nat, Feed.item g.config.typePrefix
      (.ok (entry.1.envelope entry.2)) = .ok e ↔ Row.Shows g.config.typePrefix entry e := by
    intro entry
    rw [Feed.item, Row.Shows]
    cases Row.decode g.config.typePrefix (entry.1.envelope entry.2) with
    | ok found =>
        constructor
        · intro h
          exact congrArg Except.ok (Except.ok.inj h)
        · intro h
          rw [Except.ok.inj h]
          rfl
    | error fault =>
        constructor
        · intro h
          cases h
        · intro h
          cases h
  simp only [Query.rows, List.mem_map, exists_exists_and_eq_and, shown]

/-- Filter and decoder agree on what an event is, on whatever log, with types of any namespace or
of none.  Every event that a read delivers is admitted by the query as it is decoded.  A read of all
selected events, without a bound and a limit, delivers every event that is decoded from a record in
the namespace and admitted as it is decoded.  And a read is answered exactly if its program can be
written. -/
theorem delivered_events_are_admitted :
    (∀ feed, (g.read q traversal d).1 = .ok feed →
      (∀ e, feed.Delivers e → q.Admits e.event) ∧
      (q.onlyLast = false → traversal.bound = none → traversal.limit = none →
        ∀ r place e, (r, place) ∈ d.backend.records.zipIdx 1 →
          Row.decode g.config.typePrefix (r.envelope place) = .ok e → r.In g.config.typePrefix →
          q.Admits e.event → feed.Delivers e)) ∧
    ((∃ feed, (g.read q traversal d).1 = .ok feed) ↔
      ∃ text, q.scanText g.config.typePrefix traversal = .ok text) := by
  constructor
  · intro feed hFeed
    constructor
    · intro e hDelivers
      obtain ⟨⟨r, place⟩, hMem, hShows⟩ := (g.delivers_iff q traversal d hHeld feed hFeed e).1 hDelivers
      have selected := q.mem_of_mem_traverse _ _ _ _ hMem
      exact q.admits_of_selects hShows ((q.mem_selected_iff _ _ _).1 selected).2
    · intro hMany hBound hLimit r place e hMem hShows hIn hAdmits
      apply (g.delivers_iff q traversal d hHeld feed hFeed e).2
      refine ⟨(r, place), ?_, hShows⟩
      rw [q.mem_traverse_unbounded _ _ hMany hBound hLimit, q.mem_selected_iff]
      exact ⟨hMem, q.selects_of_admits hShows hIn hAdmits⟩
  · exact g.exists_feed_iff q traversal d hHeld

end Gateway

/-! A log with a record of the namespace, one of a foreign namespace whose type is decoded to the
same text, and one whose type is shorter than the namespace. -/

namespace MixedLog

def dusk : Instant := ⟨64800, 0, by decide, by decide, two_nanosPerSecond_pos⟩

def own : Record := (Event.new "A" .null).record "here" "ns." dusk

def foreign : Record := (Event.new "A" .null).record "there" "xy." dusk

def short : Record := (Event.new "" .null).record "there" "n" dusk

def mixed : Deployment MemoryLog :=
  ⟨⟨[foreign, own, short], [], none⟩, fun _ => ⟨dusk, []⟩, []⟩

def reader : Gateway := ⟨⟨"here", "ns."⟩, 0⟩

def query : Query := .criteria [Criterion.new.restrictTypes ["A"]]

theorem own_event_is_delivered :
    ∃ feed, (reader.read query .full mixed).1 = .ok feed ∧
      (∀ e, feed.Delivers e → query.Admits e.event) ∧
      ∃ e, feed.Delivers e ∧ e.position.value = 2 ∧ e.event.type = "A" := by
  obtain ⟨delivered, answered⟩ :=
    reader.delivered_events_are_admitted query .full mixed rfl
  have written : query.scanText reader.config.typePrefix .full =
      .ok (query.scanProgram reader.config.typePrefix .full).written :=
    (query.scanText_eq_ok_iff _ _ _).2 ⟨rfl, rfl⟩
  obtain ⟨feed, hFeed⟩ := answered.2 ⟨_, written⟩
  obtain ⟨admitted, all⟩ := delivered feed hFeed
  have shown : Row.Shows "ns." (own, 2) _ := Row.decode_envelope "ns." own ⟨2, by decide, by decide⟩
    dusk.shownSecond (Row.readStamp_write dusk)
  have type := Row.type_of_shows shown "A" rfl
  have admits : query.Admits ((own.row 2).event "ns.") := by decide +kernel
  have hMem : (own, 2) ∈ mixed.backend.records.zipIdx 1 :=
    List.mem_cons_of_mem _ List.mem_cons_self
  exact ⟨feed, hFeed, admitted, _, all rfl rfl rfl own 2 _ hMem shown ⟨"A", rfl⟩ admits, rfl, type⟩

end MixedLog
end BoundaryLog
