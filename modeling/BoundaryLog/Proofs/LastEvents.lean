import BoundaryLog.Proofs.Deliveries
import BoundaryLog.Proofs.Pulls

/-! # The last event alone

A query of one criterion may ask for the last event alone.  Its program runs backwards and stops at
the first event, whatever the direction and the limit of the read are, while the bound keeps the sense
that it has in that direction.  So the read finds what the read of all matching events, with the same
bound and direction and without a limit, comes to at the highest position. -/
set_option autoImplicit false
namespace BoundaryLog

/-- The criterion for all matching events. -/
def Criterion.everyMatch (c : Criterion) : Criterion := { c with onlyLast := false }

namespace Traversal
variable (traversal : Traversal)

/-- The same read without a limit. -/
def unlimited : Traversal := { traversal with limit := none }

/-- What stands at the highest position, of all that a read comes to in its order. -/
def uppermost? {α : Type} (found : List α) : Option α :=
  if traversal.backwards then found.head? else found.getLast?

theorem uppermost?_eq_none_iff {α : Type} (found : List α) :
    traversal.uppermost? found = none ↔ found = [] := by
  unfold uppermost?
  cases traversal.backwards with
  | false => exact List.getLast?_eq_none_iff
  | true => exact List.head?_eq_none_iff

theorem map_uppermost? {α β : Type} (f : α → β) (found : List α) :
    (traversal.uppermost? found).toList.map f =
      (traversal.uppermost? (found.map f)).toList := by
  unfold uppermost?
  cases traversal.backwards with
  | false => exact Option.toList_map.symm.trans (congrArg _ List.getLast?_map.symm)
  | true => exact Option.toList_map.symm.trans (congrArg _ List.head?_map.symm)

theorem uppermost?_spec (found : List (Record × Nat))
    (ordered : found.Pairwise fun a b => Precedes traversal.backwards a.2 b.2)
    (entry : Record × Nat) (h : traversal.uppermost? found = some entry) :
    entry ∈ found ∧ ∀ other ∈ found, other.2 ≤ entry.2 := by
  unfold uppermost? at h
  cases hBackwards : traversal.backwards with
  | false =>
      rw [hBackwards] at h ordered
      exact ⟨List.mem_of_getLast? h, le_of_getLast?_of_pairwise ordered h⟩
  | true =>
      rw [hBackwards] at h ordered
      have highest := le_of_getLast?_of_pairwise (List.pairwise_reverse.2 ordered)
        (List.getLast?_reverse.trans h)
      refine ⟨List.mem_of_head? h, ?_⟩
      intro other hOther
      exact highest other (List.mem_reverse.2 hOther)

end Traversal

namespace Feed

/-- From a feed of one row that decodes comes its event and nothing else. -/
theorem delivers_single_iff (typePrefix : String) (row : Json) (e : RecordedEvent)
    (h : Row.decode typePrefix row = .ok e) :
    collect ⟨[.ok row], typePrefix⟩ = .ok [e] ∧
      ∀ other, Delivers other ⟨[.ok row], typePrefix⟩ ↔ other = e := by
  have decoded : item typePrefix (.ok row) = .ok e := congrArg (Except.mapError _) h
  constructor
  · exact collect_of_items ⟨[.ok row], typePrefix⟩ (congrArg List.singleton decoded)
  · intro other
    rw [delivers_iff]
    constructor
    · rintro ⟨_, hMem, hItem⟩
      rw [List.mem_singleton.1 hMem, decoded] at hItem
      exact (Except.ok.inj hItem).symm
    · rintro rfl
      exact ⟨_, List.mem_singleton_self _, decoded⟩

/-- What a read comes to at the highest position is the event of its row there. -/
theorem collect_uppermost? (traversal : Traversal) (plain : Feed) (events : List RecordedEvent)
    (h : plain.collect = .ok events) :
    collect { plain with rows := (traversal.uppermost? plain.rows).toList } =
      .ok (traversal.uppermost? events).toList := by
  apply collect_of_items
  change (traversal.uppermost? plain.rows).toList.map (item plain.typePrefix) = _
  rw [traversal.map_uppermost?, traversal.map_uppermost?]
  exact congrArg (fun found => (traversal.uppermost? found).toList)
    ((plain.collect_eq_ok_iff events).1 h)

end Feed

namespace Query
variable (typePrefix : String) (c : Criterion) (traversal : Traversal)

theorem selects_single_iff (r : Record) :
    (criteria [c]).Selects typePrefix r ↔ c.Matches typePrefix r := by
  simp [Selects]

/-- The flag for the last event does not matter to what is selected. -/
theorem selected_lastOnly (records : List Record) :
    (criteria [c.lastOnly]).selected typePrefix records =
      (criteria [c.everyMatch]).selected typePrefix records := by
  apply List.filter_congr
  rintro ⟨r, place⟩ -
  rw [decide_eq_decide, selects_single_iff, selects_single_iff]
  exact Iff.rfl

theorem traverse_lastOnly (records : List Record) :
    (criteria [c.lastOnly]).traverse typePrefix traversal records =
      (traversal.uppermost?
        ((criteria [c.everyMatch]).traverse typePrefix traversal.unlimited records)).toList := by
  obtain ⟨bound, backwards, limit⟩ := traversal
  let covered := ((criteria [c.everyMatch]).selected typePrefix records).filter fun entry =>
    (⟨bound, backwards, none⟩ : Traversal).Covers entry.2
  -- both reads go over the same entries, the plain one in its own direction
  have plain : (criteria [c.everyMatch]).traverse typePrefix ⟨bound, backwards, none⟩ records =
      if backwards then covered.reverse else covered :=
    traverse_unlimited typePrefix rfl records backwards bound
  have last : (criteria [c.lastOnly]).traverse typePrefix ⟨bound, backwards, limit⟩ records =
      covered.getLast?.toList := by
    have flag : (criteria [c.lastOnly]).onlyLast = true := rfl
    simp only [traverse_eq, flag, Bool.or_true, if_true, selected_lastOnly, List.take_one,
      List.head?_reverse]
    rfl
  rw [last, Traversal.unlimited, plain, Traversal.uppermost?]
  cases backwards with
  | false => rfl
  | true => exact congrArg Option.toList List.head?_reverse.symm

/-- Where the bound has the same sense backwards, the program is that of a read of one event. -/
theorem scanProgram_lastOnly (h : traversal.backwards = true ∨ traversal.bound = none) :
    (criteria [c.lastOnly]).scanProgram typePrefix traversal =
      (criteria [c.everyMatch]).scanProgram typePrefix ⟨traversal.bound, true, some .one⟩ := by
  obtain ⟨bound, backwards, limit⟩ := traversal
  rcases h with rfl | rfl
  · rfl
  · cases backwards <;> rfl

theorem rows_lastOnly (records : List Record) :
    (criteria [c.lastOnly]).rows typePrefix traversal records =
      (traversal.uppermost?
        ((criteria [c.everyMatch]).rows typePrefix traversal.unlimited records)).toList := by
  rw [rows, traverse_lastOnly, Traversal.map_uppermost?, rows]

end Query

namespace Gateway
variable (g : Gateway) (c : Criterion) (traversal : Traversal)

/-- On whatever log, a read of the last event alone that can be written, with any limit, is answered
with a feed of one row at most: the row at the highest position in the feed of all matching events,
read with the same bound and direction and without a limit, which is the first row backwards and the
last one forwards.  So one feed is empty if and only if the other one is.  Where the row decodes, the
former delivers its event and nothing else, and this event is also delivered by the latter, which delivers
none at a higher position; where all rows of the latter decode, the event is the first one or the last
one of theirs.  Backwards or without a bound, the program is that of the read of all matching events
backwards from the same bound with the limit of one. -/
theorem last_event_agrees_with_plain_read (text : String)
    (hText : (Query.criteria [c.lastOnly]).scanText g.config.typePrefix traversal = .ok text)
    (d : Deployment MemoryLog) (hHeld : d.backend.heldRows = none) :
    ∃ last plain : Feed,
      (g.read (.criteria [c.lastOnly]) traversal d).1 = .ok last ∧
      (g.read (.criteria [c.everyMatch]) traversal.unlimited d).1 = .ok plain ∧
      last = { plain with
        rows := (if traversal.backwards then plain.rows.head? else plain.rows.getLast?).toList } ∧
      (last.rows = [] ↔ plain.rows = []) ∧
      (∀ row e, (if traversal.backwards then plain.rows.head? else plain.rows.getLast?) =
          some (.ok row) → Row.decode g.config.typePrefix row = .ok e →
        last.collect = .ok [e] ∧ ∀ other, last.Delivers other ↔ other = e) ∧
      (∀ events, plain.collect = .ok events → last.collect =
        .ok (if traversal.backwards then events.head? else events.getLast?).toList) ∧
      (∀ e, last.Delivers e → plain.Delivers e ∧
        ∀ other, plain.Delivers other → other.position.value ≤ e.position.value) ∧
      (traversal.backwards = true ∨ traversal.bound = none →
        (Query.criteria [c.everyMatch]).scanText g.config.typePrefix
          ⟨traversal.bound, true, some .one⟩ = .ok text) := by
  obtain ⟨hFault, written⟩ := (Query.scanText_eq_ok_iff _ _ _ text).1 hText
  rw [Criterion.lastOnly, Query.fault?_single] at hFault
  have plainFault : (Query.criteria [c.everyMatch]).fault? g.config.typePrefix = none := by
    rw [Criterion.everyMatch, Query.fault?_single, hFault]
  have plainText : (Query.criteria [c.everyMatch]).scanText g.config.typePrefix traversal.unlimited =
      .ok _ := (Query.scanText_eq_ok_iff _ _ _ _).2 ⟨plainFault, rfl⟩
  obtain ⟨lastRead, -⟩ := g.read_spec _ traversal d text hText hHeld
  obtain ⟨plainRead, -⟩ := g.read_spec _ traversal.unlimited d _ plainText hHeld
  have rows := Query.rows_lastOnly g.config.typePrefix c traversal d.backend.records
  rw [rows, Traversal.map_uppermost?] at lastRead
  refine ⟨_, _, lastRead, plainRead, rfl, ?_, ?_, ?_, ?_, ?_⟩
  · exact Option.toList_eq_nil_iff.trans (traversal.uppermost?_eq_none_iff _)
  · intro row e hRow hDecode
    have single := Feed.delivers_single_iff g.config.typePrefix row e hDecode
    rw [← Option.toList_some, ← hRow] at single
    exact single
  · exact Feed.collect_uppermost? traversal _
  · intro e hDelivers
    obtain ⟨entry, hEntry, hShows⟩ := (g.delivers_iff _ traversal d hHeld _ lastRead e).1 hDelivers
    rw [Query.traverse_lastOnly, Option.mem_toList] at hEntry
    have ordered := Query.pairwise_traverse g.config.typePrefix (q := .criteria [c.everyMatch]) rfl
      d.backend.records traversal.backwards traversal.bound
    obtain ⟨hMem, highest⟩ := traversal.uppermost?_spec _ ordered entry hEntry
    refine ⟨(g.delivers_iff _ traversal.unlimited d hHeld _ plainRead e).2 ⟨entry, hMem, hShows⟩, ?_⟩
    intro other hOther
    obtain ⟨entry', hMem', hShows'⟩ :=
      (g.delivers_iff _ traversal.unlimited d hHeld _ plainRead other).1 hOther
    rw [Row.place_of_shows _ _ _ hShows, Row.place_of_shows _ _ _ hShows']
    exact highest entry' hMem'
  · intro sameSense
    rw [← written, Query.scanProgram_lastOnly g.config.typePrefix c traversal sameSense]
    exact (Query.scanText_eq_ok_iff _ _ _ _).2 ⟨plainFault, rfl⟩

/-! Two events match and a third one does not; the read forwards, with the limit of no event at all,
still finds the second one. -/

namespace Sales

def closing : Instant := ⟨72000, 0, by decide, by decide, two_nanosPerSecond_pos⟩

def desk : Gateway := ⟨.default, 0⟩

def sold : Criterion := Criterion.new.restrictTypes ["sold"]

def lastSale : Record := desk.recordAt (Event.new "sold" (.bool true)) closing

def day : Deployment MemoryLog where
  backend := ⟨[desk.recordAt (Event.new "sold" .null) closing, lastSale,
    desk.recordAt (Event.new "voided" .null) closing], [], none⟩
  timepieces := fun _ => .fixed closing
  journal := []

theorem last_sale_is_found :
    ∃ feed e, (desk.read (.criteria [sold.lastOnly]) ⟨some .first, false, some .zero⟩ day).1 =
        .ok feed ∧ feed.rows = [.ok (lastSale.envelope 2)] ∧ feed.collect = .ok [e] ∧
      (∀ other, feed.Delivers other ↔ other = e) ∧
      e.position.value = 2 ∧ e.event = Event.new "sold" (.bool true) := by
  have hText : (Query.criteria [sold.lastOnly]).scanText desk.config.typePrefix
      ⟨some .first, false, some .zero⟩ = .ok _ := (Query.scanText_eq_ok_iff _ _ _ _).2 ⟨rfl, rfl⟩
  have plainText : (Query.criteria [sold.everyMatch]).scanText desk.config.typePrefix
      ⟨some .first, false, none⟩ = .ok _ := (Query.scanText_eq_ok_iff _ _ _ _).2 ⟨rfl, rfl⟩
  obtain ⟨last, plain, hLast, hPlain, fromPlain, -, single, -⟩ :=
    last_event_agrees_with_plain_read desk sold ⟨some .first, false, some .zero⟩ _ hText day rfl
  have known := (desk.read_spec _ ⟨some .first, false, none⟩ day _ plainText rfl).1
  obtain rfl := Except.ok.inj (hPlain.symm.trans known)
  have decoded := Row.decode_envelope desk.config.typePrefix lastSale ⟨2, by decide, by decide⟩
    closing (Row.readStamp_write closing)
  obtain ⟨collected, delivered⟩ := single _ _ rfl decoded
  refine ⟨last, _, hLast, ?_, collected, delivered, rfl, ?_⟩
  · rw [fromPlain]
    rfl
  · decide +kernel

end Sales
end Gateway
end BoundaryLog
