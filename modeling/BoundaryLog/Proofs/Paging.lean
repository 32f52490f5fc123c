import BoundaryLog.Proofs.Clients
import BoundaryLog.Proofs.Traversals

/-! # Reading page by page

A client reads in pages of a limited size and asks for each page from next to the last event of the
page before.  Nothing is lost and nothing comes twice, although others append between the pages: what
the client has received, and what a read from its bound would still find, make up the whole read. -/
set_option autoImplicit false
namespace BoundaryLog

/-! ## Clients that go on from a bound -/

/-- The bound of the page after a page: next to its last event, or as it was if there is none. -/
def nextBound (backwards : Bool) (bound : Option Position) (page : List RecordedEvent) :
    Option Position :=
  match page.getLast? with
  | none => bound
  | some last => last.position.beyond backwards

namespace Query

/-- Whether what a client has received, and what a read from its bound would find, make up the whole
read. -/
def Resumes (typePrefix : String) (q : Query) (backwards : Bool) (bound : Option Position)
    (records : List Record) (received : List RecordedEvent) : Prop :=
  ∃ entries, List.Forall₂ (Row.Shows typePrefix) entries received ∧
    q.traverse typePrefix ⟨none, backwards, none⟩ records =
      entries ++ q.traverse typePrefix ⟨bound, backwards, none⟩ records

section Resumption
variable {typePrefix : String} {q : Query} (hMany : q.onlyLast = false) {records : List Record}
  {backwards : Bool} {bound : Option Position} {received : List RecordedEvent}

theorem Resumes.start : q.Resumes typePrefix backwards none records [] := ⟨[], .nil, rfl⟩

include hMany in
theorem Resumes.start_forward : q.Resumes typePrefix false (some .first) records [] := by
  refine ⟨[], .nil, ?_⟩
  rw [List.nil_append, traverse_bounded typePrefix hMany records false (some .first)]
  symm
  apply List.filter_eq_self.2
  intro entry hEntry
  exact decide_eq_true (q.place_of_mem_traverse typePrefix _ records entry hEntry).1

include hMany in
theorem Resumes.grow (h : q.Resumes typePrefix false bound records received) (new : List Record)
    (hBound : ∀ p ∈ bound, p.value ≤ records.length + 1) :
    q.Resumes typePrefix false bound (records ++ new) received := by
  obtain ⟨entries, shown, whole⟩ := h
  refine ⟨entries, shown, ?_⟩
  rw [traverse_append typePrefix hMany none records new nofun,
    traverse_append typePrefix hMany bound records new hBound, whole, List.append_assoc]

section Page
variable {size : Nat} {page : List RecordedEvent}
  (hPage : List.Forall₂ (Row.Shows typePrefix)
    ((q.traverse typePrefix ⟨bound, backwards, none⟩ records).take size) page)
include hPage

include hMany in
/-- A page leaves for the next one what the read would have found behind it. -/
theorem traverse_nextBound
    (hNext : ∀ last, page.getLast? = some last → ∃ next, last.position.beyond backwards = some next) :
    q.traverse typePrefix ⟨nextBound backwards bound page, backwards, none⟩ records =
      (q.traverse typePrefix ⟨bound, backwards, none⟩ records).drop size := by
  cases hLast : page.getLast? with
  | none =>
      rw [List.getLast?_eq_none_iff] at hLast
      subst hLast
      rw [List.forall₂_nil_right_iff, List.take_eq_nil_iff] at hPage
      rcases hPage with rfl | hNothing
      · rfl
      · rw [hNothing, List.drop_nil]
        exact hNothing
  | some last =>
      obtain ⟨next, hBeyond⟩ := hNext last hLast
      obtain ⟨before, entry, hTake, hPlace⟩ := Row.last_of_shows typePrefix _ page hPage last hLast
      have split : q.traverse typePrefix ⟨bound, backwards, none⟩ records =
          before ++ entry :: (q.traverse typePrefix ⟨bound, backwards, none⟩ records).drop size := by
        rw [List.append_cons, ← hTake, List.take_append_drop]
      simp only [nextBound, hLast, hBeyond]
      exact traverse_beyond typePrefix hMany records backwards bound before _ entry split
        last.position next hPlace hBeyond

include hMany in
theorem Resumes.next (h : q.Resumes typePrefix backwards bound records received)
    (hNext : ∀ last, page.getLast? = some last → ∃ next, last.position.beyond backwards = some next) :
    q.Resumes typePrefix backwards (nextBound backwards bound page) records (received ++ page) := by
  obtain ⟨entries, shown, whole⟩ := h
  refine ⟨_, List.rel_append shown hPage, ?_⟩
  rw [traverse_nextBound hMany hPage hNext, List.append_assoc, List.take_append_drop]
  exact whole

theorem Resumes.complete (h : q.Resumes typePrefix backwards bound records received)
    (hEnd : (q.traverse typePrefix ⟨bound, backwards, none⟩ records).drop size = []) :
    List.Forall₂ (Row.Shows typePrefix) (q.traverse typePrefix ⟨none, backwards, none⟩ records)
      (received ++ page) := by
  obtain ⟨entries, shown, whole⟩ := h
  rw [whole, ← List.take_append_drop size (q.traverse typePrefix ⟨bound, backwards, none⟩ records),
    hEnd, List.append_nil]
  exact List.rel_append shown hPage

/-- Behind a page with fewer events than were asked for there is nothing. -/
theorem drop_eq_nil_of_short (hShort : page.length < size) :
    (q.traverse typePrefix ⟨bound, backwards, none⟩ records).drop size = [] := by
  have length := hPage.length_eq
  rw [List.length_take] at length
  apply List.drop_of_length_le
  omega

end Page
end Resumption
end Query

namespace Gateway
section Whole
variable (g : Gateway) {q : Query} {text : String}
  (hText : q.scanText g.config.typePrefix .full = .ok text) {d : Deployment MemoryLog}
  (hSound : d.backend.Sound) (hLength : d.backend.records.length < countBound)
  {backwards : Bool} {bound : Option Position} {received : List RecordedEvent}
include hText hSound hLength

theorem readAll_page (hMany : q.onlyLast = false) (backwards : Bool) (bound : Option Position)
    (size : Count) :
    ∃ page, g.readAll q ⟨bound, backwards, some size⟩ d = .ok page ∧
      List.Forall₂ (Row.Shows g.config.typePrefix)
        ((q.traverse g.config.typePrefix ⟨bound, backwards, none⟩ d.backend.records).take size.value)
        page := by
  obtain ⟨-, pageText, hPageText⟩ := q.scanText_of_scanText _ _ ⟨bound, backwards, some size⟩ _ hText
  rw [← Query.traverse_limited _ hMany]
  exact g.readAll_shows q _ d hSound hLength pageText hPageText

theorem readAll_of_shows (traversal : Traversal) (h : List.Forall₂ (Row.Shows g.config.typePrefix)
    (q.traverse g.config.typePrefix traversal d.backend.records) received) :
    g.readAll q traversal d = .ok received := by
  obtain ⟨-, otherText, hOther⟩ := q.scanText_of_scanText _ _ traversal _ hText
  obtain ⟨found, hFound, shown⟩ := g.readAll_shows q traversal d hSound hLength otherText hOther
  rw [hFound, List.right_unique_forall₂' (Row.shows_unique _) h shown]

theorem isPrefix_of_resumes
    (h : q.Resumes g.config.typePrefix backwards bound d.backend.records received) :
    ∃ whole, g.readAll q ⟨none, backwards, none⟩ d = .ok whole ∧ received <+: whole := by
  obtain ⟨entries, shown, split⟩ := h
  obtain ⟨-, otherText, hOther⟩ := q.scanText_of_scanText _ _ ⟨none, backwards, none⟩ _ hText
  obtain ⟨whole, hWhole, wholeShown⟩ := g.readAll_shows q _ d hSound hLength otherText hOther
  refine ⟨whole, hWhole, ?_⟩
  rw [split] at wholeShown
  have first := List.forall₂_take entries.length wholeShown
  rw [List.take_left] at first
  rw [List.right_unique_forall₂' (Row.shows_unique _) shown first]
  exact List.take_prefix _ _

end Whole
end Gateway

/-! ## Pages on a log that grows -/

/-- A page that a client asks for: what all clients do before it is read, and how many events it may
have. -/
structure PageRequest where
  meanwhile : List Call
  size : Count

namespace Gateway

/-- Read pages forwards, one for each request. -/
def pagesForward (g : Gateway) (q : Query) : List PageRequest → Option Position →
    Deployment MemoryLog → Except Failure (List (List RecordedEvent)) × Deployment MemoryLog
  | [], _, d => (.ok [], d)
  | request :: requests, bound, d =>
      let d := Call.runAll request.meanwhile d
      let traversal : Traversal := ⟨bound, false, some request.size⟩
      let next := (g.read q traversal d).2
      match g.readAll q traversal d with
      | .error e => (.error e, next)
      | .ok page =>
          let (pages, last) := g.pagesForward q requests (nextBound false bound page) next
          (pages.map (page :: ·), last)

theorem pagesForward_cons (g : Gateway) (q : Query) (request : PageRequest)
    (requests : List PageRequest) (bound : Option Position) (d : Deployment MemoryLog)
    (page : List RecordedEvent) (hPage : g.readAll q ⟨bound, false, some request.size⟩
      (Call.runAll request.meanwhile d) = .ok page) :
    let next := (g.read q ⟨bound, false, some request.size⟩ (Call.runAll request.meanwhile d)).2
    let rest := g.pagesForward q requests (nextBound false bound page) next
    g.pagesForward q (request :: requests) bound d = (rest.1.map (page :: ·), rest.2) := by
  rw [pagesForward]
  simp only [hPage]

/-- While a client reads pages, the log only grows. -/
theorem sound_pagesForward (g : Gateway) (q : Query) (requests : List PageRequest)
    (bound : Option Position) (d : Deployment MemoryLog) (hSound : d.backend.Sound) :
    (g.pagesForward q requests bound d).2.backend.Sound ∧
      d.backend.records <+: (g.pagesForward q requests bound d).2.backend.records := by
  induction requests generalizing bound d with
  | nil => exact ⟨hSound, List.prefix_refl _⟩
  | cons request requests ih =>
      obtain ⟨grownSound, grown⟩ := Call.sound_runAll request.meanwhile d hSound
      obtain ⟨readSound, readRecords⟩ := g.sound_read q ⟨bound, false, some request.size⟩ _ grownSound
      cases hPage : g.readAll q ⟨bound, false, some request.size⟩
        (Call.runAll request.meanwhile d) with
      | error e =>
          rw [pagesForward]
          simp only [hPage]
          exact ⟨readSound, readRecords ▸ grown⟩
      | ok page =>
          rw [pagesForward_cons g q request requests bound d page hPage]
          obtain ⟨lastSound, more⟩ := ih (nextBound false bound page) _ readSound
          rw [readRecords] at more
          exact ⟨lastSound, grown.trans more⟩

section Forward
variable (g : Gateway) {q : Query} {text : String}
  (hText : q.scanText g.config.typePrefix .full = .ok text) (hMany : q.onlyLast = false)
include hText hMany

/-- A page read forwards leaves the next bound right behind what was received, and within reach of
the log. -/
theorem readAll_page_forward (size : Count) (bound : Option Position) (d : Deployment MemoryLog)
    (received : List RecordedEvent) (hSound : d.backend.Sound)
    (hLength : d.backend.records.length + 1 < countBound)
    (hBound : ∀ p ∈ bound, p.value ≤ d.backend.records.length + 1)
    (hResumes : q.Resumes g.config.typePrefix false bound d.backend.records received) :
    ∃ page, g.readAll q ⟨bound, false, some size⟩ d = .ok page ∧
      (∀ p ∈ nextBound false bound page, p.value ≤ d.backend.records.length + 1) ∧
      q.Resumes g.config.typePrefix false (nextBound false bound page) d.backend.records
        (received ++ page) ∧
      (page.length < size.value → List.Forall₂ (Row.Shows g.config.typePrefix)
        (q.traverse g.config.typePrefix .full d.backend.records) (received ++ page)) := by
  have counted : d.backend.records.length < countBound := Nat.lt_of_succ_lt hLength
  obtain ⟨page, hPage, shown⟩ := g.readAll_page hText hSound counted hMany false bound size
  have next : ∀ last, page.getLast? = some last → ∃ next, last.position.beyond false = some next ∧
      next.value ≤ d.backend.records.length + 1 := by
    intro last hLast
    obtain ⟨before, entry, hTake, hPlace⟩ := Row.last_of_shows _ _ page shown last hLast
    have hTaken : entry ∈ before ++ [entry] := List.mem_append_right _ (List.mem_singleton_self _)
    rw [← hTake] at hTaken
    have within := (q.place_of_mem_traverse _ _ _ entry (List.mem_of_mem_take hTaken)).2
    obtain ⟨next, hNext, value⟩ := last.position.exists_beyond_false (by omega)
    exact ⟨next, hNext, by omega⟩
  refine ⟨page, hPage, ?_, ?_, ?_⟩
  · intro p hp
    cases hLast : page.getLast? with
    | none =>
        simp only [nextBound, hLast] at hp
        exact hBound p hp
    | some last =>
        obtain ⟨after, hAfter, reached⟩ := next last hLast
        simp only [nextBound, hLast, hAfter, Option.mem_some_iff] at hp
        exact hp ▸ reached
  · apply hResumes.next hMany shown
    intro last hLast
    obtain ⟨after, hAfter, -⟩ := next last hLast
    exact ⟨after, hAfter⟩
  · intro hShort
    exact hResumes.complete shown (Query.drop_eq_nil_of_short shown hShort)

/-- Page after page, what was received and what is to come make up the whole read of the log as it
has become; after a short page nothing is to come. -/
theorem pagesForward_resumes (requests : List PageRequest) (bound : Option Position)
    (d : Deployment MemoryLog) (received : List RecordedEvent) (hSound : d.backend.Sound)
    (hBound : ∀ p ∈ bound, p.value ≤ d.backend.records.length + 1)
    (hResumes : q.Resumes g.config.typePrefix false bound d.backend.records received)
    (hLength : (g.pagesForward q requests bound d).2.backend.records.length + 1 < countBound) :
    ∃ pages, (g.pagesForward q requests bound d).1 = .ok pages ∧ pages.length = requests.length ∧
      (∃ next, q.Resumes g.config.typePrefix false next
        (g.pagesForward q requests bound d).2.backend.records (received ++ pages.flatten)) ∧
      ∀ request page, (requests.zip pages).getLast? = some (request, page) →
        page.length < request.size.value → List.Forall₂ (Row.Shows g.config.typePrefix)
          (q.traverse g.config.typePrefix .full
            (g.pagesForward q requests bound d).2.backend.records) (received ++ pages.flatten) := by
  induction requests generalizing bound d received with
  | nil =>
      refine ⟨[], rfl, rfl, ⟨bound, ?_⟩, nofun⟩
      rw [List.flatten_nil, List.append_nil]
      exact hResumes
  | cons request requests ih =>
      obtain ⟨grownSound, new, hNew⟩ := Call.sound_runAll request.meanwhile d hSound
      have grown := hResumes.grow hMany new hBound
      rw [hNew] at grown
      have reached : ∀ p ∈ bound, p.value ≤
          (Call.runAll request.meanwhile d).backend.records.length + 1 := by
        intro p hp
        have := hBound p hp
        rw [← hNew, List.length_append]
        omega
      have within : (Call.runAll request.meanwhile d).backend.records <+:
          (g.pagesForward q (request :: requests) bound d).2.backend.records :=
        (g.sound_pagesForward q (⟨[], request.size⟩ :: requests) bound _ grownSound).2
      have counted : (Call.runAll request.meanwhile d).backend.records.length + 1 < countBound :=
        Nat.lt_of_le_of_lt (Nat.succ_le_succ within.length_le) hLength
      obtain ⟨page, hPage, nextReached, next, short⟩ := g.readAll_page_forward hText hMany
        request.size bound _ received grownSound counted reached grown
      obtain ⟨readSound, readRecords⟩ := g.sound_read q ⟨bound, false, some request.size⟩ _ grownSound
      rw [pagesForward_cons g q request requests bound d page hPage] at hLength ⊢
      rw [← readRecords] at nextReached next short
      obtain ⟨pages, hPages, length, ahead, complete⟩ := ih _ _ _ readSound nextReached next hLength
      refine ⟨page :: pages, ?_, congrArg Nat.succ length, ?_, ?_⟩
      · simp only [hPages]
        rfl
      · rw [List.append_assoc] at ahead
        exact ahead
      · intro lastRequest lastPage hLast hShort
        rw [List.append_assoc] at complete
        rw [List.zip_cons_cons, List.getLast?_cons, Option.some_inj] at hLast
        cases hLater : (requests.zip pages).getLast? with
        | none =>
            -- this is the last page, and reading it has left the log as it was
            rw [List.getLast?_eq_none_iff, List.zip_eq_nil_iff] at hLater
            obtain rfl : requests = [] := by
              rcases hLater with hNone | hNone
              · exact hNone
              · rw [hNone] at length
                exact List.length_eq_zero_iff.1 length.symm
            obtain rfl : pages = [] := List.length_eq_zero_iff.1 length
            cases hLast
            rw [List.flatten_singleton]
            exact short hShort
        | some later =>
            rw [hLater] at hLast
            exact complete lastRequest lastPage (hLater.trans (congrArg some hLast)) hShort

end Forward
end Gateway

/-! ## Pages from the end of a log -/

/-- A client that reads backwards stops after a page with fewer events than it asked for, and after
the event at the first position. -/
def StopsAfter (size : Count) (page : List RecordedEvent) : Prop :=
  page.length < size.value ∨ page.getLast?.map (·.position) = some .first

instance (size : Count) (page : List RecordedEvent) : Decidable (StopsAfter size page) :=
  inferInstanceAs (Decidable (_ ∨ _))

namespace Gateway

/-- Read pages backwards until one of them is the last; the flag tells whether it came to that. -/
def pagesBackward (g : Gateway) (q : Query) : List Count → Option Position →
    Deployment MemoryLog → Except Failure (List (List RecordedEvent) × Bool)
  | [], _, _ => .ok ([], false)
  | size :: sizes, bound, d =>
      let traversal : Traversal := ⟨bound, true, some size⟩
      match g.readAll q traversal d with
      | .error e => .error e
      | .ok page =>
          if StopsAfter size page then .ok ([page], true)
          else
            (g.pagesBackward q sizes (nextBound true bound page) (g.read q traversal d).2).map
              fun (pages, finished) => (page :: pages, finished)

section Backward
variable (g : Gateway) {q : Query} {text : String}
  (hText : q.scanText g.config.typePrefix .full = .ok text) (hMany : q.onlyLast = false)
include hText hMany

/-- A page read backwards is the last one, or leaves the next bound right behind what was received
and less to come. -/
theorem readAll_page_backward (size : Count) (hSize : 0 < size.value) (bound : Option Position)
    (d : Deployment MemoryLog) (received : List RecordedEvent) (hSound : d.backend.Sound)
    (hLength : d.backend.records.length < countBound)
    (hResumes : q.Resumes g.config.typePrefix true bound d.backend.records received) :
    ∃ page, g.readAll q ⟨bound, true, some size⟩ d = .ok page ∧
      (StopsAfter size page → List.Forall₂ (Row.Shows g.config.typePrefix)
        (q.traverse g.config.typePrefix ⟨none, true, none⟩ d.backend.records) (received ++ page)) ∧
      (¬ StopsAfter size page →
        q.Resumes g.config.typePrefix true (nextBound true bound page) d.backend.records
          (received ++ page) ∧
        (q.traverse g.config.typePrefix ⟨nextBound true bound page, true, none⟩
            d.backend.records).length <
          (q.traverse g.config.typePrefix ⟨bound, true, none⟩ d.backend.records).length) := by
  obtain ⟨page, hPage, shown⟩ := g.readAll_page hText hSound hLength hMany true bound size
  refine ⟨page, hPage, ?_, ?_⟩
  · rintro (hShort | hFirst)
    · exact hResumes.complete shown (Query.drop_eq_nil_of_short shown hShort)
    · obtain ⟨last, hLast, first⟩ := Option.map_eq_some_iff.1 hFirst
      obtain ⟨before, entry, hTake, hPlace⟩ := Row.last_of_shows _ _ page shown last hLast
      rw [first] at hPlace
      apply hResumes.complete shown
      apply Query.nil_of_backwards_first g.config.typePrefix hMany d.backend.records bound before _
        entry _ hPlace.symm
      rw [List.append_cons, ← hTake, List.take_append_drop]
  · intro hStops
    have next : ∀ last, page.getLast? = some last →
        ∃ next, last.position.beyond true = some next := by
      intro last hLast
      apply last.position.exists_beyond_true
      intro hFirst
      exact hStops (Or.inr (hLast ▸ congrArg some hFirst))
    refine ⟨hResumes.next hMany shown next, ?_⟩
    have full : size.value ≤ page.length := Nat.le_of_not_lt fun hShort => hStops (Or.inl hShort)
    have taken := shown.length_eq
    rw [List.length_take] at taken
    rw [Query.traverse_nextBound hMany shown next, List.length_drop]
    omega

/-- Page after page, what was received and what is to come make up the whole read; once the client
has stopped, nothing is to come, and it has stopped when there are more pages than events. -/
theorem pagesBackward_resumes (sizes : List Count) (hSizes : ∀ size ∈ sizes, 0 < size.value)
    (bound : Option Position) (d : Deployment MemoryLog) (received : List RecordedEvent)
    (hSound : d.backend.Sound) (hLength : d.backend.records.length < countBound)
    (hResumes : q.Resumes g.config.typePrefix true bound d.backend.records received) :
    ∃ pages finished, g.pagesBackward q sizes bound d = .ok (pages, finished) ∧
      (finished = true → List.Forall₂ (Row.Shows g.config.typePrefix)
        (q.traverse g.config.typePrefix ⟨none, true, none⟩ d.backend.records)
        (received ++ pages.flatten)) ∧
      (finished = false → ∃ next,
        q.Resumes g.config.typePrefix true next d.backend.records (received ++ pages.flatten)) ∧
      ((q.traverse g.config.typePrefix ⟨bound, true, none⟩ d.backend.records).length <
        sizes.length → finished = true) := by
  induction sizes generalizing bound d received with
  | nil =>
      refine ⟨[], false, rfl, nofun, ?_, nofun⟩
      intro _
      rw [List.flatten_nil, List.append_nil]
      exact ⟨bound, hResumes⟩
  | cons size sizes ih =>
      obtain ⟨page, hPage, stopped, next⟩ := g.readAll_page_backward hText hMany size
        (hSizes size List.mem_cons_self) bound d received hSound hLength hResumes
      rw [pagesBackward]
      simp only [hPage]
      by_cases hStops : StopsAfter size page
      · rw [if_pos hStops]
        refine ⟨[page], true, rfl, ?_, nofun, fun _ => rfl⟩
        intro _
        rw [List.flatten_singleton]
        exact stopped hStops
      · rw [if_neg hStops]
        obtain ⟨resumes, fewer⟩ := next hStops
        obtain ⟨readSound, readRecords⟩ := g.sound_read q ⟨bound, true, some size⟩ d hSound
        rw [← readRecords] at resumes hLength fewer ⊢
        obtain ⟨pages, finished, hPages, whole, ahead, enough⟩ := ih
          (fun other hOther => hSizes other (List.mem_cons_of_mem _ hOther)) _ _ _ readSound hLength
          resumes
        refine ⟨page :: pages, finished, ?_, ?_, ?_, ?_⟩
        · rw [hPages]
          rfl
        · rw [List.flatten_cons, ← List.append_assoc]
          exact whole
        · rw [List.flatten_cons, ← List.append_assoc]
          exact ahead
        · intro hEnough
          apply enough
          rw [List.length_cons] at hEnough
          omega

end Backward
end Gateway

/-- A client that reads forwards page by page, each page from behind the last event received, while
others are at work, has received the first events of the unpaged read of the log as it has become,
and all of them if the last page was short; each position of the log must have a next one.  A client
that reads a log backwards page by page, until the first position or a short page, has received the
first events of the unpaged read backwards, and all of them when it has stopped, which it has after
as many pages as there are events and one more.  This read is the unpaged read forwards, turned
round. -/
theorem pages_make_up_the_read (g : Gateway) (q : Query) (text : String)
    (hText : q.scanText g.config.typePrefix .full = .ok text) (hMany : q.onlyLast = false) :
    (∀ (start : Deployment MemoryLog) (requests : List PageRequest), start.backend.Sound →
      let last := (g.pagesForward q requests (some .first) start).2
      last.backend.records.length + 1 < countBound →
      ∃ pages whole, (g.pagesForward q requests (some .first) start).1 = .ok pages ∧
        pages.length = requests.length ∧ g.readAll q .full last = .ok whole ∧
        pages.flatten <+: whole ∧
        ∀ request page, (requests.zip pages).getLast? = some (request, page) →
          page.length < request.size.value → pages.flatten = whole) ∧
    ∀ (d : Deployment MemoryLog) (sizes : List Count), d.backend.Sound →
      d.backend.records.length < countBound → (∀ size ∈ sizes, 0 < size.value) →
      ∃ pages finished whole, g.pagesBackward q sizes none d = .ok (pages, finished) ∧
        g.readAll q ⟨none, true, none⟩ d = .ok whole ∧ pages.flatten <+: whole ∧
        (finished = true → pages.flatten = whole) ∧
        (d.backend.records.length < sizes.length → finished = true) ∧
        g.readAll q .full d = .ok whole.reverse := by
  constructor
  · intro start requests hSound last hLength
    obtain ⟨pages, hPages, length, ⟨next, resumes⟩, complete⟩ := g.pagesForward_resumes hText hMany
      requests (some .first) start [] hSound (fun p hp => by cases hp; exact Nat.le_add_left 1 _)
      (Query.Resumes.start_forward hMany) hLength
    obtain ⟨lastSound, -⟩ := g.sound_pagesForward q requests (some .first) start hSound
    have counted := Nat.lt_of_succ_lt hLength
    obtain ⟨whole, hWhole, first⟩ := g.isPrefix_of_resumes hText lastSound counted resumes
    refine ⟨pages, whole, hPages, length, hWhole, first, ?_⟩
    intro request page hLast hShort
    have received := g.readAll_of_shows hText lastSound counted .full (complete _ _ hLast hShort)
    exact Except.ok.inj (received.symm.trans hWhole)
  · intro d sizes hSound hLength hSizes
    obtain ⟨pages, finished, hPages, complete, ahead, enough⟩ := g.pagesBackward_resumes hText hMany
      sizes hSizes none d [] hSound hLength Query.Resumes.start
    obtain ⟨-, wholeText, hWholeText⟩ := q.scanText_of_scanText _ _ ⟨none, true, none⟩ _ hText
    obtain ⟨whole, hWhole, shown⟩ := g.readAll_shows q _ d hSound hLength wholeText hWholeText
    have all : finished = true → pages.flatten = whole := by
      intro hFinished
      have received := g.readAll_of_shows hText hSound hLength _ (complete hFinished)
      exact Except.ok.inj (received.symm.trans hWhole)
    refine ⟨pages, finished, whole, hPages, hWhole, ?_, all, ?_, ?_⟩
    · cases hFinished : finished with
      | true => exact all hFinished ▸ List.prefix_refl _
      | false =>
          obtain ⟨next, resumes⟩ := ahead hFinished
          obtain ⟨found, hFound, first⟩ := g.isPrefix_of_resumes hText hSound hLength resumes
          exact Except.ok.inj (hFound.symm.trans hWhole) ▸ first
    · intro hEnough
      apply enough
      have := Query.length_traverse_le g.config.typePrefix hMany d.backend.records true none
      omega
    · apply g.readAll_of_shows hText hSound hLength
      rw [Query.traverse_backwards g.config.typePrefix hMany] at shown
      rw [← List.forall₂_reverse_iff, List.reverse_reverse]
      exact shown

/-! Visits to two gates, one of which is watched: four visits before the first page and two before
the second one. -/

namespace Turnstile

def attendant : Gateway := ⟨.default, 0⟩

def dawn : Instant := ⟨21600, 0, by decide, by decide, two_nanosPerSecond_pos⟩

def start : Deployment MemoryLog := ⟨.empty, fun _ => .fixed dawn, []⟩

def visits (gates : List String) : Call :=
  .append attendant (gates.map fun gate => (Event.new "visited" .null).setTags [gate]) .unchecked

def watched : Query := .criteria [Criterion.new.requireTags ["gate:1"]]

def two : Count := ⟨2, by decide⟩

def three : Count := ⟨3, by decide⟩

def fourth : Position := ⟨4, by decide, by decide⟩

def morning : PageRequest := ⟨[visits ["gate:1", "gate:2", "gate:1", "gate:1"]], two⟩

def evening : PageRequest := ⟨[visits ["gate:2", "gate:1"]], three⟩

/-- The log of the first page, and then that of the second one. -/
def early : Deployment MemoryLog := Call.runAll morning.meanwhile start

def late : Deployment MemoryLog :=
  Call.runAll evening.meanwhile (attendant.read watched ⟨some .first, false, some two⟩ early).2

theorem scanText_watched : watched.scanText attendant.config.typePrefix .full =
    .ok (watched.scanProgram attendant.config.typePrefix .full).written :=
  (watched.scanText_eq_ok_iff _ _ _).2 ⟨rfl, rfl⟩

theorem sound_early_and_late : early.backend.Sound ∧ late.backend.Sound := by
  obtain ⟨sound, -⟩ := Call.sound_runAll morning.meanwhile start Call.sound_empty
  obtain ⟨readSound, -⟩ := attendant.sound_read watched ⟨some .first, false, some two⟩ early sound
  exact ⟨sound, (Call.sound_runAll evening.meanwhile _ readSound).1⟩

/-- The first page ends before the fourth visit, where the second one begins. -/
theorem pages_of_day : ∃ first second,
    attendant.pagesForward watched [morning, evening] (some .first) start =
        (.ok [first, second], (attendant.read watched ⟨some fourth, false, some three⟩ late).2) ∧
      first.map (·.position.value) = [1, 3] ∧ second.map (·.position.value) = [4, 6] := by
  obtain ⟨earlySound, lateSound⟩ := sound_early_and_late
  obtain ⟨first, hFirst, firstShown⟩ := attendant.readAll_page scanText_watched earlySound
    (by decide +kernel) rfl false (some .first) two
  obtain ⟨second, hSecond, secondShown⟩ := attendant.readAll_page scanText_watched lateSound
    (by decide +kernel) rfl false (some fourth) three
  have firstPlaces : first.map (·.position.value) = [1, 3] :=
    (Row.places_of_shows _ _ _ firstShown).trans (by decide +kernel)
  have secondPlaces : second.map (·.position.value) = [4, 6] :=
    (Row.places_of_shows _ _ _ secondShown).trans (by decide +kernel)
  have resumed : nextBound false (some .first) first = some fourth := by
    have last : first.getLast?.map (·.position.value) = some 3 := by
      rw [← List.getLast?_map, firstPlaces]
      rfl
    obtain ⟨e, hLast, place⟩ := Option.map_eq_some_iff.1 last
    simp only [nextBound, hLast]
    exact (Position.ofNat?_eq_some_iff _ _).2 (congrArg Nat.succ place).symm
  refine ⟨first, second, ?_, firstPlaces, secondPlaces⟩
  rw [attendant.pagesForward_cons watched morning [evening] _ start first hFirst, resumed]
  exact congrArg (fun rest => (rest.1.map (first :: ·), rest.2))
    (attendant.pagesForward_cons watched evening [] (some fourth) _ second hSecond)

theorem pages_make_up_the_day :
    let last := (attendant.pagesForward watched [morning, evening] (some .first) start).2
    ∃ pages back,
      (attendant.pagesForward watched [morning, evening] (some .first) start).1 = .ok pages ∧
        pages.map (List.map (·.position.value)) = [[1, 3], [4, 6]] ∧
        attendant.readAll watched .full last = .ok pages.flatten ∧
        attendant.pagesBackward watched (List.replicate 7 two) none last = .ok (back, true) ∧
        back.flatten = pages.flatten.reverse := by
  obtain ⟨first, second, run, firstPlaces, secondPlaces⟩ := pages_of_day
  obtain ⟨lastSound, records⟩ := attendant.sound_read watched ⟨some fourth, false, some three⟩ late
    sound_early_and_late.2
  have six : late.backend.records.length = 6 := by decide +kernel
  rw [← records] at six
  obtain ⟨forwards, backwards⟩ := pages_make_up_the_read attendant watched _ scanText_watched rfl
  have paged := forwards start [morning, evening] Call.sound_empty
  simp only [run] at paged ⊢
  obtain ⟨pages, whole, hPages, -, hWhole, -, complete⟩ := paged (by rw [six]; decide)
  cases hPages
  have short : second.length < three.value := by
    rw [← List.length_map, secondPlaces]
    decide
  have all : [first, second].flatten = whole := complete evening second rfl short
  obtain ⟨back, finished, found, hBack, -, -, turned, enough, hFound⟩ :=
    backwards _ (List.replicate 7 two) lastSound (by rw [six]; decide) (by decide)
  have stopped : finished = true := enough (by rw [six]; decide)
  rw [hWhole, Except.ok.injEq] at hFound
  refine ⟨[first, second], back, rfl, ?_, all ▸ hWhole, stopped ▸ hBack, ?_⟩
  · simp only [List.map_cons, List.map_nil, firstPlaces, secondPlaces]
  · rw [turned stopped, all, hFound, List.reverse_reverse]

end Turnstile
end BoundaryLog
