import BoundaryLog.Feed
import BoundaryLog.Proofs.Numerals
import BoundaryLog.Proofs.Stamps
import Mathlib.Data.List.Forall2

/-! # Rows of recorded events

A position is read from a number or from a text around a numeral.  A row of a record decodes as soon
as its recording time can be read, and that of a recorded event always can. -/
set_option autoImplicit false
namespace BoundaryLog

theorem Json.insertMember_nil (name : String) (v : Json) : insertMember name v [] = [(name, v)] := rfl

theorem Json.insertMember_before (name k : String) (v w : Json) (rest : List (String × Json))
    (h : name < k) : insertMember name v ((k, w) :: rest) = (name, v) :: (k, w) :: rest :=
  if_pos h

theorem Json.insertMember_after (name k : String) (v w : Json) (rest : List (String × Json))
    (h : ¬ name < k) (hNe : name ≠ k) :
    insertMember name v ((k, w) :: rest) = (k, w) :: insertMember name v rest := by
  rw [insertMember, if_neg h, if_neg hNe]

theorem Json.textItems_map (texts : List String) : textItems (texts.map .string) = .ok texts := by
  induction texts with
  | nil => rfl
  | cons s texts ih =>
      rw [List.map_cons, textItems, ih]
      rfl

theorem Json.filter_ne_null (metadata : Option Json) :
    metadata.filter (· ≠ .null) = if metadata = some .null then none else metadata := by
  cases metadata with
  | none => rfl
  | some v => by_cases hv : v = .null <;> simp [hv]

theorem Json.filtered_ne_null (metadata : Option Json) :
    metadata.filter (· ≠ .null) ≠ some .null := by
  intro isNull
  exact of_decide_eq_true (Option.filter_eq_some_iff.1 isNull).2 rfl

/-- The fields of the row of a record. -/
def Record.row (r : Record) (place : Nat) : Row where
  type := r.type
  tags := some r.data.tags
  data := r.data.payload
  metadata := r.data.metadata.filter (· ≠ .null)
  recordedAt := r.data.recordedAt
  position := some (.ofNat place)

/-- The row of a record holds the six things that a projection names. -/
theorem Record.envelope_eq_ofMembers (r : Record) (place : Nat) :
    r.envelope place = Json.ofMembers [("type", .string r.type), ("tags", .ofStrings r.data.tags),
      ("data", r.data.payload), ("metadata", r.data.metadata.getD .null),
      ("recorded_at", .string r.data.recordedAt), ("position", .ofNat place)] := by
  unfold Json.ofMembers envelope
  simp (disch := decide) only [List.foldl_cons, List.foldl_nil, Json.insertMember_nil,
    Json.insertMember_before, Json.insertMember_after]

namespace Row

/-! ## Positions -/

/-- Whether a value gives a number: as a whole number, or as a text with a numeral and blanks
around it. -/
inductive Gives : Json → Nat → Prop where
  | number (n : Nat) : Gives (.number (.integer n)) n
  | text (s : String) (n : Nat) (front numeral back : List Char)
      (hText : s.toList = front ++ numeral ++ back) (hFront : ∀ c ∈ front, Text.isBlank c = true)
      (hBack : ∀ c ∈ back, Text.isBlank c = true) (hNumeral : Text.Numeral numeral n) :
      Gives (.string s) n

theorem countOf_integer (m : Int) (n : Nat) :
    countOf (some (.number (.integer m))) = some n ↔ m = n ∧ n < countBound := by
  simp only [countOf, Option.ite_none_right_eq_some, Option.some.injEq]
  omega

theorem countOf_string (s : String) (n : Nat) :
    countOf (some (.string s)) = some n ↔
      ∃ c : Count, Text.readCount (Text.trim s.toList) = .ok c ∧ c.value = n := by
  rw [countOf]
  cases Text.readCount (Text.trim s.toList) <;> simp [Except.toOption]

theorem countOf_eq_some_iff (v : Json) (n : Nat) :
    countOf (some v) = some n ↔ Gives v n ∧ n < countBound := by
  constructor
  · intro h
    cases v with
    | number x =>
        cases x with
        | integer m =>
            obtain ⟨same, fits⟩ := (countOf_integer m n).1 h
            rw [same]
            exact ⟨.number n, fits⟩
        | real x => cases h
    | string s =>
        obtain ⟨c, hRead, rfl⟩ := (countOf_string s n).1 h
        obtain ⟨front, numeral, back, whole, blankFront, blankBack, hNumeral⟩ :=
          (Text.readCount_trim_eq_ok_iff s.toList c).1 hRead
        exact ⟨.text s _ front numeral back whole blankFront blankBack hNumeral, c.bounded⟩
    | null | bool _ | array _ | object _ => cases h
  · rintro ⟨hGives, fits⟩
    cases hGives with
    | number n => exact (countOf_integer n n).2 ⟨rfl, fits⟩
    | text s n front numeral back whole blankFront blankBack hNumeral =>
        have read := (Text.readCount_trim_eq_ok_iff s.toList ⟨n, fits⟩).2
          ⟨front, numeral, back, whole, blankFront, blankBack, hNumeral⟩
        exact (countOf_string s n).2 ⟨⟨n, fits⟩, read, rfl⟩

/-- A position is read from what gives its number. -/
theorem readPosition_eq_ok_iff (raw : Option Json) (p : Position) :
    readPosition raw = .ok p ↔ ∃ v, raw = some v ∧ Gives v p.value := by
  have counted : readPosition raw = .ok p ↔ countOf raw = some p.value := by
    unfold readPosition
    cases countOf raw with
    | none => simp
    | some n =>
        simp only [Option.some.injEq]
        rw [eq_comm (a := n), ← Position.ofNat?_eq_some_iff n p]
        cases Position.ofNat? n <;> simp
  rw [counted]
  cases raw with
  | none => simp [countOf]
  | some v =>
      rw [countOf_eq_some_iff]
      simp [p.bounded]

/-! ## Decoding -/

theorem readStamp_eq_ok_iff (raw : String) (t : Instant) :
    readStamp raw = .ok t ↔ Stamp.read raw.toList = .ok t := by
  unfold readStamp
  cases Stamp.read raw.toList <;> simp [Except.mapError]

section Decode
variable (typePrefix : String) (row : Json)

theorem decode_of_ofJson_error (fault : Json.ShapeFault) (h : ofJson row = .error fault) :
    decode typePrefix row = .error (.shape fault) := by
  rw [decode, h]
  rfl

theorem decode_of_ofJson_ok (fields : Row) (h : ofJson row = .ok fields) :
    decode typePrefix row = (do
      let position ← readPosition fields.position
      let recordedAt ← readStamp fields.recordedAt
      return ⟨position, recordedAt, fields.event typePrefix⟩) := by
  rw [decode, h]
  rfl

/-- What a row that decodes decodes to, field by field. -/
theorem decode_eq_ok_iff (e : RecordedEvent) :
    decode typePrefix row = .ok e ↔
      ∃ fields, ofJson row = .ok fields ∧ readPosition fields.position = .ok e.position ∧
        readStamp fields.recordedAt = .ok e.recordedAt ∧ fields.event typePrefix = e.event := by
  cases hFields : ofJson row with
  | error fault =>
      rw [decode_of_ofJson_error typePrefix row fault hFields]
      simp
  | ok fields =>
      rw [decode_of_ofJson_ok typePrefix row fields hFields]
      constructor
      · intro h
        obtain ⟨p, hPosition, h⟩ := bind_eq_ok_iff.1 h
        obtain ⟨t, hTime, h⟩ := bind_eq_ok_iff.1 h
        cases h
        exact ⟨fields, rfl, hPosition, hTime, rfl⟩
      · rintro ⟨_, hSame, hPosition, hTime, hEvent⟩
        cases hSame
        rw [hPosition, hTime, hEvent]
        rfl

end Decode

variable (typePrefix : String) (r : Record)

theorem nullable_metadata (metadata : Option Json) :
    Json.nullable Json.anything (metadata.getD .null) = .ok (metadata.filter (· ≠ .null)) := by
  cases metadata with
  | none => rfl
  | some v => cases v <;> rfl

theorem member_eq_ok {α : Type} (members : List (String × Json)) (name : String)
    (read : Json.Field α) (v : Json) (x : α) (hLookup : Json.lookup members name = some v)
    (hRead : read v = .ok x) : Json.member members name read = .ok (some x) := by
  unfold Json.member
  rw [hLookup]
  simp only [hRead]
  rfl

theorem ofJson_envelope (place : Nat) : ofJson (r.envelope place) = .ok (r.row place) := by
  have tags : Json.nullable Json.asTexts (.ofStrings r.data.tags) = .ok (some r.data.tags) := by
    have items : Json.asTexts (.ofStrings r.data.tags) = .ok r.data.tags :=
      Json.textItems_map r.data.tags
    change (do let texts ← Json.asTexts (.ofStrings r.data.tags); return some texts) = _
    rw [items]
    rfl
  unfold Record.envelope ofJson ofMembers
  simp only
  rw [member_eq_ok _ "data" Json.anything r.data.payload r.data.payload rfl rfl]
  rw [member_eq_ok _ "metadata" (Json.nullable Json.anything) (r.data.metadata.getD .null) _
    rfl (nullable_metadata r.data.metadata)]
  rw [member_eq_ok _ "position" (Json.nullable Json.anything) (.ofNat place) (some (.ofNat place))
    rfl rfl]
  rw [member_eq_ok _ "recorded_at" Json.asText (.string r.data.recordedAt) r.data.recordedAt
    rfl rfl]
  rw [member_eq_ok _ "tags" (Json.nullable Json.asTexts) (.ofStrings r.data.tags) _
    rfl tags]
  rw [member_eq_ok _ "type" Json.asText (.string r.type) r.type rfl rfl]
  rfl

theorem readPosition_ofNat (p : Position) : readPosition (some (.ofNat p.value)) = .ok p :=
  (readPosition_eq_ok_iff _ p).2 ⟨_, rfl, .number p.value⟩

/-- A row decodes to the event of its record, whatever namespace it was written in. -/
theorem decode_envelope (p : Position) (t : Instant) (hTime : readStamp r.data.recordedAt = .ok t) :
    decode typePrefix (r.envelope p.value) = .ok ⟨p, t, (r.row p.value).event typePrefix⟩ := by
  have position : readPosition (r.row p.value).position = .ok p := readPosition_ofNat p
  have time : readStamp (r.row p.value).recordedAt = .ok t := hTime
  exact (decode_eq_ok_iff typePrefix _ _).2 ⟨_, ofJson_envelope r p.value, position, time, rfl⟩

theorem readStamp_write (t : Instant) : readStamp (Stamp.write t) = .ok t.shownSecond :=
  (readStamp_eq_ok_iff _ _).2 (Stamp.read_write t)

end Row

/-- Whether a reader sees a record at a place of the log as an event. -/
def Row.Shows (typePrefix : String) (entry : Record × Nat) (e : RecordedEvent) : Prop :=
  decode typePrefix (entry.1.envelope entry.2) = .ok e

theorem Row.readPosition_ofNat_eq_ok (n : Nat) (p : Position)
    (h : readPosition (some (.ofNat n)) = .ok p) : p.value = n := by
  obtain ⟨v, hRaw, hGives⟩ := (readPosition_eq_ok_iff _ p).1 h
  cases hRaw
  cases hGives
  rfl

/-- What is shown of a record: its fields at its place, if the place is a position and the recording
time can be read. -/
theorem Row.shows_iff (typePrefix : String) (r : Record) (place : Nat) (e : RecordedEvent) :
    Shows typePrefix (r, place) e ↔
      ∃ (p : Position) (t : Instant), p.value = place ∧ readStamp r.data.recordedAt = .ok t ∧
        e = ⟨p, t, (r.row place).event typePrefix⟩ := by
  constructor
  · intro h
    obtain ⟨fields, hFields, hPosition, hTime, hEvent⟩ := (decode_eq_ok_iff typePrefix _ e).1 h
    rw [ofJson_envelope] at hFields
    cases hFields
    refine ⟨e.position, e.recordedAt, readPosition_ofNat_eq_ok place _ hPosition, hTime, ?_⟩
    rw [hEvent]
  · rintro ⟨p, t, rfl, hTime, rfl⟩
    exact decode_envelope typePrefix r p t hTime

theorem Row.shows_unique (typePrefix : String) : Relator.RightUnique (Shows typePrefix) := by
  intro entry e other h hOther
  rw [Shows] at h hOther
  exact Except.ok.inj (h.symm.trans hOther)

theorem Row.place_of_shows (typePrefix : String) (entry : Record × Nat) (e : RecordedEvent)
    (h : Shows typePrefix entry e) : e.position.value = entry.2 := by
  obtain ⟨p, t, hPlace, -, rfl⟩ := (Row.shows_iff typePrefix _ _ _).1 h
  exact hPlace

/-- Events are shown at the places of their records. -/
theorem Row.places_of_shows (typePrefix : String) (entries : List (Record × Nat))
    (events : List RecordedEvent) (h : List.Forall₂ (Shows typePrefix) entries events) :
    events.map (·.position.value) = entries.map Prod.snd := by
  induction h with
  | nil => rfl
  | cons hShown _ ih => exact congrArg₂ List.cons (Row.place_of_shows typePrefix _ _ hShown) ih

theorem Row.last_of_shows (typePrefix : String) (entries : List (Record × Nat))
    (page : List RecordedEvent) (h : List.Forall₂ (Shows typePrefix) entries page)
    (last : RecordedEvent) (hLast : page.getLast? = some last) :
    ∃ before entry, entries = before ++ [entry] ∧ last.position.value = entry.2 := by
  obtain ⟨earlier, rfl⟩ := List.getLast?_eq_some_iff.1 hLast
  have places := (places_of_shows typePrefix entries _ h).symm
  rw [List.map_append, List.map_eq_append_iff] at places
  obtain ⟨before, final, rfl, -, hFinal⟩ := places
  obtain ⟨entry, rfl, hPlace⟩ := List.map_eq_singleton_iff.1 hFinal
  exact ⟨before, entry, rfl, hPlace.symm⟩

/-- A feed of records that can be shown is collected, each as what it is shown as. -/
theorem Feed.collectRows_shows (typePrefix : String) (entries : List (Record × Nat))
    (h : ∀ entry ∈ entries, ∃ e, Row.Shows typePrefix entry e) :
    ∃ events, collectRows typePrefix
        ((entries.map fun (r, place) => r.envelope place).map .ok) = .ok events ∧
      List.Forall₂ (Row.Shows typePrefix) entries events := by
  induction entries with
  | nil => exact ⟨[], rfl, .nil⟩
  | cons entry entries ih =>
      obtain ⟨e, hShown⟩ := h entry List.mem_cons_self
      obtain ⟨events, hRest, shown⟩ := ih fun other hOther => h other (List.mem_cons_of_mem _ hOther)
      have first : item typePrefix (.ok (entry.1.envelope entry.2)) = .ok e := by
        rw [Row.Shows] at hShown
        rw [item, hShown]
        rfl
      refine ⟨e :: events, ?_, .cons hShown shown⟩
      rw [List.map_cons, List.map_cons, collectRows, first, hRest]
      rfl

end BoundaryLog
