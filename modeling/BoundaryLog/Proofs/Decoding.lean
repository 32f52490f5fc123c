import BoundaryLog.Proofs.Shapes

/-! # Which rows decode

A row is looked at in three stages: the kinds of its fields, then its position, then its recording
time.  Each stage has its own condition on four fields, and what fails first is what is reported.
The fields of an object are found by their names.  A row may also be an array; its items are then
the fields in their declared order, and since a position is never assumed there must be all six. -/
set_option autoImplicit false
namespace BoundaryLog.Row

/-! ## Fields -/

theorem exists_position_iff (raw : Option Json) :
    (∃ p, readPosition raw = .ok p) ↔
      ∃ v n, raw = some v ∧ Gives v n ∧ 1 ≤ n ∧ n < countBound := by
  constructor
  · rintro ⟨p, h⟩
    obtain ⟨v, hRaw, hGives⟩ := (readPosition_eq_ok_iff raw p).1 h
    exact ⟨v, p.value, hRaw, hGives, p.positive, p.bounded⟩
  · rintro ⟨v, n, hRaw, hGives, positive, fits⟩
    exact ⟨⟨n, positive, fits⟩, (readPosition_eq_ok_iff raw _).2 ⟨v, hRaw, hGives⟩⟩

/-- The tags that a field stands for. -/
inductive TagsOf : Option Json → Option (List String) → Prop where
  | absent : TagsOf none none
  | null : TagsOf (some .null) none
  | listed (texts : List String) : TagsOf (some (.ofStrings texts)) (some texts)

theorem nullable_asTexts_eq_ok_iff (v : Json) (tags : Option (List String)) :
    Json.nullable Json.asTexts v = .ok tags ↔ TagsOf (some v) tags := by
  rw [Json.nullable_eq_ok_iff]
  simp only [Json.asTexts_eq_ok_iff]
  constructor
  · rintro (⟨rfl, rfl⟩ | ⟨-, texts, rfl, rfl⟩)
    · exact .null
    · exact .listed texts
  · intro h
    cases h with
    | null => exact Or.inl ⟨rfl, rfl⟩
    | listed texts => exact Or.inr ⟨nofun, texts, rfl, rfl⟩

/-- What a row is read from, where `find` gives the value of a field: type and recording time must
be texts, and of the rest only the tags must be of a kind. -/
structure ReadFrom (find : String → Option Json) (row : Row) : Prop where
  type_eq : find "type" = some (.string row.type)
  tags_of : TagsOf (find "tags") row.tags
  data_eq : row.data = (find "data").getD .null
  metadata_eq : row.metadata = (find "metadata").filter (· ≠ .null)
  recordedAt_eq : find "recorded_at" = some (.string row.recordedAt)
  position_eq : row.position = (find "position").filter (· ≠ .null)

section Members
variable (members : List (String × Json)) (name : String)

theorem member_tags_iff (tags : Option (List String)) :
    (∃ found, Json.member members name (Json.nullable Json.asTexts) = .ok found ∧
        found.getD none = tags) ↔ TagsOf (Json.lookup members name) tags := by
  simp only [Json.member_eq_ok_iff, nullable_asTexts_eq_ok_iff]
  constructor
  · rintro ⟨_, ⟨hNone, rfl⟩ | ⟨v, tags', hFound, hTags, rfl⟩, rfl⟩
    · rw [hNone]
      exact .absent
    · rw [hFound]
      exact hTags
  · intro hTags
    cases hFound : Json.lookup members name with
    | none =>
        rw [hFound] at hTags
        cases hTags
        exact ⟨none, Or.inl ⟨rfl, rfl⟩, rfl⟩
    | some v =>
        rw [hFound] at hTags
        exact ⟨some tags, Or.inr ⟨v, tags, rfl, hTags, rfl⟩, rfl⟩

end Members

theorem ofMembers_eq_ok_iff (members : List (String × Json)) (row : Row) :
    ofMembers members = .ok row ↔ ReadFrom (Json.lookup members) row := by
  unfold ofMembers
  constructor
  · intro h
    obtain ⟨data, hData, h⟩ := bind_eq_ok_iff.1 h
    obtain ⟨metadata, hMetadata, h⟩ := bind_eq_ok_iff.1 h
    obtain ⟨position, hPosition, h⟩ := bind_eq_ok_iff.1 h
    obtain ⟨recordedAt?, hRecordedAt, h⟩ := bind_eq_ok_iff.1 h
    obtain ⟨tags, hTags, h⟩ := bind_eq_ok_iff.1 h
    obtain ⟨type?, hType, h⟩ := bind_eq_ok_iff.1 h
    obtain ⟨type, hTypeGiven, h⟩ := bind_eq_ok_iff.1 h
    obtain ⟨recordedAt, hRecordedAtGiven, h⟩ := bind_eq_ok_iff.1 h
    rw [Json.member_anything] at hData
    rw [Json.member_nullable_anything] at hMetadata hPosition
    cases hData
    cases hMetadata
    cases hPosition
    cases h
    exact {
      type_eq := (Json.required_asText_iff members "type" type).1 ⟨type?, hType, hTypeGiven⟩
      tags_of := (member_tags_iff members "tags" _).1 ⟨tags, hTags, rfl⟩
      data_eq := rfl
      metadata_eq := Json.getD_map_filter _
      recordedAt_eq := (Json.required_asText_iff members "recorded_at" recordedAt).1
        ⟨recordedAt?, hRecordedAt, hRecordedAtGiven⟩
      position_eq := Json.getD_map_filter _ }
  · intro h
    obtain ⟨type, tags, data, metadata, recordedAt, position⟩ := row
    obtain ⟨typed, tagged, rfl, rfl, dated, rfl⟩ := h
    obtain ⟨type?, hType, hTypeGiven⟩ := (Json.required_asText_iff members "type" type).2 typed
    obtain ⟨tags?, hTags, hTagsGiven⟩ := (member_tags_iff members "tags" tags).2 tagged
    obtain ⟨recordedAt?, hRecordedAt, hRecordedAtGiven⟩ :=
      (Json.required_asText_iff members "recorded_at" recordedAt).2 dated
    rw [Json.member_anything, Json.member_nullable_anything, Json.member_nullable_anything, hRecordedAt, hTags,
      hType]
    simp only [bind, Except.bind, hTypeGiven, hRecordedAtGiven, Json.getD_map_filter, hTagsGiven]
    rfl

/-- The names of the fields in the order in which an array has them. -/
def fieldNames : List String := ["type", "tags", "data", "metadata", "recorded_at", "position"]

/-- The item of an array that stands for a field. -/
def itemOf (items : List Json) (name : String) : Option Json := items[fieldNames.idxOf name]?

section Elements
variable (items : List Json) (index : Nat)

theorem element_tags_iff (tags : Option (List String)) :
    Json.element items index (.ok none) (Json.nullable Json.asTexts) = .ok tags ↔
      TagsOf items[index]? tags := by
  simp only [Json.element_eq_ok_iff, nullable_asTexts_eq_ok_iff]
  cases items[index]? with
  | none =>
      constructor
      · rintro (⟨-, h⟩ | ⟨v, h, -⟩)
        · cases h
          exact .absent
        · cases h
      · intro h
        cases h
        exact Or.inl ⟨rfl, rfl⟩
  | some v => simp

theorem element_anything :
    Json.element items index (.ok .null) Json.anything = .ok (items[index]?.getD .null) := by
  unfold Json.element
  cases items[index]? <;> rfl

end Elements

theorem ofItems_eq_ok_iff (items : List Json) (row : Row) :
    ofItems items = .ok row ↔ items.length ≤ 6 ∧ ReadFrom (itemOf items) row := by
  unfold ofItems Json.endsEarly
  constructor
  · intro h
    obtain ⟨type, hType, h⟩ := bind_eq_ok_iff.1 h
    obtain ⟨tags, hTags, h⟩ := bind_eq_ok_iff.1 h
    obtain ⟨data, hData, h⟩ := bind_eq_ok_iff.1 h
    obtain ⟨metadata, hMetadata, h⟩ := bind_eq_ok_iff.1 h
    obtain ⟨recordedAt, hRecordedAt, h⟩ := bind_eq_ok_iff.1 h
    obtain ⟨position, hPosition, h⟩ := bind_eq_ok_iff.1 h
    obtain ⟨_, hLength, h⟩ := bind_eq_ok_iff.1 h
    rw [element_anything] at hData
    rw [Json.element_nullable_anything] at hMetadata hPosition
    cases hData
    cases hMetadata
    cases hPosition
    cases h
    exact ⟨(Json.noFurther_eq_ok_iff items 6).1 hLength, {
      type_eq := (Json.element_asText_iff items 0 _ type).1 hType
      tags_of := (element_tags_iff items 1 tags).1 hTags
      data_eq := rfl
      metadata_eq := rfl
      recordedAt_eq := (Json.element_asText_iff items 4 _ recordedAt).1 hRecordedAt
      position_eq := rfl }⟩
  · rintro ⟨hLength, h⟩
    obtain ⟨type, tags, data, metadata, recordedAt, position⟩ := row
    obtain ⟨typed, tagged, rfl, rfl, dated, rfl⟩ := h
    rw [(Json.element_asText_iff items 0 _ type).2 typed, (element_tags_iff items 1 tags).2 tagged,
      element_anything, Json.element_nullable_anything, (Json.element_asText_iff items 4 _ recordedAt).2 dated,
      Json.element_nullable_anything, (Json.noFurther_eq_ok_iff items 6).2 hLength]
    rfl

/-! ## Stages -/

section Conditions
variable (find : String → Option Json)

/-- Whether the fields are of their kinds: the type and the recording time are texts, and the tags are
absent, null or a list of texts. -/
def Shaped : Prop :=
  (∃ type, find "type" = some (.string type)) ∧
    (find "tags" = none ∨ find "tags" = some .null ∨
      ∃ texts, find "tags" = some (.ofStrings texts)) ∧
    ∃ raw, find "recorded_at" = some (.string raw)

/-- Whether the position is given, by a number that is one. -/
def Placed : Prop :=
  ∃ v n, find "position" = some v ∧ Gives v n ∧ 1 ≤ n ∧ n < countBound

/-- Whether the recording time denotes an instant. -/
def Dated : Prop :=
  ∃ raw t, find "recorded_at" = some (.string raw) ∧ Stamp.read raw.toList = .ok t

structure WellFormed : Prop where
  shaped : Shaped find
  placed : Placed find
  dated : Dated find

theorem shaped_iff : Shaped find ↔ ∃ row, ReadFrom find row := by
  constructor
  · rintro ⟨⟨type, typed⟩, tagged, raw, dated⟩
    obtain ⟨tags, tagged⟩ : ∃ tags, TagsOf (find "tags") tags := by
      rcases tagged with h | h | ⟨texts, h⟩ <;> rw [h]
      · exact ⟨_, .absent⟩
      · exact ⟨_, .null⟩
      · exact ⟨_, .listed texts⟩
    exact ⟨⟨type, tags, _, _, raw, _⟩, typed, tagged, rfl, rfl, dated, rfl⟩
  · rintro ⟨row, typed, tagged, -, -, dated, -⟩
    refine ⟨⟨_, typed⟩, ?_, _, dated⟩
    generalize find "tags" = found, row.tags = tags at tagged ⊢
    cases tagged with
    | absent => exact Or.inl rfl
    | null => exact Or.inr (Or.inl rfl)
    | listed texts => exact Or.inr (Or.inr ⟨texts, rfl⟩)

variable {find} {row : Row} (hRow : ReadFrom find row)
include hRow

theorem ReadFrom.placed_iff : Placed find ↔ ∃ p, readPosition row.position = .ok p := by
  rw [exists_position_iff, hRow.position_eq]
  constructor
  · rintro ⟨v, n, hFound, hGives, inRange⟩
    have notNull : v ≠ .null := by
      rintro rfl
      cases hGives
    exact ⟨v, n, Option.filter_eq_some_iff.2 ⟨hFound, decide_eq_true notNull⟩, hGives, inRange⟩
  · rintro ⟨v, n, hFound, hGives, inRange⟩
    exact ⟨v, n, (Option.filter_eq_some_iff.1 hFound).1, hGives, inRange⟩

theorem ReadFrom.dated_iff : Dated find ↔ ∃ t, readStamp row.recordedAt = .ok t := by
  simp only [readStamp_eq_ok_iff]
  unfold Dated
  rw [hRow.recordedAt_eq]
  simp

end Conditions

/-- The stages at which a row may fail. -/
inductive Stage where
  | kinds
  | position
  | recordedAt
  deriving DecidableEq

def Fault.stage : Fault → Stage
  | .shape _ => .kinds
  | .positionNotNumeric _ | .positionZero => .position
  | .badStamp _ _ => .recordedAt

theorem stage_of_readPosition (raw : Option Json) (fault : Fault)
    (h : readPosition raw = .error fault) : fault.stage = .position := by
  unfold readPosition at h
  split at h
  · cases h
    rfl
  · split at h
    · cases h
      rfl
    · cases h

theorem stage_of_readStamp (raw : String) (fault : Fault) (h : readStamp raw = .error fault) :
    fault.stage = .recordedAt := by
  unfold readStamp at h
  cases hRead : Stamp.read raw.toList with
  | ok t =>
      rw [hRead] at h
      cases h
  | error cause =>
      rw [hRead] at h
      cases h
      rfl

section Decode
variable (typePrefix : String) (row : Json)

/-- What becomes of a row whose fields are found by `find`: it fails at the first stage of which the
condition does not hold, and decodes if all hold. -/
theorem decode_stages (find : String → Option Json)
    (hFields : ∀ fields, ofJson row = .ok fields ↔ ReadFrom find fields) :
    (¬ Shaped find ∧ ∃ fault, decode typePrefix row = .error fault ∧ fault.stage = .kinds) ∨
      (Shaped find ∧ ¬ Placed find ∧
        ∃ fault, decode typePrefix row = .error fault ∧ fault.stage = .position) ∨
      (Shaped find ∧ Placed find ∧ ¬ Dated find ∧
        ∃ fault, decode typePrefix row = .error fault ∧ fault.stage = .recordedAt) ∨
      (WellFormed find ∧ ∃ e, decode typePrefix row = .ok e) := by
  cases hRow : ofJson row with
  | error fault =>
      left
      refine ⟨?_, _, decode_of_ofJson_error typePrefix row fault hRow, rfl⟩
      intro shaped
      obtain ⟨fields, hRead⟩ := (shaped_iff find).1 shaped
      rw [(hFields fields).2 hRead] at hRow
      cases hRow
  | ok fields =>
      right
      have hRead := (hFields fields).1 hRow
      have shaped := (shaped_iff find).2 ⟨fields, hRead⟩
      rw [decode_of_ofJson_ok typePrefix row fields hRow]
      cases hPosition : readPosition fields.position with
      | error fault =>
          left
          refine ⟨shaped, ?_, fault, rfl, stage_of_readPosition _ fault hPosition⟩
          rw [hRead.placed_iff, hPosition]
          simp
      | ok p =>
          right
          have placed := hRead.placed_iff.2 ⟨p, hPosition⟩
          cases hTime : readStamp fields.recordedAt with
          | error fault =>
              left
              refine ⟨shaped, placed, ?_, fault, rfl, stage_of_readStamp _ fault hTime⟩
              rw [hRead.dated_iff, hTime]
              simp
          | ok t => exact Or.inr ⟨⟨shaped, placed, hRead.dated_iff.2 ⟨t, hTime⟩⟩, _, rfl⟩

/-- A row that does not decode is a decoding failure of the operation that reads it. -/
theorem exists_decode_failure_iff :
    (∃ reason, (decode typePrefix row).mapError Fault.toFailure = .error (.decode reason)) ↔
      ¬ ∃ e, decode typePrefix row = .ok e := by
  cases decode typePrefix row with
  | ok e => simp [Except.mapError]
  | error fault => simp [Except.mapError, Fault.toFailure]

theorem decodes_iff_wellFormed (find : String → Option Json)
    (hFields : ∀ fields, ofJson row = .ok fields ↔ ReadFrom find fields) :
    (∃ e, decode typePrefix row = .ok e) ↔ WellFormed find := by
  rcases decode_stages typePrefix row find hFields with
    ⟨notShaped, fault, hFault, -⟩ | ⟨-, notPlaced, fault, hFault, -⟩ |
      ⟨-, -, notDated, fault, hFault, -⟩ | ⟨wellFormed, e, hDecode⟩
  · simp only [hFault, reduceCtorEq, exists_false, false_iff]
    exact fun wellFormed => notShaped wellFormed.shaped
  · simp only [hFault, reduceCtorEq, exists_false, false_iff]
    exact fun wellFormed => notPlaced wellFormed.placed
  · simp only [hFault, reduceCtorEq, exists_false, false_iff]
    exact fun wellFormed => notDated wellFormed.dated
  · exact iff_of_true ⟨e, hDecode⟩ wellFormed

theorem fails_at_stage_iff (find : String → Option Json)
    (hFields : ∀ fields, ofJson row = .ok fields ↔ ReadFrom find fields) :
    ((∃ fault, decode typePrefix row = .error fault ∧ fault.stage = .kinds) ↔ ¬ Shaped find) ∧
      ((∃ fault, decode typePrefix row = .error fault ∧ fault.stage = .position) ↔
        Shaped find ∧ ¬ Placed find) ∧
      ((∃ fault, decode typePrefix row = .error fault ∧ fault.stage = .recordedAt) ↔
        Shaped find ∧ Placed find ∧ ¬ Dated find) := by
  rcases decode_stages typePrefix row find hFields with
    ⟨notShaped, fault, hFault, hStage⟩ | ⟨shaped, notPlaced, fault, hFault, hStage⟩ |
      ⟨shaped, placed, notDated, fault, hFault, hStage⟩ | ⟨⟨shaped, placed, dated⟩, e, hDecode⟩
  · simp [hFault, hStage, notShaped]
  · simp [hFault, hStage, shaped, notPlaced]
  · simp [hFault, hStage, shaped, placed, notDated]
  · simp [hDecode, shaped, placed, dated]

end Decode

/-! ## Objects -/

/-- The names of the members that decide whether an object decodes. -/
def decisiveNames : List String := ["position", "recorded_at", "tags", "type"]

def decisive (members : List (String × Json)) : List (String × Json) :=
  members.filter fun m => m.1 ∈ decisiveNames

/-- A recorded event without payload and metadata. -/
def bare (e : RecordedEvent) : RecordedEvent :=
  { e with event := { e.event with data := .null, metadata := none } }

section Objects
variable (members : List (String × Json))

theorem lookup_decisive (name : String) :
    Json.lookup (decisive members) name =
      if name ∈ decisiveNames then Json.lookup members name else none := by
  induction members with
  | nil => simp [decisive, Json.lookup]
  | cons m members ih =>
      obtain ⟨k, v⟩ := m
      unfold decisive Json.lookup at ih ⊢
      by_cases hName : name = k
      · subst hName
        by_cases hKept : name ∈ decisiveNames
        · simp [hKept]
        · simp only [hKept, if_false] at ih
          simp [hKept, ih]
      · have other : (name == k) = false := beq_eq_false_iff_ne.2 hName
        rw [List.lookup_cons, other, ← ih, List.filter_cons]
        split
        · rw [List.lookup_cons, other]
        · rfl

theorem member_decisive {α : Type} (read : Json.Field α) (name : String)
    (hName : name ∈ decisiveNames) :
    Json.member (decisive members) name read = Json.member members name read := by
  unfold Json.member
  rw [lookup_decisive, if_pos hName]

theorem ofMembers_decisive :
    ofMembers (decisive members) =
      (ofMembers members).map fun row => { row with data := .null, metadata := none } := by
  have noData : Json.lookup (decisive members) "data" = none := by
    rw [lookup_decisive, if_neg (by decide)]
  have noMetadata : Json.lookup (decisive members) "metadata" = none := by
    rw [lookup_decisive, if_neg (by decide)]
  have samePosition : Json.lookup (decisive members) "position" = Json.lookup members "position" := by
    rw [lookup_decisive, if_pos (by decide)]
  -- payload, metadata and position are taken as they are; the others are taken alike on both sides
  unfold ofMembers
  simp only [Json.member_anything, Json.member_nullable_anything, noData, noMetadata, samePosition,
    member_decisive members _ "recorded_at" (by decide),
    member_decisive members _ "tags" (by decide), member_decisive members _ "type" (by decide)]
  cases Json.member members "recorded_at" Json.asText with
  | error fault => rfl
  | ok recordedAt =>
      cases Json.member members "tags" (Json.nullable Json.asTexts) with
      | error fault => rfl
      | ok tags =>
          cases Json.member members "type" Json.asText with
          | error fault => rfl
          | ok type => cases type <;> cases recordedAt <;> rfl

/-- Without the other members an object is the same to the decoder, but for payload and metadata. -/
theorem decode_decisive (typePrefix : String) :
    decode typePrefix (.object (decisive members)) =
      (decode typePrefix (.object members)).map bare := by
  have fields : ofJson (.object (decisive members)) =
      (ofJson (.object members)).map fun row => { row with data := .null, metadata := none } :=
    ofMembers_decisive members
  unfold decode
  rw [fields]
  cases ofJson (.object members) with
  | error fault => rfl
  | ok row =>
      simp only [Except.map, Except.mapError, bind, Except.bind]
      cases readPosition row.position with
      | error fault => rfl
      | ok p => cases readStamp row.recordedAt <;> rfl

/-- An object decodes, in whatever namespace, exactly if its fields are of their kinds, its position
is given by a number that is one, and its recording time denotes an instant; else it is a decoding
failure.  A field of a wrong kind is reported before a position that is none, and that before a
recording time that is none.  All other members, and what payload and metadata hold, make no
difference to the answer. -/
theorem object_decodes_iff_wellFormed (typePrefix : String) :
    ((∃ e, decode typePrefix (.object members) = .ok e) ↔ WellFormed (Json.lookup members)) ∧
      ((∃ reason, (decode typePrefix (.object members)).mapError Fault.toFailure =
          .error (.decode reason)) ↔ ¬ WellFormed (Json.lookup members)) ∧
      ((∃ fault, decode typePrefix (.object members) = .error fault ∧ fault.stage = .kinds) ↔
        ¬ Shaped (Json.lookup members)) ∧
      ((∃ fault, decode typePrefix (.object members) = .error fault ∧ fault.stage = .position) ↔
        Shaped (Json.lookup members) ∧ ¬ Placed (Json.lookup members)) ∧
      ((∃ fault, decode typePrefix (.object members) = .error fault ∧ fault.stage = .recordedAt) ↔
        Shaped (Json.lookup members) ∧ Placed (Json.lookup members) ∧
          ¬ Dated (Json.lookup members)) ∧
      decode typePrefix (.object (decisive members)) =
        (decode typePrefix (.object members)).map bare := by
  have fields := ofMembers_eq_ok_iff members
  have accepted := decodes_iff_wellFormed typePrefix (.object members) _ fields
  have failed := (exists_decode_failure_iff typePrefix (.object members)).trans (not_congr accepted)
  obtain ⟨kinds, position, recordedAt⟩ := fails_at_stage_iff typePrefix (.object members) _ fields
  exact ⟨accepted, failed, kinds, position, recordedAt, decode_decisive members typePrefix⟩

end Objects

/-! ## Values other than objects -/

/-- The position is the last item of an array, so an array that decodes has all six. -/
theorem length_of_placed (items : List Json) (h : Placed (itemOf items)) : 6 ≤ items.length := by
  obtain ⟨v, n, hFound, -⟩ := h
  obtain ⟨lastIndex, -⟩ := List.getElem?_eq_some_iff.1 (show items[5]? = some v from hFound)
  exact lastIndex

theorem array_decodes_iff (typePrefix : String) (items : List Json) :
    (∃ e, decode typePrefix (.array items) = .ok e) ↔
      items.length = 6 ∧ WellFormed (itemOf items) := by
  by_cases hLength : items.length ≤ 6
  · have fields : ∀ fields, ofJson (.array items) = .ok fields ↔ ReadFrom (itemOf items) fields := by
      intro fields
      exact (ofItems_eq_ok_iff items fields).trans (and_iff_right hLength)
    rw [decodes_iff_wellFormed typePrefix (.array items) _ fields]
    constructor
    · intro wellFormed
      exact ⟨Nat.le_antisymm hLength (length_of_placed items wellFormed.placed), wellFormed⟩
    · exact And.right
  · have tooLong : items.length ≠ 6 := by omega
    simp only [tooLong, false_and, iff_false]
    rintro ⟨e, hDecode⟩
    obtain ⟨fields, hFields, -⟩ := (decode_eq_ok_iff typePrefix (.array items) e).1 hDecode
    exact hLength ((ofItems_eq_ok_iff items fields).1 hFields).1

/-- A row that is no object is rejected, unless it is an array of six items that are well-formed as
the fields of a row in their declared order. -/
theorem nonobject_rejected_iff (typePrefix : String) (row : Json)
    (hRow : ∀ members, row ≠ .object members) :
    (∃ reason, (decode typePrefix row).mapError Fault.toFailure = .error (.decode reason)) ↔
      ¬ ∃ items, row = .array items ∧ items.length = 6 ∧ WellFormed (itemOf items) := by
  rw [exists_decode_failure_iff]
  apply not_congr
  cases row with
  | object members => exact absurd rfl (hRow members)
  | array items =>
      rw [array_decodes_iff]
      simp
  | null | bool _ | number _ | string _ => simp [decode, ofJson, Except.mapError, bind, Except.bind]

/-- The six fields of a row without their names. -/
def sixItems (place : Nat) : Json :=
  .array [.string "events.dcb.A", .ofStrings ["b", "a"], .object [("x", .ofNat 1)],
    .object [("m", .ofNat 1)], .string "2024-01-02 03:04:05", .ofNat place]

theorem six_items_at_zero_rejected :
    (∀ members, sixItems 0 ≠ .object members) ∧
      ∃ reason, (decode "events.dcb." (sixItems 0)).mapError Fault.toFailure =
        .error (.decode reason) := by
  refine ⟨nofun, (nonobject_rejected_iff "events.dcb." (sixItems 0) nofun).2 ?_⟩
  rintro ⟨items, hItems, -, wellFormed⟩
  cases hItems
  obtain ⟨v, n, hFound, hGives, positive, -⟩ := wellFormed.placed
  cases hFound
  cases hGives
  exact absurd positive (by decide)

/-- At a position, the same items decode, although they are no object. -/
theorem six_items_at_seven_decode :
    ¬ ∀ (typePrefix : String) (row : Json), (∀ members, row ≠ .object members) →
      ∃ reason, (decode typePrefix row).mapError Fault.toFailure = .error (.decode reason) := by
  intro rejected
  obtain ⟨reason, hReason⟩ := rejected "events.dcb." (sixItems 7) nofun
  cases hReason

end BoundaryLog.Row
