import BoundaryLog.Proofs.Shapes

/-! # Records and guards as documents

A record or a guard is read from an object, by the names of its fields, or from an array, by their
order, and so is what is nested in it.  For each of the four shapes there is one iff: what is read is
what the fields say.  Writing names every field except metadata that is absent, and absent is also
what metadata that is null is read as.  So null metadata is all that a record can lose on its way,
and what was read once has none. -/
set_option autoImplicit false
namespace BoundaryLog

/-- How the fields of a shape, named in declared order, are found in a value: by name in an object,
by their place in an array that does not go on after the last one. -/
def Json.fields? (names : List String) : Json → Option (String → Option Json)
  | .object members => some (lookup members)
  | .array items =>
      if items.length ≤ names.length then some fun name => items[names.idxOf name]? else none
  | _ => none

/-! ## The data of a record -/

namespace RecordData

def fieldNames : List String := ["payload", "tags", "recorded_at", "metadata"]

/-- What the data of a record are read from: metadata may be missing, and null stands for
nothing. -/
structure ReadFrom (find : String → Option Json) (d : RecordData) : Prop where
  payload_eq : find "payload" = some d.payload
  tags_eq : find "tags" = some (.ofStrings d.tags)
  recordedAt_eq : find "recorded_at" = some (.string d.recordedAt)
  metadata_eq : d.metadata = (find "metadata").filter (· ≠ .null)

theorem ofMembers_eq_ok_iff (members : List (String × Json)) (d : RecordData) :
    ofMembers members = .ok d ↔ ReadFrom (Json.lookup members) d := by
  have payload := Json.required_member_iff Json.anything members "payload"
  have tags := Json.required_member_iff Json.asTexts members "tags"
  have recordedAt := Json.required_asText_iff members "recorded_at"
  simp only [Json.asTexts_eq_ok_iff, exists_eq_right] at tags
  -- The members are looked up first, all of them, and only then are the required ones asked for.
  unfold ofMembers
  constructor
  · intro h
    obtain ⟨metadata, hMetadata, h⟩ := bind_eq_ok_iff.1 h
    obtain ⟨payload?, hPayload, h⟩ := bind_eq_ok_iff.1 h
    obtain ⟨recordedAt?, hRecordedAt, h⟩ := bind_eq_ok_iff.1 h
    obtain ⟨tags?, hTags, h⟩ := bind_eq_ok_iff.1 h
    obtain ⟨_, hPayloadGiven, h⟩ := bind_eq_ok_iff.1 h
    obtain ⟨_, hTagsGiven, h⟩ := bind_eq_ok_iff.1 h
    obtain ⟨_, hRecordedAtGiven, h⟩ := bind_eq_ok_iff.1 h
    rw [Json.member_nullable_anything] at hMetadata
    cases hMetadata
    cases h
    obtain ⟨v, hFound, hRead⟩ := (payload _).1 ⟨_, hPayload, hPayloadGiven⟩
    cases hRead
    exact ⟨hFound, (tags _).1 ⟨_, hTags, hTagsGiven⟩,
      (recordedAt _).1 ⟨_, hRecordedAt, hRecordedAtGiven⟩, Json.getD_map_filter _⟩
  · intro h
    obtain ⟨payloadOf, tagsOf, recordedAtOf, metadataOf⟩ := h
    obtain ⟨payload?, hPayload, hPayloadGiven⟩ := (payload d.payload).2 ⟨_, payloadOf, rfl⟩
    obtain ⟨tags?, hTags, hTagsGiven⟩ := (tags d.tags).2 tagsOf
    obtain ⟨recordedAt?, hRecordedAt, hRecordedAtGiven⟩ := (recordedAt d.recordedAt).2 recordedAtOf
    rw [Json.member_nullable_anything, hPayload, hRecordedAt, hTags]
    simp only [bind, Except.bind, hPayloadGiven, hTagsGiven, hRecordedAtGiven, Json.getD_map_filter,
      ← metadataOf]
    rfl

theorem ofItems_eq_ok_iff (items : List Json) (d : RecordData) :
    ofItems items = .ok d ↔
      items.length ≤ fieldNames.length ∧ ReadFrom (fun name => items[fieldNames.idxOf name]?) d := by
  have payload := Json.required_element_iff Json.anything items 0
  have tags := Json.required_element_iff Json.asTexts items 1
  have recordedAt := Json.element_asText_iff items 2
  simp only [Json.asTexts_eq_ok_iff, exists_eq_right] at tags
  unfold ofItems Json.endsEarly
  constructor
  · intro h
    obtain ⟨_, hPayload, h⟩ := bind_eq_ok_iff.1 h
    obtain ⟨_, hTags, h⟩ := bind_eq_ok_iff.1 h
    obtain ⟨_, hRecordedAt, h⟩ := bind_eq_ok_iff.1 h
    obtain ⟨metadata, hMetadata, h⟩ := bind_eq_ok_iff.1 h
    obtain ⟨_, hLength, h⟩ := bind_eq_ok_iff.1 h
    rw [Json.element_nullable_anything] at hMetadata
    cases hMetadata
    cases h
    obtain ⟨v, hFound, hRead⟩ := (payload _ _).1 hPayload
    cases hRead
    exact ⟨(Json.noFurther_eq_ok_iff items 4).1 hLength, hFound, (tags _ _).1 hTags,
      (recordedAt _ _).1 hRecordedAt, rfl⟩
  · rintro ⟨hLength, payloadOf, tagsOf, recordedAtOf, metadataOf⟩
    have hMetadata : d.metadata = items[3]?.filter (· ≠ .null) := metadataOf
    rw [(payload _ d.payload).2 ⟨_, payloadOf, rfl⟩, (tags _ d.tags).2 tagsOf,
      (recordedAt _ d.recordedAt).2 recordedAtOf, Json.element_nullable_anything, ← hMetadata,
      (Json.noFurther_eq_ok_iff items 4).2 hLength]
    rfl

theorem ofJson_eq_ok_iff (v : Json) (d : RecordData) :
    ofJson v = .ok d ↔ ∃ find, v.fields? fieldNames = some find ∧ ReadFrom find d := by
  cases v with
  | object members => simp [ofJson, Json.fields?, ofMembers_eq_ok_iff]
  | array items => simp [ofJson, Json.fields?, ofItems_eq_ok_iff]
  | null | bool _ | number _ | string _ => simp [ofJson, Json.fields?]

end RecordData

/-! ## Records -/

namespace Record

def fieldNames : List String := ["source", "subject", "type", "data"]

/-- What a record is read from. -/
structure ReadFrom (find : String → Option Json) (r : Record) : Prop where
  source_eq : find "source" = some (.string r.source)
  subject_eq : find "subject" = some (.string r.subject)
  type_eq : find "type" = some (.string r.type)
  data_of : ∃ v, find "data" = some v ∧ RecordData.ofJson v = .ok r.data

theorem ofMembers_eq_ok_iff (members : List (String × Json)) (r : Record) :
    ofMembers members = .ok r ↔ ReadFrom (Json.lookup members) r := by
  have text := Json.required_asText_iff members
  have data := Json.required_member_iff RecordData.ofJson members "data"
  unfold ofMembers
  constructor
  · intro h
    obtain ⟨_, hData, h⟩ := bind_eq_ok_iff.1 h
    obtain ⟨_, hSource, h⟩ := bind_eq_ok_iff.1 h
    obtain ⟨_, hSubject, h⟩ := bind_eq_ok_iff.1 h
    obtain ⟨_, hType, h⟩ := bind_eq_ok_iff.1 h
    obtain ⟨_, hSourceGiven, h⟩ := bind_eq_ok_iff.1 h
    obtain ⟨_, hSubjectGiven, h⟩ := bind_eq_ok_iff.1 h
    obtain ⟨_, hTypeGiven, h⟩ := bind_eq_ok_iff.1 h
    obtain ⟨_, hDataGiven, h⟩ := bind_eq_ok_iff.1 h
    cases h
    exact ⟨(text "source" _).1 ⟨_, hSource, hSourceGiven⟩,
      (text "subject" _).1 ⟨_, hSubject, hSubjectGiven⟩, (text "type" _).1 ⟨_, hType, hTypeGiven⟩,
      (data _).1 ⟨_, hData, hDataGiven⟩⟩
  · rintro ⟨sourceOf, subjectOf, typeOf, dataOf⟩
    obtain ⟨_, hSource, hSourceGiven⟩ := (text "source" r.source).2 sourceOf
    obtain ⟨_, hSubject, hSubjectGiven⟩ := (text "subject" r.subject).2 subjectOf
    obtain ⟨_, hType, hTypeGiven⟩ := (text "type" r.type).2 typeOf
    obtain ⟨_, hData, hDataGiven⟩ := (data r.data).2 dataOf
    rw [hData, hSource, hSubject, hType]
    simp only [bind, Except.bind, hSourceGiven, hSubjectGiven, hTypeGiven, hDataGiven]
    rfl

theorem ofItems_eq_ok_iff (items : List Json) (r : Record) :
    ofItems items = .ok r ↔
      items.length ≤ fieldNames.length ∧ ReadFrom (fun name => items[fieldNames.idxOf name]?) r := by
  have text := Json.element_asText_iff items
  have data := Json.required_element_iff RecordData.ofJson items 3
  unfold ofItems Json.endsEarly
  constructor
  · intro h
    obtain ⟨_, hSource, h⟩ := bind_eq_ok_iff.1 h
    obtain ⟨_, hSubject, h⟩ := bind_eq_ok_iff.1 h
    obtain ⟨_, hType, h⟩ := bind_eq_ok_iff.1 h
    obtain ⟨_, hData, h⟩ := bind_eq_ok_iff.1 h
    obtain ⟨_, hLength, h⟩ := bind_eq_ok_iff.1 h
    cases h
    exact ⟨(Json.noFurther_eq_ok_iff items 4).1 hLength, (text 0 _ _).1 hSource,
      (text 1 _ _).1 hSubject, (text 2 _ _).1 hType, (data _ _).1 hData⟩
  · rintro ⟨hLength, sourceOf, subjectOf, typeOf, dataOf⟩
    rw [(text 0 _ r.source).2 sourceOf, (text 1 _ r.subject).2 subjectOf, (text 2 _ r.type).2 typeOf,
      (data _ r.data).2 dataOf, (Json.noFurther_eq_ok_iff items 4).2 hLength]
    rfl

theorem ofJson_eq_ok_iff (v : Json) (r : Record) :
    ofJson v = .ok r ↔ ∃ find, v.fields? fieldNames = some find ∧ ReadFrom find r := by
  cases v with
  | object members => simp [ofJson, Json.fields?, ofMembers_eq_ok_iff]
  | array items => simp [ofJson, Json.fields?, ofItems_eq_ok_iff]
  | null | bool _ | number _ | string _ => simp [ofJson, Json.fields?]

end Record

/-! ## Guards -/

namespace Guard

/-- The payload of a guard has a single field. -/
theorem programOfJson_eq_ok_iff (v : Json) (program : String) :
    programOfJson v = .ok program ↔
      ∃ find, v.fields? ["query"] = some find ∧ find "query" = some (.string program) := by
  cases v with
  | object members =>
      have query := Json.required_asText_iff members "query" program
      simp only [programOfJson, bind_eq_ok_iff, query, Json.fields?, Option.some.injEq,
        exists_eq_left']
  | array items =>
      have query := Json.element_asText_iff items 0
      have length := Json.noFurther_eq_ok_iff items 1
      simp only [programOfJson, Json.endsEarly, Json.fields?, List.length_singleton]
      constructor
      · intro h
        obtain ⟨_, hQuery, h⟩ := bind_eq_ok_iff.1 h
        obtain ⟨_, hLength, h⟩ := bind_eq_ok_iff.1 h
        cases h
        exact ⟨_, if_pos (length.1 hLength), (query _ _).1 hQuery⟩
      · rintro ⟨find, hFind, hQuery⟩
        obtain ⟨hLength, hFind⟩ := Option.ite_none_right_eq_some.1 hFind
        cases hFind
        rw [(query _ program).2 hQuery, length.2 hLength]
        rfl
  | null | bool _ | number _ | string _ => simp [programOfJson, Json.fields?]

def fieldNames : List String := ["type", "payload"]

/-- What a guard is read from. -/
structure ReadFrom (find : String → Option Json) (g : Guard) : Prop where
  kind_eq : find "type" = some (.string g.kind)
  program_of : ∃ v, find "payload" = some v ∧ programOfJson v = .ok g.program

theorem ofMembers_eq_ok_iff (members : List (String × Json)) (g : Guard) :
    ofMembers members = .ok g ↔ ReadFrom (Json.lookup members) g := by
  have kind := Json.required_asText_iff members "type"
  have program := Json.required_member_iff programOfJson members "payload"
  unfold ofMembers
  constructor
  · intro h
    obtain ⟨_, hProgram, h⟩ := bind_eq_ok_iff.1 h
    obtain ⟨_, hKind, h⟩ := bind_eq_ok_iff.1 h
    obtain ⟨_, hKindGiven, h⟩ := bind_eq_ok_iff.1 h
    obtain ⟨_, hProgramGiven, h⟩ := bind_eq_ok_iff.1 h
    cases h
    exact ⟨(kind _).1 ⟨_, hKind, hKindGiven⟩, (program _).1 ⟨_, hProgram, hProgramGiven⟩⟩
  · rintro ⟨kindOf, programOf⟩
    obtain ⟨_, hKind, hKindGiven⟩ := (kind g.kind).2 kindOf
    obtain ⟨_, hProgram, hProgramGiven⟩ := (program g.program).2 programOf
    rw [hProgram, hKind]
    simp only [bind, Except.bind, hKindGiven, hProgramGiven]
    rfl

theorem ofItems_eq_ok_iff (items : List Json) (g : Guard) :
    ofItems items = .ok g ↔
      items.length ≤ fieldNames.length ∧ ReadFrom (fun name => items[fieldNames.idxOf name]?) g := by
  have kind := Json.element_asText_iff items 0
  have program := Json.required_element_iff programOfJson items 1
  unfold ofItems Json.endsEarly
  constructor
  · intro h
    obtain ⟨_, hKind, h⟩ := bind_eq_ok_iff.1 h
    obtain ⟨_, hProgram, h⟩ := bind_eq_ok_iff.1 h
    obtain ⟨_, hLength, h⟩ := bind_eq_ok_iff.1 h
    cases h
    exact ⟨(Json.noFurther_eq_ok_iff items 2).1 hLength, (kind _ _).1 hKind,
      (program _ _).1 hProgram⟩
  · rintro ⟨hLength, kindOf, programOf⟩
    rw [(kind _ g.kind).2 kindOf, (program _ g.program).2 programOf,
      (Json.noFurther_eq_ok_iff items 2).2 hLength]
    rfl

theorem ofJson_eq_ok_iff (v : Json) (g : Guard) :
    ofJson v = .ok g ↔ ∃ find, v.fields? fieldNames = some find ∧ ReadFrom find g := by
  cases v with
  | object members => simp [ofJson, Json.fields?, ofMembers_eq_ok_iff]
  | array items => simp [ofJson, Json.fields?, ofItems_eq_ok_iff]
  | null | bool _ | number _ | string _ => simp [ofJson, Json.fields?]

end Guard

/-! ## There and back -/

theorem RecordData.ofJson_toJson (d : RecordData) :
    ofJson d.toJson = .ok { d with metadata := d.metadata.filter (· ≠ .null) } := by
  obtain ⟨payload, tags, recordedAt, metadata⟩ := d
  refine (ofJson_eq_ok_iff _ _).2 ⟨_, rfl, ?_⟩
  cases metadata with
  | none => exact ⟨rfl, rfl, rfl, rfl⟩
  | some v => exact ⟨rfl, rfl, rfl, rfl⟩

/-- The data that some value is read as have no metadata that is null. -/
theorem RecordData.metadata_ne_of_ofJson (v : Json) (d : RecordData) (h : ofJson v = .ok d) :
    d.metadata ≠ some .null := by
  obtain ⟨find, -, hRead⟩ := (ofJson_eq_ok_iff v d).1 h
  rw [hRead.metadata_eq]
  exact Json.filtered_ne_null (find "metadata")

/-- A record without its metadata if that is null. -/
def Record.withoutNull (r : Record) : Record :=
  { r with data := { r.data with
    metadata := if r.data.metadata = some .null then none else r.data.metadata } }

theorem Record.ofJson_toJson (r : Record) : ofJson r.toJson = .ok r.withoutNull := by
  have data : RecordData.ofJson r.data.toJson = .ok r.withoutNull.data := by
    rw [RecordData.ofJson_toJson, Json.filter_ne_null]
    rfl
  exact (ofJson_eq_ok_iff _ _).2 ⟨_, rfl, rfl, rfl, rfl, _, rfl, data⟩

theorem Record.metadata_ne_of_ofJson (v : Json) (r : Record) (h : ofJson v = .ok r) :
    r.data.metadata ≠ some .null := by
  obtain ⟨find, -, hRead⟩ := (ofJson_eq_ok_iff v r).1 h
  obtain ⟨data, -, hData⟩ := hRead.data_of
  exact RecordData.metadata_ne_of_ofJson data r.data hData

/-- Null metadata is all that a record loses as a document. -/
theorem Record.ofJson_toJson_self_iff (r : Record) :
    ofJson r.toJson = .ok r ↔ r.data.metadata ≠ some .null := by
  constructor
  · exact metadata_ne_of_ofJson r.toJson r
  · intro notNull
    rw [ofJson_toJson, withoutNull, if_neg notNull]

theorem Guard.ofJson_toJson (g : Guard) : ofJson g.toJson = .ok g := by
  have payload : programOfJson (.object [("query", .string g.program)]) = .ok g.program :=
    (programOfJson_eq_ok_iff _ _).2 ⟨_, rfl, rfl⟩
  exact (ofJson_eq_ok_iff _ g).2 ⟨_, rfl, rfl, _, rfl, payload⟩

/-- Records and guards survive as documents.  A record comes back from its own document, without its
metadata if that is null, and this is the only case in which it is not the same record.  Whatever
value a record was read from, an object or an array on either level, its own document is an object
that is read as this record, and what is read has the same document.  A guard always comes back from
its own document, which is an object too. -/
theorem records_and_guards_settle_as_documents :
    (∀ r : Record, Record.ofJson r.toJson = .ok r.withoutNull ∧
      (Record.ofJson r.toJson = .ok r ↔ r.data.metadata ≠ some .null)) ∧
    (∀ (v : Json) (r : Record), Record.ofJson v = .ok r →
      (∃ members, r.toJson = .object members) ∧ Record.ofJson r.toJson = .ok r ∧
        ∀ again, Record.ofJson r.toJson = .ok again → again.toJson = r.toJson) ∧
    (∀ g : Guard, Guard.ofJson g.toJson = .ok g) ∧
    ∀ (v : Json) (g : Guard), Guard.ofJson v = .ok g →
      (∃ members, g.toJson = .object members) ∧ Guard.ofJson g.toJson = .ok g ∧
        ∀ again, Guard.ofJson g.toJson = .ok again → again.toJson = g.toJson := by
  refine ⟨fun r => ⟨r.ofJson_toJson, r.ofJson_toJson_self_iff⟩, ?_, Guard.ofJson_toJson, ?_⟩
  · intro v r hRead
    have back := r.ofJson_toJson_self_iff.2 (Record.metadata_ne_of_ofJson v r hRead)
    refine ⟨⟨_, rfl⟩, back, ?_⟩
    intro again hAgain
    rw [Except.ok.inj (hAgain.symm.trans back)]
  · intro v g _
    have back := g.ofJson_toJson
    refine ⟨⟨_, rfl⟩, back, ?_⟩
    intro again hAgain
    rw [Except.ok.inj (hAgain.symm.trans back)]

/-- A record as an object with a member too many, whose data are an array that ends with null. -/
def looseRecord : Json :=
  .object [("data", .array [.null, .ofStrings ["b", "a"], .string "2024-01-01 00:00:00", .null]),
    ("id", .ofNat 7), ("source", .string "here"), ("subject", .string "/"), ("type", .string "ns.A")]

/-- A guard as an array with an array in it. -/
def looseGuard : Json := .array [.string Guard.queryKind, .array [.string "FROM e IN events"]]

theorem loose_documents_settle :
    ∃ r g, Record.ofJson looseRecord = .ok r ∧ r.data.metadata = none ∧
      Record.ofJson r.toJson = .ok r ∧ r.toJson ≠ looseRecord ∧
      Guard.ofJson looseGuard = .ok g ∧ Guard.ofJson g.toJson = .ok g ∧ g.toJson ≠ looseGuard := by
  obtain ⟨-, records, -, guards⟩ := records_and_guards_settle_as_documents
  have hRecord : Record.ofJson looseRecord =
      .ok ⟨"here", "/", "ns.A", ⟨.null, ["b", "a"], "2024-01-01 00:00:00", none⟩⟩ := rfl
  have hGuard : Guard.ofJson looseGuard = .ok (.isTrue "FROM e IN events") := rfl
  exact ⟨_, _, hRecord, rfl, (records _ _ hRecord).2.1, by decide, hGuard, (guards _ _ hGuard).2.1,
    nofun⟩

end BoundaryLog
