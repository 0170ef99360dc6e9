import KernelClient.Proofs.Json.ReadBack
import KernelClient.Proofs.Message.Layout

/-!
# Messages through frames and back

A message is written into a frame as a list of parts, and read from the parts that the frame is cut
into. What is read for an object is the same object with its fields in increasing order, so a
message read back has to be compared by its fields: `Message.IsStored` says of an object that it has
the fields of a message, whatever their order. That such an object passes the same checks and gives
the same message is shown once for both framings. What is left for each of them is its layout.

Texts, headers and the objects around values are always read back. Whether dates and values are is
up to their own writers, so this is assumed, as `Message.ReadsBack`.
-/

namespace KernelClient

open Json (Fields)

namespace Header

/-- The fields of a header with their texts, in the order in which they are sent. -/
def texts (header : Header) : List (String × String) := [
  ("msg_id", header.msgId),
  ("username", header.username),
  ("session", header.session),
  ("date", header.date.render),
  ("msg_type", header.msgType),
  ("version", header.version)]

/-- What is read where a header was written: the same fields in increasing order. -/
def stored (header : Header) : Json :=
  .ofFields (header.texts.map fun field => (field.1, .string field.2))

theorem stored_eq (header : Header) :
    header.stored = .object [
      ("date", .string header.date.render),
      ("msg_id", .string header.msgId),
      ("msg_type", .string header.msgType),
      ("session", .string header.session),
      ("username", .string header.username),
      ("version", .string header.version)] := by
  simp only [stored, texts, Json.ofFields, Fields.ofList, List.map_cons, List.map_nil,
    List.foldl_cons, List.foldl_nil, Fields.insert, String.reduceLT, String.reduceEq, reduceIte]

/-- A header is always read back, whatever its texts are. -/
theorem parseWithin?_toJson (limit : Nat) (header : Header) :
    Json.parseWithin? (limit + 1) header.toJson.render = some header.stored := by
  let fields : List (String × Json × Json) :=
    header.texts.map fun field => (field.1, .string field.2, .string field.2)
  have written : header.toJson = .object (fields.map fun field => (field.1, field.2.1)) := rfl
  have read : header.stored = .ofFields (fields.map fun field => (field.1, field.2.2)) := rfl
  rw [written, read]
  refine Json.parseWithin?_object fields fun field member => ?_
  obtain ⟨text, -, rfl⟩ := List.mem_map.mp member
  exact Json.parseWithin?_string limit text.2

/-- A header is found again in what is read for it, if its date is. -/
theorem ofJson?_stored {header : Header}
    (date : Instant.parse? header.date.render = some header.date) :
    ofJson? header.stored = some header := by
  rw [stored_eq]
  simp [ofJson?, dateOfJson?, Json.stringField?, Json.field?, Fields.get?_cons, Json.asString?,
    date]

theorem checkHeader_toJson (part : String) (header : Header) :
    Message.checkHeader part header.toJson = .ok () :=
  rfl

theorem checkHeader_stored (part : String) (header : Header) :
    Message.checkHeader part header.stored = .ok () := by
  rw [stored_eq]
  rfl

theorem msgType_stored (header : Header) :
    header.stored.stringField? "msg_type" = some header.msgType := by
  rw [stored_eq]
  rfl

end Header

namespace Message

/-- What is read where the header of a parent was written. -/
def storedParent (message : Message) : Json :=
  match message.parentHeader with
  | some header => header.stored
  | none => .emptyObject

/-- Whether named values are those of a message, with what is read for its headers. -/
structure IsStored (message : Message) (fields : Fields) : Prop where
  header : fields.get? "header" = some message.header.stored
  parent : fields.get? "parent_header" = some message.storedParent
  metadata : fields.get? "metadata" = some message.metadata
  content : fields.get? "content" = some message.content
  channel : fields.get? "channel" = message.channel.map fun channel => .string channel.name

theorem parseWithin?_parentToJson (limit : Nat) (message : Message) :
    Json.parseWithin? (limit + 1) message.parentToJson.render = some message.storedParent := by
  unfold parentToJson storedParent
  cases message.parentHeader with
  | some header => exact header.parseWithin?_toJson limit
  | none => exact Json.parseWithin?_object [] (by simp)

theorem checkParent_parentToJson (message : Message) :
    checkParent (some message.parentToJson) = .ok () := by
  unfold parentToJson
  cases message.parentHeader with
  | some header => rfl
  | none => rfl

theorem checkParent_storedParent (message : Message) :
    checkParent (some message.storedParent) = .ok () := by
  unfold storedParent
  cases message.parentHeader with
  | some header =>
      dsimp only
      rw [Header.stored_eq]
      rfl
  | none => rfl

/-- Two objects whose headers and parents pass the check, with the same type, metadata, content and
channel, have the same faults. -/
theorem checkShape_congr {first second firstHeader secondHeader : Fields}
    (firstHas : first.get? "header" = some (.object firstHeader))
    (secondHas : second.get? "header" = some (.object secondHeader))
    (firstChecked : checkHeader "header" (.object firstHeader) = .ok ())
    (secondChecked : checkHeader "header" (.object secondHeader) = .ok ())
    (msgType : (Json.object firstHeader).stringField? "msg_type" =
      (Json.object secondHeader).stringField? "msg_type")
    (firstParent : checkParent (first.get? "parent_header") = .ok ())
    (secondParent : checkParent (second.get? "parent_header") = .ok ())
    (metadata : first.get? "metadata" = second.get? "metadata")
    (content : first.get? "content" = second.get? "content")
    (channel : first.get? "channel" = second.get? "channel") :
    checkShape (.object first) = checkShape (.object second) := by
  have parts (part : String) (same : first.get? part = second.get? part) :
      checkPart part (.object first) = checkPart part (.object second) := by
    simp only [checkPart, Json.field?, same]
  have contents (msgType field : String) :
      checkContent (.object first) msgType field = checkContent (.object second) msgType field := by
    simp only [checkContent, Json.field?, content]
  simp only [checkShape, Json.field?, firstHas, secondHas, bind, Except.bind, firstChecked,
    secondChecked, firstParent, secondParent, parts _ metadata, parts _ content, channel, msgType,
    contents]

theorem checkShape_stored {message : Message} {fields : Fields}
    (stored : message.IsStored fields) :
    checkShape (.object fields) = checkShape message.toJson := by
  have header := stored.header
  rw [Header.stored_eq] at header
  refine checkShape_congr header rfl ?_ (message.header.checkHeader_toJson "header") ?_ ?_
    message.checkParent_parentToJson stored.metadata stored.content ?_
  · rw [← Header.stored_eq]
    exact message.header.checkHeader_stored "header"
  · rw [← Header.stored_eq]
    exact message.header.msgType_stored
  · rw [stored.parent]
    exact message.checkParent_storedParent
  · rw [stored.channel]
    cases message.channel <;> rfl

/-- Whether what is written for the dates and values of a message is read as them, when the values
may be nested as deep as given. -/
structure ReadsBack (limit : Nat) (message : Message) : Prop where
  date : Instant.parse? message.header.date.render = some message.header.date
  parentDate : ∀ header, message.parentHeader = some header →
    Instant.parse? header.date.render = some header.date
  metadata : Json.parseWithin? limit message.metadata.render = some message.metadata
  content : Json.parseWithin? limit message.content.render = some message.content

theorem parentOfJson?_storedParent {limit : Nat} {message : Message}
    (reads : message.ReadsBack limit) :
    Header.parentOfJson? (some message.storedParent) = some message.parentHeader := by
  unfold storedParent
  cases present : message.parentHeader with
  | none => rfl
  | some header =>
      have found := Header.ofJson?_stored (reads.parentDate header present)
      dsimp only
      rw [Header.stored_eq] at found ⊢
      simp [Header.parentOfJson?, found]

theorem channelOfJson?_name (channel : Option Channel) :
    channelOfJson? (channel.map fun channel => .string channel.name) = some channel := by
  cases channel with
  | none => rfl
  | some channel => cases channel <;> rfl

/-- A message that passes the checks is found again in what is read for its parts. -/
theorem ofJson_stored {limit : Nat} {message : Message} {fields : Fields}
    (stored : message.IsStored fields) (reads : message.ReadsBack limit)
    (valid : checkShape message.toJson = .ok ()) :
    ofJson (.object fields) message.buffers = .ok message := by
  have shape := (checkShape_stored stored).trans valid
  have header := Header.ofJson?_stored reads.date
  have parent := parentOfJson?_storedParent reads
  have channel := channelOfJson?_name message.channel
  have found : ofJson? (.object fields) message.buffers = some message := by
    simp [ofJson?, stored.header, stored.parent, stored.metadata, stored.content, stored.channel,
      header, parent, channel]
  simp only [ofJson, shape, found]

/-- The fields of a message with what is written and what is read for each of them. -/
def fieldsReadBack (message : Message) : List (String × Json × Json) :=
  [("header", message.header.toJson, message.header.stored),
    ("parent_header", message.parentToJson, message.storedParent),
    ("metadata", message.metadata, message.metadata),
    ("content", message.content, message.content)] ++
  match message.channel with
  | some channel => [("channel", .string channel.name, .string channel.name)]
  | none => []

theorem isStored_fieldsReadBack (message : Message) :
    message.IsStored (Fields.ofList (message.fieldsReadBack.map fun field =>
      (field.1, field.2.2))) := by
  unfold fieldsReadBack
  cases present : message.channel with
  | none => constructor <;> simp [Fields.ofList, Fields.get?_insert, present]
  | some channel => constructor <;> simp [Fields.ofList, Fields.get?_insert, present]

/-- The text of a message is read as an object of its values. -/
theorem exists_stored_of_parse {message : Message}
    (reads : message.ReadsBack (Json.depthLimit - 1)) :
    ∃ fields, Json.parse? message.toJson.render = some (.object fields) ∧
      message.IsStored fields := by
  refine ⟨_, ?_, message.isStored_fieldsReadBack⟩
  have written : message.toJson =
      .object (message.fieldsReadBack.map fun field => (field.1, field.2.1)) := by
    unfold toJson fieldsReadBack
    cases message.channel <;> rfl
  rw [written]
  refine Json.parseWithin?_object message.fieldsReadBack fun field member => ?_
  rcases List.mem_append.mp member with fixed | optional
  · simp only [List.mem_cons, List.not_mem_nil, or_false] at fixed
    rcases fixed with rfl | rfl | rfl | rfl
    · exact message.header.parseWithin?_toJson _
    · exact message.parseWithin?_parentToJson _
    · exact reads.metadata
    · exact reads.content
  · cases present : message.channel with
    | none =>
        rw [present] at optional
        cases optional
    | some channel =>
        rw [present] at optional
        cases List.mem_singleton.mp optional
        exact Json.parseWithin?_string _ channel.name

end Message

namespace Frame

theorem ofUtf8?_utf8 (text : String) : ofUtf8? (utf8 text) = some text := by
  simp [ofUtf8?, utf8, String.fromUTF8?, text.isValidUTF8]
  rfl

theorem utf8_ofList (characters : List Char) :
    utf8 (String.ofList characters) = characters.flatMap String.utf8EncodeChar := by
  simp [utf8, List.utf8Encode]

theorem parseBytes?_utf8 (text : String) : Json.parseBytes? (utf8 text) = Json.parse? text := by
  have read : String.fromUTF8? ⟨(utf8 text).toArray⟩ = some text := ofUtf8?_utf8 text
  rw [Json.parseBytes?, read, Option.bind_some]

/-- The number of bytes of a frame. -/
def size : Frame → Nat
  | .text document => (utf8 document).length
  | .binary bytes => bytes.length

end Frame

/-- How deep the values of a message may be nested in its frame. The legacy framing writes them
inside one object. -/
def WireProtocol.valueDepth : WireProtocol → Nat
  | .legacy => Json.depthLimit - 1
  | .v1 => Json.depthLimit

namespace Message

open KernelClient.Frame

variable {message : Message}

theorem decode_legacy {frame : Frame} (valid : checkShape message.toJson = .ok ())
    (reads : message.ReadsBack WireProtocol.legacy.valueDepth)
    (encoded : message.encode .legacy = .ok frame) : frame.decode .legacy = .ok message := by
  obtain ⟨fields, parsed, stored⟩ := exists_stored_of_parse reads
  have found := ofJson_stored stored reads valid
  have encoding : message.encode .legacy = encodeLegacy message := rfl
  rw [encoding, encodeLegacy_eq] at encoded
  split at encoded
  case isTrue plain =>
    cases encoded
    rw [plain] at found
    change decodeText message.toJson.render = .ok message
    simp only [decodeText, parsed, found]
  case isFalse =>
    split at encoded
    case isTrue fits =>
      cases encoded
      have cut := partsLegacy_layoutLegacy (List.cons_ne_nil _ _) fits
      change decodeLegacy (layoutLegacy (partsOfLegacy message)) = .ok message
      simp only [decodeLegacy, cut, partsOfLegacy, parseBytes?_utf8, parsed, found]
    case isFalse => cases encoded

/-- The parts of the segmented framing are read as the message on their channel. -/
theorem decodeParts_partsOf {channel : Channel} (present : message.channel = some channel)
    (valid : checkShape message.toJson = .ok ())
    (reads : message.ReadsBack WireProtocol.v1.valueDepth) :
    decodeParts (partsOf channel message) = .ok message := by
  have header : Json.parse? message.header.toJson.render = some message.header.stored :=
    message.header.parseWithin?_toJson 126
  have parent : Json.parse? message.parentToJson.render = some message.storedParent :=
    message.parseWithin?_parentToJson 126
  have metadata : Json.parse? message.metadata.render = some message.metadata := reads.metadata
  have content : Json.parse? message.content.render = some message.content := reads.content
  have stored : message.IsStored (Fields.ofList [
      ("channel", .string channel.name), ("header", message.header.stored),
      ("parent_header", message.storedParent), ("metadata", message.metadata),
      ("content", message.content)]) := by
    constructor <;> simp [Fields.ofList, Fields.get?_insert, present]
  have found := ofJson_stored stored reads valid
  simp only [partsOf, List.cons_append, List.nil_append, decodeParts, ofUtf8?_utf8,
    parseBytes?_utf8, header, parent, metadata, content, Json.ofFields, found]

theorem decode_v1 {frame : Frame} (valid : checkShape message.toJson = .ok ())
    (reads : message.ReadsBack WireProtocol.v1.valueDepth)
    (encoded : message.encode .v1 = .ok frame) (fits : frame.size < UInt64.size) :
    frame.decode .v1 =
      if message.buffers.length ≤ 4090 then .ok message
      else .error (.malformed (.offsetCount (message.buffers.length + 6))) := by
  have encoding : message.encode .v1 = encodeSegmented message := rfl
  rw [encoding, encodeSegmented] at encoded
  cases present : message.channel with
  | none =>
      rw [present] at encoded
      cases encoded
  | some channel =>
      rw [present] at encoded
      cases encoded
      have count : (partsOf channel message).length = message.buffers.length + 5 := by
        simp [partsOf]
      have enough : 5 ≤ (partsOf channel message).length := by omega
      have cut := partsSegmented_layoutSegmented enough fits
      have found := decodeParts_partsOf present valid reads
      change decodeSegmented (layoutSegmented (partsOf channel message)) = _
      rw [decodeSegmented, cut, count]
      by_cases few : message.buffers.length ≤ 4090
      · rw [if_pos few, if_pos (by unfold mostOffsets; omega)]
        exact found
      · rw [if_neg few, if_neg (by unfold mostOffsets; omega)]

/-- A message that passes the checks, and whose dates and values are read as they were written, has
a legacy frame exactly if it has no buffers or the number and the offsets of its parts fit four
bytes, and it is found again in this frame. It has a segmented frame exactly if it has a channel,
and it is found again in this frame if it has at most 4090 buffers; the frame is refused if there
are more. What is found in a frame has the same frame. The offsets of a segmented frame are below
`2 ^ 64`, as its size is. -/
theorem decode_encode (message : Message) (valid : checkShape message.toJson = .ok ()) :
    ((message.encode .legacy).isOk ↔
      message.buffers = [] ∨ FitsLegacy (partsOfLegacy message)) ∧
    ((message.encode .v1).isOk ↔ message.channel.isSome) ∧
    (message.ReadsBack WireProtocol.legacy.valueDepth →
      ∀ frame, message.encode .legacy = .ok frame → frame.decode .legacy = .ok message) ∧
    (message.ReadsBack WireProtocol.v1.valueDepth →
      ∀ frame, message.encode .v1 = .ok frame → frame.size < UInt64.size →
        frame.decode .v1 =
          if message.buffers.length ≤ 4090 then .ok message
          else .error (.malformed (.offsetCount (message.buffers.length + 6)))) ∧
    ∀ protocol frame decoded, message.ReadsBack protocol.valueDepth →
      message.encode protocol = .ok frame → frame.size < UInt64.size →
        frame.decode protocol = .ok decoded → decoded.encode protocol = .ok frame := by
  refine ⟨?_, ?_, fun reads frame encoded => decode_legacy valid reads encoded,
    fun reads frame encoded fits => decode_v1 valid reads encoded fits,
    fun protocol frame decoded reads encoded fits found => ?_⟩
  · have encoding : message.encode .legacy = encodeLegacy message := rfl
    rw [encoding, encodeLegacy_eq]
    by_cases plain : message.buffers = []
    · simp [plain, Except.isOk, Except.toBool]
    · by_cases parts : FitsLegacy (partsOfLegacy message) <;>
        simp [plain, parts, Except.isOk, Except.toBool]
  · have encoding : message.encode .v1 = encodeSegmented message := rfl
    rw [encoding, encodeSegmented]
    cases message.channel <;> simp [Except.isOk, Except.toBool]
  · have same : decoded = message := by
      cases protocol with
      | legacy =>
          rw [decode_legacy valid reads encoded] at found
          cases found
          rfl
      | v1 =>
          rw [decode_v1 valid reads encoded fits] at found
          split at found <;> cases found
          rfl
    rw [same]
    exact encoded

/-- An answer with an empty and a nonempty buffer. -/
def answerWithBuffers : Message where
  header := ⟨"2", "user", "s", .epoch, "status", "5.3"⟩
  parentHeader := some ⟨"1", "\"user\"", "s", .epoch, "kernel_info_request", "5.3"⟩
  metadata := .emptyObject
  content := .object [("execution_state", .string "idle")]
  buffers := [[], [1, 2, 3]]
  channel := some .iopub

theorem decode_encode_answerWithBuffers :
    (checkShape answerWithBuffers.toJson = .ok () ∧
      answerWithBuffers.ReadsBack WireProtocol.legacy.valueDepth ∧
      answerWithBuffers.ReadsBack WireProtocol.v1.valueDepth) ∧
    ∀ protocol, ∃ frame, answerWithBuffers.encode protocol = .ok frame ∧
      frame.decode protocol = .ok answerWithBuffers := by
  have valid : checkShape answerWithBuffers.toJson = .ok () := by decide +kernel
  have reads (limit : Nat) (enough : limit = 126 ∨ limit = 127) :
      answerWithBuffers.ReadsBack limit := by
    rcases enough with rfl | rfl
    all_goals
      refine ⟨by decide +kernel, fun header present => ?_, rfl, rfl⟩
      cases present
      decide +kernel
  have legacyReads := reads WireProtocol.legacy.valueDepth (.inl rfl)
  have v1Reads := reads WireProtocol.v1.valueDepth (.inr rfl)
  obtain ⟨isLegacy, -, legacy, v1, -⟩ := decode_encode answerWithBuffers valid
  refine ⟨⟨valid, legacyReads, v1Reads⟩, fun protocol => ?_⟩
  cases protocol with
  | legacy =>
      have text : (utf8 answerWithBuffers.toJson.render).length < 1000 := by
        rw [Json.render, utf8_ofList]
        decide +kernel
      have buffers : answerWithBuffers.buffers = [[], [1, 2, 3]] := rfl
      have fits : FitsLegacy (partsOfLegacy answerWithBuffers) := by
        refine .of_size ?_
        simp only [partsOfLegacy, buffers, Words.totalLength, List.flatten_cons, List.flatten_nil,
          List.length_append, List.length_cons, List.length_nil]
        have least : 2000 < UInt32.size := by decide
        omega
      have encodes := isLegacy.mpr (.inr fits)
      cases encoded : answerWithBuffers.encode .legacy with
      | ok frame => exact ⟨frame, rfl, legacy legacyReads frame encoded⟩
      | error fault =>
          rw [encoded] at encodes
          cases encodes
  | v1 => exact ⟨_, rfl, v1 v1Reads _ rfl (by decide +kernel)⟩

end Message

end KernelClient
