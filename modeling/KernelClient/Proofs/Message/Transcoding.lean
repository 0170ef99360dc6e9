import KernelClient.Json.Equality
import KernelClient.Proofs.Message.Acceptance
import KernelClient.Proofs.Message.RoundTrip

/-!
# From one frame to another

A frame can hold a message in many ways: its fields in any order and with others among them, its
parent left out, null or empty, its dates at any offset, its parts anywhere behind the table.
Whatever was read from it passes the check when it is written, so it is found again in the frames
that are written for it, of either framing, and these are the same from then on.
-/

namespace KernelClient

open Json (Fields)

namespace Message

deriving instance DecidableEq for Message

variable {message : Message} {fields header : Fields} {channel : Option Channel}

/-- A header that is written has the strings of a header. -/
theorem hasTexts_toJson (header : Header) : Header.HasTexts header.toJson :=
  Header.checkHeader_eq_ok_iff.mp (header.checkHeader_toJson "header")

theorem checkChannel_name (channel : Option Channel) :
    checkChannel (channel.map fun channel => .string channel.name) = .ok channel := by
  cases channel with
  | none => rfl
  | some channel => cases channel <;> rfl

/-- The fields that are written for a message. -/
def written (message : Message) : Fields :=
  [("header", message.header.toJson), ("parent_header", message.parentToJson),
    ("metadata", message.metadata), ("content", message.content)] ++
  (message.channel.map fun channel => ("channel", .string channel.name)).toList

theorem toJson_eq_object (message : Message) : message.toJson = .object message.written := by
  cases same : message.channel <;> simp [toJson, written, same]

theorem get?_channel_written (message : Message) :
    Fields.get? "channel" message.written =
      message.channel.map fun channel => .string channel.name := by
  cases same : message.channel <;> simp [written, Fields.get?_cons, same]

/-- What is read for an object with the shape of a message has the shape of a message when it is
written. -/
theorem IsReadFrom.checkShape_toJson (isRead : IsReadFrom fields header channel message)
    (shape : HasShape fields header channel) : checkShape message.toJson = .ok () := by
  have metadata : Fields.get? "metadata" message.written = some message.metadata := by
    simp [written, Fields.get?_cons]
  have content : Fields.get? "content" message.written = some message.content := by
    simp [written, Fields.get?_cons]
  have parent : Fields.get? "parent_header" message.written = some message.parentToJson := by
    simp [written, Fields.get?_cons]
  refine checkShape_eq_ok_iff.mpr
    ⟨message.written, _, message.channel, message.toJson_eq_object, rfl, ?_, ?_, ?_, ?_, ?_, ?_⟩
  · exact hasTexts_toJson message.header
  · rw [parent]
    exact Header.checkParent_eq_ok_iff.mp message.checkParent_parentToJson
  · rw [metadata]
    rintro _ ⟨⟩
    exact isRead.metadata_isObject shape
  · rw [content]
    rintro _ ⟨⟩
    exact isRead.content_isObject shape
  · rw [get?_channel_written]
    exact checkChannel_name message.channel
  · rw [content]
    exact isRead.required shape

/-- What was checked and read passes the check when it is written. -/
theorem checkShape_toJson_of_ofJson {value : Json} {buffers : List Bytes}
    (found : ofJson value buffers = .ok message) : checkShape message.toJson = .ok () := by
  obtain ⟨passed, read⟩ := ofJson_eq_ok_iff.mp found
  obtain ⟨fields, header, channel, rfl, shape⟩ := checkShape_eq_ok_iff.mp passed
  exact ((ofJson?_of_hasShape shape buffers).2 message read).checkShape_toJson shape

end Message

namespace Frame

variable {message : Message}

theorem exists_ofJson_of_decodeParts {parts : List Bytes}
    (decoded : decodeParts parts = .ok message) :
    ∃ value buffers, Message.ofJson value buffers = .ok message := by
  unfold decodeParts at decoded
  split at decoded
  case h_1 =>
    split at decoded
    case h_1 => cases decoded
    case h_2 =>
      split at decoded
      case h_1 => exact ⟨_, _, decoded⟩
      case h_2 => cases decoded
  case h_2 => cases decoded

/-- What is decoded from a frame was checked and read. -/
theorem exists_ofJson_of_decode {frame : Frame} {protocol : WireProtocol}
    (decoded : frame.decode protocol = .ok message) :
    ∃ value buffers, Message.ofJson value buffers = .ok message := by
  unfold decode at decoded
  split at decoded
  case h_1 =>
    unfold decodeText at decoded
    split at decoded
    case h_1 => exact ⟨_, _, decoded⟩
    case h_2 => cases decoded
  case h_2 =>
    unfold decodeLegacy at decoded
    split at decoded
    case h_1 | h_2 => cases decoded
    case h_3 =>
      split at decoded
      case h_1 => exact ⟨_, _, decoded⟩
      case h_2 => cases decoded
  case h_3 =>
    unfold decodeSegmented at decoded
    split at decoded
    case h_1 => cases decoded
    case h_2 => exact exists_ofJson_of_decodeParts decoded

/-- What is decoded from a frame passes the check when it is written. -/
theorem checkShape_toJson_of_decode {frame : Frame} {protocol : WireProtocol}
    (decoded : frame.decode protocol = .ok message) :
    Message.checkShape message.toJson = .ok () := by
  obtain ⟨value, buffers, found⟩ := exists_ofJson_of_decode decoded
  exact Message.checkShape_toJson_of_ofJson found

theorem eq_ok_of_toOption {ε α : Type} {result : Except ε α} {value : α}
    (found : result.toOption = some value) : result = .ok value := by
  cases result with
  | error => cases found
  | ok => exact congrArg _ (Option.some.inj found)

/-- Decode a frame and encode its message again. -/
def reencode (frame : Frame) (source target : WireProtocol) : Option Frame :=
  (frame.decode source).toOption.bind fun message => (message.encode target).toOption

/-- A message that is found in a frame is found in the frames that are written for it, if its dates
and values are read as they were written. The legacy framing may have no frame for it; the segmented
framing has one if the message has a channel, and finds it again if there are no more than 4090
buffers. So it passes the check when it is written, and to decode a frame and encode its message
again gives a frame that stays the same when this is done once more. The offsets of a segmented
frame are below `2 ^ 64`, as its size is. -/
theorem decode_transcodes {frame : Frame} {protocol : WireProtocol} {message : Message}
    (decoded : frame.decode protocol = .ok message) :
    Message.checkShape message.toJson = .ok () ∧
    (message.ReadsBack WireProtocol.legacy.valueDepth →
      ∀ written, message.encode .legacy = .ok written → written.decode .legacy = .ok message) ∧
    (message.channel.isSome = true → message.buffers.length ≤ 4090 →
      ∃ written, message.encode .v1 = .ok written ∧
        (message.ReadsBack WireProtocol.v1.valueDepth → written.size < UInt64.size →
          written.decode .v1 = .ok message)) ∧
    ∀ target written, frame.reencode protocol target = some written →
      message.ReadsBack target.valueDepth →
      (target = .v1 → message.buffers.length ≤ 4090 ∧ written.size < UInt64.size) →
      written.reencode target target = some written := by
  have valid := checkShape_toJson_of_decode decoded
  have segmented (reads : message.ReadsBack WireProtocol.v1.valueDepth) (written : Frame)
      (encoded : message.encode .v1 = .ok written) (few : message.buffers.length ≤ 4090)
      (fits : written.size < UInt64.size) : written.decode .v1 = .ok message := by
    rw [Message.decode_v1 valid reads encoded fits, if_pos few]
  refine ⟨valid, fun reads written => Message.decode_legacy valid reads, fun present few => ?_,
    fun target written again reads limits => ?_⟩
  · obtain ⟨channel, present⟩ := Option.isSome_iff_exists.mp present
    have encoded : message.encode .v1 =
        .ok (.binary (layoutSegmented (partsOf channel message))) := by
      simp only [Message.encode, encodeSegmented, present]
    exact ⟨_, encoded, fun reads fits => segmented reads _ encoded few fits⟩
  · have encoded : message.encode target = .ok written := by
      rw [reencode, decoded] at again
      exact eq_ok_of_toOption again
    have found : written.decode target = .ok message := by
      cases target with
      | legacy => exact Message.decode_legacy valid reads encoded
      | v1 => exact segmented reads written encoded (limits rfl).1 (limits rfl).2
    simp [reencode, found, encoded, Except.toOption]

/-- A segmented frame with a gap behind its table, fields in another order, one that is unknown, a
parent that is null and a date at an offset. -/
def looseFrame : Frame :=
  let parts := ["iopub",
    "\x7b\"date\":\"2025-05-14T16:32:23.5+02:00\",\"subshell\":1,\"version\":\"5.3\"," ++
      "\"username\":\"u\",\"session\":\"s\",\"msg_type\":\"status\",\"msg_id\":\"m\"\x7d",
    "null", " \x7b \x7d", "\x7b\"execution_state\" : \"idle\"\x7d"].map utf8
  let starts := Words.starts 60 parts ++ [60 + Words.totalLength parts]
  .binary (Words.littleEndian 8 6 ++ starts.flatMap (Words.littleEndian 8) ++ [0, 0, 0, 0] ++
    parts.flatten)

/-- What the loose frame holds. -/
def looseMessage : Message where
  header := ⟨"m", "u", "s", ⟨1747233143, 500000000⟩, "status", "5.3"⟩
  parentHeader := none
  metadata := .emptyObject
  content := .object [("execution_state", .string "idle")]
  buffers := []
  channel := some .iopub

theorem looseMessage_transcodes :
    looseFrame.decode .v1 = .ok looseMessage ∧
      ∀ target, ∃ written, looseFrame.reencode .v1 target = some written ∧
        written.reencode target target = some written := by
  have decoded : looseFrame.decode .v1 = .ok looseMessage :=
    eq_ok_of_toOption (by decide +kernel)
  have reads (limit : Nat) (enough : limit = 126 ∨ limit = 127) : looseMessage.ReadsBack limit := by
    rcases enough with rfl | rfl
    all_goals exact ⟨by decide +kernel, by simp [looseMessage], rfl, rfl⟩
  obtain ⟨-, -, -, again⟩ := decode_transcodes decoded
  refine ⟨decoded, fun target => ?_⟩
  cases target with
  | legacy =>
      have written : looseFrame.reencode .v1 .legacy = some (.text looseMessage.toJson.render) := by
        rw [reencode, decoded]
        rfl
      exact ⟨_, written, again .legacy _ written (reads _ (.inl rfl)) (fun other => nomatch other)⟩
  | v1 =>
      have written : looseFrame.reencode .v1 .v1 =
          some (.binary (layoutSegmented (partsOf .iopub looseMessage))) := by
        rw [reencode, decoded]
        rfl
      exact ⟨_, written, again .v1 _ written (reads _ (.inr rfl))
        fun _ => ⟨by decide, by decide +kernel⟩⟩

end Frame

end KernelClient
