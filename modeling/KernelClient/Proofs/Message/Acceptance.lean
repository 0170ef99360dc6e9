import KernelClient.Message.Error
import KernelClient.Proofs.Payload.Steps
import KernelClient.Proofs.Time.Timestamp

/-!
# Messages that pass the check

A message is checked before it is read. The check knows the fields of a message by their names and
kinds, reading knows them as parts of a record, and the two are independent of one another. Here the
check is shown to be all that reading needs: after it only a date can be at fault, and every
timestamp is read. What is read has the strings by which messages are dispatched.
-/

namespace KernelClient

open Json (Fields)

namespace Header

/-- Whether every field of a header is a string. -/
def HasTexts (header : Json) : Prop :=
  ∀ field ∈ Message.headerFields, (header.stringField? field).isSome = true

/-- The string in a field of a header. -/
def textOf (header : Json) (field : String) : String := (header.stringField? field).getD ""

/-- The header with the strings of another one and the given date. -/
def ofTexts (header : Json) (date : Instant) : Header where
  msgId := textOf header "msg_id"
  username := textOf header "username"
  session := textOf header "session"
  date := date
  msgType := textOf header "msg_type"
  version := textOf header "version"

theorem HasTexts.stringField? {header : Json} (texts : HasTexts header) {field : String}
    (member : field ∈ Message.headerFields) :
    header.stringField? field = some (textOf header field) := by
  obtain ⟨text, found⟩ := Option.isSome_iff_exists.mp (texts field member)
  rw [textOf, found]
  rfl

theorem checkHeader_eq_ok_iff {part : String} {header : Json} :
    Message.checkHeader part header = .ok () ↔ HasTexts header := by
  unfold Message.checkHeader HasTexts
  rw [forM_eq_ok_iff]
  refine forall₂_congr fun field _ => ?_
  unfold Json.stringField?
  cases header.field? field with
  | none => simp
  | some value => cases value <;> simp [Json.asString?]

/-- A header of strings is read exactly if its date is. -/
theorem ofJson?_of_hasTexts {fields : Fields} (texts : HasTexts (.object fields)) :
    ofJson? (.object fields) =
      (Instant.parse? (textOf (.object fields) "date")).map (ofTexts (.object fields)) := by
  have text (field : String) (member : field ∈ Message.headerFields) :=
    texts.stringField? member
  have date : dateOfJson? (.object fields) =
      Instant.parse? (textOf (.object fields) "date") := by
    have found := text "date" (by decide)
    unfold Json.stringField? at found
    obtain ⟨value, present, isText⟩ := Option.bind_eq_some_iff.mp found
    cases value <;> cases isText
    unfold dateOfJson?
    rw [present]
  unfold ofJson?
  simp only [Json.record?_object, text "msg_id" (by decide), text "username" (by decide),
    text "session" (by decide), text "msg_type" (by decide), text "version" (by decide), date,
    bind, Option.bind]
  cases Instant.parse? (textOf (.object fields) "date") <;> rfl

/-- What may stand for a parent: nothing, null, an empty object or a header of strings. -/
inductive IsParent : Option Json → Prop where
  | missing : IsParent none
  | null : IsParent (some .null)
  | empty : IsParent (some .emptyObject)
  | given {field : String × Json} {rest : Fields} (texts : HasTexts (.object (field :: rest))) :
      IsParent (some (.object (field :: rest)))

/-- The parent that is given, which is an object with fields. -/
def given? : Option Json → Option Json
  | some (.object (field :: rest)) => some (.object (field :: rest))
  | _ => none

theorem checkParent_eq_ok_iff {parent : Option Json} :
    Message.checkParent parent = .ok () ↔ IsParent parent := by
  unfold Message.checkParent
  split
  case h_1 => exact iff_of_true rfl .missing
  case h_2 => exact iff_of_true rfl .null
  case h_3 => exact iff_of_true rfl .empty
  case h_4 fields filled =>
    cases fields with
    | nil => exact absurd rfl filled
    | cons field rest =>
        rw [checkHeader_eq_ok_iff]
        refine ⟨.given, fun isParent => ?_⟩
        cases isParent with
        | given texts => exact texts
  case h_5 notNull notEmpty notObject =>
    refine iff_of_false (by simp) fun isParent => ?_
    cases isParent with
    | null => exact notNull rfl
    | empty => exact notEmpty rfl
    | given => exact notObject _ rfl

/-- A parent that passes the check is read exactly if it is not given or its date is read. -/
theorem parentOfJson?_of_isParent {parent : Option Json} (isParent : IsParent parent) :
    parentOfJson? parent =
      match given? parent with
      | none => some none
      | some header => (Instant.parse? (textOf header "date")).map (some ∘ ofTexts header) := by
  cases isParent with
  | missing | null | empty => rfl
  | given texts =>
      simp only [parentOfJson?, given?, ofJson?_of_hasTexts texts, Option.map_map]

end Header

namespace Message

/-- The strings that the content of a message of some type on some channel has to have. -/
def requiredTexts (msgType : String) (channel : Option Channel) : List String :=
  (if reportsStatus msgType channel then ["execution_state"] else []) ++
    (if isCommType msgType then ["comm_id"] else []) ++
    if msgType = "comm_open" then ["target_name"] else []

/-- What the check of a message requires of its fields, with those of its header and its channel. -/
structure HasShape (fields header : Fields) (channel : Option Channel) : Prop where
  found : fields.get? "header" = some (.object header)
  texts : Header.HasTexts (.object header)
  parent : Header.IsParent (fields.get? "parent_header")
  metadata : ∀ metadata, fields.get? "metadata" = some metadata → metadata.asObject?.isSome = true
  content : ∀ content, fields.get? "content" = some content → content.asObject?.isSome = true
  known : checkChannel (fields.get? "channel") = .ok channel
  required : ∀ field ∈ requiredTexts (Header.textOf (.object header) "msg_type") channel,
    ((fields.get? "content").bind (Json.stringField? field)).isSome = true

theorem checkPart_eq_ok_iff {part : String} {fields : Fields} :
    checkPart part (.object fields) = .ok () ↔
      ∀ value, fields.get? part = some value → value.asObject?.isSome = true := by
  unfold checkPart Json.field?
  dsimp only
  cases fields.get? part with
  | none => simp
  | some value => cases value <;> simp [Json.asObject?]

theorem checkContent_eq_ok_iff {fields : Fields} {msgType field : String} :
    checkContent (.object fields) msgType field = .ok () ↔
      ((fields.get? "content").bind (Json.stringField? field)).isSome = true := by
  unfold checkContent Json.field?
  dsimp only
  cases (fields.get? "content").bind (Json.stringField? field) <;> simp

theorem forall_mem_requiredTexts_iff {msgType : String} {channel : Option Channel}
    {present : String → Prop} :
    (∀ field ∈ requiredTexts msgType channel, present field) ↔
      (reportsStatus msgType channel = true → present "execution_state") ∧
        (isCommType msgType = true → present "comm_id") ∧
          (msgType = "comm_open" → present "target_name") := by
  unfold requiredTexts
  simp only [List.forall_mem_append, and_assoc]
  refine and_congr ?_ (and_congr ?_ ?_)
  all_goals split <;> simp [*]

/-- The check of an object with a header asks for the shape of a message. -/
theorem checkShape_object_eq_ok_iff {fields header : Fields}
    (found : fields.get? "header" = some (.object header)) :
    checkShape (.object fields) = .ok () ↔ ∃ channel, HasShape fields header channel := by
  have steps : checkShape (.object fields) = .ok () ↔
      checkHeader "header" (.object header) = .ok () ∧
        checkParent (fields.get? "parent_header") = .ok () ∧
        checkPart "metadata" (.object fields) = .ok () ∧
        checkPart "content" (.object fields) = .ok () ∧
        ∃ channel, checkChannel (fields.get? "channel") = .ok channel ∧
          ∀ field ∈ requiredTexts (Header.textOf (.object header) "msg_type") channel,
            ((fields.get? "content").bind (Json.stringField? field)).isSome = true := by
    unfold checkShape
    simp only [Json.field?, found]
    refine check_bind_eq_ok_iff.trans (and_congr .rfl ?_)
    refine check_bind_eq_ok_iff.trans (and_congr .rfl ?_)
    refine check_bind_eq_ok_iff.trans (and_congr .rfl ?_)
    refine check_bind_eq_ok_iff.trans (and_congr .rfl ?_)
    refine bind_eq_ok_iff.trans (exists_congr fun channel => and_congr .rfl ?_)
    rw [ite_check_bind_eq_ok_iff, ite_check_bind_eq_ok_iff, ite_check_eq_ok_iff,
      checkContent_eq_ok_iff, checkContent_eq_ok_iff, checkContent_eq_ok_iff,
      forall_mem_requiredTexts_iff]
    rfl
  rw [steps, Header.checkHeader_eq_ok_iff, Header.checkParent_eq_ok_iff, checkPart_eq_ok_iff,
    checkPart_eq_ok_iff]
  constructor
  · rintro ⟨texts, parent, metadata, content, channel, known, required⟩
    exact ⟨channel, found, texts, parent, metadata, content, known, required⟩
  · rintro ⟨channel, shape⟩
    exact ⟨shape.texts, shape.parent, shape.metadata, shape.content, channel, shape.known,
      shape.required⟩

/-- What passes the check has the shape of a message. -/
theorem checkShape_eq_ok_iff {value : Json} :
    checkShape value = .ok () ↔
      ∃ fields header channel, value = .object fields ∧ HasShape fields header channel := by
  constructor
  · intro passed
    cases value with
    | object fields =>
        cases found : Fields.get? "header" fields with
        | none => simp [checkShape, Json.field?, found, bind, Except.bind] at passed
        | some part =>
            cases part with
            | object header =>
                obtain ⟨channel, shape⟩ := (checkShape_object_eq_ok_iff found).mp passed
                exact ⟨fields, header, channel, rfl, shape⟩
            | _ => simp [checkShape, Json.field?, found, bind, Except.bind] at passed
    | _ => simp [checkShape] at passed
  · rintro ⟨fields, header, channel, rfl, shape⟩
    exact (checkShape_object_eq_ok_iff shape.found).mpr ⟨channel, shape⟩

/-- The headers whose dates are read: that of the message, and that of a parent that is given. -/
def datedHeaders (value : Json) : List Json :=
  (value.field? "header").toList ++ (Header.given? (value.field? "parent_header")).toList

theorem channelOfJson?_of_checkChannel {value : Option Json} {channel : Option Channel}
    (known : checkChannel value = .ok channel) : channelOfJson? value = some channel := by
  unfold checkChannel at known
  split at known
  case h_1 | h_2 =>
    cases known
    rfl
  case h_3 name =>
    split at known
    case h_1 channel named =>
      cases known
      simp [channelOfJson?, Json.variantName?, named]
    case h_2 => cases known
  case h_4 => cases known

/-- What is read for an object with the shape of a message, whatever its dates are. -/
structure IsReadFrom (fields header : Fields) (channel : Option Channel) (message : Message) :
    Prop where
  header : ∃ date, message.header = Header.ofTexts (.object header) date
  parent : ∃ date, message.parentHeader =
    (Header.given? (fields.get? "parent_header")).map fun parent => Header.ofTexts parent date
  metadata : message.metadata = (fields.get? "metadata").getD .emptyObject
  content : message.content = (fields.get? "content").getD .emptyObject
  channel : message.channel = channel

variable {fields header : Fields} {channel : Option Channel} {message : Message}

/-- An object with the shape of a message is read exactly if its dates are. -/
theorem ofJson?_of_hasShape (shape : HasShape fields header channel) (buffers : List Bytes) :
    ((ofJson? (.object fields) buffers).isSome = true ↔
      ∀ dated ∈ datedHeaders (.object fields),
        (Instant.parse? (Header.textOf dated "date")).isSome = true) ∧
    ∀ message, ofJson? (.object fields) buffers = some message →
      IsReadFrom fields header channel message := by
  have read := Header.ofJson?_of_hasTexts shape.texts
  have parent := Header.parentOfJson?_of_isParent shape.parent
  have known := channelOfJson?_of_checkChannel shape.known
  have dated : datedHeaders (.object fields) =
      .object header :: (Header.given? (fields.get? "parent_header")).toList := by
    simp [datedHeaders, Json.field?, shape.found]
  rw [dated, List.forall_mem_cons]
  unfold ofJson?
  simp only [Json.record?_object, shape.found, read, parent, known, bind, Option.bind]
  cases Instant.parse? (Header.textOf (.object header) "date") with
  | none => simp
  | some date =>
      cases given : Header.given? (fields.get? "parent_header") with
      | none =>
          refine ⟨by simp, fun message found => ?_⟩
          cases found
          exact ⟨⟨date, rfl⟩, ⟨date, by rw [given]; rfl⟩, rfl, rfl, rfl⟩
      | some parent =>
          dsimp only
          cases parsed : Instant.parse? (Header.textOf parent "date") with
          | none => simp [parsed]
          | some parentDate =>
              refine ⟨by simp [parsed], fun message found => ?_⟩
              cases found
              exact ⟨⟨date, rfl⟩, ⟨parentDate, by rw [given]; rfl⟩, rfl, rfl, rfl⟩

namespace IsReadFrom

/-- A string in the content of the object is one in the content of the message. -/
theorem stringField? (isRead : IsReadFrom fields header channel message) (field : String) :
    message.content.stringField? field =
      (fields.get? "content").bind (Json.stringField? field) := by
  rw [isRead.content]
  cases fields.get? "content" <;> rfl

theorem metadata_isObject (isRead : IsReadFrom fields header channel message)
    (shape : HasShape fields header channel) : message.metadata.asObject?.isSome = true := by
  rw [isRead.metadata]
  cases found : fields.get? "metadata" with
  | none => rfl
  | some metadata => exact shape.metadata metadata found

theorem content_isObject (isRead : IsReadFrom fields header channel message)
    (shape : HasShape fields header channel) : message.content.asObject?.isSome = true := by
  rw [isRead.content]
  cases found : fields.get? "content" with
  | none => rfl
  | some content => exact shape.content content found

theorem msgType (isRead : IsReadFrom fields header channel message) :
    message.msgType = Header.textOf (.object header) "msg_type" := by
  obtain ⟨date, same⟩ := isRead.header
  rw [Message.msgType, same]
  rfl

/-- The content of a message has the strings that its type and channel require. -/
theorem required (isRead : IsReadFrom fields header channel message)
    (shape : HasShape fields header channel) :
    ∀ field ∈ requiredTexts message.msgType message.channel,
      (message.content.stringField? field).isSome = true := by
  intro field member
  rw [isRead.msgType, isRead.channel] at member
  rw [isRead.stringField?]
  exact shape.required field member

theorem parentMsgId? (isRead : IsReadFrom fields header channel message)
    (shape : HasShape fields header channel) :
    message.parentMsgId? =
      (Header.given? (fields.get? "parent_header")).bind (Json.stringField? "msg_id") := by
  obtain ⟨date, same⟩ := isRead.parent
  have isParent := shape.parent
  rw [Message.parentMsgId?, same]
  generalize fields.get? "parent_header" = parent at isParent
  cases isParent with
  | missing | null | empty => rfl
  | given texts => exact (texts.stringField? (by decide)).symm

end IsReadFrom

theorem isSome_commId?_iff :
    message.commId?.isSome = true ↔
      message.isComm = true ∧ (message.content.stringField? "comm_id").isSome = true := by
  unfold commId?
  split <;> simp [*]

theorem isSome_executionState?_iff :
    message.executionState?.isSome = true ↔
      message.msgType = "status" ∧
        (message.content.stringField? "execution_state").isSome = true := by
  unfold executionState?
  split <;> simp [*]

theorem ofJson_eq_ok_iff {value : Json} {buffers : List Bytes} :
    ofJson value buffers = .ok message ↔
      checkShape value = .ok () ∧ ofJson? value buffers = some message := by
  unfold ofJson
  cases checkShape value with
  | error fault => simp
  | ok _ => cases ofJson? value buffers <;> simp

theorem ofJson_eq_error_iff {value : Json} {buffers : List Bytes} {error : MessageError}
    (passed : checkShape value = .ok ()) :
    ofJson value buffers = .error error ↔ ofJson? value buffers = none ∧ error = .json := by
  unfold ofJson
  rw [passed]
  cases ofJson? value buffers <;> simp [eq_comm]

/-- What is at fault with a message is what is at fault with its shape. If nothing is, then the
message is read exactly if its date and that of a parent that is given are, which they are if they
are timestamps. What is read has objects as its metadata and content, the strings by which messages
are dispatched, and the parent that is given. -/
theorem ofJson_of_checked (value : Json) (buffers : List Bytes) :
    (∀ fault, checkShape value = .error fault →
      ofJson value buffers = .error (.invalid fault)) ∧
    (checkShape value = .ok () →
      ((∃ message, ofJson value buffers = .ok message) ↔
        ∀ dated ∈ datedHeaders value,
          (Instant.parse? (Header.textOf dated "date")).isSome = true) ∧
      (∀ error, ofJson value buffers = .error error → error = .json ∧
        ∃ dated ∈ datedHeaders value,
          ¬Instant.IsTimestamp (Header.textOf dated "date").toList) ∧
      ∀ message, ofJson value buffers = .ok message →
        message.metadata.asObject?.isSome = true ∧
        message.content.asObject?.isSome = true ∧
        (message.isComm = true → message.commId?.isSome = true) ∧
        (message.msgType = "comm_open" →
          (message.content.stringField? "target_name").isSome = true) ∧
        (message.msgType = "status" → message.channel = none ∨ message.channel = some .iopub →
          message.executionState?.isSome = true) ∧
        (message.parentHeader.isSome = true ↔
          (Header.given? (value.field? "parent_header")).isSome = true) ∧
        message.parentMsgId? =
          (Header.given? (value.field? "parent_header")).bind (Json.stringField? "msg_id")) := by
  refine ⟨fun fault faulty => by simp only [ofJson, faulty], fun passed => ?_⟩
  obtain ⟨fields, header, channel, rfl, shape⟩ := checkShape_eq_ok_iff.mp passed
  obtain ⟨dates, reads⟩ := ofJson?_of_hasShape shape buffers
  refine ⟨?_, fun error refused => ?_, fun message found => ?_⟩
  · rw [← dates, Option.isSome_iff_exists]
    exact exists_congr fun message => ofJson_eq_ok_iff.trans (and_iff_right passed)
  · obtain ⟨unread, rfl⟩ := (ofJson_eq_error_iff passed).mp refused
    refine ⟨rfl, ?_⟩
    by_contra noFault
    have stamped : ∀ dated ∈ datedHeaders (.object fields),
        Instant.IsTimestamp (Header.textOf dated "date").toList := fun dated member =>
      Classical.byContradiction fun notStamped => noFault ⟨dated, member, notStamped⟩
    have isRead := dates.mpr fun dated member => Instant.parse?_isSome (stamped dated member)
    rw [unread] at isRead
    cases isRead
  · have isRead := reads message (ofJson_eq_ok_iff.mp found).2
    obtain ⟨state, commId, target⟩ := forall_mem_requiredTexts_iff.mp (isRead.required shape)
    refine ⟨isRead.metadata_isObject shape, isRead.content_isObject shape, fun isComm => ?_, target,
      fun isStatus channel => ?_, ?_, isRead.parentMsgId? shape⟩
    · exact isSome_commId?_iff.mpr ⟨isComm, commId isComm⟩
    · refine isSome_executionState?_iff.mpr ⟨isStatus, state ?_⟩
      rcases channel with none | iopub
      · simp [reportsStatus, isStatus, none]
      · simp [reportsStatus, isStatus, iopub]
    · obtain ⟨date, same⟩ := isRead.parent
      rw [same, Option.isSome_map]
      rfl

/-- The opening of a comm in answer to a request, with dates of other offsets. -/
def opening : Json :=
  let header (msgId msgType date : String) : Json := .ofFields [
    ("msg_id", .string msgId), ("msg_type", .string msgType), ("session", .string "s"),
    ("username", .string ""), ("version", .string "5.4"), ("date", .string date)]
  .ofFields [
    ("header", header "2" "comm_open" "2016-12-31t15:59:60.25-08:00"),
    ("parent_header", header "1" "execute_request" "2017-01-01T00:00:00+00:00"),
    ("content", .ofFields [("comm_id", .string "c"), ("target_name", .string "t")])]

theorem ofJson_opening :
    checkShape opening = .ok () ∧ ∃ message, ofJson opening [] = .ok message ∧
      message.commId?.isSome = true ∧
      (message.content.stringField? "target_name").isSome = true ∧
      message.parentMsgId? = some "1" := by
  have passed : checkShape opening = .ok () := by decide +kernel
  obtain ⟨isRead, -, facts⟩ := (ofJson_of_checked opening []).2 passed
  obtain ⟨message, found⟩ := isRead.mpr (by decide +kernel)
  obtain ⟨-, -, comm, target, -, -, parent⟩ := facts message found
  have read : (ofJson opening []).toOption.map msgType = some "comm_open" := by decide +kernel
  have isOpening : message.msgType = "comm_open" := by
    rw [found] at read
    exact Option.some.inj read
  have isComm : message.isComm = true := by
    rw [isComm, isOpening]
    rfl
  exact ⟨passed, message, found, comm isComm, target isOpening, parent.trans (by decide +kernel)⟩

end Message

end KernelClient
