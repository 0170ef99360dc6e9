import KernelClient.Proofs.Message.Places
import Mathlib.Algebra.Group.Nat.Defs

/-!
# Reading frames by place

A machine does not take a binary frame apart from front to back. It looks at places in it, counts
with numbers of 64 bits, and its program ends when it counts beyond them or looks at a place that is
not there. Here the decoders are written in this way. Whatever the bytes are, the program does not
end, and it gives what the decoders give.
-/

namespace KernelClient.Frame

variable {protocol : WireProtocol} {data : Bytes}

/-- What ends a program. -/
inductive Trap where
  | overflow
  | outOfBounds
deriving DecidableEq

/-- Why no message is read: the program ended, or the frame was refused. -/
inductive Stop where
  | trapped (trap : Trap)
  | refused (error : MessageError)

namespace Stop

/-- A frame is refused because of its layout. -/
def malformed (fault : FrameFault) : Stop := .refused (.malformed fault)

end Stop

/-- A number that the machine can hold. -/
def fits (number : Nat) : Except Stop Nat :=
  if number < UInt64.size then .ok number else .error (.trapped .overflow)

/-- The bytes from one place to another, both of which have to be there. -/
def slice (data : Bytes) (start stop : Nat) : Except Stop Bytes :=
  if start ≤ stop ∧ stop ≤ data.length then .ok (between data start stop)
  else .error (.trapped .outOfBounds)

/-- The part with an index, which has to be there. -/
def item (parts : List Bytes) (index : Nat) : Except Stop Bytes :=
  match parts[index]? with
  | some part => .ok part
  | none => .error (.trapped .outOfBounds)

/-- The parts from an index on, which must not be beyond their end. -/
def itemsFrom (parts : List Bytes) (index : Nat) : Except Stop (List Bytes) :=
  if index ≤ parts.length then .ok (parts.drop index) else .error (.trapped .outOfBounds)

/-- The word at a place, if the frame goes on for so long. -/
def readWordAt (protocol : WireProtocol) (data : Bytes) (place : Nat) : Except Stop Nat := do
  let stop ← fits (place + protocol.wordWidth)
  if stop ≤ data.length then fits (protocol.readWord (between data place stop))
  else .error (.malformed .truncatedTable)

/-- The offsets behind the first word. -/
def readOffsets (protocol : WireProtocol) (data : Bytes) (number : Nat) :
    Except Stop (List Nat) :=
  (List.range number).mapM fun index => do
    let next ← fits (index + 1)
    let place ← fits (protocol.wordWidth * next)
    readWordAt protocol data place

/-- The part between two offsets. -/
def splitPart (data : Bytes) (window : Nat × Nat) : Except Stop Bytes :=
  if window.1 ≤ window.2 ∧ window.2 ≤ data.length then slice data window.1 window.2
  else .error (.malformed (.rangeOutside window.1 window.2 data.length))

/-- The parts between consecutive offsets. -/
def splitParts (data : Bytes) (offsets : List Nat) : Except Stop (List Bytes) :=
  (offsets.zip offsets.tail).mapM (splitPart data)

/-- The value whose text is a part. -/
def readJson (part : Bytes) : Except Stop Json :=
  match Json.parseBytes? part with
  | some value => .ok value
  | none => .error (.refused .json)

def readMessage (value : Json) (buffers : List Bytes) : Except Stop Message :=
  (Message.ofJson value buffers).mapError .refused

def readPartsLegacy (data : Bytes) : Except Stop (List Bytes) := do
  let number ← readWordAt .legacy data 0
  if number = 0 then .error (.malformed .noParts)
  else
    let words ← fits (number + 1)
    let size ← fits (4 * words)
    if data.length < size then .error (.malformed .truncatedTable)
    else
      let offsets ← readOffsets .legacy data number
      splitParts data (offsets ++ [data.length])

def readPartsSegmented (data : Bytes) : Except Stop (List Bytes) := do
  let number ← readWordAt .v1 data 0
  if 6 ≤ number ∧ number ≤ mostOffsets then
    let offsets ← readOffsets .v1 data number
    let last := offsets.getLast?.getD 0
    if last = data.length then splitParts data (offsets.dropLast ++ [last])
    else .error (.malformed .endMismatch)
  else .error (.malformed (.offsetCount number))

def readLegacy (data : Bytes) : Except Stop Message := do
  let parts ← readPartsLegacy data
  let body ← item parts 0
  let value ← readJson body
  let buffers ← itemsFrom parts 1
  readMessage value buffers

def readSegmented (data : Bytes) : Except Stop Message := do
  let parts ← readPartsSegmented data
  let first ← item parts 0
  match ofUtf8? first with
  | none => .error (.malformed .channelNotText)
  | some channel =>
      let header ← readJson (← item parts 1)
      let parent ← readJson (← item parts 2)
      let metadata ← readJson (← item parts 3)
      let content ← readJson (← item parts 4)
      let value := Json.ofFields [
        ("channel", .string channel), ("header", header), ("parent_header", parent),
        ("metadata", metadata), ("content", content)]
      let buffers ← itemsFrom parts 5
      readMessage value buffers

/-- The message in a binary frame, read by place. -/
def readByPlace : WireProtocol → Bytes → Except Stop Message
  | .legacy => readLegacy
  | .v1 => readSegmented

theorem fits_of_lt {number : Nat} (small : number < UInt64.size) : fits number = .ok number :=
  if_pos small

theorem ofLittleEndian_lt (bytes : Bytes) :
    Words.ofLittleEndian bytes < 256 ^ bytes.length := by
  induction bytes with
  | nil => simp [Words.ofLittleEndian]
  | cons byte rest ih =>
      have less : byte.toNat < 256 := byte.toNat_lt
      rw [Words.ofLittleEndian, List.length_cons, Nat.pow_succ]
      omega

/-- A word is less than the power of 256 that belongs to its width. -/
theorem word_lt (protocol : WireProtocol) (data : Bytes) (index : Nat) :
    word protocol data index < 256 ^ protocol.wordWidth := by
  have short : (between data (protocol.wordWidth * index)
      (protocol.wordWidth * (index + 1))).length ≤ protocol.wordWidth := by
    rw [between, List.length_take, Nat.mul_succ, Nat.add_sub_cancel_left]
    exact Nat.min_le_left _ _
  have bound := Nat.pow_le_pow_right (by decide : 0 < 256) short
  unfold word
  cases protocol with
  | legacy =>
      refine Nat.lt_of_lt_of_le (ofLittleEndian_lt _) ?_
      rwa [List.length_reverse]
  | v1 => exact Nat.lt_of_lt_of_le (ofLittleEndian_lt _) bound

/-- A word of the table is read if the frame goes on to its end. -/
theorem readWordAt_eq (protocol : WireProtocol) (data : Bytes) (index : Nat)
    (small : index < UInt32.size) :
    readWordAt protocol data (protocol.wordWidth * index) =
      if protocol.wordWidth * (index + 1) ≤ data.length then .ok (word protocol data index)
      else .error (.malformed .truncatedTable) := by
  have width : protocol.wordWidth ≤ 8 := by cases protocol <;> decide
  have place : protocol.wordWidth * index + protocol.wordWidth < UInt64.size := by
    have bound := Nat.mul_le_mul_right index width
    have range : UInt32.size = 4294967296 ∧ UInt64.size = 18446744073709551616 := by decide
    omega
  have value : word protocol data index < UInt64.size :=
    Nat.lt_of_lt_of_le (word_lt protocol data index) (Nat.pow_le_pow_right (by decide) width)
  rw [readWordAt, fits_of_lt place]
  dsimp only [bind, Except.bind]
  rw [← Nat.mul_succ]
  exact if_congr Iff.rfl (fits_of_lt value) rfl

/-- If a step gives a value or always the same fault, all steps together give all values or that
fault. -/
theorem mapM_eq_ite {ι α : Type} {step : ι → Except Stop α} {holds : ι → Prop}
    [DecidablePred holds] {value : ι → α} {fault : Stop} {items : List ι}
    (each : ∀ item ∈ items, step item = if holds item then .ok (value item) else .error fault) :
    items.mapM step =
      if ∀ item ∈ items, holds item then .ok (items.map value) else .error fault := by
  induction items with
  | nil => simp [pure, Except.pure]
  | cons first rest ih =>
      obtain ⟨atFirst, atRest⟩ := List.forall_mem_cons.mp each
      rw [List.mapM_cons, atFirst, ih atRest]
      by_cases good : holds first
      · by_cases others : ∀ item ∈ rest, holds item
        · rw [if_pos good, if_pos others, if_pos (List.forall_mem_cons.mpr ⟨good, others⟩)]
          rfl
        · have fails : ¬∀ item ∈ first :: rest, holds item := fun all =>
            others (List.forall_mem_cons.mp all).2
          rw [if_pos good, if_neg others, if_neg fails]
          rfl
      · have fails : ¬∀ item ∈ first :: rest, holds item := fun all =>
          good (List.forall_mem_cons.mp all).1
        rw [if_neg good, if_neg fails]
        rfl

/-- The offsets are read if the whole table is there. -/
theorem readOffsets_eq (number : Nat) (positive : 0 < number) (small : number < UInt32.size) :
    readOffsets protocol data number =
      if protocol.wordWidth * (number + 1) ≤ data.length then
        .ok ((List.range number).map (offset protocol data))
      else .error (.malformed .truncatedTable) := by
  have each : ∀ index ∈ List.range number, (do
      let next ← fits (index + 1)
      let place ← fits (protocol.wordWidth * next)
      readWordAt protocol data place) =
        if protocol.wordWidth * (index + 2) ≤ data.length then .ok (offset protocol data index)
        else .error (.malformed .truncatedTable) := by
    intro index member
    have less := List.mem_range.mp member
    have range : UInt32.size = 4294967296 ∧ UInt64.size = 18446744073709551616 := by decide
    have place : protocol.wordWidth * (index + 1) < UInt64.size := by
      have width : protocol.wordWidth ≤ 8 := by cases protocol <;> decide
      have bound := Nat.mul_le_mul_right (index + 1) width
      omega
    rw [fits_of_lt (by omega)]
    dsimp only [bind, Except.bind]
    rw [fits_of_lt place]
    exact readWordAt_eq protocol data (index + 1) (by omega)
  have whole : (∀ index ∈ List.range number, protocol.wordWidth * (index + 2) ≤ data.length) ↔
      protocol.wordWidth * (number + 1) ≤ data.length := by
    constructor
    · intro all
      have last := all (number - 1) (List.mem_range.mpr (by omega))
      rwa [show number - 1 + 2 = number + 1 by omega] at last
    · intro complete index member
      have less := List.mem_range.mp member
      exact (Nat.mul_le_mul_left _ (by omega)).trans complete
  rw [readOffsets, mapM_eq_ite each]
  exact if_congr whole rfl rfl

/-- Each part that is sliced out of a frame is within it. -/
theorem splitParts_eq (data : Bytes) (offsets : List Nat) :
    splitParts data offsets = (cut data offsets).mapError .malformed := by
  unfold splitParts cut
  induction offsets with
  | nil => rfl
  | cons start rest ih =>
      cases rest with
      | nil => rfl
      | cons stop rest =>
          rw [List.tail_cons, List.zip_cons_cons, List.mapM_cons]
          by_cases ordered : start ≤ stop ∧ stop ≤ data.length
          · have onward : (data.drop start).drop (stop - start) = data.drop stop := by
              rw [List.drop_drop, Nat.add_sub_cancel' ordered.1]
            rw [List.tail_cons, List.headD_cons] at ih
            rw [slices, if_pos ordered, splitPart, if_pos ordered, slice, if_pos ordered,
              List.headD_cons, onward, ih]
            cases slices data.length (stop :: rest) (data.drop stop) <;> rfl
          · rw [slices, if_neg ordered, splitPart, if_neg ordered]
            rfl

/-- The first word is read if it is there. -/
theorem readWordAt_zero (protocol : WireProtocol) (data : Bytes) :
    readWordAt protocol data 0 =
      if protocol.wordWidth ≤ data.length then .ok (count protocol data)
      else .error (.malformed .truncatedTable) := by
  have first := readWordAt_eq protocol data 0 (by decide)
  rwa [Nat.mul_zero, Nat.zero_add, Nat.mul_one] at first

theorem readPartsLegacy_eq (data : Bytes) :
    readPartsLegacy data = (partsLegacy data).mapError .malformed := by
  have first : readWordAt .legacy data 0 = if 4 ≤ data.length then _ else _ :=
    readWordAt_zero .legacy data
  have small : count .legacy data < UInt32.size := word_lt .legacy data 0
  have sizes : UInt32.size = 4294967296 ∧ UInt64.size = 18446744073709551616 := by decide
  rw [readPartsLegacy, partsLegacy_eq, first]
  by_cases counted : 4 ≤ data.length
  · rw [if_pos counted, if_pos counted]
    dsimp only [bind, Except.bind]
    by_cases empty : count .legacy data = 0
    · rw [if_pos empty, if_pos empty]
      rfl
    · have offsets : readOffsets .legacy data _ = if 4 * (_ + 1) ≤ data.length then _ else _ :=
        readOffsets_eq _ (Nat.pos_of_ne_zero empty) small
      -- The number of offsets has four bytes, so that no size computed from it has more than eight.
      rw [if_neg empty, if_neg empty, fits_of_lt (by omega)]
      dsimp only
      rw [fits_of_lt (by omega), offsets]
      dsimp only
      by_cases complete : 4 * (count .legacy data + 1) ≤ data.length
      · rw [if_neg (Nat.not_lt.mpr complete), if_pos complete, if_pos complete,
          ← boundaries_legacy]
        exact splitParts_eq data _
      · rw [if_pos (Nat.lt_of_not_le complete), if_neg complete]
        rfl
  · rw [if_neg counted, if_neg counted]
    rfl

theorem readPartsSegmented_eq (data : Bytes) :
    readPartsSegmented data = (partsSegmented data).mapError .malformed := by
  have first : readWordAt .v1 data 0 = if 8 ≤ data.length then _ else _ :=
    readWordAt_zero .v1 data
  have sizes : UInt32.size = 4294967296 ∧ mostOffsets = 4096 := by decide
  rw [readPartsSegmented, partsSegmented_eq, first]
  by_cases counted : 8 ≤ data.length
  · rw [if_pos counted, if_pos counted]
    dsimp only [bind, Except.bind]
    by_cases limits : 6 ≤ count .v1 data ∧ count .v1 data ≤ mostOffsets
    · have offsets : readOffsets .v1 data _ = if 8 * (_ + 1) ≤ data.length then _ else _ :=
        readOffsets_eq (count .v1 data) (by omega) (by omega)
      have last : ((List.range (count .v1 data)).map (offset .v1 data)).getLast? =
          some (offset .v1 data (count .v1 data - 1)) := by
        rw [List.getLast?_map, List.getLast?_range, if_neg (by omega), Option.map_some]
      rw [if_pos limits, if_pos limits, offsets]
      by_cases complete : 8 * (count .v1 data + 1) ≤ data.length
      · rw [if_pos complete, if_pos complete]
        dsimp only
        rw [last, Option.getD_some, List.dropLast_append_getLast? _ last, boundaries_v1 (by omega)]
        by_cases ends : offset .v1 data (count .v1 data - 1) = data.length
        · rw [if_pos ends, if_pos ends]
          exact splitParts_eq data _
        · rw [if_neg ends, if_neg ends]
          rfl
      · rw [if_neg complete, if_neg complete]
        rfl
    · rw [if_neg limits, if_neg limits]
      rfl
  · rw [if_neg counted, if_neg counted]
    rfl

/-- The parts of a legacy message are looked at in places that are there. -/
theorem readLegacy_eq (data : Bytes) :
    readLegacy data = (decodeLegacy data).mapError .refused := by
  rw [readLegacy, readPartsLegacy_eq]
  cases attempt : partsLegacy data with
  | error fault =>
      rw [decodeLegacy, attempt]
      rfl
  | ok cuts =>
      obtain ⟨laidOut, same⟩ := partsLegacy_eq_ok_iff.mp attempt
      have leading : cuts = part .legacy data 0 :: (parts .legacy data).drop 1 :=
        same.trans laidOut.leading_append.symm
      have behind : itemsFrom cuts 1 = .ok ((parts .legacy data).drop 1) := by
        rw [itemsFrom, if_pos (by rw [leading]; simp), same]
      rw [laidOut.decodeLegacy_eq]
      dsimp only [bind, Except.bind, Except.mapError]
      rw [behind, leading, item, List.getElem?_cons_zero]
      dsimp only
      rw [readJson]
      cases Json.parseBytes? (part .legacy data 0) <;> rfl

/-- The parts of a segmented message are looked at in places that are there. -/
theorem readSegmented_eq (data : Bytes) :
    readSegmented data = (decodeSegmented data).mapError .refused := by
  rw [readSegmented, readPartsSegmented_eq]
  cases attempt : partsSegmented data with
  | error fault =>
      rw [decodeSegmented, attempt]
      rfl
  | ok cuts =>
      obtain ⟨laidOut, same⟩ := partsSegmented_eq_ok_iff.mp attempt
      have leading : cuts = part .v1 data 0 :: part .v1 data 1 :: part .v1 data 2 ::
          part .v1 data 3 :: part .v1 data 4 :: (parts .v1 data).drop 5 :=
        same.trans laidOut.leading_append.symm
      have behind : itemsFrom cuts 5 = .ok ((parts .v1 data).drop 5) := by
        rw [itemsFrom, if_pos (by rw [leading]; simp), same]
      have items : item cuts 0 = .ok (part .v1 data 0) ∧ item cuts 1 = .ok (part .v1 data 1) ∧
          item cuts 2 = .ok (part .v1 data 2) ∧ item cuts 3 = .ok (part .v1 data 3) ∧
            item cuts 4 = .ok (part .v1 data 4) := by
        rw [leading]
        exact ⟨rfl, rfl, rfl, rfl, rfl⟩
      obtain ⟨first, second, third, fourth, fifth⟩ := items
      rw [laidOut.decodeSegmented_eq, decodeParts]
      dsimp only [bind, Except.bind, Except.mapError]
      rw [first]
      dsimp only
      cases ofUtf8? (part .v1 data 0) with
      | none => rfl
      | some channel =>
          dsimp only
          rw [second, third, fourth, fifth, behind]
          dsimp only [readJson]
          cases Json.parseBytes? (part .v1 data 1) with
          | none => rfl
          | some header =>
              cases Json.parseBytes? (part .v1 data 2) with
              | none => rfl
              | some parent =>
                  cases Json.parseBytes? (part .v1 data 3) with
                  | none => rfl
                  | some metadata => cases Json.parseBytes? (part .v1 data 4) <;> rfl

/-- Whatever bytes a frame has, looking at places in it gives what the decoders give, and no place
is looked at that is not there. A frame is malformed exactly if it is not laid out well or its
channel is not a text. The parts of a frame that gives a message lie within it, each where the one
before it ends, and together they are all that follows the first offset; the last of them are the
buffers of the message. -/
theorem readByPlace_exactly (protocol : WireProtocol) (data : Bytes) :
    readByPlace protocol data = (decode (.binary data) protocol).mapError .refused ∧
    (∀ trap, readByPlace protocol data ≠ .error (.trapped trap)) ∧
    ((∃ fault, decode (.binary data) protocol = .error (.malformed fault)) ↔
      ¬IsLaidOut protocol data ∨ protocol = .v1 ∧ ofUtf8? (part .v1 data 0) = none) ∧
    ∀ message, decode (.binary data) protocol = .ok message →
      cutParts protocol data = .ok (parts protocol data) ∧
      (∀ index < partCount protocol data,
        boundary protocol data index ≤ boundary protocol data (index + 1) ∧
          boundary protocol data (index + 1) ≤ data.length) ∧
      (parts protocol data).flatten = data.drop (offset protocol data 0) ∧
      message.buffers = (parts protocol data).drop protocol.leadingParts := by
  have same : readByPlace protocol data = (decode (.binary data) protocol).mapError .refused := by
    cases protocol with
    | legacy => exact readLegacy_eq data
    | v1 => exact readSegmented_eq data
  have malformed : (∃ fault, decode (.binary data) protocol = .error (.malformed fault)) ↔
      ¬IsLaidOut protocol data ∨ protocol = .v1 ∧ ofUtf8? (part .v1 data 0) = none := by
    cases protocol with
    | legacy => simpa [decode] using @decodeLegacy_malformed_iff data
    | v1 => simpa [decode] using @decodeSegmented_malformed_iff data
  refine ⟨same, fun trap ended => ?_, malformed, fun message accepted => ?_⟩
  · rw [same] at ended
    cases attempt : decode (.binary data) protocol with
    | error error => simp [attempt, Except.mapError] at ended
    | ok message => simp [attempt, Except.mapError] at ended
  · have laidOut : IsLaidOut protocol data := by
      by_contra notLaidOut
      obtain ⟨fault, refused⟩ := malformed.mpr (.inl notLaidOut)
      rw [refused] at accepted
      cases accepted
    exact ⟨cutParts_eq_ok_iff.mpr ⟨laidOut, rfl⟩, laidOut.boundaries.1, laidOut.flatten_parts,
      laidOut.buffers_eq accepted⟩

/-- A legacy frame with four bytes behind its table that belong to no part, and two buffers, of
which the second is empty. -/
def gapFrame : Bytes :=
  let body := utf8 ("\x7b\"header\":\x7b\"date\":\"2025-05-14T16:32:23Z\",\"msg_id\":\"m\"," ++
    "\"msg_type\":\"\",\"session\":\"\",\"username\":\"\",\"version\":\"\"\x7d\x7d")
  let starts := Words.starts 20 [body, [1, 2], []]
  Words.bigEndian 4 3 ++ starts.flatMap (Words.bigEndian 4) ++ [0, 0, 0, 0] ++ body ++ [1, 2]

theorem readByPlace_gapFrame :
    ∃ message, readByPlace .legacy gapFrame = .ok message ∧
      (parts .legacy gapFrame).flatten = gapFrame.drop 20 ∧ message.buffers = [[1, 2], []] := by
  obtain ⟨same, -, -, sliced⟩ := readByPlace_exactly .legacy gapFrame
  have accepted : (decode (.binary gapFrame) .legacy).toOption.isSome = true := by decide +kernel
  have start : offset .legacy gapFrame 0 = 20 := by decide +kernel
  have behind : (parts .legacy gapFrame).drop WireProtocol.legacy.leadingParts = [[1, 2], []] := by
    decide +kernel
  cases decoded : decode (.binary gapFrame) .legacy with
  | error error =>
      rw [decoded] at accepted
      cases accepted
  | ok message =>
      obtain ⟨-, -, joined, buffers⟩ := sliced message decoded
      rw [decoded] at same
      exact ⟨message, same, start ▸ joined, buffers.trans behind⟩

end KernelClient.Frame
