import KernelClient.Message.Frame.Codec
import KernelClient.Proofs.Message.Acceptance
import Mathlib.Data.List.Range

/-!
# Frames read by place

A binary frame begins with words: the number of its offsets and the offsets themselves. A frame is
laid out well if all of these words are there, the offsets never decrease and the last one is within
the frame, or is its end in the segmented framing. Such frames, and no others, are cut into parts,
which follow one another without a gap from the first offset to the end.

A frame that is not laid out well is malformed. One that is gives a message with its last parts as
buffers, unless its first parts are not texts that make a message.
-/

namespace KernelClient

namespace WireProtocol

/-- How many bytes a word at the beginning of a binary frame has. -/
def wordWidth : WireProtocol → Nat
  | .legacy => 4
  | .v1 => 8

/-- The number in a word. -/
def readWord : WireProtocol → Bytes → Nat
  | .legacy => Words.ofBigEndian
  | .v1 => Words.ofLittleEndian

/-- How many parts of a frame come before the buffers. -/
def leadingParts : WireProtocol → Nat
  | .legacy => 1
  | .v1 => 5

end WireProtocol

namespace Frame

/-- The bytes from one place to another. -/
def between (data : Bytes) (start stop : Nat) : Bytes := (data.drop start).take (stop - start)

section Places

variable (protocol : WireProtocol) (data : Bytes)

/-- One of the words with which a frame begins. -/
def word (index : Nat) : Nat :=
  protocol.readWord
    (between data (protocol.wordWidth * index) (protocol.wordWidth * (index + 1)))

/-- How many offsets there are according to the first word. -/
def count : Nat := word protocol data 0

def offset (index : Nat) : Nat := word protocol data (index + 1)

/-- Where a part begins and the one before it ends. Behind the last offset that is the end of the
frame. -/
def boundary (index : Nat) : Nat :=
  if index < count protocol data then offset protocol data index else data.length

/-- How many parts there are. In the segmented framing the last offset begins no part. -/
def partCount : Nat :=
  match protocol with
  | .legacy => count .legacy data
  | .v1 => count .v1 data - 1

def part (index : Nat) : Bytes :=
  between data (boundary protocol data index) (boundary protocol data (index + 1))

def parts : List Bytes := (List.range (partCount protocol data)).map (part protocol data)

/-- All offsets are there, and none is less than the one before it. -/
structure HasTable : Prop where
  complete : protocol.wordWidth * (count protocol data + 1) ≤ data.length
  ascending : ∀ index, index + 1 < count protocol data →
    offset protocol data index ≤ offset protocol data (index + 1)

/-- Whether a frame is laid out as its framing demands. -/
def IsLaidOut : Prop :=
  HasTable protocol data ∧
    match protocol with
    | .legacy =>
        1 ≤ count .legacy data ∧ offset .legacy data (count .legacy data - 1) ≤ data.length
    | .v1 =>
        6 ≤ count .v1 data ∧ count .v1 data ≤ 4096 ∧
          offset .v1 data (count .v1 data - 1) = data.length

end Places

variable {protocol : WireProtocol} {data : Bytes}

theorem between_drop (data : Bytes) (first start stop : Nat) :
    between (data.drop first) start stop = between data (first + start) (first + stop) := by
  rw [between, between, List.drop_drop, Nat.add_sub_add_left]

/-- A table is read if the frame has as many words, and what is read are these words. -/
theorem readTable?_eq (read : Bytes → Nat) (width number : Nat) (data : Bytes) :
    Words.readTable? read width number data =
      if width * number ≤ data.length then
        some ((List.range number).map fun index =>
          read (between data (width * index) (width * (index + 1))), data.drop (width * number))
      else none := by
  induction number generalizing data with
  | zero => simp [Words.readTable?]
  | succ number ih =>
      rw [Words.readTable?, List.splitAt_eq]
      dsimp only
      by_cases first : width ≤ data.length
      · rw [if_pos (by rw [List.length_take, Nat.min_eq_left first]), ih, List.length_drop]
        have shorter : width * number ≤ data.length - width ↔ width * (number + 1) ≤ data.length := by
          rw [Nat.mul_succ]
          omega
        by_cases rest : width * (number + 1) ≤ data.length
        · rw [if_pos (shorter.mpr rest), if_pos rest, List.drop_drop, List.range_succ_eq_map]
          have head : between data (width * 0) (width * (0 + 1)) = data.take width := by
            simp [between]
          have shifted (index : Nat) :
              between (data.drop width) (width * index) (width * (index + 1)) =
                between data (width * (index + 1)) (width * (index + 1 + 1)) := by
            rw [between_drop, Nat.add_comm width, Nat.add_comm width]
            rfl
          have behind : width * (number + 1) = width + width * number := by
            rw [Nat.mul_succ, Nat.add_comm]
          simp only [Option.map_some, List.map_cons, List.map_map, Function.comp_def, shifted, head,
            Nat.succ_eq_add_one, behind]
        · rw [if_neg fun fits => rest (shorter.mp fits), if_neg rest, Option.map_none]
      · have short : ¬width * (number + 1) ≤ data.length := by
          rw [Nat.mul_succ]
          omega
        rw [if_neg (by rw [List.length_take]; omega), if_neg short]

/-- A frame is cut if each offset is within it and not below the one before it, and what is cut out
are the bytes between consecutive offsets. -/
theorem cut_eq_ok_iff {offsets : List Nat} {cuts : List Bytes} :
    cut data offsets = .ok cuts ↔
      offsets.IsChain (fun start stop => start ≤ stop ∧ stop ≤ data.length) ∧
        cuts = List.zipWith (between data) offsets offsets.tail := by
  unfold cut
  induction offsets generalizing cuts with
  | nil => simp [slices, eq_comm]
  | cons start rest ih =>
      cases rest with
      | nil => simp [slices, eq_comm]
      | cons stop rest =>
          rw [slices, List.isChain_cons_cons]
          by_cases ordered : start ≤ stop ∧ stop ≤ data.length
          · have onward : (data.drop start).drop (stop - start) = data.drop stop := by
              rw [List.drop_drop, Nat.add_sub_cancel' ordered.1]
            rw [List.headD_cons] at ih
            rw [if_pos ordered, List.headD_cons, onward]
            cases later : slices data.length (stop :: rest) (data.drop stop) with
            | error fault =>
                have refused := fun cuts => (later ▸ @ih cuts)
                simp only [reduceCtorEq, false_iff, not_and] at refused
                simp only [Except.map, reduceCtorEq, false_iff, not_and]
                exact fun chain _ => refused _ chain.2 rfl
            | ok others =>
                obtain ⟨chain, same⟩ := ih.mp later
                simp [Except.map, chain, same, ordered, between, eq_comm]
          · rw [if_neg ordered]
            simp [ordered]

/-- Adjacent bytes are joined at the place where the first end. -/
theorem between_append {start middle stop : Nat} (ordered : start ≤ middle)
    (onward : middle ≤ stop) :
    between data start middle ++ between data middle stop = between data start stop := by
  have split : stop - start = (middle - start) + (stop - middle) := by omega
  have place : data.drop middle = (data.drop start).drop (middle - start) := by
    rw [List.drop_drop, Nat.add_sub_cancel' ordered]
  rw [between, between, between, place, split, List.take_add]

/-- What is cut out at rising places is all that lies between the first of them and the last. -/
theorem flatten_between (data : Bytes) {place : Nat → Nat} {number : Nat}
    (ascending : ∀ index < number, place index ≤ place (index + 1)) :
    ((List.range number).map fun index =>
      between data (place index) (place (index + 1))).flatten =
        between data (place 0) (place number) ∧ place 0 ≤ place number := by
  induction number with
  | zero => simp [between]
  | succ number ih =>
      obtain ⟨joined, below⟩ := ih fun index less => ascending index (Nat.lt_succ_of_lt less)
      have last := ascending number (Nat.lt_succ_self number)
      rw [List.range_succ, List.map_append, List.flatten_append, joined]
      exact ⟨by simp [between_append below last], below.trans last⟩

/-- Places that are given one by one instead of in a list. -/
theorem cut_map_range_eq_ok_iff {place : Nat → Nat} {number : Nat} {cuts : List Bytes} :
    cut data ((List.range (number + 1)).map place) = .ok cuts ↔
      (∀ index < number, place index ≤ place (index + 1) ∧ place (index + 1) ≤ data.length) ∧
        cuts = (List.range number).map fun index =>
          between data (place index) (place (index + 1)) := by
  have zipped : List.zipWith (between data) ((List.range (number + 1)).map place)
      ((List.range (number + 1)).map place).tail =
        (List.range number).map fun index => between data (place index) (place (index + 1)) := by
    apply List.ext_getElem
    · simp
    · intro index _ _
      simp
  rw [cut_eq_ok_iff, List.isChain_map, List.isChain_range_succ, zipped]

theorem readTable?_count (protocol : WireProtocol) (data : Bytes) :
    Words.readTable? protocol.readWord protocol.wordWidth 1 data =
      if protocol.wordWidth ≤ data.length then
        some ([count protocol data], data.drop protocol.wordWidth)
      else none := by
  rw [readTable?_eq, Nat.mul_one]
  rfl

/-- The offsets are read if the frame is long enough for them and their number. -/
theorem readTable?_offsets (protocol : WireProtocol) {data : Bytes}
    (counted : protocol.wordWidth ≤ data.length) (number : Nat) :
    Words.readTable? protocol.readWord protocol.wordWidth number
        (data.drop protocol.wordWidth) =
      if protocol.wordWidth * (number + 1) ≤ data.length then
        some ((List.range number).map (offset protocol data),
          data.drop (protocol.wordWidth * (number + 1)))
      else none := by
  have behind (index : Nat) : protocol.wordWidth + protocol.wordWidth * index =
      protocol.wordWidth * (index + 1) := by
    rw [Nat.mul_succ, Nat.add_comm]
  have shorter : protocol.wordWidth * number ≤ data.length - protocol.wordWidth ↔
      protocol.wordWidth * (number + 1) ≤ data.length := by
    rw [← behind]
    omega
  have shifted (index : Nat) : protocol.readWord (between (data.drop protocol.wordWidth)
      (protocol.wordWidth * index) (protocol.wordWidth * (index + 1))) =
        offset protocol data index := by
    rw [between_drop, behind, behind]
    rfl
  simp only [readTable?_eq, List.length_drop, shorter, shifted, List.drop_drop, behind]

/-- In a table no offset is greater than a later one. -/
theorem HasTable.offset_le (table : HasTable protocol data) {first later : Nat}
    (before : first ≤ later) (last : later < count protocol data) :
    offset protocol data first ≤ offset protocol data later := by
  induction later, before using Nat.le_induction with
  | base => exact Nat.le_refl _
  | succ later _ ih => exact (ih (by omega)).trans (table.ascending later last)

theorem boundary_of_lt {index : Nat} (within : index < count protocol data) :
    boundary protocol data index = offset protocol data index :=
  if_pos within

/-- The offsets of a legacy frame and its end are its boundaries. -/
theorem boundaries_legacy (data : Bytes) :
    (List.range (count .legacy data)).map (offset .legacy data) ++ [data.length] =
      (List.range (partCount .legacy data + 1)).map (boundary .legacy data) := by
  rw [partCount, List.range_succ, List.map_append, List.map_singleton, boundary, if_neg
    (Nat.lt_irrefl _)]
  congr 1
  exact List.map_congr_left fun index member => (boundary_of_lt (List.mem_range.mp member)).symm

theorem boundaries_v1 (positive : 1 ≤ count .v1 data) :
    (List.range (count .v1 data)).map (offset .v1 data) =
      (List.range (partCount .v1 data + 1)).map (boundary .v1 data) := by
  rw [partCount, Nat.sub_add_cancel positive]
  exact List.map_congr_left fun index member => (boundary_of_lt (List.mem_range.mp member)).symm

/-- What is known of the boundaries of a frame that is laid out well. -/
theorem IsLaidOut.boundaries (laidOut : IsLaidOut protocol data) :
    (∀ index < partCount protocol data,
      boundary protocol data index ≤ boundary protocol data (index + 1) ∧
        boundary protocol data (index + 1) ≤ data.length) ∧
      boundary protocol data (partCount protocol data) = data.length ∧
      boundary protocol data 0 = offset protocol data 0 := by
  obtain ⟨table, limits⟩ := laidOut
  cases protocol with
  | legacy =>
      obtain ⟨positive, within⟩ := limits
      have last (index : Nat) (less : index < count .legacy data) :
          offset .legacy data index ≤ data.length :=
        (table.offset_le (by omega) (by omega)).trans within
      refine ⟨fun index less => ?_, if_neg (Nat.lt_irrefl _), boundary_of_lt positive⟩
      rw [boundary_of_lt less]
      by_cases further : index + 1 < count .legacy data
      · rw [boundary_of_lt further]
        exact ⟨table.ascending index further, last _ further⟩
      · rw [boundary, if_neg further]
        exact ⟨last index less, Nat.le_refl _⟩
  | v1 =>
      obtain ⟨few, -, ends⟩ := limits
      refine ⟨fun index less => ?_, ?_, boundary_of_lt (by omega)⟩
      · have further : index + 1 < count .v1 data := by
          rw [partCount] at less
          omega
        rw [boundary_of_lt further, boundary_of_lt (Nat.lt_of_succ_lt further)]
        refine ⟨table.ascending index further, ?_⟩
        exact (table.offset_le (by omega) (by omega)).trans ends.le
      · rw [partCount, boundary_of_lt (by omega), ends]

/-- How a legacy frame is cut, said of its words. -/
theorem partsLegacy_eq (data : Bytes) :
    partsLegacy data =
      if 4 ≤ data.length then
        if count .legacy data = 0 then .error .noParts
        else if 4 * (count .legacy data + 1) ≤ data.length then
          cut data ((List.range (partCount .legacy data + 1)).map (boundary .legacy data))
        else .error .truncatedTable
      else .error .truncatedTable := by
  have counts : Words.readTable? Words.ofBigEndian 4 1 data = _ := readTable?_count .legacy data
  unfold partsLegacy
  by_cases counted : 4 ≤ data.length
  · have offsets : Words.readTable? Words.ofBigEndian 4 (count .legacy data) (data.drop 4) = _ :=
      readTable?_offsets .legacy counted (count .legacy data)
    simp only [counts, WireProtocol.wordWidth, counted, if_true]
    split
    case isTrue => rfl
    case isFalse filled =>
      rw [offsets]
      by_cases complete : 4 * (count .legacy data + 1) ≤ data.length
      · simp only [WireProtocol.wordWidth, complete, if_true, boundaries_legacy]
      · simp only [WireProtocol.wordWidth, complete, if_false]
  · simp only [counts, WireProtocol.wordWidth, counted, if_false]

/-- How a segmented frame is cut, said of its words. -/
theorem partsSegmented_eq (data : Bytes) :
    partsSegmented data =
      if 8 ≤ data.length then
        if 6 ≤ count .v1 data ∧ count .v1 data ≤ mostOffsets then
          if 8 * (count .v1 data + 1) ≤ data.length then
            if offset .v1 data (count .v1 data - 1) = data.length then
              cut data ((List.range (partCount .v1 data + 1)).map (boundary .v1 data))
            else .error .endMismatch
          else .error .truncatedTable
        else .error (.offsetCount (count .v1 data))
      else .error .truncatedTable := by
  have counts : Words.readTable? Words.ofLittleEndian 8 1 data = _ := readTable?_count .v1 data
  unfold partsSegmented
  by_cases counted : 8 ≤ data.length
  · have offsets : Words.readTable? Words.ofLittleEndian 8 (count .v1 data) (data.drop 8) = _ :=
      readTable?_offsets .v1 counted (count .v1 data)
    simp only [counts, WireProtocol.wordWidth, counted, if_true]
    by_cases limits : 6 ≤ count .v1 data ∧ count .v1 data ≤ mostOffsets
    · have last : ((List.range (count .v1 data)).map (offset .v1 data)).getLast? =
          some (offset .v1 data (count .v1 data - 1)) := by
        rw [List.getLast?_map, List.getLast?_range, if_neg (by omega), Option.map_some]
      rw [if_pos limits, if_pos limits, offsets]
      by_cases complete : 8 * (count .v1 data + 1) ≤ data.length
      · rw [boundaries_v1 (by omega)] at last ⊢
        simp only [WireProtocol.wordWidth, complete, if_true, last, Option.some.injEq]
      · simp only [WireProtocol.wordWidth, complete, if_false]
    · rw [if_neg limits, if_neg limits]
  · simp only [counts, WireProtocol.wordWidth, counted, if_false]

theorem cut_boundaries_eq_ok_iff {cuts : List Bytes} (laidOut : IsLaidOut protocol data) :
    cut data ((List.range (partCount protocol data + 1)).map (boundary protocol data)) = .ok cuts ↔
      cuts = parts protocol data := by
  rw [cut_map_range_eq_ok_iff, and_iff_right laidOut.boundaries.1]
  rfl

/-- A frame that is cut has a table. -/
theorem hasTable_of_cut {cuts : List Bytes}
    (complete : protocol.wordWidth * (count protocol data + 1) ≤ data.length)
    (accepted : cut data ((List.range (partCount protocol data + 1)).map (boundary protocol data)) =
      .ok cuts) : HasTable protocol data := by
  obtain ⟨ordered, -⟩ := cut_map_range_eq_ok_iff.mp accepted
  refine ⟨complete, fun index further => ?_⟩
  have less : index < partCount protocol data := by
    cases protocol <;> rw [partCount] <;> omega
  have rising := (ordered index less).1
  rwa [boundary_of_lt further, boundary_of_lt (Nat.lt_of_succ_lt further)] at rising

/-- A legacy frame is cut exactly if it is laid out well. -/
theorem partsLegacy_eq_ok_iff {cuts : List Bytes} :
    partsLegacy data = .ok cuts ↔ IsLaidOut .legacy data ∧ cuts = parts .legacy data := by
  rw [partsLegacy_eq]
  constructor
  · intro accepted
    split at accepted
    case isFalse => cases accepted
    case isTrue =>
      split at accepted
      case isTrue => cases accepted
      case isFalse filled =>
        split at accepted
        case isFalse => cases accepted
        case isTrue complete =>
          obtain ⟨ordered, -⟩ := cut_map_range_eq_ok_iff.mp accepted
          have last : count .legacy data - 1 < count .legacy data := by omega
          have within := (ordered (count .legacy data - 1) last).2
          rw [Nat.sub_add_cancel (Nat.pos_of_ne_zero filled)] at within
          have laidOut : IsLaidOut .legacy data := by
            refine ⟨hasTable_of_cut complete accepted, Nat.pos_of_ne_zero filled, ?_⟩
            rw [← boundary_of_lt last]
            exact (ordered _ last).1.trans (by rwa [Nat.sub_add_cancel (by omega)])
          exact ⟨laidOut, (cut_boundaries_eq_ok_iff laidOut).mp accepted⟩
  · rintro ⟨laidOut, same⟩
    obtain ⟨⟨complete, -⟩, positive, -⟩ := id laidOut
    have whole : 4 * (count .legacy data + 1) ≤ data.length := complete
    rw [if_pos (by omega), if_neg (by omega), if_pos whole]
    exact (cut_boundaries_eq_ok_iff laidOut).mpr same

/-- A segmented frame is cut exactly if it is laid out well. -/
theorem partsSegmented_eq_ok_iff {cuts : List Bytes} :
    partsSegmented data = .ok cuts ↔ IsLaidOut .v1 data ∧ cuts = parts .v1 data := by
  rw [partsSegmented_eq]
  constructor
  · intro accepted
    split at accepted
    case isFalse => cases accepted
    case isTrue =>
      split at accepted
      case isFalse => cases accepted
      case isTrue limits =>
        split at accepted
        case isFalse => cases accepted
        case isTrue complete =>
          split at accepted
          case isFalse => cases accepted
          case isTrue ends =>
            have laidOut : IsLaidOut .v1 data :=
              ⟨hasTable_of_cut complete accepted, limits.1, limits.2, ends⟩
            exact ⟨laidOut, (cut_boundaries_eq_ok_iff laidOut).mp accepted⟩
  · rintro ⟨laidOut, same⟩
    obtain ⟨⟨complete, -⟩, least, most, ends⟩ := id laidOut
    have whole : 8 * (count .v1 data + 1) ≤ data.length := complete
    have limits : 6 ≤ count .v1 data ∧ count .v1 data ≤ mostOffsets := ⟨least, most⟩
    rw [if_pos (by omega), if_pos limits, if_pos whole, if_pos ends]
    exact (cut_boundaries_eq_ok_iff laidOut).mpr same

/-- The parts that are cut out of a frame. -/
def cutParts : WireProtocol → Bytes → Except FrameFault (List Bytes)
  | .legacy => partsLegacy
  | .v1 => partsSegmented

theorem cutParts_eq_ok_iff {cuts : List Bytes} :
    cutParts protocol data = .ok cuts ↔ IsLaidOut protocol data ∧ cuts = parts protocol data := by
  cases protocol with
  | legacy => exact partsLegacy_eq_ok_iff
  | v1 => exact partsSegmented_eq_ok_iff

/-- The parts follow one another from the first offset to the end of the frame. -/
theorem IsLaidOut.flatten_parts (laidOut : IsLaidOut protocol data) :
    (parts protocol data).flatten = data.drop (offset protocol data 0) := by
  obtain ⟨ascending, ends, begins⟩ := laidOut.boundaries
  obtain ⟨joined, -⟩ := flatten_between data fun index less => (ascending index less).1
  have whole : (data.drop (offset protocol data 0)).take
      (data.length - offset protocol data 0) = data.drop (offset protocol data 0) :=
    List.take_of_length_le (by rw [List.length_drop])
  rw [ends, begins, between, whole] at joined
  exact joined

/-- What is at fault with the JSON of a message is not the layout of its frame. -/
theorem ofJson_ne_malformed (value : Json) (buffers : List Bytes) (fault : FrameFault) :
    Message.ofJson value buffers ≠ .error (.malformed fault) := by
  unfold Message.ofJson
  split
  case h_1 => simp
  case h_2 => split <;> simp

/-- A message has the buffers that it is read with. -/
theorem buffers_of_ofJson {value : Json} {buffers : List Bytes} {message : Message}
    (accepted : Message.ofJson value buffers = .ok message) : message.buffers = buffers := by
  obtain ⟨-, found⟩ := Message.ofJson_eq_ok_iff.mp accepted
  unfold Message.ofJson? at found
  simp only [Option.bind_eq_bind, Option.bind_eq_some_iff, pure] at found
  obtain ⟨_, -, header, -, parent, -, channel, -, same⟩ := found
  cases same
  rfl

/-- The parts before the buffers are those with the lowest indices. -/
theorem IsLaidOut.leading_append (laidOut : IsLaidOut protocol data) :
    (List.range protocol.leadingParts).map (part protocol data) ++
      (parts protocol data).drop protocol.leadingParts = parts protocol data := by
  have enough : protocol.leadingParts ≤ partCount protocol data := by
    obtain ⟨-, limits⟩ := laidOut
    cases protocol with
    | legacy => exact limits.1
    | v1 => exact Nat.le_sub_of_add_le limits.1
  have leading : (List.range protocol.leadingParts).map (part protocol data) =
      (parts protocol data).take protocol.leadingParts := by
    rw [parts, ← List.map_take, List.take_range, Nat.min_eq_left enough]
  rw [leading, List.take_append_drop]

/-- A legacy frame that is laid out well is read as its first part and the buffers behind it. -/
theorem IsLaidOut.decodeLegacy_eq (laidOut : IsLaidOut .legacy data) :
    decodeLegacy data =
      match Json.parseBytes? (part .legacy data 0) with
      | some value => Message.ofJson value ((parts .legacy data).drop 1)
      | none => .error .json := by
  have leading : part .legacy data 0 :: (parts .legacy data).drop 1 = parts .legacy data :=
    laidOut.leading_append
  rewrite [decodeLegacy, partsLegacy_eq_ok_iff.mpr ⟨laidOut, leading⟩]
  rfl

/-- A segmented frame that is laid out well is read as its parts. -/
theorem IsLaidOut.decodeSegmented_eq (laidOut : IsLaidOut .v1 data) :
    decodeSegmented data =
      decodeParts (part .v1 data 0 :: part .v1 data 1 :: part .v1 data 2 :: part .v1 data 3 ::
        part .v1 data 4 :: (parts .v1 data).drop 5) := by
  have leading : part .v1 data 0 :: part .v1 data 1 :: part .v1 data 2 :: part .v1 data 3 ::
      part .v1 data 4 :: (parts .v1 data).drop 5 = parts .v1 data := laidOut.leading_append
  rw [decodeSegmented, partsSegmented_eq_ok_iff.mpr ⟨laidOut, leading⟩]

/-- A legacy frame is malformed exactly if it is not laid out well. -/
theorem decodeLegacy_malformed_iff :
    (∃ fault, decodeLegacy data = .error (.malformed fault)) ↔ ¬IsLaidOut .legacy data := by
  constructor
  · rintro ⟨fault, refused⟩ laidOut
    rw [laidOut.decodeLegacy_eq] at refused
    split at refused
    case h_1 => exact ofJson_ne_malformed _ _ _ refused
    case h_2 => cases refused
  · intro notLaidOut
    rw [decodeLegacy]
    cases attempt : partsLegacy data with
    | error fault => exact ⟨fault, rfl⟩
    | ok cuts => exact absurd (partsLegacy_eq_ok_iff.mp attempt).1 notLaidOut

/-- A segmented frame is malformed if it is not laid out well, or else if its channel is not a
text. -/
theorem decodeSegmented_malformed_iff :
    (∃ fault, decodeSegmented data = .error (.malformed fault)) ↔
      ¬IsLaidOut .v1 data ∨ ofUtf8? (part .v1 data 0) = none := by
  by_cases laidOut : IsLaidOut .v1 data
  · rw [laidOut.decodeSegmented_eq, decodeParts, or_iff_right (not_not_intro laidOut)]
    cases channel : ofUtf8? (part .v1 data 0) with
    | none => simp
    | some name =>
        simp only [reduceCtorEq, iff_false, not_exists]
        intro fault refused
        split at refused
        case h_1 => exact ofJson_ne_malformed _ _ _ refused
        case h_2 => cases refused
  · rw [decodeSegmented, or_iff_left_of_imp fun _ => laidOut]
    cases attempt : partsSegmented data with
    | error fault => simp [laidOut]
    | ok cuts => exact absurd (partsSegmented_eq_ok_iff.mp attempt).1 laidOut

/-- A message that is read from a frame has the parts behind the leading ones as its buffers. -/
theorem IsLaidOut.buffers_eq (laidOut : IsLaidOut protocol data) {message : Message}
    (accepted : decode (.binary data) protocol = .ok message) :
    message.buffers = (parts protocol data).drop protocol.leadingParts := by
  cases protocol with
  | legacy =>
      rw [decode, laidOut.decodeLegacy_eq] at accepted
      split at accepted
      case h_1 => exact buffers_of_ofJson accepted
      case h_2 => cases accepted
  | v1 =>
      rw [decode, laidOut.decodeSegmented_eq, decodeParts] at accepted
      split at accepted
      case h_1 => cases accepted
      case h_2 =>
        split at accepted
        case h_1 => exact buffers_of_ofJson accepted
        case h_2 => cases accepted

end Frame

end KernelClient
