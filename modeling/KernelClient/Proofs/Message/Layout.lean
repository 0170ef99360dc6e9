import KernelClient.Message.Frame.Codec

/-!
# Tables and parts of binary frames

What either framing lays out is cut into the same parts again. The offsets of a table are read as
they were written as long as they fit the width of its words, and consecutive offsets of parts laid
end to end cut out these parts, empty ones included. The segmented framing takes any number of parts
when it writes, but refuses a table that is too long when it reads.
-/

namespace KernelClient

namespace Words

theorem ofLittleEndian_littleEndian_of_lt {width value : Nat}
    (fits : value < Nat.pow 256 width) : ofLittleEndian (littleEndian width value) = value := by
  rw [ofLittleEndian_littleEndian, Nat.mod_eq_of_lt fits]

theorem ofBigEndian_bigEndian_of_lt {width value : Nat} (fits : value < Nat.pow 256 width) :
    ofBigEndian (bigEndian width value) = value := by
  rw [ofBigEndian_bigEndian, Nat.mod_eq_of_lt fits]

/-- A table of words is read as the numbers that were written, and what follows it is left. -/
theorem readTable?_flatMap {read : Bytes → Nat} {write : Nat → Bytes} {width : Nat}
    (length : ∀ number, (write number).length = width) (numbers : List Nat)
    (inverse : ∀ number ∈ numbers, read (write number) = number) (rest : Bytes) :
    readTable? read width numbers.length (numbers.flatMap write ++ rest) =
      some (numbers, rest) := by
  induction numbers with
  | nil => rfl
  | cons number others ih =>
      have later := ih fun other member => inverse other (List.mem_cons_of_mem _ member)
      have first := inverse number (List.mem_cons_self ..)
      rw [List.flatMap_cons, List.append_assoc, List.length_cons, readTable?]
      have word : (write number ++ (others.flatMap write ++ rest)).splitAt width =
          (write number, others.flatMap write ++ rest) := by
        rw [List.splitAt_eq, List.take_left' (length number), List.drop_left' (length number)]
      simp only [word, length number, if_true, later, first, Option.map_some]

@[simp]
theorem starts_length (first : Nat) (parts : List Bytes) :
    (starts first parts).length = parts.length := by
  induction parts generalizing first with
  | nil => rfl
  | cons part rest ih => simp [starts, ih]

@[simp]
theorem totalLength_cons (part : Bytes) (parts : List Bytes) :
    totalLength (part :: parts) = part.length + totalLength parts := by
  simp [totalLength]

/-- A part begins behind all parts before it. -/
theorem mem_starts {start first : Nat} {parts : List Bytes} :
    start ∈ starts first parts ↔
      ∃ index < parts.length, start = first + totalLength (parts.take index) := by
  induction parts generalizing first with
  | nil => simp [starts]
  | cons part rest ih =>
      rw [starts, List.mem_cons, ih]
      constructor
      · rintro (rfl | ⟨index, below, rfl⟩)
        · exact ⟨0, by simp, by simp [totalLength]⟩
        · refine ⟨index + 1, by simpa using below, ?_⟩
          rw [List.take_succ_cons, totalLength_cons]
          omega
      · rintro ⟨index, below, rfl⟩
        cases index with
        | zero => exact .inl (by simp [totalLength])
        | succ index =>
            refine .inr ⟨index, by simpa using below, ?_⟩
            rw [List.take_succ_cons, totalLength_cons]
            omega

theorem le_of_mem_starts {start first : Nat} {parts : List Bytes}
    (member : start ∈ starts first parts) : start ≤ first + totalLength parts := by
  obtain ⟨index, -, rfl⟩ := mem_starts.mp member
  have split : totalLength (parts.take index) + totalLength (parts.drop index) =
      totalLength parts := by
    rw [totalLength, totalLength, ← List.length_append, ← List.flatten_append,
      List.take_append_drop, totalLength]
  omega

end Words

namespace Frame

open Words

/-- The offsets of parts laid end to end, with the end of the last one, begin with the first. -/
theorem exists_starts_append_end (first : Nat) (parts : List Bytes) :
    ∃ rest, starts first parts ++ [first + totalLength parts] = first :: rest := by
  cases parts with
  | nil => exact ⟨[], rfl⟩
  | cons part rest => exact ⟨_, rfl⟩

/-- Consecutive offsets cut out the parts that were laid end to end. -/
theorem slices_starts {size first : Nat} {parts : List Bytes}
    (fits : first + totalLength parts ≤ size) :
    slices size (starts first parts ++ [first + totalLength parts]) parts.flatten =
      .ok parts := by
  induction parts generalizing first with
  | nil => rfl
  | cons part rest ih =>
      rw [totalLength_cons] at fits ⊢
      have later : slices size (starts (first + part.length) rest ++
          [first + part.length + totalLength rest]) rest.flatten = .ok rest := ih (by omega)
      obtain ⟨more, offsets⟩ := exists_starts_append_end (first + part.length) rest
      rw [Nat.add_assoc] at offsets later
      rw [starts, List.cons_append, offsets, slices, if_pos (by omega)]
      rw [offsets] at later
      have length : first + part.length - first = part.length := by omega
      rw [length, List.flatten_cons, List.drop_left, List.take_left, later]
      rfl

/-- What stands behind a table is cut into the parts that were laid end to end there. -/
theorem cut_append {table : Bytes} {parts : List Bytes} {first : Nat}
    (length : table.length = first) :
    cut (table ++ parts.flatten) (starts first parts ++ [first + totalLength parts]) =
      .ok parts := by
  have size : (table ++ parts.flatten).length = first + totalLength parts := by
    rw [List.length_append, length, totalLength]
  obtain ⟨rest, offsets⟩ := exists_starts_append_end first parts
  have head : (starts first parts ++ [first + totalLength parts]).headD 0 = first := by
    rw [offsets]
    rfl
  rw [cut, head, List.drop_left' length, size]
  exact slices_starts (Nat.le_refl _)

theorem length_flatMap_of_length {write : Nat → Bytes} {width : Nat}
    (length : ∀ number, (write number).length = width) (numbers : List Nat) :
    (numbers.flatMap write).length = width * numbers.length := by
  induction numbers with
  | nil => rfl
  | cons number rest ih =>
      rw [List.flatMap_cons, List.length_append, ih, length, List.length_cons, Nat.mul_succ]
      omega

theorem forM_checkWord (numbers : List Nat) :
    numbers.forM checkWord =
      if ∀ number ∈ numbers, number < UInt32.size then .ok () else .error .tooLarge := by
  induction numbers with
  | nil => rfl
  | cons number rest ih =>
      change (checkWord number >>= fun _ => rest.forM checkWord) = _
      by_cases fits : number < UInt32.size
      · have checked : checkWord number = .ok () := if_pos fits
        rw [checked]
        change rest.forM checkWord = _
        simp only [ih, List.forall_mem_cons, fits, true_and]
      · have refused : checkWord number = .error .tooLarge := if_neg fits
        rw [refused, if_neg fun all => fits (all number (List.mem_cons_self ..))]
        rfl

/-- Whether the number of parts and the offset of each of them fit four bytes. -/
def FitsLegacy (parts : List Bytes) : Prop :=
  parts.length < UInt32.size ∧ ∀ index < parts.length,
    4 * (parts.length + 1) + totalLength (parts.take index) < UInt32.size

instance (parts : List Bytes) : Decidable (FitsLegacy parts) :=
  inferInstanceAs (Decidable (_ ∧ _))

theorem fitsLegacy_iff {parts : List Bytes} :
    FitsLegacy parts ↔ parts.length < UInt32.size ∧
      ∀ start ∈ starts (4 * (parts.length + 1)) parts, start < UInt32.size := by
  unfold FitsLegacy
  refine and_congr_right fun _ => ⟨fun fits start member => ?_, fun fits index below => ?_⟩
  · obtain ⟨index, below, rfl⟩ := mem_starts.mp member
    exact fits index below
  · exact fits _ (mem_starts.mpr ⟨index, below, rfl⟩)

/-- Parts whose frame has less than `2 ^ 32` bytes fit. -/
theorem FitsLegacy.of_size {parts : List Bytes}
    (small : 4 * (parts.length + 1) + totalLength parts < UInt32.size) : FitsLegacy parts := by
  refine ⟨by omega, fun index _ => ?_⟩
  have whole : totalLength parts =
      totalLength (parts.take index) + totalLength (parts.drop index) := by
    unfold totalLength
    rw [← List.length_append, ← List.flatten_append, List.take_append_drop]
  omega

/-- The parts of the legacy framing. -/
def partsOfLegacy (message : Message) : List Bytes :=
  utf8 message.toJson.render :: message.buffers

/-- A message without buffers is written as text, and one with buffers as binary if its parts
fit. -/
theorem encodeLegacy_eq (message : Message) :
    encodeLegacy message =
      if message.buffers = [] then .ok (.text message.toJson.render)
      else if FitsLegacy (partsOfLegacy message) then
        .ok (.binary (layoutLegacy (partsOfLegacy message)))
      else .error .tooLarge := by
  unfold encodeLegacy
  by_cases plain : message.buffers = []
  · simp [plain]
  rw [if_neg plain, if_neg (by simpa using plain)]
  change (checkWord (partsOfLegacy message).length >>= fun _ =>
    (starts (4 * ((partsOfLegacy message).length + 1)) (partsOfLegacy message)).forM checkWord >>=
      fun _ => (.ok (.binary (layoutLegacy (partsOfLegacy message))) : Except FrameFault Frame)) = _
  rw [forM_checkWord]
  by_cases count : (partsOfLegacy message).length < UInt32.size
  · have counted : checkWord (partsOfLegacy message).length = .ok () := if_pos count
    rw [counted]
    by_cases offsets : ∀ start ∈ starts (4 * ((partsOfLegacy message).length + 1))
        (partsOfLegacy message), start < UInt32.size
    · rw [if_pos offsets, if_pos (fitsLegacy_iff.mpr ⟨count, offsets⟩)]
      rfl
    · have misfit : ¬FitsLegacy (partsOfLegacy message) := fun fits =>
        offsets (fitsLegacy_iff.mp fits).2
      rw [if_neg offsets, if_neg misfit]
      rfl
  · have refused : checkWord (partsOfLegacy message).length = .error .tooLarge := if_neg count
    have misfit : ¬FitsLegacy (partsOfLegacy message) := fun fits => count fits.1
    rw [refused, if_neg misfit]
    rfl

/-- What the legacy framing lays out is cut into the same parts. -/
theorem partsLegacy_layoutLegacy {parts : List Bytes} (some : parts ≠ [])
    (fits : FitsLegacy parts) : partsLegacy (layoutLegacy parts) = .ok parts := by
  obtain ⟨count, offsets⟩ := fitsLegacy_iff.mp fits
  have positive : parts.length ≠ 0 := fun none => some (List.length_eq_zero_iff.mp none)
  have table : (bigEndian 4 parts.length ++
      (starts (4 * (parts.length + 1)) parts).flatMap (bigEndian 4)).length =
        4 * (parts.length + 1) := by
    rw [List.length_append, bigEndian_length, length_flatMap_of_length (bigEndian_length 4),
      starts_length]
    omega
  have counted : readTable? ofBigEndian 4 1 (layoutLegacy parts) = .some ([parts.length],
      (starts (4 * (parts.length + 1)) parts).flatMap (bigEndian 4) ++ parts.flatten) := by
    have read := readTable?_flatMap (bigEndian_length 4) [parts.length]
      (fun number member => ofBigEndian_bigEndian_of_lt (List.mem_singleton.mp member ▸ count))
      ((starts (4 * (parts.length + 1)) parts).flatMap (bigEndian 4) ++ parts.flatten)
    simpa [layoutLegacy] using read
  have listed : readTable? ofBigEndian 4 parts.length
      ((starts (4 * (parts.length + 1)) parts).flatMap (bigEndian 4) ++ parts.flatten) =
        .some (starts (4 * (parts.length + 1)) parts, parts.flatten) := by
    have read := readTable?_flatMap (bigEndian_length 4) (starts (4 * (parts.length + 1)) parts)
      (fun number member => ofBigEndian_bigEndian_of_lt (offsets number member)) parts.flatten
    rwa [starts_length] at read
  have size : (layoutLegacy parts).length = 4 * (parts.length + 1) + totalLength parts := by
    rw [layoutLegacy, List.length_append, table, totalLength]
  unfold partsLegacy
  rw [counted]
  simp only [positive, if_false, listed, size]
  exact cut_append table

theorem offsetsSegmented_length (parts : List Bytes) :
    (offsetsSegmented parts).length = parts.length + 1 := by
  simp [offsetsSegmented]

/-- A segmented frame has a word for the number of its offsets, one for each of them, and its
parts. -/
theorem layoutSegmented_length (parts : List Bytes) :
    (layoutSegmented parts).length = 8 * (parts.length + 2) + totalLength parts := by
  rw [layoutSegmented, List.length_append, List.length_append, littleEndian_length,
    length_flatMap_of_length (littleEndian_length 8), offsetsSegmented_length, totalLength]
  omega

/-- What the segmented framing lays out is cut into the same parts if there are enough of them and
not too many. -/
theorem partsSegmented_layoutSegmented {parts : List Bytes} (enough : 5 ≤ parts.length)
    (fits : (layoutSegmented parts).length < UInt64.size) :
    partsSegmented (layoutSegmented parts) =
      if parts.length < mostOffsets then .ok parts
      else .error (.offsetCount (parts.length + 1)) := by
  have size := layoutSegmented_length parts
  have words : UInt64.size = Nat.pow 256 8 := rfl
  have counted : readTable? ofLittleEndian 8 1 (layoutSegmented parts) =
      some ([parts.length + 1],
        (offsetsSegmented parts).flatMap (littleEndian 8) ++ parts.flatten) := by
    have read := readTable?_flatMap (littleEndian_length 8) [parts.length + 1]
      (fun number member => ofLittleEndian_littleEndian_of_lt (by
        rw [List.mem_singleton.mp member]
        omega))
      ((offsetsSegmented parts).flatMap (littleEndian 8) ++ parts.flatten)
    simpa [layoutSegmented] using read
  have listed : readTable? ofLittleEndian 8 (parts.length + 1)
      ((offsetsSegmented parts).flatMap (littleEndian 8) ++ parts.flatten) =
        some (offsetsSegmented parts, parts.flatten) := by
    have read := readTable?_flatMap (littleEndian_length 8) (offsetsSegmented parts)
      (fun number member => ofLittleEndian_littleEndian_of_lt (by
        have bound : number ≤ (layoutSegmented parts).length := by
          rw [size]
          rcases List.mem_append.mp member with start | last
          · exact le_of_mem_starts start
          · exact Nat.le_of_eq (List.mem_singleton.mp last)
        omega)) parts.flatten
    rwa [offsetsSegmented_length] at read
  have last : (offsetsSegmented parts).getLast? = some (layoutSegmented parts).length := by
    simp [offsetsSegmented, size]
  have table : (littleEndian 8 (parts.length + 1) ++
      (offsetsSegmented parts).flatMap (littleEndian 8)).length = 8 * (parts.length + 2) := by
    rw [List.length_append, littleEndian_length,
      length_flatMap_of_length (littleEndian_length 8), offsetsSegmented_length]
    omega
  unfold partsSegmented
  rw [counted]
  by_cases few : parts.length < mostOffsets
  · rw [if_pos few]
    simp only [listed, last, if_true]
    rw [if_pos (by omega)]
    exact cut_append table
  · rw [if_neg few]
    simp only
    rw [if_neg (by omega)]

end Frame

end KernelClient
