import KernelClient.Proofs.Message.ByteOrder
import KernelClient.Url.Segments

/-!
# Texts in percent encoding

A text whose percent signs are encoded can be read from its encoding, so that different texts have
different encodings. No character that is encoded stands in it, unless percent signs and digits
need it, and it names a directory only if the text does.
-/

namespace KernelClient

namespace Percent

variable {set : Char → Bool}

theorem value?_upperDigit : ∀ value < 16, Hex.value? (Hex.upperDigit value) = some value := by
  decide

theorem byte?_upperDigits (byte : UInt8) :
    Hex.byte? (Hex.upperDigit (byte.toNat / 16)) (Hex.upperDigit (byte.toNat % 16)) =
      some byte := by
  have bound := byte.toNat_lt
  have high := value?_upperDigit (byte.toNat / 16) (by omega)
  have low := value?_upperDigit (byte.toNat % 16) (by omega)
  have whole : 16 * (byte.toNat / 16) + byte.toNat % 16 = byte.toNat := Nat.div_add_mod ..
  simp only [Hex.byte?, high, low, whole, UInt8.ofNat_toNat]

theorem decode_encodeByte (byte : UInt8) (rest : List Char) :
    decode (encodeByte byte ++ rest) = byte :: decode rest := by
  have written : encodeByte byte ++ rest = '%' :: Hex.upperDigit (byte.toNat / 16) ::
      Hex.upperDigit (byte.toNat % 16) :: rest := rfl
  rw [written, decode, byte?_upperDigits]

theorem decode_encodeBytes (bytes : List UInt8) (rest : List Char) :
    decode (bytes.flatMap encodeByte ++ rest) = bytes ++ decode rest := by
  induction bytes with
  | nil => rfl
  | cons byte bytes ih =>
      rw [List.flatMap_cons, List.append_assoc, decode_encodeByte, ih, List.cons_append]

theorem decode_cons_of_ne {character : Char} (plain : character ≠ '%') (rest : List Char) :
    decode (character :: rest) = String.utf8EncodeChar character ++ decode rest := by
  rw [decode]
  simp [plain]

theorem decode_encodeCharacter (percent : set '%' = true) (character : Char) (rest : List Char) :
    decode (encodeCharacter set character ++ rest) =
      String.utf8EncodeChar character ++ decode rest := by
  unfold encodeCharacter
  split
  case isTrue => exact decode_encodeBytes _ rest
  case isFalse unset =>
    refine decode_cons_of_ne ?_ rest
    rintro rfl
    exact unset (by simp [percent])

/-- What is encoded is read as the bytes of the text. -/
theorem decode_encoded (percent : set '%' = true) (text : List Char) :
    decode (encode set text) = text.flatMap String.utf8EncodeChar := by
  induction text with
  | nil => rw [encode, List.flatMap_nil, decode, List.flatMap_nil]
  | cons character rest ih =>
      rw [encode, List.flatMap_cons, decode_encodeCharacter percent]
      exact congrArg (String.utf8EncodeChar character ++ ·) ih

/-- Different texts have different encodings. -/
theorem encode_injective (percent : set '%' = true) : Function.Injective (encode set) := by
  intro first second same
  refine Frame.flatMap_utf8EncodeChar_injective ?_
  rw [← decode_encoded percent, ← decode_encoded percent, same]

theorem mem_encodeByte {byte : UInt8} {character : Char} (member : character ∈ encodeByte byte) :
    character = '%' ∨ ∃ value < 16, character = Hex.upperDigit value := by
  have bound := byte.toNat_lt
  have high : byte.toNat / 16 < 16 := by omega
  have low : byte.toNat % 16 < 16 := by omega
  simp only [encodeByte, List.mem_cons, List.not_mem_nil, or_false] at member
  rcases member with percent | digit | digit
  · exact .inl percent
  · exact .inr ⟨_, high, digit⟩
  · exact .inr ⟨_, low, digit⟩

/-- A character that is encoded, and is no digit, does not stand in an encoding. -/
theorem not_mem_encode {character : Char} (encoded : set character = true)
    (noPercent : character ≠ '%') (noDigit : ∀ value < 16, character ≠ Hex.upperDigit value)
    (text : List Char) : character ∉ encode set text := by
  intro member
  obtain ⟨source, -, written⟩ := List.mem_flatMap.mp member
  unfold encodeCharacter at written
  split at written
  case isTrue =>
    obtain ⟨byte, -, among⟩ := List.mem_flatMap.mp written
    rcases mem_encodeByte among with percent | ⟨value, small, digit⟩
    · exact noPercent percent
    · exact noDigit value small digit
  case isFalse unset =>
    cases List.mem_singleton.mp written
    exact unset (by simp [encoded])

theorem encode_of_plain {text : List Char}
    (plain : ∀ character ∈ text, character.toNat < 128 ∧ set character = false) :
    encode set text = text := by
  induction text with
  | nil => rfl
  | cons character rest ih =>
      obtain ⟨ascii, unset⟩ := plain character (List.mem_cons_self ..)
      have alone : encodeCharacter set character = [character] :=
        if_neg (by simp [unset, Nat.not_le_of_lt ascii])
      have others := ih fun other member => plain other (List.mem_cons_of_mem _ member)
      rw [encode, List.flatMap_cons, alone]
      exact congrArg (character :: ·) others

end Percent

namespace UrlPath

theorem toNat_toLower (character : Char) :
    character.toLower = character ∨
      (65 ≤ character.toNat ∧ character.toNat ≤ 90 ∧
        character.toLower.toNat = character.toNat + 32) := by
  unfold Char.toLower
  split
  case isTrue upper =>
    have least : 65 ≤ character.toNat := upper.1
    have most : character.toNat ≤ 90 := upper.2
    refine .inr ⟨least, most, ?_⟩
    change (character.val + 32).toNat = character.toNat + 32
    rw [UInt32.toNat_add]
    exact Nat.mod_eq_of_lt (by change character.toNat + 32 < _; omega)
  case isFalse => exact .inl rfl

/-- Only letters have another case. -/
theorem eq_of_toLower_eq {character other : Char} (noLetter : other.toNat < 97)
    (same : character.toLower = other) : character = other := by
  rcases toNat_toLower character with unchanged | ⟨least, -, lower⟩
  · exact unchanged.symm.trans same
  · rw [same] at lower
    omega

theorem eq_e_of_toLower_eq {character : Char} (same : character.toLower = 'e') :
    character = 'e' ∨ character = 'E' := by
  rcases toNat_toLower character with unchanged | ⟨least, most, lower⟩
  · exact .inl (unchanged.symm.trans same)
  · rw [same] at lower
    have number : character.toNat = 69 := by
      have letter : 'e'.toNat = 101 := rfl
      omega
    exact .inr (Char.toNat_inj.mp number)

/-- The ways to write a point in a segment that names a directory. -/
def IsPoint (written : List Char) : Prop :=
  written = ['.'] ∨ written = ['%', '2', 'e'] ∨ written = ['%', '2', 'E']

theorem IsPoint.decode {written : List Char} (isPoint : IsPoint written) (rest : List Char) :
    Percent.decode (written ++ rest) = 46 :: Percent.decode rest := by
  rcases isPoint with rfl | rfl | rfl
  · exact Percent.decode_cons_of_ne (by decide) rest
  · rw [List.cons_append, List.cons_append, List.cons_append, Percent.decode]
    rfl
  · rw [List.cons_append, List.cons_append, List.cons_append, Percent.decode]
    rfl

theorem isPoint_of_toLower {written : List Char}
    (lower : written.map Char.toLower = ['.'] ∨ written.map Char.toLower = ['%', '2', 'e']) :
    IsPoint written := by
  rcases lower with point | encoded
  · obtain ⟨first, rest, rfl, isPoint, nothing⟩ := List.map_eq_cons_iff.mp point
    rw [List.map_eq_nil_iff.mp nothing, eq_of_toLower_eq (by decide) isPoint]
    exact .inl rfl
  · obtain ⟨first, digits, rfl, percent, others⟩ := List.map_eq_cons_iff.mp encoded
    obtain ⟨second, letters, rfl, digit, last⟩ := List.map_eq_cons_iff.mp others
    obtain ⟨third, rest, rfl, letter, nothing⟩ := List.map_eq_cons_iff.mp last
    rw [List.map_eq_nil_iff.mp nothing, eq_of_toLower_eq (by decide) percent,
      eq_of_toLower_eq (by decide) digit]
    rcases eq_e_of_toLower_eq letter with rfl | rfl
    · exact .inr (.inl rfl)
    · exact .inr (.inr rfl)

theorem toList_toLower (segment : List Char) :
    (String.ofList segment).toLower.toList = segment.map Char.toLower := by
  change ((String.ofList segment).map Char.toLower).toList = _
  rw [String.toList_map, String.toList_ofList]

/-- A segment that names the directory above is written with two points. -/
theorem exists_of_isParent {segment : List Char} (isParent : isParent segment = true) :
    ∃ first second, IsPoint first ∧ IsPoint second ∧ segment = first ++ second := by
  have among : (String.ofList segment).toLower ∈ ["..", "%2e.", ".%2e", "%2e%2e"] :=
    List.contains_iff_mem.mp isParent
  have lower : ∃ first second : List Char, segment.map Char.toLower = first ++ second ∧
      (first = ['.'] ∨ first = ['%', '2', 'e']) ∧ (second = ['.'] ∨ second = ['%', '2', 'e']) := by
    rw [← toList_toLower]
    simp only [List.mem_cons, List.not_mem_nil, or_false] at among
    rcases among with same | same | same | same <;> rw [same]
    · exact ⟨['.'], ['.'], rfl, .inl rfl, .inl rfl⟩
    · exact ⟨['%', '2', 'e'], ['.'], rfl, .inr rfl, .inl rfl⟩
    · exact ⟨['.'], ['%', '2', 'e'], rfl, .inl rfl, .inr rfl⟩
    · exact ⟨['%', '2', 'e'], ['%', '2', 'e'], rfl, .inr rfl, .inr rfl⟩
  obtain ⟨lowerFirst, lowerSecond, parts, isFirst, isSecond⟩ := lower
  obtain ⟨first, second, rfl, rfl, rfl⟩ := List.map_eq_append_iff.mp parts
  exact ⟨first, second, isPoint_of_toLower isFirst, isPoint_of_toLower isSecond, rfl⟩

/-- A segment that names the directory that has been reached is written with one point. -/
theorem isPoint_of_isCurrent {segment : List Char} (isCurrent : isCurrent segment = true) :
    IsPoint segment := by
  have among : (String.ofList segment).toLower ∈ [".", "%2e"] :=
    List.contains_iff_mem.mp isCurrent
  refine isPoint_of_toLower ?_
  rw [← toList_toLower]
  simp only [List.mem_cons, List.not_mem_nil, or_false] at among
  rcases among with same | same <;> rw [same]
  · exact .inl rfl
  · exact .inr rfl

variable {set : Char → Bool}

/-- The encoding of a text names the directory above only if the text does. -/
theorem isParent_encode_iff (percent : set '%' = true) (point : set '.' = false)
    (text : List Char) : isParent (Percent.encode set text) = true ↔ text = ['.', '.'] := by
  constructor
  · intro isParent
    obtain ⟨first, second, isFirst, isSecond, parts⟩ := exists_of_isParent isParent
    refine Frame.flatMap_utf8EncodeChar_injective ?_
    rw [← Percent.decode_encoded percent, parts, isFirst.decode, ← List.append_nil second,
      isSecond.decode, Percent.decode]
    rfl
  · rintro rfl
    rw [Percent.encode_of_plain (by simp [point])]
    decide +kernel

/-- The encoding of a text names the directory that has been reached only if the text does. -/
theorem isCurrent_encode_iff (percent : set '%' = true) (point : set '.' = false)
    (text : List Char) : isCurrent (Percent.encode set text) = true ↔ text = ['.'] := by
  constructor
  · intro isCurrent
    refine Frame.flatMap_utf8EncodeChar_injective ?_
    rw [← Percent.decode_encoded percent, ← List.append_nil (Percent.encode set text),
      (isPoint_of_isCurrent isCurrent).decode, Percent.decode]
    rfl
  · rintro rfl
    rw [Percent.encode_of_plain (by simp [point])]
    decide +kernel

end UrlPath

end KernelClient
