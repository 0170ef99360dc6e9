import KernelClient.Message.Basic

/-!
# Words and parts of binary frames

Numbers of a fixed number of bytes in either order, tables of such numbers, and the parts of a
frame that consecutive offsets cut out.
-/

namespace KernelClient.Words

/-- A number in bytes, the lowest first. -/
def littleEndian : (width : Nat) → Nat → Bytes
  | 0, _ => []
  | width + 1, value => UInt8.ofNat value :: littleEndian width (value / 256)

/-- A number in bytes, the highest first. -/
def bigEndian (width value : Nat) : Bytes := (littleEndian width value).reverse

def ofLittleEndian : Bytes → Nat
  | [] => 0
  | byte :: rest => byte.toNat + 256 * ofLittleEndian rest

def ofBigEndian (bytes : Bytes) : Nat := ofLittleEndian bytes.reverse

@[simp] theorem littleEndian_length (width value : Nat) :
    (littleEndian width value).length = width := by
  induction width generalizing value with
  | zero => rfl
  | succ width length => simp [littleEndian, length]

theorem ofLittleEndian_littleEndian (width value : Nat) :
    ofLittleEndian (littleEndian width value) = value % Nat.pow 256 width := by
  induction width generalizing value with
  | zero => simp [littleEndian, ofLittleEndian, Nat.mod_one]
  | succ width reads =>
    have split : Nat.pow 256 (width + 1) = 256 * Nat.pow 256 width := Nat.mul_comm ..
    rw [littleEndian, ofLittleEndian, reads, UInt8.toNat_ofNat', split, Nat.mod_mul]

@[simp] theorem bigEndian_length (width value : Nat) : (bigEndian width value).length = width := by
  simp [bigEndian]

theorem ofBigEndian_bigEndian (width value : Nat) :
    ofBigEndian (bigEndian width value) = value % Nat.pow 256 width := by
  simp [ofBigEndian, bigEndian, ofLittleEndian_littleEndian]

/-- Read a table of numbers and give what follows it, or none if the table is cut short. -/
def readTable? (read : Bytes → Nat) (width : Nat) :
    (count : Nat) → Bytes → Option (List Nat × Bytes)
  | 0, data => some ([], data)
  | count + 1, data =>
      let (word, rest) := data.splitAt width
      if word.length = width then
        (readTable? read width count rest).map fun (numbers, after) => (read word :: numbers, after)
      else none

/-- Where parts begin that are laid end to end. -/
def starts (first : Nat) : List Bytes → List Nat
  | [] => []
  | part :: rest => first :: starts (first + part.length) rest

/-- The sum of the lengths of parts. -/
def totalLength (parts : List Bytes) : Nat := parts.flatten.length

end KernelClient.Words
