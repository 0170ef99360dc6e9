/-!
# Blank characters

The characters with the property White_Space of the Unicode character database.
-/

namespace KernelClient.Text

def isBlank (character : Char) : Bool :=
  let code := character.toNat
  (9 ≤ code && code ≤ 13) || code == 0x20 || code == 0x85 || code == 0xA0 || code == 0x1680 ||
    (0x2000 ≤ code && code ≤ 0x200A) || code == 0x2028 || code == 0x2029 || code == 0x202F ||
    code == 0x205F || code == 0x3000

/-- Leave out the blanks at the start of a text. -/
def trimStart (text : List Char) : List Char := text.dropWhile isBlank

end KernelClient.Text
