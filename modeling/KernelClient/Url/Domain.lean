import KernelClient.Text.Mark
import KernelClient.Url.Address
import KernelClient.Url.Domain.Direction
import KernelClient.Url.Domain.Joining
import KernelClient.Url.Domain.Mapping
import KernelClient.Url.Domain.Punycode

/-!
# Domains

A domain is written in ASCII. Its characters are mapped and composed. Then each label with
characters beyond ASCII is written in Punycode behind a mark. A label that has the mark already has
to stand for such a label. Characters that have a meaning in URLs may not stand in a domain.
-/

namespace KernelClient.Domain

/-- The ASCII characters that no domain may hold. -/
def isForbidden (character : Char) : Bool :=
  character.toNat ≤ 32 || character.toNat = 127 ||
    ['%', '#', '/', ':', '<', '>', '?', '@', '[', '\\', ']', '^', '|'].contains character

/-- Map and compose the characters of a text. -/
def normalize? (text : List Char) : Option (List Char) :=
  (text.mapM map?).map fun mapped => Text.compose mapped.flatten

/-- The greatest number of characters of a label beyond ASCII. -/
def longestLabel : Nat := 1000

/-- Whether a label beyond ASCII may stand in a domain. -/
def isValid (label : List Char) : Bool :=
  label.length ≤ longestLabel && joinersAgree [] label &&
    label.head?.all fun first => !Text.isMark first

/-- The mark of a label that is written in Punycode. -/
def mark : List Char := ['x', 'n', '-', '-']

/-- The greatest number of characters in Punycode that are read. -/
def longestCode : Nat := 2000

/-- The label that a text in Punycode stands for. -/
def decode? (encoded : List Char) : Option (List Char) :=
  (if encoded.length ≤ longestCode then Punycode.decode? encoded else none).filter fun label =>
    !label.all Punycode.isAscii && normalize? label = some label && isValid label

/-- A label as it is shown and as it is written in ASCII. -/
def readLabel? (label : List Char) : Option (List Char × List Char) :=
  if mark.isPrefixOf label then
    if label.all Punycode.isAscii then
      (decode? (label.drop mark.length)).map fun shown => (shown, label)
    else none
  else if label.all Punycode.isAscii then some (label, label)
  else if isValid label then some (label, mark ++ Punycode.encode label)
  else none

/-- The domain of the bytes of a text. -/
def toAscii? (bytes : List UInt8) : Option (List Char) := do
  let text ← String.fromUTF8? ⟨bytes.toArray⟩
  let normal ← normalize? text.toList
  if normal.any isForbidden then none
  else
    let labels ← (Address.splitOn '.' normal).mapM readLabel?
    if directionsAgree (labels.map Prod.fst) then
      return ['.'].intercalate (labels.map Prod.snd)
    else none

end KernelClient.Domain
