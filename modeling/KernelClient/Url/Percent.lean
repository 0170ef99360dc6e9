import KernelClient.Text.Hex

/-!
# Percent encoding

A byte that may not stand in a part of a URL is written as a percent sign and two hexadecimal
digits. Each part has its own set of ASCII characters that are encoded; all other characters are
encoded everywhere, byte by byte of their UTF-8.
-/

namespace KernelClient.Percent

def encodeByte (byte : UInt8) : List Char :=
  ['%', Hex.upperDigit (byte.toNat / 16), Hex.upperDigit (byte.toNat % 16)]

/-- Encode a character if it is in a set or beyond ASCII. -/
def encodeCharacter (set : Char → Bool) (character : Char) : List Char :=
  if 128 ≤ character.toNat || set character then
    (String.utf8EncodeChar character).flatMap encodeByte
  else [character]

def encode (set : Char → Bool) (text : List Char) : List Char :=
  text.flatMap (encodeCharacter set)

/-- The bytes of a text in which percent signs with two digits stand for a byte. -/
def decode : List Char → List UInt8
  | '%' :: high :: low :: rest =>
      match Hex.byte? high low with
      | some byte => byte :: decode rest
      | none => '%'.toUInt8 :: decode (high :: low :: rest)
  | character :: rest => String.utf8EncodeChar character ++ decode rest
  | [] => []
termination_by text => text.length

def controls (character : Char) : Bool :=
  character.toNat < 32 || character.toNat = 127

def fragment (character : Char) : Bool :=
  controls character || [' ', '"', '<', '>', '\x60'].contains character

def query (character : Char) : Bool :=
  controls character || [' ', '"', '#', '<', '>'].contains character

def specialQuery (character : Char) : Bool :=
  query character || character = '\''

def path (character : Char) : Bool :=
  fragment character || ['#', '?', '\x7b', '\x7d'].contains character

def userinfo (character : Char) : Bool :=
  path character || ['/', ':', ';', '=', '@', '[', '\\', ']', '^', '|'].contains character

/-- The characters that are encoded in a segment that is added to a path. -/
def segment (isSpecial : Bool) (character : Char) : Bool :=
  path character || character = '/' || character = '%' || (isSpecial && character = '\\')

/-- The characters of a form that stand for themselves. -/
def isFormSafe (character : Char) : Bool :=
  character.isAlphanum || ['*', '-', '.', '_'].contains character

/-- Encode a name or a value of a form, in which a blank is written as a plus sign. -/
def encodeForm (text : String) : List Char :=
  text.toList.flatMap fun character =>
    if character = ' ' then ['+']
    else encodeCharacter (fun plain => !isFormSafe plain) character

end KernelClient.Percent
