/-!
# Random identifiers

A random identifier of 128 bits is written as 32 hexadecimal digits in five groups. One digit names
the version, which is 4, and the next group begins with the digit of the variant.
-/

namespace KernelClient.RandomId

/-- A hexadecimal digit. -/
def isDigit (c : Char) : Bool := c.isDigit || ('a' ≤ c && c ≤ 'f')

/-- What each character of an identifier may be. -/
def form : List (Char → Bool) :=
  let digits (count : Nat) : List (Char → Bool) := List.replicate count isDigit
  let hyphen (c : Char) : Bool := c = '-'
  let version (c : Char) : Bool := c = '4'
  let variant (c : Char) : Bool := c = '8' || c = '9' || c = 'a' || c = 'b'
  digits 8 ++ hyphen :: digits 4 ++ hyphen :: version :: digits 3 ++
    hyphen :: variant :: digits 3 ++ hyphen :: digits 12

/-- Whether a text begins with characters of the given forms. -/
def fits : List (Char → Bool) → List Char → Bool
  | [], _ => true
  | _ :: _, [] => false
  | isAllowed :: forms, c :: rest => isAllowed c && fits forms rest

/-- A text with each identifier replaced by a mark, after so many characters that are left out. -/
def maskFrom (mark : String) : (skipped : Nat) → (done : String) → List Char → String
  | _, done, [] => done
  | skipped + 1, done, _ :: rest => maskFrom mark skipped done rest
  | 0, done, c :: rest =>
      if fits form (c :: rest) then maskFrom mark (form.length - 1) (done ++ mark) rest
      else maskFrom mark 0 (done.push c) rest

/-- A text with each identifier replaced by a mark, from left to right. -/
def mask (mark text : String) : String := maskFrom mark 0 "" text.toList

/-- An identifier for each number of 48 bits. -/
def ofNat (number : Nat) : String :=
  let digits := Nat.toDigits 16 number
  "00000000-0000-4000-8000-" ++ String.ofList (List.replicate (12 - digits.length) '0' ++ digits)

end KernelClient.RandomId
