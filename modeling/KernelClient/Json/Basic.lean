import KernelClient.Binary64

/-!
# JSON values

A number is an integer or a double, and the two never compare equal. The fields of an object are
kept in increasing order of their names, and a name that is written twice keeps its last value.
-/

namespace KernelClient

/-- A JSON number. Integers range over those of 64 bits, signed or unsigned. -/
inductive Json.Number where
  | integer (value : Int)
  | double (value : Binary64)
deriving DecidableEq, Inhabited

/-- A JSON value. -/
inductive Json where
  | null
  | bool (value : Bool)
  | number (value : Json.Number)
  | string (value : String)
  | array (items : List Json)
  | object (fields : List (String × Json))
deriving Inhabited

namespace Json

/-- Named values, in increasing order of their names. -/
abbrev Fields := List (String × Json)

namespace Fields

/-- Give a name a value, replacing the one it had. -/
def insert (name : String) (value : Json) : Fields → Fields
  | [] => [(name, value)]
  | (other, kept) :: rest =>
      if name < other then (name, value) :: (other, kept) :: rest
      else if name = other then (name, value) :: rest
      else (other, kept) :: insert name value rest

/-- The fields of a list of named values, of which the last of each name counts. -/
def ofList (entries : List (String × Json)) : Fields :=
  entries.foldl (fun fields entry => insert entry.1 entry.2 fields) []

/-- The value of a name. -/
def get? (name : String) : Fields → Option Json
  | [] => none
  | (other, value) :: rest => if other = name then some value else get? name rest

/-- The names in increasing order, each once. -/
def Sorted (fields : Fields) : Prop :=
  (fields.map Prod.fst).Pairwise (· < ·)

@[simp] theorem get?_nil (name : String) : get? name [] = none := rfl

theorem get?_cons (name other : String) (value : Json) (rest : Fields) :
    get? name ((other, value) :: rest) = if other = name then some value else get? name rest := rfl

/-- The value of a name is the one that it was given last. -/
theorem get?_insert (name other : String) (value : Json) (fields : Fields) :
    get? name (insert other value fields) =
      if other = name then some value else get? name fields := by
  induction fields with
  | nil => rfl
  | cons field rest ih =>
      obtain ⟨present, kept⟩ := field
      unfold insert
      split
      · rfl
      · split
        case isTrue same =>
          subst same
          by_cases found : other = name <;> simp [get?_cons, found]
        case isFalse different =>
          rw [get?_cons, get?_cons, ih]
          by_cases found : present = name
          · have apart : other ≠ name := fun same => different (same.trans found.symm)
            simp [found, apart]
          · simp [found]

end Fields

/-- An object with the given fields, written in any order. -/
def ofFields (entries : List (String × Json)) : Json :=
  .object (Fields.ofList entries)

def emptyObject : Json := .object []

def ofNat (value : Nat) : Json := .number (.integer value)

/-- A string, or null when there is none. -/
def ofString? : Option String → Json
  | some text => .string text
  | none => .null

/-- The field of an object; a value of another kind has none. -/
def field? (name : String) : Json → Option Json
  | .object fields => Fields.get? name fields
  | _ => none

def asString? : Json → Option String
  | .string text => some text
  | _ => none

def asObject? : Json → Option Fields
  | .object fields => some fields
  | _ => none

def asArray? : Json → Option (List Json)
  | .array items => some items
  | _ => none

def asBool? : Json → Option Bool
  | .bool value => some value
  | _ => none

def asInt? : Json → Option Int
  | .number (.integer value) => some value
  | _ => none

def asNat? : Json → Option Nat
  | .number (.integer (.ofNat value)) => some value
  | _ => none

/-- The string in a field of an object. -/
def stringField? (name : String) (value : Json) : Option String :=
  (value.field? name).bind asString?

/-- The fields of a record with the given names: those of an object, or the items of an array as the
values of the first names. An array has at least so many items, and no more than there are names. -/
def record? (names : List String) (least : Nat) : Json → Option Fields
  | .object fields => some fields
  | .array items =>
      if least ≤ items.length ∧ items.length ≤ names.length then
        some (Fields.ofList (names.zip items))
      else none
  | _ => none

@[simp] theorem record?_object (names : List String) (least : Nat) (fields : Fields) :
    record? names least (.object fields) = some fields := rfl

def isNull : Json → Bool
  | .null => true
  | _ => false

/-- The name of a variant without data: a string, or a field without a value. -/
def variantName? : Json → Option String
  | .string name => some name
  | .object [(name, .null)] => some name
  | _ => none

mutual

/-- The same value with the fields of every object in increasing order of their names. -/
def canonical : Json → Json
  | .null => .null
  | .bool value => .bool value
  | .number value => .number value
  | .string text => .string text
  | .array items => .array (canonicalItems items)
  | .object fields => .object (canonicalFields fields [])

def canonicalItems : List Json → List Json
  | [] => []
  | item :: rest => canonical item :: canonicalItems rest

def canonicalFields : List (String × Json) → Fields → Fields
  | [], sorted => sorted
  | (name, value) :: rest, sorted =>
      canonicalFields rest (Fields.insert name (canonical value) sorted)

end

end Json

end KernelClient
