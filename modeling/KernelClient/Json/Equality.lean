import KernelClient.Json.Basic

/-!
# Equality of JSON values

`DecidableEq Json` decides whether two values are the same. `Json.agrees` is the equality by which
changes are noticed: it compares doubles as numbers, so that the two zeros agree.
-/

namespace KernelClient.Json

mutual

/-- Decide whether two values are the same. -/
def decideEq : (left right : Json) → Decidable (left = right)
  | .null, .null => isTrue rfl
  | .bool left, .bool right =>
      if same : left = right then isTrue (congrArg _ same)
      else isFalse (fun equal => same (Json.bool.inj equal))
  | .number left, .number right =>
      if same : left = right then isTrue (congrArg _ same)
      else isFalse (fun equal => same (Json.number.inj equal))
  | .string left, .string right =>
      if same : left = right then isTrue (congrArg _ same)
      else isFalse (fun equal => same (Json.string.inj equal))
  | .array left, .array right =>
      match decideEqItems left right with
      | isTrue same => isTrue (congrArg _ same)
      | isFalse different => isFalse (fun equal => different (Json.array.inj equal))
  | .object left, .object right =>
      match decideEqFields left right with
      | isTrue same => isTrue (congrArg _ same)
      | isFalse different => isFalse (fun equal => different (Json.object.inj equal))
  | .null, .bool _ | .null, .number _ | .null, .string _ | .null, .array _ | .null, .object _
  | .bool _, .null | .bool _, .number _ | .bool _, .string _ | .bool _, .array _
  | .bool _, .object _
  | .number _, .null | .number _, .bool _ | .number _, .string _ | .number _, .array _
  | .number _, .object _
  | .string _, .null | .string _, .bool _ | .string _, .number _ | .string _, .array _
  | .string _, .object _
  | .array _, .null | .array _, .bool _ | .array _, .number _ | .array _, .string _
  | .array _, .object _
  | .object _, .null | .object _, .bool _ | .object _, .number _ | .object _, .string _
  | .object _, .array _ => isFalse (fun equal => by cases equal)

def decideEqItems : (left right : List Json) → Decidable (left = right)
  | [], [] => isTrue rfl
  | [], _ :: _ => isFalse (fun equal => by cases equal)
  | _ :: _, [] => isFalse (fun equal => by cases equal)
  | left :: leftRest, right :: rightRest =>
      match decideEq left right, decideEqItems leftRest rightRest with
      | isTrue head, isTrue tail => isTrue (by rw [head, tail])
      | isFalse head, _ => isFalse (fun equal => head (List.cons.inj equal).1)
      | _, isFalse tail => isFalse (fun equal => tail (List.cons.inj equal).2)

def decideEqFields : (left right : List (String × Json)) → Decidable (left = right)
  | [], [] => isTrue rfl
  | [], _ :: _ => isFalse (fun equal => by cases equal)
  | _ :: _, [] => isFalse (fun equal => by cases equal)
  | (leftName, left) :: leftRest, (rightName, right) :: rightRest =>
      if name : leftName = rightName then
        match decideEq left right, decideEqFields leftRest rightRest with
        | isTrue head, isTrue tail => isTrue (by rw [name, head, tail])
        | isFalse head, _ =>
            isFalse (fun equal => head (Prod.mk.inj (List.cons.inj equal).1).2)
        | _, isFalse tail => isFalse (fun equal => tail (List.cons.inj equal).2)
      else isFalse (fun equal => name (Prod.mk.inj (List.cons.inj equal).1).1)

end

instance : DecidableEq Json := decideEq

/-- Integers agree when they are equal and doubles when they are equal as numbers. -/
def Number.agrees : Number → Number → Bool
  | .integer left, .integer right => left == right
  | .double left, .double right => left.agrees right
  | _, _ => false

mutual

/-- The same value up to the sign of zero. -/
def agrees : Json → Json → Bool
  | .null, .null => true
  | .bool left, .bool right => left == right
  | .number left, .number right => left.agrees right
  | .string left, .string right => left == right
  | .array left, .array right => itemsAgree left right
  | .object left, .object right => fieldsAgree left right
  | _, _ => false

def itemsAgree : List Json → List Json → Bool
  | [], [] => true
  | left :: leftRest, right :: rightRest => left.agrees right && itemsAgree leftRest rightRest
  | _, _ => false

def fieldsAgree : List (String × Json) → List (String × Json) → Bool
  | [], [] => true
  | (leftName, left) :: leftRest, (rightName, right) :: rightRest =>
      leftName == rightName && left.agrees right && fieldsAgree leftRest rightRest
  | _, _ => false

end

@[simp] theorem Number.agrees_self (number : Number) : number.agrees number = true := by
  cases number <;> simp [Number.agrees]

mutual

@[simp] theorem agrees_self : (value : Json) → value.agrees value = true
  | .null => by simp [agrees]
  | .bool _ => by simp [agrees]
  | .number _ => by simp [agrees]
  | .string _ => by simp [agrees]
  | .array items => by simp [agrees, itemsAgree_self items]
  | .object fields => by simp [agrees, fieldsAgree_self fields]

theorem itemsAgree_self : (items : List Json) → itemsAgree items items = true
  | [] => by simp [itemsAgree]
  | item :: rest => by simp [itemsAgree, agrees_self item, itemsAgree_self rest]

theorem fieldsAgree_self : (fields : List (String × Json)) → fieldsAgree fields fields = true
  | [] => by simp [fieldsAgree]
  | (_, value) :: rest => by simp [fieldsAgree, agrees_self value, fieldsAgree_self rest]

end

end KernelClient.Json
