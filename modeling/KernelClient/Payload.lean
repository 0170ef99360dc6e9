import KernelClient.Json.Basic
import KernelClient.Text.Quoted

/-!
# The shape of payloads

Readers for the parts of the JSON that a server sends. Each says what is wrong with the first part
that has not the expected shape.
-/

namespace KernelClient

/-- A fault in the shape of a payload. -/
inductive PayloadFault where
  | notObject (what : String)
  | notArray (what : String)
  | missing (what field : String)
  | notString (what field : String)
  | partNotObject (what field : String)
  | specNotObject (name : String)
  | argumentsNotArray (name : String)
  | argumentsNotStrings (name : String)
  | noSpecs
deriving DecidableEq, Inhabited

namespace PayloadFault

def message : PayloadFault → String
  | .notObject what => what ++ " is not an object"
  | .notArray what => what ++ " is not an array"
  | .missing what field => what ++ ": missing " ++ field
  | .notString what field => what ++ ": " ++ field ++ " is not a string"
  | .partNotObject what field => what ++ ": " ++ field ++ " is not an object"
  | .specNotObject name => "kernelspec " ++ Text.quote name ++ ": spec is not an object"
  | .argumentsNotArray name => "kernelspec " ++ Text.quote name ++ ": argv is not an array"
  | .argumentsNotStrings name => "kernelspec " ++ Text.quote name ++ ": argv must be strings"
  | .noSpecs => "no valid kernelspecs found"

end PayloadFault

namespace Payload

def objectFields (what : String) : Json → Except PayloadFault Json.Fields
  | .object fields => .ok fields
  | _ => .error (.notObject what)

def arrayItems (what : String) : Json → Except PayloadFault (List Json)
  | .array items => .ok items
  | _ => .error (.notArray what)

def stringField (what : String) (fields : Json.Fields) (field : String) :
    Except PayloadFault String :=
  match fields.get? field with
  | some (.string text) => .ok text
  | some _ => .error (.notString what field)
  | none => .error (.missing what field)

/-- Strings by name, in an object that may be left out or null. -/
def stringMap (what : String) (fields : Json.Fields) (field : String) :
    Except PayloadFault (List (String × String)) :=
  match fields.get? field with
  | none | some .null => .ok []
  | some (.object entries) => entries.mapM fun (name, value) =>
      match value with
      | .string text => .ok (name, text)
      | _ => .error (.notString what (field ++ "." ++ name))
  | some _ => .error (.partNotObject what field)

/-- Every item of an array. -/
def list {α : Type} (what : String) (read : Json → Except PayloadFault α) (value : Json) :
    Except PayloadFault (List α) := do
  (← arrayItems what value).mapM read

/-- An object of strings. -/
def ofStringMap (entries : List (String × String)) : Json :=
  .object (entries.map fun (name, text) => (name, .string text))

end Payload

end KernelClient
