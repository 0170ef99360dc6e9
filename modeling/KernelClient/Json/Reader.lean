import KernelClient.Json.Token

/-!
# Reading JSON

A document is read token by token. The arrays and objects that are still open are kept in a list,
the innermost first, and each complete value is handed to the innermost one. Nesting beyond a given
depth is refused, as is anything after the first value.
-/

namespace KernelClient.Json

/-- A container that is still open. -/
inductive OpenContainer where
  | array (before : List Json)
  | object (before : Fields) (name : String)
deriving Inhabited

namespace Reader

/-- The containers that are open and what is expected next. An object whose name is awaited is the
innermost container with its fields so far. -/
inductive State where
  | value (containers : List OpenContainer)
  | firstItem (containers : List OpenContainer)
  | firstName (containers : List OpenContainer)
  | name (before : Fields) (containers : List OpenContainer)
  | colon (before : Fields) (name : String) (containers : List OpenContainer)
  | separator (container : OpenContainer) (containers : List OpenContainer)
  | done (document : Json)
deriving Inhabited

/-- Hand a complete value to the innermost container. -/
def deliver (value : Json) : List OpenContainer → State
  | [] => .done value
  | .array before :: containers => .separator (.array (value :: before)) containers
  | .object before name :: containers =>
      .separator (.object (Fields.insert name value before) name) containers

/-- Read the first token of a value. -/
def beginValue? (limit : Nat) (containers : List OpenContainer) : Token → Option State
  | .null => some (deliver .null containers)
  | .bool value => some (deliver (.bool value) containers)
  | .number value => some (deliver (.number value) containers)
  | .string text => some (deliver (.string text) containers)
  | .openArray => if containers.length < limit then some (.firstItem containers) else none
  | .openObject => if containers.length < limit then some (.firstName containers) else none
  | _ => none

/-- Read one token. -/
def step? (limit : Nat) (state : State) (token : Token) : Option State :=
  match state, token with
  | .value containers, token => beginValue? limit containers token
  | .firstItem containers, .closeArray => some (deliver (.array []) containers)
  | .firstItem containers, token => beginValue? limit (.array [] :: containers) token
  | .firstName containers, .closeObject => some (deliver (.object []) containers)
  | .firstName containers, .string name => some (.colon [] name containers)
  | .name before containers, .string name => some (.colon before name containers)
  | .colon before name containers, .colon => some (.value (.object before name :: containers))
  | .separator (.array before) containers, .comma => some (.value (.array before :: containers))
  | .separator (.array before) containers, .closeArray =>
      some (deliver (.array before.reverse) containers)
  | .separator (.object before _) containers, .comma => some (.name before containers)
  | .separator (.object before _) containers, .closeObject =>
      some (deliver (.object before) containers)
  | _, _ => none

/-- Read all tokens. -/
def run? (limit : Nat) (state : State) : List Token → Option State
  | [] => some state
  | token :: rest =>
      match step? limit state token with
      | some next => run? limit next rest
      | none => none

end Reader

/-- The deepest nesting of arrays and objects that is accepted. -/
def depthLimit : Nat := 127

/-- Read a document whose arrays and objects are nested at most as deep as given. -/
def parseWithin? (limit : Nat) (text : String) : Option Json :=
  match (Token.ofText? text.toList).bind (Reader.run? limit (.value [])) with
  | some (.done document) => some document
  | _ => none

/-- Read a document. -/
def parse? (text : String) : Option Json := parseWithin? depthLimit text

/-- Read a document from UTF-8. -/
def parseBytes? (bytes : List UInt8) : Option Json :=
  (String.fromUTF8? ⟨bytes.toArray⟩).bind parse?

end KernelClient.Json
