import KernelClient.Json.Printer
import KernelClient.Json.Reader
import Mathlib.Tactic.IntervalCases

/-!
# Reading what was written

A string is always read back as it was written. An object is read back if each of its values is,
with one level of nesting more. Both follow from what tokens and containers do not depend on: the
tokens of a text are the same whatever stands before it and whatever mark follows it, and a value
that is read alone is read in the same way inside other containers.
-/

namespace KernelClient.Json

namespace Token

/-- What was read before stands before all that is read afterwards. -/
theorem scan?_before (before : List Token) (reading : PartialToken) (text : List Char) :
    scan? before reading text = (scan? [] reading text).map fun tokens =>
      before.reverse ++ tokens := by
  induction text generalizing before reading with
  | nil => cases completed : complete? reading <;> simp [scan?, completed]
  | cons character rest ih =>
      unfold scan?
      cases read : step? reading character with
      | none => rfl
      | some next =>
          obtain ⟨tokens, later⟩ := next
          have first := ih (tokens.reverse ++ before) later
          have second := ih (tokens.reverse ++ []) later
          simp only [first, second]
          cases scan? [] later rest <;> simp

/-- Whether a text does not go on with a numeral or a word. -/
def Separates (following : List Char) : Prop :=
  ∀ character ∈ following.head?,
    isNumeralCharacter character = false ∧ isWordLetter character = false

/-- A token that is seen to end by what follows it is completed before that is read. -/
theorem scan?_of_separates {before tokens : List Token} {reading : PartialToken}
    {following : List Char} (completed : complete? reading = some tokens)
    (separates : Separates following) :
    scan? before reading following = scan? (tokens.reverse ++ before) .nothing following := by
  cases following with
  | nil =>
      have nothing : complete? .nothing = some [] := rfl
      simp [scan?, completed, nothing]
  | cons character rest =>
      obtain ⟨noNumeral, noWord⟩ := separates character (by simp)
      cases reading with
      | nothing =>
          cases completed
          rfl
      | numeral started =>
          simp only [scan?, step?, noNumeral, completed]
          cases begun : start? character with
          | none => rfl
          | some next => simp
      | word started =>
          simp only [scan?, step?, noWord, completed]
          cases begun : start? character with
          | none => rfl
          | some next => simp
      | _ => cases completed

/-- The tokens of a text are the same in a longer text. -/
theorem scan?_append {before tokens : List Token} {reading : PartialToken}
    {text following : List Char} (scanned : scan? [] reading text = some tokens)
    (separates : Separates following) :
    scan? before reading (text ++ following) =
      scan? (tokens.reverse ++ before) .nothing following := by
  induction text generalizing before tokens reading with
  | nil =>
      have completed : complete? reading = some tokens := by simpa [scan?] using scanned
      exact scan?_of_separates completed separates
  | cons character rest ih =>
      rw [List.cons_append, scan?]
      unfold scan? at scanned
      cases read : step? reading character with
      | none => simp [read] at scanned
      | some next =>
          obtain ⟨first, later⟩ := next
          simp only [read] at scanned ⊢
          rw [scan?_before] at scanned
          obtain ⟨others, scannedRest, rfl⟩ := Option.map_eq_some_iff.mp scanned
          rw [ih scannedRest]
          simp

/-- A mark is a token by itself. -/
theorem scan?_mark {character : Char} {token : Token} (before : List Token) (rest : List Char)
    (mark : start? character = some ([token], .nothing)) :
    scan? before .nothing (character :: rest) = scan? (token :: before) .nothing rest := by
  simp [scan?, step?, mark]

theorem hexValue?_digit {value : Nat} (small : value < 16) :
    Hex.value? (Hex.digit value) = some value := by
  interval_cases value <;> rfl

/-- What is written for a character of a string is read as that character. -/
theorem scan?_escape (before : List Token) (read : List Char) (character : Char)
    (rest : List Char) :
    scan? before (.string read) (escape character ++ rest) =
      scan? before (.string (character :: read)) rest := by
  unfold escape
  split
  case isTrue quote =>
    subst quote
    rfl
  split
  case isTrue backslash =>
    subst backslash
    rfl
  split
  case isTrue backspace =>
    subst backspace
    rfl
  split
  case isTrue formFeed =>
    subst formFeed
    rfl
  split
  case isTrue newline =>
    subst newline
    rfl
  split
  case isTrue carriageReturn =>
    subst carriageReturn
    rfl
  split
  case isTrue tab =>
    subst tab
    rfl
  split
  case isTrue control =>
    -- The two digits behind the zeros give the character's number back.
    have high : Hex.value? (Hex.digit (character.toNat / 16)) = some (character.toNat / 16) :=
      hexValue?_digit (by omega)
    have low : Hex.value? (Hex.digit (character.toNat % 16)) = some (character.toNat % 16) :=
      hexValue?_digit (by omega)
    have zero : Hex.value? '0' = some 0 := rfl
    have number : 16 * (character.toNat / 16) + character.toNat % 16 = character.toNat :=
      Nat.div_add_mod ..
    have noLow : ¬(0xDC00 ≤ character.toNat ∧ character.toNat < 0xE000) := by omega
    have noHigh : ¬(0xD800 ≤ character.toNat ∧ character.toNat < 0xDC00) := by omega
    simp [scan?, step?, high, low, zero, number, afterCodeUnit?, noLow, noHigh]
  case isFalse notQuote notBackslash _ _ _ _ _ notControl =>
    simp [scan?, step?, notQuote, notBackslash, notControl]

/-- What is written for a string is read as that string. -/
theorem scan?_writeString (before : List Token) (text : String) (rest : List Char) :
    scan? before .nothing (writeString text rest) =
      scan? (.string text :: before) .nothing rest := by
  have inside (read characters : List Char) :
      scan? before (.string read)
          (characters.foldr (fun character written => escape character ++ written)
            ('"' :: rest)) =
        scan? (.string (String.ofList (read.reverse ++ characters)) :: before) .nothing rest := by
    induction characters generalizing read with
    | nil => simp [scan?, step?]
    | cons character others ih =>
        rw [List.foldr_cons, scan?_escape, ih]
        simp
  have opened := inside [] text.toList
  rw [List.reverse_nil, List.nil_append, String.ofList_toList] at opened
  rw [← opened]
  rfl

end Token

namespace Reader

/-- A state inside other containers. What is complete alone is handed to the innermost of them. -/
def State.within (outer : List OpenContainer) : State → State
  | .value containers => .value (containers ++ outer)
  | .firstItem containers => .firstItem (containers ++ outer)
  | .firstName containers => .firstName (containers ++ outer)
  | .name before containers => .name before (containers ++ outer)
  | .colon before field containers => .colon before field (containers ++ outer)
  | .separator container containers => .separator container (containers ++ outer)
  | .done document => deliver document outer

theorem within_deliver (value : Json) (containers outer : List OpenContainer) :
    (deliver value containers).within outer = deliver value (containers ++ outer) := by
  cases containers with
  | nil => rfl
  | cons container others => cases container <;> rfl

theorem beginValue?_within {limit : Nat} {containers : List OpenContainer} {token : Token}
    {next : State} (outer : List OpenContainer)
    (begun : beginValue? limit containers token = some next) :
    beginValue? (limit + outer.length) (containers ++ outer) token =
      some (next.within outer) := by
  cases token with
  | null | bool | number | string =>
      cases begun
      simp [beginValue?, within_deliver]
  | openArray | openObject =>
      simp only [beginValue?] at begun ⊢
      split at begun
      · cases begun
        rw [if_pos (by rw [List.length_append]; omega)]
        rfl
      · cases begun
  | _ => cases begun

theorem step?_firstItem {limit : Nat} {containers : List OpenContainer} {token : Token}
    (opens : token ≠ .closeArray) :
    step? limit (.firstItem containers) token =
      beginValue? limit (.array [] :: containers) token := by
  cases token with
  | closeArray => exact absurd rfl opens
  | _ => rfl

/-- A token is read in the same way inside other containers, as deep as they allow. -/
theorem step?_within {limit : Nat} {state next : State} {token : Token}
    (outer : List OpenContainer) (stepped : step? limit state token = some next) :
    step? (limit + outer.length) (state.within outer) token = some (next.within outer) := by
  cases state with
  | value containers => exact beginValue?_within outer stepped
  | firstItem containers =>
      by_cases closes : token = .closeArray
      · subst closes
        cases stepped
        rw [within_deliver]
        rfl
      · rw [step?_firstItem closes] at stepped
        rw [State.within, step?_firstItem closes]
        exact beginValue?_within outer stepped
  | firstName containers =>
      cases token with
      | closeObject =>
          cases stepped
          rw [within_deliver]
          rfl
      | string name =>
          cases stepped
          rfl
      | _ => cases stepped
  | name before containers =>
      cases token with
      | string name =>
          cases stepped
          rfl
      | _ => cases stepped
  | colon before name containers =>
      cases token with
      | colon =>
          cases stepped
          rfl
      | _ => cases stepped
  | separator container containers =>
      cases container <;> cases token
      case array.comma | object.comma =>
        cases stepped
        rfl
      case array.closeArray | object.closeObject =>
        cases stepped
        rw [within_deliver]
        rfl
      all_goals cases stepped
  | done document => cases stepped

/-- A value that is read alone is read in the same way inside other containers. -/
theorem run?_within {limit : Nat} {state final : State} {tokens : List Token}
    (outer : List OpenContainer) (rest : List Token)
    (ran : run? limit state tokens = some final) :
    run? (limit + outer.length) (state.within outer) (tokens ++ rest) =
      run? (limit + outer.length) (final.within outer) rest := by
  induction tokens generalizing state with
  | nil =>
      cases ran
      rfl
  | cons token others ih =>
      unfold run? at ran
      cases stepped : step? limit state token with
      | none => simp [stepped] at ran
      | some next =>
          simp only [stepped] at ran
          rw [List.cons_append, run?, step?_within outer stepped]
          exact ih ran

end Reader

theorem writeString_append (text : String) (middle rest : List Char) :
    writeString text (middle ++ rest) = writeString text middle ++ rest := by
  have inside (characters : List Char) :
      characters.foldr (fun character written => escape character ++ written)
          ('"' :: (middle ++ rest)) =
        characters.foldr (fun character written => escape character ++ written)
          ('"' :: middle) ++ rest := by
    induction characters with
    | nil => rfl
    | cons character others ih => simp [ih]
  rw [writeString, writeString, inside]
  rfl

mutual

/-- What is written for a value stands before what follows it. -/
theorem write_append (value : Json) (middle rest : List Char) :
    write value (middle ++ rest) = write value middle ++ rest := by
  cases value with
  | null => rfl
  | bool value => cases value <;> rfl
  | number value => simp [write]
  | string text => exact writeString_append text middle rest
  | array items =>
      cases items with
      | nil => rfl
      | cons item items =>
          have others := writeItems_append items (']' :: middle) rest
          have first := write_append item (writeItems items (']' :: middle)) rest
          rw [List.cons_append] at others
          rw [write, write, others, first]
          rfl
  | object fields =>
      cases fields with
      | nil => rfl
      | cons field fields =>
          obtain ⟨name, value⟩ := field
          have others := writeFields_append fields ('}' :: middle) rest
          have first := write_append value (writeFields fields ('}' :: middle)) rest
          rw [List.cons_append] at others
          rw [write, write, others, first, ← List.cons_append, writeString_append]
          rfl

theorem writeItems_append (items : List Json) (middle rest : List Char) :
    writeItems items (middle ++ rest) = writeItems items middle ++ rest := by
  cases items with
  | nil => rfl
  | cons item items =>
      have others := writeItems_append items middle rest
      have first := write_append item (writeItems items middle) rest
      rw [writeItems, writeItems, others, first]
      rfl

theorem writeFields_append (fields : List (String × Json)) (middle rest : List Char) :
    writeFields fields (middle ++ rest) = writeFields fields middle ++ rest := by
  cases fields with
  | nil => rfl
  | cons field fields =>
      obtain ⟨name, value⟩ := field
      have others := writeFields_append fields middle rest
      have first := write_append value (writeFields fields middle) rest
      rw [writeFields, writeFields, others, first, ← List.cons_append, writeString_append]
      rfl

end

theorem parseWithin?_render_iff {limit : Nat} {written read : Json} :
    parseWithin? limit written.render = some read ↔
      ∃ tokens, Token.ofText? (write written []) = some tokens ∧
        Reader.run? limit (.value []) tokens = some (.done read) := by
  unfold parseWithin? render
  rw [String.toList_ofList]
  cases scanned : Token.ofText? (write written []) with
  | none => simp
  | some tokens =>
      simp only [Option.bind_some, Option.some.injEq, exists_eq_left']
      cases ran : Reader.run? limit (.value []) tokens with
      | none => simp
      | some state => cases state <;> simp

/-- What is read of a value in a longer document, when it is read alone as some value. -/
theorem exists_tokens_of_parse {limit : Nat} {written read : Json}
    (parsed : parseWithin? limit written.render = some read) :
    ∃ tokens,
      (∀ before following, Token.Separates following →
        Token.scan? before .nothing (write written following) =
          Token.scan? (tokens.reverse ++ before) .nothing following) ∧
      ∀ outer rest,
        Reader.run? (limit + outer.length) (.value outer) (tokens ++ rest) =
          Reader.run? (limit + outer.length) (Reader.deliver read outer) rest := by
  obtain ⟨tokens, scanned, ran⟩ := parseWithin?_render_iff.mp parsed
  refine ⟨tokens, fun before following separates => ?_, fun outer rest => ?_⟩
  · have longer := write_append written [] following
    rw [List.nil_append] at longer
    rw [longer]
    exact Token.scan?_append scanned separates
  · exact Reader.run?_within outer rest ran

/-- Every string is read back. -/
theorem parseWithin?_string (limit : Nat) (text : String) :
    parseWithin? limit (Json.string text).render = some (.string text) := by
  refine parseWithin?_render_iff.mpr ⟨[.string text], ?_, rfl⟩
  exact Token.scan?_writeString [] text []

theorem separates_writeFields (fields : List (String × Json)) (rest : List Char) :
    Token.Separates (writeFields fields ('}' :: rest)) := by
  intro character first
  cases fields with
  | nil =>
      cases first
      decide
  | cons field fields =>
      cases first
      decide

/-- What is read of a field whose value is read alone as some value. -/
theorem exists_tokens_of_field {limit : Nat} (name : String) {written read : Json}
    (parsed : parseWithin? limit written.render = some read) :
    ∃ tokens,
      (∀ before following, Token.Separates following →
        Token.scan? before .nothing (writeString name (':' :: write written following)) =
          Token.scan? (tokens.reverse ++ .colon :: .string name :: before) .nothing following) ∧
      ∀ known rest,
        Reader.run? (limit + 1) (.value [.object known name]) (tokens ++ rest) =
          Reader.run? (limit + 1) (.separator (.object (Fields.insert name read known) name) [])
            rest := by
  obtain ⟨tokens, scanned, ran⟩ := exists_tokens_of_parse parsed
  refine ⟨tokens, fun before following separates => ?_, fun known rest => ?_⟩
  · have colon := Token.scan?_mark (.string name :: before) (write written following)
      (show Token.start? ':' = some ([.colon], .nothing) from rfl)
    rw [Token.scan?_writeString, colon, scanned _ _ separates]
  · exact ran [.object known name] rest

/-- The fields of an object after one that is complete are added one after the other. -/
theorem exists_tokens_of_fields {limit : Nat} (fields : List (String × Json × Json))
    (reads : ∀ field ∈ fields, parseWithin? limit field.2.1.render = some field.2.2) :
    ∃ tokens,
      (∀ before,
        Token.scan? before .nothing
            (writeFields (fields.map fun field => (field.1, field.2.1)) ['}']) =
          some (before.reverse ++ tokens)) ∧
      ∀ known name,
        Reader.run? (limit + 1) (.separator (.object known name) []) tokens =
          some (.done (.object ((fields.map fun field => (field.1, field.2.2)).foldl
            (fun known field => Fields.insert field.1 field.2 known) known))) := by
  induction fields with
  | nil =>
      refine ⟨[.closeObject], fun before => ?_, fun known name => rfl⟩
      have closed := Token.scan?_mark before []
        (show Token.start? '}' = some ([.closeObject], .nothing) from rfl)
      rw [List.map_nil, writeFields, closed]
      simp [Token.scan?, Token.complete?]
  | cons field rest ih =>
      obtain ⟨name, written, read⟩ := field
      obtain ⟨others, scannedOthers, ranOthers⟩ :=
        ih fun other member => reads other (List.mem_cons_of_mem _ member)
      obtain ⟨tokens, scanned, ran⟩ :=
        exists_tokens_of_field name (reads (name, written, read) (List.mem_cons_self ..))
      refine ⟨.comma :: .string name :: .colon :: (tokens ++ others), fun before => ?_,
        fun known last => ?_⟩
      · have comma := Token.scan?_mark before
          (writeString name (':' :: write written
            (writeFields (rest.map fun field => (field.1, field.2.1)) ['}'])))
          (show Token.start? ',' = some ([.comma], .nothing) from rfl)
        rw [List.map_cons, writeFields, comma, scanned _ _ (separates_writeFields _ _),
          scannedOthers]
        simp
      · calc Reader.run? (limit + 1) (.separator (.object known last) [])
              (.comma :: .string name :: .colon :: (tokens ++ others))
            = Reader.run? (limit + 1) (.value [.object known name]) (tokens ++ others) := rfl
          _ = _ := by rw [ran, ranOthers]; rfl

/-- An object is read back, with one level of nesting more, as the object of what is read for each
of its fields. -/
theorem parseWithin?_object {limit : Nat} (fields : List (String × Json × Json))
    (reads : ∀ field ∈ fields, parseWithin? limit field.2.1.render = some field.2.2) :
    parseWithin? (limit + 1) (Json.object (fields.map fun field => (field.1, field.2.1))).render =
      some (.ofFields (fields.map fun field => (field.1, field.2.2))) := by
  refine parseWithin?_render_iff.mpr ?_
  have opened (text : List Char) := Token.scan?_mark [] text
    (show Token.start? '{' = some ([.openObject], .nothing) from rfl)
  cases fields with
  | nil => exact ⟨[.openObject, .closeObject], by rfl, by simp [Reader.run?]; rfl⟩
  | cons field rest =>
      obtain ⟨name, written, read⟩ := field
      obtain ⟨others, scannedOthers, ranOthers⟩ :=
        exists_tokens_of_fields rest fun other member => reads other (List.mem_cons_of_mem _ member)
      obtain ⟨tokens, scanned, ran⟩ :=
        exists_tokens_of_field name (reads (name, written, read) (List.mem_cons_self ..))
      refine ⟨.openObject :: .string name :: .colon :: (tokens ++ others), ?_, ?_⟩
      · rw [List.map_cons, write, Token.ofText?, opened, scanned _ _ (separates_writeFields _ _),
          scannedOthers]
        simp
      · calc Reader.run? (limit + 1) (.value [])
              (.openObject :: .string name :: .colon :: (tokens ++ others))
            = Reader.run? (limit + 1) (.value [.object [] name]) (tokens ++ others) := by
              simp [Reader.run?, Reader.step?, Reader.beginValue?]
          _ = _ := by rw [ran, ranOthers]; rfl

end KernelClient.Json
