import KernelClient.Kernel.Spec
import KernelClient.Proofs.Payload.Steps
import KernelClient.Session.Model
import KernelClient.Terminal

/-!
# Models that are checked again

A model that a check has accepted is written with the fields the check looks for, so that the same
check accepts what is written and finds the same model in it. For kernels, sessions and terminals
this holds of every model there is. For kernelspecs it needs what a check establishes: metadata that
is an object, and a default that is one of the entries. Given these nothing is left out of a set of
kernelspecs that was written, and no other default is chosen for it.
-/

namespace KernelClient

open Json (Fields)

namespace Payload

/-- Whether the check accepts each model that it yields, once written, and yields the same. -/
def Revalidates {α : Type} (check : Json → Except PayloadFault α) (write : α → Json) : Prop :=
  ∀ value model, check value = .ok model → check (write model) = .ok model

/-- Whether a check of lists yields one model for each item of an array, in the order of the items,
and accepts the models it yields once they are written, as the same list. -/
def RevalidatesEach {α : Type} (check : Json → Except PayloadFault α)
    (checkAll : Json → Except PayloadFault (List α)) (write : α → Json) : Prop :=
  ∀ value models, checkAll value = .ok models →
    (∃ items, value = .array items ∧ items.map check = models.map .ok) ∧
      checkAll (.array (models.map write)) = .ok models

/-- A list of written models is read as it was, if each of its models is. -/
theorem list_array_map {α : Type} {what : String} {check : Json → Except PayloadFault α}
    {write : α → Json} {models : List α}
    (again : ∀ model ∈ models, check (write model) = .ok model) :
    list what check (.array (models.map write)) = .ok models := by
  refine list_eq_ok_iff.mpr ⟨models.map write, rfl, ?_⟩
  rw [List.map_map]
  exact List.map_congr_left again

/-- A check that goes through the items of an array is as good for the list as for an item. -/
theorem Revalidates.each {α : Type} {what : String} {check : Json → Except PayloadFault α}
    {write : α → Json} (again : Revalidates check write) :
    RevalidatesEach check (list what check) write := by
  intro value models accepted
  obtain ⟨items, rfl, read⟩ := list_eq_ok_iff.mp accepted
  refine ⟨⟨items, rfl, read⟩, list_array_map fun model member => ?_⟩
  have result : Except.ok model ∈ items.map check := read ▸ List.mem_map_of_mem member
  obtain ⟨item, -, acceptedItem⟩ := List.mem_map.mp result
  exact again item model acceptedItem

end Payload

theorem KernelModel.toJson_eq (model : KernelModel) :
    model.toJson = .object [("id", .string model.id), ("name", .string model.name)] := by
  simp only [toJson, Json.ofFields, Fields.ofList, List.foldl_cons, List.foldl_nil, Fields.insert,
    String.reduceLT, reduceIte, String.reduceEq]

theorem KernelModel.ofJson_toJson (model : KernelModel) : ofJson model.toJson = .ok model := by
  rw [toJson_eq]
  rfl

/-- The kernel of a session is an object or null when it is written. -/
theorem SessionModel.kernelOfJson_kernelToJson (kernel : Option KernelModel) :
    kernelOfJson (some (kernelToJson kernel)) = .ok kernel := by
  cases kernel with
  | none => rfl
  | some kernel =>
      have again := kernel.ofJson_toJson
      rw [KernelModel.toJson_eq] at again
      simp only [kernelToJson, KernelModel.toJson_eq, kernelOfJson, again]
      rfl

theorem SessionModel.ofJson_toJson (model : SessionModel) : ofJson model.toJson = .ok model := by
  simp only [ofJson, toJson, Json.ofFields, Fields.ofList, List.foldl_cons, List.foldl_nil,
    bind_eq_ok_iff, Payload.objectFields_eq_ok_iff, Payload.stringField_eq_ok_iff]
  exact ⟨_, rfl, model.kernel, kernelOfJson_kernelToJson model.kernel, model.id, rfl,
    model.path, rfl, model.name, rfl, model.type, rfl, rfl⟩

theorem TerminalModel.ofJson_toJson (model : TerminalModel) : ofJson model.toJson = .ok model :=
  rfl

namespace KernelSpec

/-- Whether a spec is what the fields of an entry and of the object inside of it say. -/
structure IsReadFrom (spec : KernelSpec) (fields inner : Fields) : Prop where
  name : fields.get? "name" = some (.string spec.name)
  nested : fields.get? "spec" = some (.object inner)
  arguments : ∃ items, inner.get? "argv" = some (.array items) ∧
    items.map (argumentOfJson spec.name) = spec.arguments.map .ok
  displayName : inner.get? "display_name" = some (.string spec.displayName)
  language : inner.get? "language" = some (.string spec.language)
  environment : Payload.stringMap "kernelspec" inner "env" = .ok spec.environment
  resources : Payload.stringMap "kernelspec" fields "resources" = .ok spec.resources
  interruptMode : (inner.get? "interrupt_mode").bind Json.asString? = spec.interruptMode
  metadata : metadataOfJson? (inner.get? "metadata") = spec.metadata

theorem ofJson_eq_ok_iff {value : Json} {spec : KernelSpec} :
    ofJson value = .ok spec ↔
      ∃ fields inner, value = .object fields ∧ spec.IsReadFrom fields inner := by
  unfold ofJson
  simp only [bind_eq_ok_iff, Payload.objectFields_eq_ok_iff, Payload.stringField_eq_ok_iff, pure,
    Except.pure]
  constructor
  · rintro ⟨fields, rfl, name, foundName, read⟩
    split at read
    case h_2 => simp [bind_eq_ok_iff] at read
    case h_1 inner nested =>
      simp only [bind_eq_ok_iff, Except.ok.injEq, exists_eq_left'] at read
      split at read
      case h_2 => simp [bind_eq_ok_iff] at read
      case h_1 items foundItems =>
        simp only [bind_eq_ok_iff, mapM_eq_ok_iff, Payload.stringField_eq_ok_iff] at read
        obtain ⟨arguments, readItems, displayName, foundDisplayName, language, foundLanguage,
          environment, readEnvironment, resources, readResources, made⟩ := read
        cases made
        exact ⟨fields, inner, rfl, foundName, nested, ⟨items, foundItems, readItems⟩,
          foundDisplayName, foundLanguage, readEnvironment, readResources, rfl, rfl⟩
  · rintro ⟨fields, inner, rfl, isRead⟩
    obtain ⟨items, foundItems, readItems⟩ := isRead.arguments
    refine ⟨fields, rfl, spec.name, isRead.name, ?_⟩
    simp only [isRead.nested, foundItems, bind_eq_ok_iff, Except.ok.injEq, exists_eq_left',
      mapM_eq_ok_iff, Payload.stringField_eq_ok_iff]
    refine ⟨spec.arguments, readItems, spec.displayName, isRead.displayName, spec.language,
      isRead.language, spec.environment, isRead.environment, spec.resources, isRead.resources, ?_⟩
    rw [isRead.interruptMode, isRead.metadata]

/-- Whether the metadata of a spec is an object. -/
def HasMetadata (spec : KernelSpec) : Prop := ∃ fields, spec.metadata = .object fields

/-- Metadata of another kind is replaced when a spec is read. -/
theorem hasMetadata_of_ofJson {value : Json} {spec : KernelSpec} (read : ofJson value = .ok spec) :
    spec.HasMetadata := by
  obtain ⟨fields, inner, -, isRead⟩ := ofJson_eq_ok_iff.mp read
  unfold HasMetadata
  rw [← isRead.metadata]
  unfold metadataOfJson?
  split
  · exact ⟨_, rfl⟩
  · exact ⟨[], rfl⟩

/-- The fields that are written for the object inside of an entry. -/
def innerFields (spec : KernelSpec) : Fields :=
  let interruptMode := match spec.interruptMode with
    | some mode => [("interrupt_mode", Json.string mode)]
    | none => []
  .ofList <| [
    ("argv", .array (spec.arguments.map .string)),
    ("env", Payload.ofStringMap spec.environment),
    ("display_name", .string spec.displayName),
    ("language", .string spec.language),
    ("metadata", spec.metadata)] ++ interruptMode

/-- The fields that are written for an entry. -/
def outerFields (spec : KernelSpec) : Fields :=
  .ofList [
    ("name", .string spec.name),
    ("spec", .object spec.innerFields),
    ("resources", Payload.ofStringMap spec.resources)]

theorem toJson_eq (spec : KernelSpec) : spec.toJson = .object spec.outerFields := rfl

/-- What is written for a spec says what the spec is. -/
theorem isReadFrom_written {spec : KernelSpec} (hasMetadata : spec.HasMetadata) :
    spec.IsReadFrom spec.outerFields spec.innerFields := by
  obtain ⟨name, displayName, language, arguments, environment, interruptMode, _, resources⟩ := spec
  obtain ⟨metadata, rfl⟩ := hasMetadata
  have readArguments : (arguments.map Json.string).map (argumentOfJson name) =
      arguments.map .ok := List.map_map
  -- The field for the interrupt mode is left out when there is none, the others are always there.
  cases interruptMode
  all_goals
    refine {
      name := ?_
      nested := ?_
      arguments := ⟨_, ?_, readArguments⟩
      displayName := ?_
      language := ?_
      environment := Payload.stringMap_of_ofStringMap ?_
      resources := Payload.stringMap_of_ofStringMap ?_
      interruptMode := ?_
      metadata := ?_ }
    all_goals simp [outerFields, innerFields, Fields.ofList, Fields.get?_insert, metadataOfJson?,
      Json.asString?]

theorem ofJson_toJson {spec : KernelSpec} (hasMetadata : spec.HasMetadata) :
    ofJson spec.toJson = .ok spec :=
  ofJson_eq_ok_iff.mpr ⟨_, _, spec.toJson_eq, isReadFrom_written hasMetadata⟩

end KernelSpec

namespace KernelSpecs

/-- What the check establishes of a set of kernelspecs. -/
structure IsChecked (specs : KernelSpecs) : Prop where
  hasMetadata : ∀ entry ∈ specs.entries, entry.2.HasMetadata
  hasDefault : specs.defaultSpec?.isSome = true

theorem hasMetadata_of_mem_accepted {entries : Fields} {entry : String × KernelSpec}
    (member : entry ∈ accepted entries) : entry.2.HasMetadata := by
  obtain ⟨⟨name, value⟩, -, read⟩ := List.mem_filterMap.mp member
  cases accepted : KernelSpec.ofJson value with
  | error fault => simp [accepted] at read
  | ok spec =>
      obtain rfl : (name, spec) = entry := by simpa [accepted] using read
      exact KernelSpec.hasMetadata_of_ofJson accepted

/-- The default that is chosen is one of the entries. -/
theorem choose_eq_ok {wanted : String} {entries : List (String × KernelSpec)} {specs : KernelSpecs}
    (chosen : (choose wanted entries).1 = .ok specs) :
    specs.entries = entries ∧ specs.defaultSpec?.isSome = true := by
  unfold choose at chosen
  split at chosen
  case h_1 => cases chosen
  case h_2 first spec rest =>
    split at chosen
    case isTrue found =>
      cases chosen
      exact ⟨rfl, found⟩
    case isFalse =>
      cases chosen
      exact ⟨rfl, by simp [defaultSpec?, get?]⟩

theorem choose_of_isChecked {specs : KernelSpecs} (checked : specs.IsChecked) :
    choose specs.default specs.entries = (.ok specs, []) := by
  have found : (specs.entries.lookup specs.default).isSome = true := checked.hasDefault
  unfold choose
  split
  case h_1 empty => simp [empty] at found
  case h_2 => rw [if_pos found]

theorem isChecked_of_ofJson {value : Json} {specs : KernelSpecs}
    (read : (ofJson value).1 = .ok specs) : specs.IsChecked := by
  unfold ofJson at read
  dsimp only at read
  split at read
  case h_1 => cases read
  case h_2 wanted entries =>
    obtain ⟨same, hasDefault⟩ := choose_eq_ok read
    exact ⟨fun entry member => hasMetadata_of_mem_accepted (same ▸ member), hasDefault⟩

theorem accepted_toJson {entries : List (String × KernelSpec)}
    (hasMetadata : ∀ entry ∈ entries, entry.2.HasMetadata) :
    accepted (entries.map fun (name, spec) => (name, spec.toJson)) = entries := by
  unfold accepted
  induction entries with
  | nil => rfl
  | cons entry rest ih =>
      obtain ⟨first, others⟩ := List.forall_mem_cons.mp hasMetadata
      simp only [List.map_cons, List.filterMap_cons, KernelSpec.ofJson_toJson first, ih others]

theorem warnings_toJson {entries : List (String × KernelSpec)}
    (hasMetadata : ∀ entry ∈ entries, entry.2.HasMetadata) :
    warnings (entries.map fun (name, spec) => (name, spec.toJson)) = [] := by
  unfold warnings
  rw [List.filterMap_map, List.filterMap_eq_nil_iff]
  intro entry member
  simp only [Function.comp, KernelSpec.ofJson_toJson (hasMetadata entry member)]

theorem ofJson_toJson {specs : KernelSpecs} (checked : specs.IsChecked) :
    ofJson specs.toJson = (.ok specs, []) := by
  have read : ofJson specs.toJson =
      let written : Fields := specs.entries.map fun (name, spec) => (name, spec.toJson)
      let chosen := choose specs.default (accepted written)
      (chosen.1, warnings written ++ chosen.2) := by
    simp [ofJson, toJson, Json.ofFields, Fields.ofList, Fields.get?_insert, Payload.objectFields,
      Payload.stringField, bind, Except.bind]
  rw [read]
  simp only [accepted_toJson checked.hasMetadata, warnings_toJson checked.hasMetadata,
    choose_of_isChecked checked, List.append_nil]

end KernelSpecs

/-- A model that a check has accepted is accepted again when it is written, and is the same. Lists
keep their length and order, and for kernelspecs nothing is left out and the default stays. -/
theorem checks_accept_written_models :
    Payload.Revalidates KernelModel.ofJson KernelModel.toJson ∧
      Payload.RevalidatesEach KernelModel.ofJson KernelModel.listOfJson KernelModel.toJson ∧
      Payload.Revalidates SessionModel.ofJson SessionModel.toJson ∧
      Payload.RevalidatesEach SessionModel.ofJson SessionModel.listOfJson SessionModel.toJson ∧
      Payload.Revalidates TerminalModel.ofJson TerminalModel.toJson ∧
      Payload.RevalidatesEach TerminalModel.ofJson TerminalModel.listOfJson TerminalModel.toJson ∧
      Payload.Revalidates KernelSpec.ofJson KernelSpec.toJson ∧
      ∀ value specs, (KernelSpecs.ofJson value).1 = .ok specs →
        KernelSpecs.ofJson specs.toJson = (.ok specs, []) := by
  have kernels : Payload.Revalidates KernelModel.ofJson KernelModel.toJson :=
    fun _ model _ => model.ofJson_toJson
  have sessions : Payload.Revalidates SessionModel.ofJson SessionModel.toJson :=
    fun _ model _ => model.ofJson_toJson
  have terminals : Payload.Revalidates TerminalModel.ofJson TerminalModel.toJson :=
    fun _ model _ => model.ofJson_toJson
  have specs : Payload.Revalidates KernelSpec.ofJson KernelSpec.toJson :=
    fun _ _ read => KernelSpec.ofJson_toJson (KernelSpec.hasMetadata_of_ofJson read)
  exact ⟨kernels, kernels.each, sessions, sessions.each, terminals, terminals.each, specs,
    fun _ _ read => KernelSpecs.ofJson_toJson (KernelSpecs.isChecked_of_ofJson read)⟩

/-- A session with a field nobody reads, and kernelspecs with an entry that is left out, a default
that names no entry, and optional fields of the wrong kind. -/
theorem written_models_of_untidy_payloads :
    let kernel := Json.object [
      ("connections", .ofNat 1), ("id", .string "k"), ("name", .string "python3")]
    let session := Json.object [
      ("id", .string "s"), ("kernel", kernel), ("name", .string ""), ("path", .string "a.ipynb"),
      ("type", .string "notebook")]
    let terminal := Json.object [("name", .string "1")]
    let entry := Json.object [
      ("name", .string "python3"),
      ("resources", .null),
      ("spec", .object [
        ("argv", .array [.string "python"]), ("display_name", .string "Python 3"),
        ("interrupt_mode", .ofNat 5), ("language", .string "python"), ("metadata", .null)])]
    let listing := Json.object [
      ("default", .string "missing"),
      ("kernelspecs", .object [("broken", .null), ("python3", entry)])]
    let python : KernelModel := ⟨"k", "python3"⟩
    let notebook : SessionModel := ⟨"s", "a.ipynb", "", "notebook", some python⟩
    let spec : KernelSpec :=
      ⟨"python3", "Python 3", "python", ["python"], [], none, .emptyObject, []⟩
    let specs : KernelSpecs := ⟨"python3", [("python3", spec)]⟩
    (KernelModel.ofJson kernel = .ok python ∧ KernelModel.ofJson python.toJson = .ok python) ∧
      KernelModel.listOfJson (.array [python.toJson, python.toJson]) = .ok [python, python] ∧
      (SessionModel.ofJson session = .ok notebook ∧
        SessionModel.ofJson notebook.toJson = .ok notebook) ∧
      SessionModel.listOfJson (.array [notebook.toJson]) = .ok [notebook] ∧
      (TerminalModel.ofJson terminal = .ok ⟨"1"⟩ ∧
        TerminalModel.ofJson (TerminalModel.toJson ⟨"1"⟩) = .ok ⟨"1"⟩) ∧
      TerminalModel.listOfJson (.array [TerminalModel.toJson ⟨"1"⟩]) = .ok [⟨"1"⟩] ∧
      (KernelSpec.ofJson entry = .ok spec ∧ KernelSpec.ofJson spec.toJson = .ok spec) ∧
      (KernelSpecs.ofJson listing).1 = .ok specs ∧
        KernelSpecs.ofJson specs.toJson = (.ok specs, []) := by
  intro kernel session terminal entry listing python notebook spec specs
  obtain ⟨kernels, kernelLists, sessions, sessionLists, terminals, terminalLists, entries,
    listings⟩ := checks_accept_written_models
  have kernelRead : KernelModel.ofJson kernel = .ok python := by cbv
  have sessionRead : SessionModel.ofJson session = .ok notebook := by cbv
  have terminalRead : TerminalModel.ofJson terminal = .ok ⟨"1"⟩ := by cbv
  have entryRead : KernelSpec.ofJson entry = .ok spec := by cbv
  have brokenRefused : KernelSpec.ofJson .null = .error (.notObject "kernelspec") := rfl
  have listingRead : (KernelSpecs.ofJson listing).1 = .ok specs := by
    simp [listing, specs, KernelSpecs.ofJson, KernelSpecs.accepted, KernelSpecs.choose, entryRead,
      brokenRefused, Payload.objectFields, Payload.stringField, Fields.get?_cons, bind, Except.bind]
  exact ⟨⟨kernelRead, kernels kernel python kernelRead⟩,
    (kernelLists (.array [kernel, kernel]) [python, python] (by cbv)).2,
    ⟨sessionRead, sessions session notebook sessionRead⟩,
    (sessionLists (.array [session]) [notebook] (by cbv)).2,
    ⟨terminalRead, terminals terminal ⟨"1"⟩ terminalRead⟩,
    (terminalLists (.array [terminal]) [⟨"1"⟩] (by cbv)).2,
    ⟨entryRead, entries entry spec entryRead⟩,
    listingRead, listings listing specs listingRead⟩

end KernelClient
