import KernelClient.Proofs.Message.ByteOrder
import KernelClient.Proofs.Payload.Revalidation
import Mathlib.Data.List.Nodup

/-!
# Listings of kernelspecs

A server lists its kernelspecs by name and says which of them is the default. An entry of the wrong
shape counts as if it were not there. So a listing is accepted if one entry is left, the specs are
those of the entries that are left, and where the default is not among them the least of their names
takes its place. Two listings with the same entries left are read as the same specs.
-/

namespace KernelClient

open Json (Fields)

section Ascending

variable {α : Type} {name : String} {value : α} {left right entries : List (String × α)}

/-- Whether the names of entries increase, so that no name stands twice. -/
def Ascending (entries : List (String × α)) : Prop :=
  entries.Pairwise fun earlier later => earlier.1 < later.1

theorem Ascending.nodup (ascending : Ascending entries) : entries.Nodup := by
  refine List.Pairwise.imp ?_ ascending
  rintro earlier later less rfl
  exact String.lt_irrefl _ less

/-- Entries in the order of their names are determined by what they are. -/
theorem Ascending.eq_of_mem_iff (first : Ascending left) (second : Ascending right)
    (same : ∀ entry, entry ∈ left ↔ entry ∈ right) : left = right := by
  have reordered : left.Perm right :=
    (List.perm_ext_iff_of_nodup first.nodup second.nodup).mpr same
  refine reordered.eq_of_pairwise (fun _ _ _ _ before after => ?_) first second
  exact absurd after (String.lt_asymm before)

/-- The value under a name is that of the one entry with the name. -/
theorem Ascending.lookup_eq_some_iff (ascending : Ascending entries) :
    entries.lookup name = some value ↔ (name, value) ∈ entries := by
  induction entries with
  | nil => simp
  | cons entry rest ih =>
      obtain ⟨other, held⟩ := entry
      obtain ⟨least, sorted⟩ := List.pairwise_cons.mp ascending
      rw [List.mem_cons]
      by_cases same : name = other
      · subst same
        have once : (name, value) ∉ rest := fun again => String.lt_irrefl name (least _ again)
        simp [once, eq_comm]
      · have passed : (name == other) = false := beq_eq_false_iff_ne.mpr same
        simp only [List.lookup_cons, passed, ih sorted]
        simp [same]

end Ascending

namespace Json.Fields

variable {fields : Fields} {name : String} {value : Json}

theorem Sorted.ascending (sorted : fields.Sorted) : Ascending fields :=
  List.pairwise_map.mp sorted

theorem get?_eq_lookup (name : String) (fields : Fields) :
    fields.get? name = fields.lookup name := by
  induction fields with
  | nil => rfl
  | cons field rest ih =>
      obtain ⟨other, held⟩ := field
      rw [get?_cons, ih]
      by_cases same : other = name
      · subst same
        simp
      · have passed : (name == other) = false := beq_eq_false_iff_ne.mpr (Ne.symm same)
        simp only [List.lookup_cons, passed, if_neg same]

theorem Sorted.get?_eq_some_iff (sorted : fields.Sorted) :
    fields.get? name = some value ↔ (name, value) ∈ fields := by
  rw [get?_eq_lookup, sorted.ascending.lookup_eq_some_iff]

/-- The fields with other names. -/
def without (name : String) (fields : Fields) : Fields :=
  fields.filter fun field => field.1 ≠ name

theorem get?_without (name other : String) (fields : Fields) :
    (fields.without other).get? name = if name = other then none else fields.get? name := by
  induction fields with
  | nil => simp [without]
  | cons field rest ih =>
      obtain ⟨present, held⟩ := field
      rw [without] at ih ⊢
      by_cases dropped : present = other
      · rw [List.filter_cons_of_neg (by simpa using dropped), ih, get?_cons]
        by_cases same : name = other
        · rw [if_pos same, if_pos same]
        · rw [if_neg same, if_neg same, if_neg fun found => same (found.symm.trans dropped)]
      · rw [List.filter_cons_of_pos (by simpa using dropped), get?_cons, get?_cons, ih]
        by_cases found : present = name
        · rw [if_pos found, if_pos found, if_neg fun same => dropped (found.trans same)]
        · rw [if_neg found, if_neg found]

theorem Sorted.without (sorted : fields.Sorted) (name : String) : (fields.without name).Sorted :=
  List.pairwise_map.mpr (List.Pairwise.filter _ sorted.ascending)

/-- A field that is given a value is named as it was asked for, or was there before. -/
theorem mem_insert {field : String × Json} (member : field ∈ fields.insert name value) :
    field.1 = name ∨ field ∈ fields := by
  induction fields with
  | nil => simp_all [insert]
  | cons first rest ih =>
      obtain ⟨present, held⟩ := first
      rw [insert] at member
      split at member
      case isTrue =>
        rcases List.mem_cons.mp member with rfl | kept
        · exact .inl rfl
        · exact .inr kept
      case isFalse =>
        split at member
        case isTrue =>
          rcases List.mem_cons.mp member with rfl | kept
          · exact .inl rfl
          · exact .inr (List.mem_cons_of_mem _ kept)
        case isFalse =>
          rcases List.mem_cons.mp member with rfl | kept
          · exact .inr List.mem_cons_self
          · exact (ih kept).imp_right (List.mem_cons_of_mem _)

theorem Sorted.insert (sorted : fields.Sorted) (name : String) (value : Json) :
    (fields.insert name value).Sorted := by
  induction fields with
  | nil => exact List.pairwise_singleton _ _
  | cons field rest ih =>
      obtain ⟨present, held⟩ := field
      obtain ⟨least, others⟩ := List.pairwise_cons.mp sorted
      rw [Fields.insert]
      split
      case isTrue first =>
        refine List.pairwise_cons.mpr ⟨fun later member => ?_, sorted⟩
        rcases List.mem_cons.mp member with rfl | behind
        · exact first
        · exact String.lt_trans first (least later behind)
      case isFalse notFirst =>
        split
        case isTrue same =>
          subst same
          exact List.pairwise_cons.mpr ⟨least, others⟩
        case isFalse different =>
          refine List.pairwise_cons.mpr ⟨fun later member => ?_, ih others⟩
          obtain ⟨entry, inserted, rfl⟩ := List.mem_map.mp member
          rcases mem_insert inserted with same | kept
          · rw [same]
            by_contra notBehind
            exact different (String.le_antisymm (String.not_lt.mp notBehind)
              (String.not_lt.mp notFirst))
          · exact least _ (List.mem_map_of_mem kept)

end Json.Fields

namespace KernelSpecs

/-- Whether the entry under a name gives a spec. -/
def Accepts (entries : Fields) (name : String) (spec : KernelSpec) : Prop :=
  ∃ value, entries.get? name = some value ∧ KernelSpec.ofJson value = .ok spec

/-- Whether no spec is read from a value. -/
def Rejects (value : Json) : Prop := ∀ spec, KernelSpec.ofJson value ≠ .ok spec

variable {entries others : Fields} {name wanted chosen : String} {spec : KernelSpec} {value : Json}
  {specs : KernelSpecs}

theorem mem_accepted_iff :
    (name, spec) ∈ accepted entries ↔
      ∃ value, (name, value) ∈ entries ∧ KernelSpec.ofJson value = .ok spec := by
  rw [accepted, List.mem_filterMap]
  constructor
  · rintro ⟨⟨present, value⟩, member, read⟩
    cases attempt : KernelSpec.ofJson value with
    | error fault => simp [attempt] at read
    | ok found =>
        simp only [attempt, Option.some.injEq, Prod.mk.injEq] at read
        obtain ⟨rfl, rfl⟩ := read
        exact ⟨value, member, attempt⟩
  · rintro ⟨value, member, read⟩
    exact ⟨(name, value), member, by simp only [read]⟩

theorem accepted_cons (name : String) (value : Json) (rest : Fields) :
    accepted ((name, value) :: rest) =
      match KernelSpec.ofJson value with
      | .ok spec => (name, spec) :: accepted rest
      | .error _ => accepted rest := by
  rw [accepted, List.filterMap_cons]
  dsimp only
  cases KernelSpec.ofJson value <;> rfl

/-- The specs stand in the order of the entries from which they are read. -/
theorem ascending_accepted (ascending : Ascending entries) : Ascending (accepted entries) := by
  induction entries with
  | nil => exact List.Pairwise.nil
  | cons entry rest ih =>
      obtain ⟨least, sorted⟩ := List.pairwise_cons.mp ascending
      obtain ⟨present, value⟩ := entry
      rw [accepted_cons]
      cases KernelSpec.ofJson value with
      | error fault => exact ih sorted
      | ok found =>
          refine List.pairwise_cons.mpr ⟨fun later member => ?_, ih sorted⟩
          obtain ⟨kept, there, -⟩ := mem_accepted_iff.mp member
          exact least _ there

theorem lookup_accepted_iff (sorted : entries.Sorted) :
    (accepted entries).lookup name = some spec ↔ Accepts entries name spec := by
  rw [(ascending_accepted sorted.ascending).lookup_eq_some_iff, mem_accepted_iff]
  exact exists_congr fun value => and_congr sorted.get?_eq_some_iff.symm .rfl

/-- What is left of a listing is determined by which entries give which specs. -/
theorem accepted_eq_of_accepts_iff (first : entries.Sorted) (second : others.Sorted)
    (same : ∀ name spec, Accepts entries name spec ↔ Accepts others name spec) :
    accepted entries = accepted others := by
  have left := ascending_accepted first.ascending
  have right := ascending_accepted second.ascending
  refine left.eq_of_mem_iff right fun entry => ?_
  rw [← left.lookup_eq_some_iff, ← right.lookup_eq_some_iff, lookup_accepted_iff first,
    lookup_accepted_iff second, same]

theorem not_accepts_of_rejects (found : entries.get? name = some value) (rejected : Rejects value) :
    ¬Accepts entries name spec := by
  rintro ⟨held, there, read⟩
  obtain rfl : value = held := Option.some.inj (found.symm.trans there)
  exact rejected spec read

/-- Another entry than the one that is dropped is as it was. -/
theorem accepts_without_iff (found : entries.get? name = some value) (rejected : Rejects value)
    (other : String) (spec : KernelSpec) :
    Accepts (entries.without name) other spec ↔ Accepts entries other spec := by
  by_cases same : other = name
  · subst same
    refine iff_of_false ?_ (not_accepts_of_rejects found rejected)
    rintro ⟨held, there, -⟩
    rw [Fields.get?_without, if_pos rfl] at there
    cases there
  · simp only [Accepts, Fields.get?_without, if_neg same]

theorem accepts_insert_iff {replacement : Json} (found : entries.get? name = some value)
    (rejected : Rejects value) (again : Rejects replacement) (other : String) (spec : KernelSpec) :
    Accepts (entries.insert name replacement) other spec ↔ Accepts entries other spec := by
  by_cases same : other = name
  · subst same
    refine iff_of_false (not_accepts_of_rejects ?_ again) (not_accepts_of_rejects found rejected)
    rw [Fields.get?_insert, if_pos rfl]
  · simp only [Accepts, Fields.get?_insert, if_neg (Ne.symm same)]

/-- Whether a name is chosen as the default: the wanted one if its entry gives a spec, and otherwise
the least in bytes of those that do. -/
structure IsDefault (entries : Fields) (wanted chosen : String) : Prop where
  accepted : ∃ spec, Accepts entries chosen spec
  kept : (∃ spec, Accepts entries wanted spec) → chosen = wanted
  least : (¬∃ spec, Accepts entries wanted spec) → ∀ name spec, Accepts entries name spec →
    name ≠ chosen → Frame.utf8 chosen < Frame.utf8 name

theorem isSome_lookup_accepted_iff (sorted : entries.Sorted) :
    ((accepted entries).lookup name).isSome = true ↔ ∃ spec, Accepts entries name spec := by
  rw [Option.isSome_iff_exists]
  exact exists_congr fun spec => lookup_accepted_iff sorted

/-- A default is chosen if there is an entry that gives a spec. -/
theorem choose_accepted_isOk_iff (sorted : entries.Sorted) :
    (∃ specs, (choose wanted (accepted entries)).1 = .ok specs) ↔
      ∃ name spec, Accepts entries name spec := by
  constructor
  · rintro ⟨specs, chosen⟩
    obtain ⟨same, hasDefault⟩ := choose_eq_ok chosen
    obtain ⟨spec, found⟩ := Option.isSome_iff_exists.mp hasDefault
    rw [defaultSpec?, get?, same] at found
    exact ⟨specs.default, spec, (lookup_accepted_iff sorted).mp found⟩
  · rintro ⟨name, spec, accepts⟩
    have found := (lookup_accepted_iff sorted).mpr accepts
    unfold choose
    split
    case h_1 empty =>
      rw [empty] at found
      cases found
    case h_2 => split <;> exact ⟨_, rfl⟩

theorem isDefault_of_choose (sorted : entries.Sorted)
    (chosen : (choose wanted (accepted entries)).1 = .ok specs) :
    IsDefault entries wanted specs.default := by
  obtain ⟨same, hasDefault⟩ := choose_eq_ok chosen
  have isAccepted : ∃ spec, Accepts entries specs.default spec := by
    rw [← isSome_lookup_accepted_iff sorted, ← same]
    exact hasDefault
  unfold choose at chosen
  split at chosen
  case h_1 => cases chosen
  case h_2 first firstSpec rest left =>
    split at chosen
    case isTrue found =>
      cases chosen
      exact ⟨isAccepted, fun _ => rfl,
        fun missing => absurd ((isSome_lookup_accepted_iff sorted).mp (left ▸ found)) missing⟩
    case isFalse missing =>
      cases chosen
      refine ⟨isAccepted, fun there => ?_, fun _ name spec accepts different => ?_⟩
      · exact absurd (left ▸ (isSome_lookup_accepted_iff sorted).mpr there) missing
      · have ascending := left ▸ ascending_accepted sorted.ascending
        have member : (name, spec) ∈ accepted entries := by
          rw [← (ascending_accepted sorted.ascending).lookup_eq_some_iff]
          exact (lookup_accepted_iff sorted).mpr accepts
        rw [left, List.mem_cons] at member
        rcases member with isFirst | behind
        · exact absurd (congrArg Prod.fst isFirst) different
        · exact Frame.utf8_lt_utf8 ((List.pairwise_cons.mp ascending).1 _ behind)

/-- Whether a value is an object that wants a default and has entries. -/
structure IsListing (value : Json) (wanted : String) (entries : Fields) : Prop where
  wants : value.stringField? "default" = some wanted
  holds : value.field? "kernelspecs" = some (.object entries)

/-- The value with other entries. -/
def withEntries (entries : Fields) : Json → Json
  | .object fields => .object (Fields.insert "kernelspecs" (.object entries) fields)
  | value => value

theorem IsListing.withEntries (listing : IsListing value wanted entries) (others : Fields) :
    IsListing (withEntries others value) wanted others := by
  obtain ⟨wants, holds⟩ := listing
  cases value with
  | object fields =>
      refine ⟨?_, ?_⟩
      · rw [← wants]
        simp [KernelSpecs.withEntries, Json.stringField?, Json.field?, Fields.get?_insert]
      · simp [KernelSpecs.withEntries, Json.field?, Fields.get?_insert]
  | _ => cases holds

/-- A listing is read by choosing a default for the entries that are left. -/
theorem IsListing.ofJson_eq (listing : IsListing value wanted entries) :
    (ofJson value).1 = (choose wanted (accepted entries)).1 := by
  obtain ⟨wants, holds⟩ := listing
  cases value with
  | object fields =>
      have text : Payload.stringField "kernelspecs" fields "default" = .ok wanted := by
        rw [Payload.stringField_eq_ok_iff]
        obtain ⟨held, there, isText⟩ := Option.bind_eq_some_iff.mp wants
        cases held with
        | string text =>
            cases isText
            exact there
        | _ => cases isText
      have there : Fields.get? "kernelspecs" fields = some (.object entries) := holds
      simp [ofJson, Payload.objectFields, text, there, bind, Except.bind]
  | _ => cases holds

/-- What is accepted is a listing. -/
theorem exists_isListing_of_ofJson (read : (ofJson value).1 = .ok specs) :
    ∃ wanted entries, IsListing value wanted entries := by
  unfold ofJson at read
  dsimp only at read
  split at read
  case h_1 => cases read
  case h_2 wanted entries parts =>
    simp only [bind_eq_ok_iff, Payload.objectFields_eq_ok_iff, Payload.stringField_eq_ok_iff]
      at parts
    obtain ⟨fields, rfl, text, found, parts⟩ := parts
    split at parts
    case h_1 held there =>
      cases parts
      exact ⟨wanted, entries, by simp [Json.stringField?, Json.field?, found, Json.asString?],
        there⟩
    case h_2 => cases parts

/-- A value is accepted exactly if it wants a default and has an entry that gives a spec. The specs
are those that entries give, under their names and in the order of these, with a default that is one
of them. An entry that gives none can be dropped, or replaced by another one that gives none, and
the result is the same. -/
theorem ofJson_exactly {value : Json}
    (sorted : ∀ entries, value.field? "kernelspecs" = some (.object entries) → Fields.Sorted entries) :
    ((∃ specs, (ofJson value).1 = .ok specs) ↔
      ∃ wanted entries, IsListing value wanted entries ∧
        ∃ name spec, Accepts entries name spec) ∧
    (∀ specs wanted entries, (ofJson value).1 = .ok specs → IsListing value wanted entries →
      (∀ name spec, specs.get? name = some spec ↔ Accepts entries name spec) ∧
      Ascending specs.entries ∧ IsDefault entries wanted specs.default ∧
      specs.defaultSpec?.isSome = true) ∧
    ∀ wanted entries name old, IsListing value wanted entries →
      entries.get? name = some old → Rejects old →
        (ofJson (withEntries (entries.without name) value)).1 = (ofJson value).1 ∧
        ∀ replacement, Rejects replacement →
          (ofJson (withEntries (entries.insert name replacement) value)).1 = (ofJson value).1 := by
  refine ⟨?_, fun specs wanted entries read listing => ?_,
    fun wanted entries name old listing found rejected => ?_⟩
  · constructor
    · rintro ⟨specs, read⟩
      obtain ⟨wanted, entries, listing⟩ := exists_isListing_of_ofJson read
      rw [listing.ofJson_eq] at read
      exact ⟨wanted, entries, listing,
        (choose_accepted_isOk_iff (sorted entries listing.holds)).mp ⟨specs, read⟩⟩
    · rintro ⟨wanted, entries, listing, accepts⟩
      rw [listing.ofJson_eq]
      exact (choose_accepted_isOk_iff (sorted entries listing.holds)).mpr accepts
  · have ordered := sorted entries listing.holds
    rw [listing.ofJson_eq] at read
    obtain ⟨same, hasDefault⟩ := choose_eq_ok read
    refine ⟨fun name spec => ?_, ?_, isDefault_of_choose ordered read, hasDefault⟩
    · rw [get?, same, lookup_accepted_iff ordered]
    · rw [same]
      exact ascending_accepted ordered.ascending
  · have ordered := sorted entries listing.holds
    refine ⟨?_, fun replacement again => ?_⟩
    · rw [(listing.withEntries _).ofJson_eq, listing.ofJson_eq,
        accepted_eq_of_accepts_iff (ordered.without name) ordered
          (accepts_without_iff found rejected)]
    · rw [(listing.withEntries _).ofJson_eq, listing.ofJson_eq,
        accepted_eq_of_accepts_iff (ordered.insert name replacement) ordered
          (accepts_insert_iff found rejected again)]

/-- An entry with nothing but what an entry has to have. -/
def plainEntry (name language : String) : Json :=
  .object [
    ("name", .string name),
    ("spec", .object [
      ("argv", .array []), ("display_name", .string name), ("language", .string language)])]

/-- Entries of which the first gives no spec. -/
def untidyEntries : Fields :=
  [("broken", .null), ("ir", plainEntry "ir" "R"), ("python3", plainEntry "python3" "python")]

theorem ofJson_untidyEntries :
    let listing := Json.object [
      ("default", .string "broken"), ("kernelspecs", .object untidyEntries)]
    (∃ specs, (ofJson listing).1 = .ok specs ∧ specs.default = "ir" ∧
      specs.get? "broken" = none ∧ (specs.get? "python3").isSome = true) ∧
    (ofJson (withEntries (untidyEntries.without "broken") listing)).1 = (ofJson listing).1 ∧
    (ofJson (withEntries (untidyEntries.insert "broken" (.string "ir")) listing)).1 =
      (ofJson listing).1 := by
  intro listing
  have isListing : IsListing listing "broken" untidyEntries := ⟨rfl, rfl⟩
  have sorted : Fields.Sorted untidyEntries := by
    unfold Fields.Sorted untidyEntries
    decide
  obtain ⟨accepts, reads, drops⟩ := @ofJson_exactly listing fun entries held => by
    obtain rfl : untidyEntries = entries := Json.object.inj (Option.some.inj held)
    exact sorted
  have rejected : Rejects .null := by
    intro spec read
    cases read
  have ir : Accepts untidyEntries "ir" ⟨"ir", "ir", "R", [], [], none, .emptyObject, []⟩ :=
    ⟨plainEntry "ir" "R", rfl, by cbv⟩
  have python : Accepts untidyEntries "python3"
      ⟨"python3", "python3", "python", [], [], none, .emptyObject, []⟩ :=
    ⟨plainEntry "python3" "python", rfl, by cbv⟩
  have broken : ¬∃ spec, Accepts untidyEntries "broken" spec := by
    rintro ⟨spec, accepted⟩
    exact not_accepts_of_rejects rfl rejected accepted
  obtain ⟨specs, read⟩ := accepts.mpr ⟨_, _, isListing, _, _, ir⟩
  obtain ⟨found, -, default, -⟩ := reads specs _ _ read isListing
  obtain ⟨dropped, replaced⟩ := drops _ _ "broken" _ isListing rfl rejected
  have string : Rejects (.string "ir") := by
    intro spec read
    cases read
  refine ⟨⟨specs, read, ?_, ?_, ?_⟩, dropped, replaced _ string⟩
  · by_contra other
    obtain ⟨spec, value, held, -⟩ := default.accepted
    have least := default.least broken "ir" _ ir (Ne.symm other)
    have member := sorted.get?_eq_some_iff.mp held
    simp only [untidyEntries, List.mem_cons, List.not_mem_nil, or_false, Prod.mk.injEq] at member
    rcases member with ⟨same, -⟩ | ⟨same, -⟩ | ⟨same, -⟩
    · exact broken (same ▸ default.accepted)
    · exact other same
    · rw [same] at least
      exact absurd least (by decide)
  · rw [Option.eq_none_iff_forall_not_mem]
    exact fun spec held => broken ⟨spec, (found _ _).mp held⟩
  · rw [(found _ _).mpr python]
    rfl

end KernelSpecs

end KernelClient
