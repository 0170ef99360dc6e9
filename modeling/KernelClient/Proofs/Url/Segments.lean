import KernelClient.Proofs.Url.Encoding
import Mathlib.Data.List.Induction

/-!
# Segments that are added to a path

A segment is left out if it is one or two points. Tabs and line breaks are left out of any other;
if two points are left then, it takes away the last segment of the path, and if one is, it leaves
an empty segment. So a list of segments is added as it is written exactly if none of them is of
these kinds, and if no slash of an empty path is lost.
-/

namespace KernelClient.Url

/-- Where a segment leads from the path to which it is added: nowhere, to the directory above, or to
an item of that path. -/
inductive Lead where
  | nowhere
  | above
  | item (text : List Char)
deriving DecidableEq

/-- What is left of a segment without tabs and line breaks. -/
def kept (segment : String) : List Char :=
  segment.toList.filter fun character => !UrlPath.isIgnored character

/-- Where a segment leads. -/
def leadOf (segment : String) : Lead :=
  if segment = "." ∨ segment = ".." then .nowhere
  else if kept segment = ['.', '.'] then .above
  else if kept segment = ['.'] then .item []
  else .item (kept segment)

/-- Where a segment leads, by what is left of it. -/
inductive Leads (segment : String) : Lead → Prop where
  | leftOut (points : segment = "." ∨ segment = "..") : Leads segment .nowhere
  | parent (named : ¬(segment = "." ∨ segment = "..")) (points : kept segment = ['.', '.']) :
      Leads segment .above
  | current (named : ¬(segment = "." ∨ segment = "..")) (point : kept segment = ['.']) :
      Leads segment (.item [])
  | named (named : ¬(segment = "." ∨ segment = "..")) (notParent : kept segment ≠ ['.', '.'])
      (notCurrent : kept segment ≠ ['.']) : Leads segment (.item (kept segment))

theorem leads_leadOf (segment : String) : Leads segment (leadOf segment) := by
  unfold leadOf
  split
  case isTrue points => exact .leftOut points
  case isFalse named =>
    split
    case isTrue points => exact .parent named points
    case isFalse notParent =>
      split
      case isTrue point => exact .current named point
      case isFalse notCurrent => exact .named named notParent notCurrent

/-- A segment that is added as it is written. -/
structure IsOrdinary (segment : String) : Prop where
  notCurrent : segment ≠ "."
  notParent : segment ≠ ".."
  noneIgnored : ∀ character ∈ segment.toList, UrlPath.isIgnored character = false

theorem IsOrdinary.kept_eq {segment : String} (ordinary : IsOrdinary segment) :
    kept segment = segment.toList :=
  List.filter_eq_self.mpr fun character member => by
    simp [ordinary.noneIgnored character member]

theorem toList_ne_of_ne {segment other : String} (apart : segment ≠ other) :
    segment.toList ≠ other.toList :=
  fun same => apart (String.toList_inj.mp same)

/-- A segment leads to the item with its own name exactly if it is added as it is written. -/
theorem leadOf_eq_item_iff (segment : String) :
    leadOf segment = .item segment.toList ↔ IsOrdinary segment := by
  constructor
  · intro leads
    have reason := leads_leadOf segment
    rw [leads] at reason
    generalize isText : segment.toList = text at reason
    cases reason with
    | current _ point =>
        rw [kept, isText] at point
        cases point
    | named named =>
        refine ⟨fun current => named (.inl current), fun parent => named (.inr parent), ?_⟩
        intro character member
        have stays := List.filter_eq_self.mp isText.symm character member
        simpa using stays
  · intro ordinary
    have current : segment.toList ≠ ['.'] := toList_ne_of_ne ordinary.notCurrent
    have parent : segment.toList ≠ ['.', '.'] := toList_ne_of_ne ordinary.notParent
    rw [leadOf, if_neg (by simp [ordinary.notCurrent, ordinary.notParent]), ordinary.kept_eq,
      if_neg parent, if_neg current]

/-- How a segment is written in the path of a URL. -/
def writeSegment (kind : SchemeKind) (text : List Char) : String :=
  String.ofList (Percent.encode (Percent.segment (kind != .general)) text)

theorem segment_percent (isSpecial : Bool) : Percent.segment isSpecial '%' = true := by
  cases isSpecial <;> decide

theorem segment_point (isSpecial : Bool) : Percent.segment isSpecial '.' = false := by
  cases isSpecial <;> decide

theorem writeSegment_injective (kind : SchemeKind) : Function.Injective (writeSegment kind) :=
  fun _ _ same => Percent.encode_injective (segment_percent _) (String.ofList_injective same)

/-- The segments before one that is added. An empty one alone stands for none. -/
def opened (segments : List String) : List String := if segments = [""] then [] else segments

theorem length_opened_le (segments : List String) :
    (opened segments).length ≤ segments.length := by
  unfold opened
  split <;> simp

theorem pushSegment_of_nowhere {segment : String} (leads : leadOf segment = .nowhere)
    (kind : SchemeKind) (segments : List String) :
    pushSegment kind segments segment = segments := by
  have reason := leads_leadOf segment
  rw [leads] at reason
  cases reason with
  | leftOut points => exact if_pos points

/-- What a segment that is not left out adds to a path. -/
theorem pushSegment_of_named {segment : String} (named : ¬(segment = "." ∨ segment = ".."))
    (kind : SchemeKind) (segments : List String) :
    pushSegment kind segments segment =
      UrlPath.trim kind (UrlPath.add (kind = .file) true (opened segments)
        (Percent.encode (Percent.segment (kind != .general)) (kept segment))) := by
  rw [pushSegment, if_neg named]
  rfl

/-- Two points that are left of a segment take away the last segment. -/
theorem pushSegment_of_above {segment : String} (leads : leadOf segment = .above)
    (kind : SchemeKind) (segments : List String) :
    pushSegment kind segments segment =
      UrlPath.trim kind (UrlPath.shorten (opened segments) ++ [""]) := by
  have reason := leads_leadOf segment
  rw [leads] at reason
  cases reason with
  | parent named points =>
      have isParent := (UrlPath.isParent_encode_iff (segment_percent (kind != .general))
        (segment_point _) _).mpr points
      rw [pushSegment_of_named named, UrlPath.add, if_pos isParent]
      rfl

/-- A text that is no drive at the start of the path of a file is written as it is. -/
theorem writeDrive_of_noDrive {kind : SchemeKind} {before : List String} {text : List Char}
    (noDrive : kind = .file → before = [] → UrlPath.isDrive text = false) :
    (if decide (kind = .file) && before.isEmpty then UrlPath.writeDrive text else text) = text := by
  split
  case isTrue first =>
    obtain ⟨isFile, isFirst⟩ : kind = .file ∧ before = [] := by simpa using first
    rw [UrlPath.writeDrive, noDrive isFile isFirst, if_neg Bool.false_ne_true]
  case isFalse => rfl

/-- An item is added at the end of a path. Only a drive at the start of the path of a file is
written in another way. -/
theorem pushSegment_of_item {segment : String} {text : List Char}
    (leads : leadOf segment = .item text) {kind : SchemeKind} {segments : List String}
    (noDrive : kind = .file → opened segments = [] →
      UrlPath.isDrive (writeSegment kind text).toList = false) :
    pushSegment kind segments segment =
      UrlPath.trim kind (opened segments ++ [writeSegment kind text]) := by
  have isParent := UrlPath.isParent_encode_iff (segment_percent (kind != .general))
    (segment_point _) (kept segment)
  have isCurrent := UrlPath.isCurrent_encode_iff (segment_percent (kind != .general))
    (segment_point _) (kept segment)
  have reason := leads_leadOf segment
  rw [leads] at reason
  cases reason with
  | current named point =>
      have notParent : kept segment ≠ ['.', '.'] := by
        rw [point]
        decide
      rw [pushSegment_of_named named, UrlPath.add, if_neg (mt isParent.mp notParent),
        if_pos (isCurrent.mpr point)]
      rfl
  | named named notParent notCurrent =>
      rw [writeSegment, String.toList_ofList] at noDrive
      rw [pushSegment_of_named named, UrlPath.add, if_neg (mt isParent.mp notParent),
        if_neg (mt isCurrent.mp notCurrent), writeDrive_of_noDrive noDrive]
      rfl

/-- Add segments one after the other. -/
def pushAll (kind : SchemeKind) (start segments : List String) : List String :=
  segments.foldl (pushSegment kind) start

theorem pushAll_snoc (kind : SchemeKind) (start segments : List String) (segment : String) :
    pushAll kind start (segments ++ [segment]) =
      pushSegment kind (pushAll kind start segments) segment := by
  simp [pushAll]

theorem trim_special (segments : List String) : UrlPath.trim .special segments = segments := by
  unfold UrlPath.trim
  rfl

theorem pushSegment_special_of_item {segment : String} {text : List Char}
    (leads : leadOf segment = .item text) (segments : List String) :
    pushSegment .special segments segment = opened segments ++ [writeSegment .special text] := by
  rw [pushSegment_of_item leads (by simp), trim_special]

theorem pushSegment_special_of_above {segment : String} (leads : leadOf segment = .above)
    (segments : List String) :
    pushSegment .special segments segment = UrlPath.shorten (opened segments) ++ [""] := by
  rw [pushSegment_of_above leads, trim_special]

theorem length_shorten_le (segments : List String) :
    (UrlPath.shorten segments).length ≤ segments.length := by
  unfold UrlPath.shorten
  split
  · exact Nat.le_refl _
  · rw [List.length_dropLast]
    exact Nat.sub_le _ _

/-- A segment adds at most one. -/
theorem length_opened_pushSegment_le (segments : List String) (segment : String) :
    (opened (pushSegment .special segments segment)).length ≤ (opened segments).length + 1 := by
  cases leads : leadOf segment with
  | nowhere =>
      rw [pushSegment_of_nowhere leads]
      exact Nat.le_succ _
  | above =>
      have shorter := length_shorten_le (opened segments)
      refine Nat.le_trans (length_opened_le _) ?_
      rw [pushSegment_special_of_above leads, List.length_append, List.length_singleton]
      omega
  | item text =>
      refine Nat.le_trans (length_opened_le _) ?_
      rw [pushSegment_special_of_item leads, List.length_append, List.length_singleton]

theorem length_opened_pushAll_le (start segments : List String) :
    (opened (pushAll .special start segments)).length ≤
      (opened start).length + segments.length := by
  induction segments using List.reverseRecOn with
  | nil => exact Nat.le_refl _
  | append_singleton segments segment bound =>
      have one := length_opened_pushSegment_le (pushAll .special start segments) segment
      rw [pushAll_snoc, List.length_append, List.length_singleton]
      omega

/-- Segments that are added to a directory as they are written: each of them is ordinary, and no
slash is lost, neither of a directory that is one empty segment nor of an empty segment that comes
first. -/
structure Fits (directory segments : List String) : Prop where
  ordinary : ∀ segment ∈ segments, IsOrdinary segment
  whole : directory ≠ [""]
  led : directory = [] → segments.head? = some "" → segments.length = 1

theorem opened_eq_of_ne_nil {segments path : List String} (some : path ≠ []) :
    opened segments = path ↔ segments = path ∧ path ≠ [""] := by
  unfold opened
  split
  case isTrue alone =>
    subst alone
    exact ⟨fun same => absurd same.symm some, fun both => absurd both.1.symm both.2⟩
  case isFalse other =>
    exact ⟨fun same => ⟨same, same ▸ other⟩, And.left⟩

theorem opened_eq_self_iff (segments : List String) :
    opened segments = segments ↔ segments ≠ [""] := by
  unfold opened
  split <;> simp_all

theorem dropEmptyLast_cons (first : String) (rest : List String) :
    dropEmptyLast (first :: rest ++ [""]) = first :: rest := by
  rw [dropEmptyLast, if_pos ⟨by simp, List.getLast?_concat⟩, List.dropLast_concat]

/-- The segments of a directory without the empty one after its last slash, before a segment is
added. -/
theorem opened_dropEmptyLast (directory : List String) :
    opened (dropEmptyLast (directory ++ [""])) = opened directory := by
  cases directory with
  | nil => rfl
  | cons first rest => rw [dropEmptyLast_cons]

/-- How a segment is written that is added as it is. -/
def writeWhole (segment : String) : String := writeSegment .special segment.toList

theorem writeWhole_eq_empty_iff (segment : String) : writeWhole segment = "" ↔ segment = "" := by
  constructor
  · intro empty
    have nothing : segment.toList = [] := writeSegment_injective .special empty
    exact String.toList_inj.mp nothing
  · rintro rfl
    rfl

/-- A segment adds itself exactly if it is ordinary, unless the path is longer than it should be. -/
theorem pushSegment_eq_snoc_iff {segments path : List String} {segment : String}
    (bound : (opened segments).length ≤ path.length) :
    pushSegment .special segments segment = path ++ [writeWhole segment] ↔
      IsOrdinary segment ∧ opened segments = path := by
  have ordinaryLead (ordinary : IsOrdinary segment) : leadOf segment = .item segment.toList :=
    (leadOf_eq_item_iff segment).mpr ordinary
  have notEmpty (leads : leadOf segment ≠ .item []) : writeWhole segment ≠ "" := by
    intro empty
    rw [(writeWhole_eq_empty_iff segment).mp empty] at leads
    exact leads rfl
  cases leads : leadOf segment with
  | nowhere =>
      rw [pushSegment_of_nowhere leads]
      refine ⟨fun same => ?_, fun both => by cases leads.symm.trans (ordinaryLead both.1)⟩
      by_cases alone : segments = [""]
      · have last := congrArg List.getLast? (alone.symm.trans same)
        rw [List.getLast?_concat] at last
        exact absurd (Option.some.inj last).symm (notEmpty (by simp [leads]))
      · have all : opened segments = segments := (opened_eq_self_iff segments).mpr alone
        have lengths := congrArg List.length same
        rw [List.length_append, List.length_singleton] at lengths
        rw [all] at bound
        omega
  | above =>
      rw [pushSegment_special_of_above leads]
      refine ⟨fun same => ?_, fun both => by cases leads.symm.trans (ordinaryLead both.1)⟩
      have last := (List.append_inj' same rfl).2
      exact absurd (List.singleton_inj.mp last).symm (notEmpty (by simp [leads]))
  | item text =>
      rw [pushSegment_special_of_item leads]
      constructor
      · intro same
        obtain ⟨front, last⟩ := List.append_inj' same rfl
        have whole : text = segment.toList :=
          writeSegment_injective .special (List.singleton_inj.mp last)
        exact ⟨(leadOf_eq_item_iff segment).mp (whole ▸ leads), front⟩
      · rintro ⟨ordinary, rfl⟩
        have whole : text = segment.toList :=
          Lead.item.inj (leads.symm.trans (ordinaryLead ordinary))
        rw [whole]
        rfl

theorem fits_singleton_iff (directory : List String) (segment : String) :
    Fits directory [segment] ↔ IsOrdinary segment ∧ directory ≠ [""] := by
  constructor
  · intro fits
    exact ⟨fits.ordinary segment (List.mem_singleton_self _), fits.whole⟩
  · rintro ⟨ordinary, whole⟩
    exact ⟨fun other member => List.mem_singleton.mp member ▸ ordinary, whole, fun _ _ => rfl⟩

theorem fits_snoc_iff {directory segments : List String} (some : segments ≠ [])
    (segment : String) :
    Fits directory (segments ++ [segment]) ↔
      IsOrdinary segment ∧ Fits directory segments ∧ ¬(directory = [] ∧ segments = [""]) := by
  obtain ⟨first, rest, rfl⟩ := List.exists_cons_of_ne_nil some
  constructor
  · intro fits
    refine ⟨fits.ordinary segment (by simp), ⟨fun other member => ?_, fits.whole, ?_⟩, ?_⟩
    · exact fits.ordinary other (List.mem_append_left _ member)
    · intro root empty
      have long := fits.led root (by simpa using empty)
      simp at long
    · rintro ⟨root, alone⟩
      have long := fits.led root (by simp [alone])
      simp at long
  · rintro ⟨ordinary, fits, notAlone⟩
    refine ⟨fun other member => ?_, fits.whole, fun root empty => ?_⟩
    · rcases List.mem_append.mp member with early | last
      · exact fits.ordinary other early
      · exact List.mem_singleton.mp last ▸ ordinary
    · have first_empty : first = "" := by simpa using empty
      have short := fits.led root (by simp [first_empty])
      have nothing : rest = [] := by simpa using short
      exact absurd ⟨root, by rw [first_empty, nothing]⟩ notAlone

/-- Segments are added to a directory as they are written exactly if they fit it. -/
theorem pushAll_eq_iff {directory segments : List String} (some : segments ≠ []) :
    pushAll .special (dropEmptyLast (directory ++ [""])) segments =
      directory ++ segments.map writeWhole ↔ Fits directory segments := by
  induction segments using List.reverseRecOn with
  | nil => exact absurd rfl some
  | append_singleton segments segment sound =>
      have bound : (opened (pushAll .special (dropEmptyLast (directory ++ [""])) segments)).length ≤
          (directory ++ segments.map writeWhole).length := by
        have most := length_opened_pushAll_le (dropEmptyLast (directory ++ [""])) segments
        rw [opened_dropEmptyLast] at most
        have least := length_opened_le directory
        rw [List.length_append, List.length_map]
        omega
      rw [pushAll_snoc, List.map_append, ← List.append_assoc]
      refine (pushSegment_eq_snoc_iff bound).trans ?_
      by_cases none : segments = []
      · subst none
        rw [List.nil_append, fits_singleton_iff, ← opened_eq_self_iff]
        simp [pushAll, opened_dropEmptyLast]
      · have long : directory ++ segments.map writeWhole ≠ [] := by simp [none]
        have alone : directory ++ segments.map writeWhole = [""] ↔
            directory = [] ∧ segments = [""] := by
          have same : segments.map writeWhole = [""] ↔ segments = [""] := by
            simp [List.map_eq_singleton_iff, writeWhole_eq_empty_iff]
          simp [List.append_eq_singleton_iff, same, none]
        rw [fits_snoc_iff none, opened_eq_of_ne_nil long, sound none, ne_eq, alone]

end KernelClient.Url
