import KernelClient.Proofs.Payload.Steps
import KernelClient.Proofs.Url.Segments
import KernelClient.Settings

/-!
# URLs of resources

The URLs of a server are directories, and the URL of a resource is one of them with segments added.
An identifier that is added as it is written has a URL of its own in its collection. One that is
left out has the URL of the collection, one of which two points are left steps out of it, and two of
which the same is left share a URL.
-/

namespace KernelClient

namespace UrlPath

theorem render_append (first second : List String) :
    (UrlPath.segments (first ++ second)).render =
      (UrlPath.segments first).render ++ (UrlPath.segments second).render := by
  simp only [render, List.map_append, String.join_append]

theorem toList_render (parts : List String) :
    (UrlPath.segments parts).render.toList = parts.flatMap fun part => '/' :: part.toList := by
  simp [render, String.toList_join, List.flatMap_map]

theorem flatMap_slash (first : String) (rest : List String) :
    ((first :: rest).flatMap fun part => '/' :: part.toList) =
      '/' :: ['/'].intercalate ((first :: rest).map String.toList) := by
  induction rest generalizing first with
  | nil => simp
  | cons second rest ih =>
      rw [List.flatMap_cons, ih, List.map_cons, List.map_cons, List.map_cons,
        List.intercalate_cons_cons]
      simp

/-- Segments without a slash can be read from the text of their path. -/
theorem eq_of_render_eq {first second : List String}
    (plainFirst : ∀ part ∈ first, '/' ∉ part.toList)
    (plainSecond : ∀ part ∈ second, '/' ∉ part.toList)
    (same : (UrlPath.segments first).render = (UrlPath.segments second).render) :
    first = second := by
  have texts := congrArg String.toList same
  rw [toList_render, toList_render] at texts
  cases first with
  | nil =>
      cases second with
      | nil => rfl
      | cons => simp at texts
  | cons head rest =>
      cases second with
      | nil => simp at texts
      | cons other others =>
          rw [flatMap_slash, flatMap_slash] at texts
          have parts := congrArg (List.splitOn '/') (List.tail_eq_of_cons_eq texts)
          rw [List.splitOn_intercalate _ (by simpa using plainFirst) (by simp),
            List.splitOn_intercalate _ (by simpa using plainSecond) (by simp)] at parts
          exact List.map_injective_iff.mpr (fun _ _ => String.toList_inj.mp) parts

/-- Empty segments at the start are left out, but the last segment stays. -/
theorem exists_trim_snoc (kind : Url.SchemeKind) (segments : List String) (last : String) :
    ∃ front, trim kind (segments ++ [last]) = front ++ [last] ∧
      (kind = .file → front.head? ≠ some "") := by
  cases kind with
  | special => exact ⟨segments, by unfold trim; rfl, by simp⟩
  | general => exact ⟨segments, by unfold trim; rfl, by simp⟩
  | file =>
      induction segments with
      | nil => exact ⟨[], by simp [trim], by simp⟩
      | cons first rest ih =>
          by_cases empty : first = ""
          · obtain ⟨front, trimmed, led⟩ := ih
            subst empty
            obtain ⟨next, more, parts⟩ : ∃ next more, rest ++ [last] = next :: more :=
              List.exists_cons_of_ne_nil (by simp)
            refine ⟨front, ?_, led⟩
            rw [← trimmed, List.cons_append, parts, trim]
          · exact ⟨first :: rest, by simp [trim, empty], by simpa using empty⟩

end UrlPath

namespace Url

/-- Segments to which others are added without a change of those that are there. -/
structure Settled (kind : SchemeKind) (segments : List String) : Prop where
  filled : segments ≠ []
  whole : segments ≠ [""]
  led : kind = .file → segments.head? ≠ some ""

variable {kind : SchemeKind} {segments : List String}

theorem Settled.opened (settled : Settled kind segments) : opened segments = segments :=
  (opened_eq_self_iff segments).mpr settled.whole

theorem Settled.trim (settled : Settled kind segments) : UrlPath.trim kind segments = segments := by
  unfold UrlPath.trim
  split
  case h_1 next rest => exact absurd rfl (settled.led rfl)
  case h_2 => rfl

theorem Settled.append (settled : Settled kind segments) (added : List String) :
    Settled kind (segments ++ added) := by
  obtain ⟨first, rest, rfl⟩ := List.exists_cons_of_ne_nil settled.filled
  refine ⟨by simp, fun alone => ?_, settled.led⟩
  obtain ⟨rfl, nothing⟩ := List.cons.inj alone
  exact settled.whole (by rw [(List.append_eq_nil_iff.mp nothing).1])

theorem Settled.pushSegment_of_item (settled : Settled kind segments) {segment : String}
    {text : List Char} (leads : leadOf segment = .item text) :
    pushSegment kind segments segment = segments ++ [writeSegment kind text] := by
  have noDrive : kind = .file → Url.opened segments = [] →
      UrlPath.isDrive (writeSegment kind text).toList = false :=
    fun _ none => absurd (settled.opened.symm.trans none) settled.filled
  rw [Url.pushSegment_of_item leads noDrive, settled.opened, (settled.append _).trim]

theorem Settled.pushSegment_of_above (settled : Settled kind segments) {segment last : String}
    (leads : leadOf segment = .above) (noDrive : UrlPath.startsWithDrive last.toList = false) :
    pushSegment kind (segments ++ [last]) segment = segments ++ [""] := by
  have shortened : UrlPath.shorten (segments ++ [last]) = segments := by
    rw [UrlPath.shorten, List.getLast?_concat, Option.any_some, noDrive,
      if_neg Bool.false_ne_true, List.dropLast_concat]
  rw [Url.pushSegment_of_above leads, (settled.append _).opened, shortened,
    (settled.append _).trim]

/-- The names of the collections whose resources have identifiers. -/
def collections : List String := ["kernels", "sessions", "terminals"]

/-- A name of a directory or a collection, which is added as it is written. -/
structure IsName (name : String) : Prop where
  leads : leadOf name = .item name.toList
  written : ∀ kind, writeSegment kind name.toList = name
  noDrive : UrlPath.startsWithDrive name.toList = false
  noSlash : '/' ∉ name.toList
  noMark : '?' ∉ name.toList
  filled : name ≠ ""

theorem isName_api : IsName "api" where
  leads := by decide
  written kind := by cases kind <;> decide +kernel
  noDrive := by decide
  noSlash := by decide
  noMark := by decide
  filled := by decide

theorem isName_channels : IsName "channels" where
  leads := by decide
  written kind := by cases kind <;> decide +kernel
  noDrive := by decide
  noSlash := by decide
  noMark := by decide
  filled := by decide

theorem isName_of_mem {collection : String} (member : collection ∈ collections) :
    IsName collection := by
  simp only [collections, List.mem_cons, List.not_mem_nil, or_false] at member
  rcases member with rfl | rfl | rfl <;>
  exact {
    leads := by decide
    written := fun kind => by cases kind <;> decide +kernel
    noDrive := by decide
    noSlash := by decide
    noMark := by decide
    filled := by decide }

/-- The segments that a collection and an identifier leave below the directory of all
collections. -/
def resource (kind : SchemeKind) (collection id : String) : List String :=
  match leadOf id with
  | .nowhere => [collection]
  | .above => [""]
  | .item text => [collection, writeSegment kind text]

/-- The directory of all collections below a directory. -/
def stem (kind : SchemeKind) (directory : List String) : List String :=
  UrlPath.trim kind (opened directory ++ ["api"])

theorem stem_special (directory : List String) :
    stem .special directory = opened directory ++ ["api"] :=
  trim_special _

theorem settled_stem (kind : SchemeKind) (directory : List String) :
    Settled kind (stem kind directory) := by
  obtain ⟨front, trimmed, led⟩ := UrlPath.exists_trim_snoc kind (opened directory) "api"
  rw [stem, trimmed]
  refine ⟨by simp, fun alone => ?_, fun isFile => ?_⟩
  · have last := congrArg List.getLast? alone
    simp at last
  · cases front with
    | nil => simp
    | cons first rest => exact led isFile

theorem pushSegment_api (kind : SchemeKind) (directory : List String) :
    pushSegment kind (dropEmptyLast (directory ++ [""])) "api" = stem kind directory := by
  have noDrive : kind = .file → opened (dropEmptyLast (directory ++ [""])) = [] →
      UrlPath.isDrive (writeSegment kind "api".toList).toList = false := by
    intro _ _
    rw [isName_api.written]
    decide
  rw [pushSegment_of_item isName_api.leads noDrive, opened_dropEmptyLast, isName_api.written]
  rfl

theorem Settled.pushSegment_of_name (settled : Settled kind segments) {name : String}
    (isName : IsName name) : pushSegment kind segments name = segments ++ [name] := by
  rw [settled.pushSegment_of_item isName.leads, isName.written]

theorem Settled.pushSegment_id (settled : Settled kind segments) {collection : String}
    (isName : IsName collection) (id : String) :
    pushSegment kind (segments ++ [collection]) id =
      segments ++ resource kind collection id := by
  unfold resource
  cases leads : leadOf id with
  | nowhere => exact pushSegment_of_nowhere leads kind _
  | above => exact settled.pushSegment_of_above leads isName.noDrive
  | item text =>
      rw [(settled.append _).pushSegment_of_item leads, List.append_assoc]
      rfl

/-- The path of a collection. -/
theorem pushAll_collection (kind : SchemeKind) (directory : List String) {collection : String}
    (isName : IsName collection) :
    pushAll kind (dropEmptyLast (directory ++ [""])) ["api", collection] =
      stem kind directory ++ [collection] := by
  rw [pushAll, List.foldl_cons, pushSegment_api, List.foldl_cons,
    (settled_stem kind directory).pushSegment_of_name isName, List.foldl_nil]

/-- The path of a resource. -/
theorem pushAll_resource (kind : SchemeKind) (directory : List String) {collection : String}
    (isName : IsName collection) (id : String) :
    pushAll kind (dropEmptyLast (directory ++ [""])) ["api", collection, id] =
      stem kind directory ++ resource kind collection id := by
  have path := pushAll_snoc kind (dropEmptyLast (directory ++ [""])) ["api", collection] id
  rw [pushAll_collection kind directory isName,
    (settled_stem kind directory).pushSegment_id isName] at path
  exact path

/-- The path of the channels of a kernel. -/
theorem pushAll_channels (kind : SchemeKind) (directory : List String) (kernelId : String) :
    pushAll kind (dropEmptyLast (directory ++ [""])) ["api", "kernels", kernelId, "channels"] =
      stem kind directory ++ (resource kind "kernels" kernelId ++ ["channels"]) := by
  have path := pushAll_snoc kind (dropEmptyLast (directory ++ [""])) ["api", "kernels", kernelId]
    "channels"
  rw [pushAll_resource kind directory (isName_of_mem (by decide)),
    ((settled_stem kind directory).append _).pushSegment_of_name isName_channels,
    List.append_assoc] at path
  exact path

/-- Resources share a path exactly if their identifiers lead to the same in one collection, or both
lead out of their collections. -/
theorem resource_eq_iff {collection other : String} (isName : IsName collection)
    (isOther : IsName other) (kind : SchemeKind) (id otherId : String) :
    resource kind collection id = resource kind other otherId ↔
      leadOf id = leadOf otherId ∧ (collection = other ∨ leadOf id = .above) := by
  unfold resource
  cases leadOf id <;> cases leadOf otherId <;>
    simp [isName.filled, Ne.symm isOther.filled, (writeSegment_injective kind).eq_iff, and_comm]

/-- A resource has the path of a collection exactly if its identifier is left out. -/
theorem resource_eq_collection_iff {collection other : String} (isOther : IsName other)
    (kind : SchemeKind) (id : String) :
    resource kind collection id = [other] ↔ leadOf id = .nowhere ∧ collection = other := by
  unfold resource
  cases leadOf id <;> simp [Ne.symm isOther.filled]

/-- A resource is below its collection unless its identifier leads out of it. -/
theorem collection_prefix_resource_iff {collection : String} (isName : IsName collection)
    (kind : SchemeKind) (id : String) :
    [collection] <+: resource kind collection id ↔ leadOf id ≠ .above := by
  unfold resource
  cases leadOf id <;> simp [List.cons_prefix_cons, isName.filled]

/-- A character that is encoded in all segments does not stand in one. -/
theorem not_mem_writeSegment {character : Char} (encoded : Percent.path character = true ∨
      character = '/') (noPercent : character ≠ '%')
    (noDigit : ∀ value < 16, character ≠ Hex.upperDigit value) (kind : SchemeKind)
    (text : List Char) : character ∉ (writeSegment kind text).toList := by
  rw [writeSegment, String.toList_ofList]
  refine Percent.not_mem_encode ?_ noPercent noDigit text
  rcases encoded with path | rfl
  · simp [Percent.segment, path]
  · simp [Percent.segment]

theorem no_slash_of_mem_resource {collection : String} (isName : IsName collection)
    (id : String) : ∀ part ∈ resource kind collection id, '/' ∉ part.toList := by
  have written (text : List Char) : '/' ∉ (writeSegment kind text).toList :=
    not_mem_writeSegment (.inr rfl) (by decide) (by decide) kind text
  unfold resource
  cases leadOf id <;> simp [isName.noSlash, written]

theorem no_mark_of_mem_resource {collection : String} (isName : IsName collection)
    (id : String) : ∀ part ∈ resource kind collection id, '?' ∉ part.toList := by
  have written (text : List Char) : '?' ∉ (writeSegment kind text).toList :=
    not_mem_writeSegment (.inl (by decide)) (by decide) (by decide) kind text
  unfold resource
  cases leadOf id <;> simp [isName.noMark, written]

theorem plain_of_mem_channels (kind : SchemeKind) (kernelId : String) :
    ∀ part ∈ resource kind "kernels" kernelId ++ ["channels"],
      '/' ∉ part.toList ∧ '?' ∉ part.toList := by
  have isName : IsName "kernels" := isName_of_mem (by decide)
  intro part member
  rcases List.mem_append.mp member with before | last
  · exact ⟨no_slash_of_mem_resource isName kernelId part before,
      no_mark_of_mem_resource isName kernelId part before⟩
  · rw [List.mem_singleton.mp last]
    exact ⟨isName_channels.noSlash, isName_channels.noMark⟩

/-- A path is below the directory unless that is one empty segment, of which the slash is lost. -/
theorem directory_prefix_iff (directory rest : List String) :
    directory <+: stem .special directory ++ rest ↔ directory ≠ [""] := by
  rw [stem_special]
  constructor
  · rintro below rfl
    simp [opened] at below
  · intro whole
    rw [(opened_eq_self_iff directory).mpr whole, List.append_assoc]
    exact List.prefix_append _ _

theorem directory_collection_prefix_iff (directory : List String) {collection : String}
    (isName : IsName collection) (id : String) :
    directory ++ ["api", collection] <+:
        stem .special directory ++ resource .special collection id ↔
      directory ≠ [""] ∧ leadOf id ≠ .above := by
  rw [stem_special]
  by_cases lost : directory = [""]
  · subst lost
    simp [opened]
  · rw [(opened_eq_self_iff directory).mpr lost, List.append_assoc, List.prefix_append_right_inj,
      List.singleton_append, List.cons_prefix_cons, collection_prefix_resource_iff isName]
    simp [lost]

theorem render_with_path (url : Url) (path : UrlPath) :
    ({ url with path := path } : Url).render =
      url.scheme ++ ":" ++ url.renderAuthority ++
        (path.render ++ (url.query.elim "" ("?" ++ ·) ++ url.fragment.elim "" ("#" ++ ·))) := by
  have authority : ({ url with path := path } : Url).renderAuthority = url.renderAuthority := rfl
  rw [render, authority]
  cases url.query <;> cases url.fragment <;>
    simp only [Option.elim, String.append_assoc, String.append_empty, String.empty_append]

theorem render_eq_iff (url : Url) (first second : UrlPath) :
    ({ url with path := first } : Url).render = ({ url with path := second } : Url).render ↔
      first.render = second.render := by
  rw [render_with_path, render_with_path, String.append_right_inj, String.append_left_inj]

/-- Segments without a slash that are added to a path can be read from the text of the URL. -/
theorem eq_of_render_eq {url : Url} {front first second : List String}
    (plainFirst : ∀ part ∈ first, '/' ∉ part.toList)
    (plainSecond : ∀ part ∈ second, '/' ∉ part.toList)
    (same : ({ url with path := .segments (front ++ first) } : Url).render =
      ({ url with path := .segments (front ++ second) } : Url).render) : first = second := by
  have paths := (render_eq_iff url _ _).mp same
  rw [UrlPath.render_append, UrlPath.render_append, String.append_right_inj] at paths
  exact UrlPath.eq_of_render_eq plainFirst plainSecond paths

/-- What stands before the first of a character. -/
theorem eq_of_append_cons_eq {mark : Char} {first second rest others : List Char}
    (plainFirst : mark ∉ first) (plainSecond : mark ∉ second)
    (same : first ++ mark :: rest = second ++ mark :: others) : first = second := by
  have before := congrArg (List.takeWhile (· != mark)) same
  have all {text : List Char} (plain : mark ∉ text) (after : List Char) :
      (text ++ mark :: after).takeWhile (· != mark) = text := by
    rw [List.takeWhile_append_of_pos fun character member => by
      simpa using ne_of_mem_of_not_mem member plain]
    simp
  rwa [all plainFirst, all plainSecond] at before

/-- Segments without a slash and a question mark can also be read if a query follows. -/
theorem eq_of_render_query_eq {url : Url} {front first second : List String}
    {query otherQuery : String}
    (plainFirst : ∀ part ∈ first, '/' ∉ part.toList ∧ '?' ∉ part.toList)
    (plainSecond : ∀ part ∈ second, '/' ∉ part.toList ∧ '?' ∉ part.toList)
    (same : ({ url with path := .segments (front ++ first), query := some query } : Url).render =
      ({ url with path := .segments (front ++ second), query := some otherQuery } : Url).render) :
    first = second := by
  have noMark {parts : List String}
      (plain : ∀ part ∈ parts, '/' ∉ part.toList ∧ '?' ∉ part.toList) :
      '?' ∉ (UrlPath.segments parts).render.toList := by
    rw [UrlPath.toList_render]
    intro member
    obtain ⟨part, among, here⟩ := List.mem_flatMap.mp member
    rcases List.mem_cons.mp here with slash | inside
    · cases slash
    · exact (plain part among).2 inside
  have texts : (UrlPath.segments first).render ++ ("?" ++ query) =
      (UrlPath.segments second).render ++ ("?" ++ otherQuery) := by
    have whole := (render_with_path { url with query := some query } _).symm.trans
      (same.trans (render_with_path { url with query := some otherQuery } _))
    have ends := (String.append_right_inj _).mp whole
    rw [UrlPath.render_append, UrlPath.render_append, String.append_assoc, String.append_assoc,
      String.append_right_inj, ← String.append_assoc, ← String.append_assoc] at ends
    exact (String.append_left_inj _).mp ends
  have paths := eq_of_append_cons_eq (noMark plainFirst) (noMark plainSecond) (by
    simpa using congrArg String.toList texts)
  exact UrlPath.eq_of_render_eq (fun part among => (plainFirst part among).1)
    (fun part among => (plainSecond part among).1) (String.toList_inj.mp paths)

/-- The segments of a path that ends in a slash. -/
theorem exists_closedPath (kind : SchemeKind) (segments : List String) :
    ∃ directory, closedPath kind segments = directory ++ [""] := by
  unfold closedPath
  split
  case isTrue closed =>
    exact ⟨segments.dropLast, (List.dropLast_append_getLast? "" closed).symm⟩
  case isFalse =>
    split
    · exact ⟨_, rfl⟩
    · exact ⟨_, rfl⟩

end Url

namespace Settings

theorem exists_of_directory {text : String} {url : Url} (read : directory text = .ok url) :
    ∃ segments, url.path = .segments (segments ++ [""]) := by
  unfold directory at read
  split at read
  case h_1 => cases read
  case h_2 parsed _ =>
    split at read
    case h_2 => cases read
    case h_1 closed isDirectory =>
      cases read
      unfold Url.directory? at isDirectory
      split at isDirectory
      case h_1 => cases isDirectory
      case h_2 segments _ =>
        cases isDirectory
        obtain ⟨rest, ends⟩ := Url.exists_closedPath parsed.kind segments
        exact ⟨rest, congrArg UrlPath.segments ends⟩

theorem kind_of_socketScheme? {scheme socketScheme : String}
    (isHttp : socketScheme? scheme = some socketScheme) :
    Url.SchemeKind.ofName scheme = .special := by
  unfold socketScheme? at isHttp
  split at isHttp
  case isTrue secure => rw [secure]; decide
  case isFalse =>
    split at isHttp
    case isTrue plain => rw [plain]; decide
    case isFalse => cases isHttp

/-- The settings that a client can be given. -/
inductive IsAccepted : Settings → Prop where
  | ofBaseUrl {text : String} {settings : Settings} (read : ofBaseUrl text = .ok settings) :
      IsAccepted settings
  | withWsUrl {settings changed : Settings} {text : String} (before : IsAccepted settings)
      (read : settings.withWsUrl text = .ok changed) : IsAccepted changed
  | withToken {settings : Settings} (before : IsAccepted settings) (token : String) :
      IsAccepted (settings.withToken token)
  | withAppendedToken {settings : Settings} (before : IsAccepted settings) (appends : Bool) :
      IsAccepted (settings.withAppendedToken appends)
  | withHeader {settings : Settings} (before : IsAccepted settings) (name value : String) :
      IsAccepted (settings.withHeader name value)

theorem IsAccepted.ofEnvironment {environment : Environment} {settings : Settings}
    (read : ofEnvironment environment = .ok settings) : settings.IsAccepted := by
  obtain ⟨first, readFirst, read⟩ := bind_eq_ok_iff.mp read
  have based : first.IsAccepted := .ofBaseUrl readFirst
  dsimp only at read
  split at read
  · obtain ⟨second, readSecond, read⟩ := bind_eq_ok_iff.mp read
    have placed : second.IsAccepted := based.withWsUrl readSecond
    cases read
    split
    · exact placed.withToken _
    · exact placed
  · cases read
    split
    · exact based.withToken _
    · exact based

/-- Both URLs of the settings are directories, and that of requests is on a host. -/
structure HasDirectories (settings : Settings) : Prop where
  special : settings.baseUrl.kind = .special
  base : ∃ directory, settings.baseUrl.path = .segments (directory ++ [""])
  sockets : ∃ directory, settings.wsUrl.path = .segments (directory ++ [""])

theorem IsAccepted.hasDirectories {settings : Settings} (accepted : settings.IsAccepted) :
    settings.HasDirectories := by
  induction accepted with
  | ofBaseUrl read =>
      obtain ⟨base, readBase, read⟩ := bind_eq_ok_iff.mp read
      obtain ⟨segments, isDirectory⟩ := exists_of_directory readBase
      split at read
      case h_1 scheme isHttp =>
        cases read
        exact ⟨kind_of_socketScheme? isHttp, ⟨segments, isDirectory⟩, ⟨segments, isDirectory⟩⟩
      case h_2 => cases read
  | withWsUrl _ read ih =>
      obtain ⟨url, readUrl, read⟩ := bind_eq_ok_iff.mp read
      cases read
      exact ⟨ih.special, ih.base, exists_of_directory readUrl⟩
  | withToken _ _ ih => exact ⟨ih.special, ih.base, ih.sockets⟩
  | withAppendedToken _ _ ih => exact ⟨ih.special, ih.base, ih.sockets⟩
  | withHeader _ _ _ ih => exact ⟨ih.special, ih.base, ih.sockets⟩

theorem join_eq {base : Url} {directory : List String}
    (isDirectory : base.path = .segments (directory ++ [""])) (segments : List String) :
    join base segments = .ok { base with
      path :=
        .segments (Url.pushAll base.kind (Url.dropEmptyLast (directory ++ [""])) segments) } := by
  rw [join, Url.extend?, isDirectory]
  rfl

/-- How the URLs of resources are made from a base URL whose path is a directory. -/
structure MakesUrls (settings : Settings) (directory : List String) : Prop where
  base : settings.baseUrl.path = .segments (directory ++ [""])
  /-- Only the path is changed. -/
  defined : ∀ segments, ∃ path,
    settings.apiUrl segments = .ok { settings.baseUrl with path := .segments path }
  /-- Without segments, the slash at the end is left out. -/
  bare : settings.apiUrl [] = .ok { settings.baseUrl with
    path := .segments (if directory = [] then [""] else directory) }
  /-- Segments stand behind the path of the base URL, encoded and in order, exactly if they fit. -/
  joined : ∀ segments, segments ≠ [] →
    (settings.apiUrl segments = .ok { settings.baseUrl with
        path := .segments (directory ++ segments.map Url.writeWhole) } ↔
      Url.Fits directory segments)
  /-- A resource is below the base URL, unless that loses a slash, and in its collection, unless its
  identifier leads out of it. -/
  inside : ∀ collection ∈ Url.collections, ∀ id, ∃ path,
    settings.apiUrl ["api", collection, id] = .ok { settings.baseUrl with
      path := .segments path } ∧
    (directory <+: path ↔ directory ≠ [""]) ∧
    (directory ++ ["api", collection] <+: path ↔ directory ≠ [""] ∧ Url.leadOf id ≠ .above)
  /-- Two resources share a URL exactly if their identifiers lead to the same in one collection, or
  lead out of their collections. -/
  shared : ∀ collection ∈ Url.collections, ∀ other ∈ Url.collections, ∀ id otherId,
    ((settings.apiUrl ["api", collection, id]).map Url.render =
        (settings.apiUrl ["api", other, otherId]).map Url.render ↔
      Url.leadOf id = Url.leadOf otherId ∧ (collection = other ∨ Url.leadOf id = .above))
  /-- A resource has the URL of a collection exactly if its identifier leads nowhere. -/
  whole : ∀ collection ∈ Url.collections, ∀ other ∈ Url.collections, ∀ id,
    ((settings.apiUrl ["api", collection, id]).map Url.render =
        (settings.apiUrl ["api", other]).map Url.render ↔
      Url.leadOf id = .nowhere ∧ collection = other)
  /-- The channels of kernels have URLs. -/
  reached : ∀ kernelId clientId, ∃ url, settings.channelsUrl kernelId clientId = .ok url
  /-- Kernels whose channels share a URL have identifiers that lead to the same. -/
  channels : ∀ kernelId otherId clientId otherClient,
    (settings.channelsUrl kernelId clientId).map Url.render =
        (settings.channelsUrl otherId otherClient).map Url.render →
      Url.leadOf kernelId = Url.leadOf otherId
  /-- Such kernels share a URL for every client. -/
  sharedChannels : ∀ kernelId otherId clientId, Url.leadOf kernelId = Url.leadOf otherId →
    settings.channelsUrl kernelId clientId = settings.channelsUrl otherId clientId

theorem map_render_eq_iff {url : Url} {front first second : List String}
    (plainFirst : ∀ part ∈ first, '/' ∉ part.toList)
    (plainSecond : ∀ part ∈ second, '/' ∉ part.toList) :
    ((Except.ok { url with path := .segments (front ++ first) } : Except ServiceError Url).map
        Url.render = (Except.ok { url with path := .segments (front ++ second) }).map Url.render) ↔
      first = second := by
  constructor
  · intro same
    exact Url.eq_of_render_eq plainFirst plainSecond (Except.ok.inj same)
  · rintro rfl
    rfl

/-- The URLs of requests. -/
theorem HasDirectories.apiUrl {settings : Settings} (has : settings.HasDirectories)
    {directory : List String} (base : settings.baseUrl.path = .segments (directory ++ [""]))
    (segments : List String) :
    settings.apiUrl segments = .ok { settings.baseUrl with
      path :=
        .segments (Url.pushAll .special (Url.dropEmptyLast (directory ++ [""])) segments) } := by
  rw [Settings.apiUrl, join_eq base, has.special]

theorem HasDirectories.apiUrl_resource {settings : Settings} (has : settings.HasDirectories)
    {directory : List String} (base : settings.baseUrl.path = .segments (directory ++ [""]))
    {collection : String} (isName : Url.IsName collection) (id : String) :
    settings.apiUrl ["api", collection, id] = .ok { settings.baseUrl with
      path := .segments (Url.stem .special directory ++ Url.resource .special collection id) } := by
  rw [has.apiUrl base, Url.pushAll_resource .special directory isName]

theorem HasDirectories.apiUrl_collection {settings : Settings} (has : settings.HasDirectories)
    {directory : List String} (base : settings.baseUrl.path = .segments (directory ++ [""]))
    {collection : String} (isName : Url.IsName collection) :
    settings.apiUrl ["api", collection] = .ok { settings.baseUrl with
      path := .segments (Url.stem .special directory ++ [collection]) } := by
  rw [has.apiUrl base, Url.pushAll_collection .special directory isName]

/-- The URL of the channels of a kernel. -/
theorem HasDirectories.exists_channelsUrl {settings : Settings} (has : settings.HasDirectories) :
    ∃ front, ∀ clientId, ∃ query, ∀ kernelId,
      settings.channelsUrl kernelId clientId = .ok { settings.wsUrl with
        path := .segments (front ++
          (Url.resource settings.wsUrl.kind "kernels" kernelId ++ ["channels"]))
        query := some query } := by
  obtain ⟨directory, sockets⟩ := has.sockets
  refine ⟨Url.stem settings.wsUrl.kind directory, fun clientId => ?_⟩
  apply Exists.intro
  intro kernelId
  rw [channelsUrl, join_eq sockets, Url.pushAll_channels settings.wsUrl.kind directory]
  rfl

theorem HasDirectories.makesUrls {settings : Settings} (has : settings.HasDirectories)
    {directory : List String} (base : settings.baseUrl.path = .segments (directory ++ [""])) :
    settings.MakesUrls directory where
  base := base
  defined segments := ⟨_, has.apiUrl base segments⟩
  bare := by
    have dropped : Url.pushAll .special (Url.dropEmptyLast (directory ++ [""])) [] =
        if directory = [] then [""] else directory := by
      cases directory with
      | nil => rfl
      | cons first rest => exact Url.dropEmptyLast_cons first rest
    rw [has.apiUrl base, dropped]
  joined segments some := by
    rw [has.apiUrl base, ← Url.pushAll_eq_iff some]
    simp
  inside collection member id := by
    have isName := Url.isName_of_mem member
    refine ⟨_, has.apiUrl_resource base isName id, ?_, ?_⟩
    · exact Url.directory_prefix_iff directory _
    · exact Url.directory_collection_prefix_iff directory isName id
  shared collection member other isOther id otherId := by
    have isName := Url.isName_of_mem member
    have isName' := Url.isName_of_mem isOther
    rw [has.apiUrl_resource base isName, has.apiUrl_resource base isName',
      map_render_eq_iff (Url.no_slash_of_mem_resource isName id)
        (Url.no_slash_of_mem_resource isName' otherId), Url.resource_eq_iff isName isName']
  whole collection member other isOther id := by
    have isName := Url.isName_of_mem member
    have isName' := Url.isName_of_mem isOther
    rw [has.apiUrl_resource base isName, has.apiUrl_collection base isName',
      map_render_eq_iff (Url.no_slash_of_mem_resource isName id)
        (by simpa using isName'.noSlash), Url.resource_eq_collection_iff isName']
  reached kernelId clientId := by
    obtain ⟨front, urls⟩ := has.exists_channelsUrl
    obtain ⟨query, url⟩ := urls clientId
    exact ⟨_, url kernelId⟩
  channels kernelId otherId clientId otherClient same := by
    have isName : Url.IsName "kernels" := Url.isName_of_mem (by decide)
    obtain ⟨front, urls⟩ := has.exists_channelsUrl
    obtain ⟨query, url⟩ := urls clientId
    obtain ⟨otherQuery, otherUrl⟩ := urls otherClient
    rw [url, otherUrl] at same
    have rests := Url.eq_of_render_query_eq (Url.plain_of_mem_channels _ kernelId)
      (Url.plain_of_mem_channels _ otherId) (Except.ok.inj same)
    have resources := List.append_cancel_right rests
    exact ((Url.resource_eq_iff isName isName _ kernelId otherId).mp resources).1
  sharedChannels kernelId otherId clientId same := by
    obtain ⟨front, urls⟩ := has.exists_channelsUrl
    obtain ⟨query, url⟩ := urls clientId
    rw [url, url, Url.resource, Url.resource, same]

/-- Resources whose identifiers are added as they are written have URLs of their own. -/
theorem MakesUrls.eq_of_ordinary {settings : Settings} {directory : List String}
    (makes : settings.MakesUrls directory) {collection other : String}
    (member : collection ∈ Url.collections) (isOther : other ∈ Url.collections)
    {id otherId : String} (ordinary : Url.IsOrdinary id) (otherOrdinary : Url.IsOrdinary otherId)
    (same : (settings.apiUrl ["api", collection, id]).map Url.render =
      (settings.apiUrl ["api", other, otherId]).map Url.render) :
    collection = other ∧ id = otherId := by
  obtain ⟨leads, apart⟩ := (makes.shared collection member other isOther id otherId).mp same
  rw [(Url.leadOf_eq_item_iff id).mpr ordinary] at leads apart
  rw [(Url.leadOf_eq_item_iff otherId).mpr otherOrdinary] at leads
  exact ⟨apart.resolve_right (by simp), String.toList_inj.mp (Url.Lead.item.inj leads)⟩

/-- The URLs of the resources of any server. -/
theorem IsAccepted.resource_urls {settings : Settings} (accepted : settings.IsAccepted) :
    ∃ directory, settings.MakesUrls directory := by
  have has := accepted.hasDirectories
  obtain ⟨directory, base⟩ := has.base
  exact ⟨directory, has.makesUrls base⟩

theorem eq_ok_of_toOption {ε α : Type} {result : Except ε α} {value : α}
    (same : result.toOption = some value) : result = .ok value := by
  cases result with
  | error => cases same
  | ok other => exact congrArg Except.ok (Option.some.inj same)

/-- The server that is looked for when nothing is said is accepted. -/
theorem exists_ofBaseUrl_default : ∃ settings, ofBaseUrl defaultBaseUrl = .ok settings ∧
    settings.baseUrl = ⟨"http", "", none, some (.domain "localhost"), some 8888, false,
      .segments [""], none, none⟩ :=
  ⟨{ baseUrl := ⟨"http", "", none, some (.domain "localhost"), some 8888, false,
        .segments [""], none, none⟩
     wsUrl := ⟨"ws", "", none, some (.domain "localhost"), some 8888, false,
        .segments [""], none, none⟩
     token := none
     appendsToken := false
     headers := [] }, eq_ok_of_toOption (by decide +kernel), rfl⟩

theorem resource_urls_default :
    ∃ settings, ofBaseUrl defaultBaseUrl = .ok settings ∧ settings.IsAccepted ∧
      ∃ directory, settings.MakesUrls directory := by
  obtain ⟨settings, read, -⟩ := exists_ofBaseUrl_default
  have accepted : settings.IsAccepted := .ofBaseUrl read
  exact ⟨settings, read, accepted, accepted.resource_urls⟩

/-- An identifier with a tab has the URL of the one without it, one that is a point has the URL of
the collection, and two points behind a tab lead out of it. -/
theorem not_all_resources_apart :
    ∃ settings, ofBaseUrl defaultBaseUrl = .ok settings ∧
      (settings.apiUrl ["api", "kernels", "a\tb"]).map Url.render =
        .ok "http://localhost:8888/api/kernels/ab" ∧
      (settings.apiUrl ["api", "kernels", "ab"]).map Url.render =
        .ok "http://localhost:8888/api/kernels/ab" ∧
      (settings.apiUrl ["api", "kernels", "."]).map Url.render =
        .ok "http://localhost:8888/api/kernels" ∧
      (settings.apiUrl ["api", "kernels"]).map Url.render =
        .ok "http://localhost:8888/api/kernels" ∧
      (settings.apiUrl ["api", "kernels", "\t.."]).map Url.render =
        .ok "http://localhost:8888/api/" := by
  obtain ⟨settings, read, base⟩ := exists_ofBaseUrl_default
  refine ⟨settings, read, ?_⟩
  simp only [apiUrl, base]
  exact ⟨eq_ok_of_toOption (by decide +kernel), eq_ok_of_toOption (by decide +kernel),
    eq_ok_of_toOption (by decide +kernel), eq_ok_of_toOption (by decide +kernel),
    eq_ok_of_toOption (by decide +kernel)⟩

end Settings

end KernelClient
