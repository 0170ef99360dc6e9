import KernelClient.Url.Basic

/-!
# Segments of paths

Segments are added to a path one after the other. A segment of one or two points names the
directory that has been reached or the one above it, also when its points are encoded.
-/

namespace KernelClient.UrlPath

/-- A segment that names the directory that has been reached. -/
def isCurrent (segment : List Char) : Bool :=
  [".", "%2e"].contains ((String.ofList segment).toLower)

/-- A segment that names the directory above. -/
def isParent (segment : List Char) : Bool :=
  ["..", "%2e.", ".%2e", "%2e%2e"].contains ((String.ofList segment).toLower)

/-- A letter and a colon or a bar, which name a drive. -/
def isDrive : List Char → Bool
  | [letter, mark] => letter.isAlpha && (mark = ':' || mark = '|')
  | _ => false

/-- Whether a segment is a drive or begins with one that a backslash ends. -/
def startsWithDrive (segment : List Char) : Bool :=
  isDrive (segment.takeWhile fun character => character ≠ '\\')

/-- Leave out the last segment of a path, except a drive. -/
def shorten (segments : List String) : List String :=
  if segments.getLast?.any fun last => startsWithDrive last.toList then segments
  else segments.dropLast

/-- A drive with a colon. -/
def writeDrive (segment : List Char) : List Char :=
  if isDrive segment then segment.take 1 ++ [':'] else segment

/-- Add a segment to a path. The last segment stays behind as an empty one when it names a
directory. A drive at the start of a path is written with a colon if the path has drives. -/
def add (hasDrives isLast : Bool) (segments : List String) (segment : List Char) : List String :=
  let close (path : List String) : List String := if isLast then path ++ [""] else path
  if isParent segment then close (shorten segments)
  else if isCurrent segment then close segments
  else
    let written := if hasDrives && segments.isEmpty then writeDrive segment else segment
    segments ++ [String.ofList written]

/-- A tab or a line break, which is left out of a URL. -/
def isIgnored (character : Char) : Bool :=
  character = '\t' || character = '\n' || character = '\x0d'

/-- A drive with a colon that is cut off from the rest of its segment by characters that are left
out. -/
def cutDrive? (part : List Char) : Option (List Char × List Char) :=
  match part.dropWhile isIgnored with
  | letter :: marked =>
    match marked.dropWhile isIgnored with
    | ':' :: after =>
        let rest := after.filter fun character => !isIgnored character
        if letter.isAlpha && after.head?.any isIgnored && !rest.isEmpty then
          some ([letter, ':'], rest)
        else none
    | _ => none
  | [] => none

/-- Add what stands between two slashes to a path. A drive at its start that is cut off is a segment
of its own, and what follows it is one whatever it says. -/
def addPart (hasDrives isLast : Bool) (segments : List String) (part : List Char) : List String :=
  let write (text : List Char) : List Char := Percent.encode Percent.path text
  match if hasDrives && segments.isEmpty then cutDrive? part else none with
  | some (drive, rest) => [String.ofList drive, String.ofList (write rest)]
  | none =>
      add hasDrives isLast segments (write (part.filter fun character => !isIgnored character))

/-- Leave out empty segments at the start of the path of a file. -/
def trim (kind : Url.SchemeKind) (segments : List String) : List String :=
  match kind, segments with
  | .file, "" :: next :: rest => trim .file (next :: rest)
  | _, segments => segments

/-- The segments of the texts between slashes. -/
def ofParts (hasDrives : Bool) (before : List String) : List (List Char) → List String
  | [] => before
  | part :: rest => ofParts hasDrives (addPart hasDrives rest.isEmpty before part) rest

/-- Whether the path of a file begins with a drive that is cut off. -/
def cutsDrive (before : List String) : List (List Char) → Bool
  | [] => false
  | part :: rest =>
      (before.isEmpty && (cutDrive? part).isSome) ||
        cutsDrive (addPart true rest.isEmpty before part) rest

end KernelClient.UrlPath

namespace KernelClient.Url

/-- Leave out an empty segment at the end of a path with further segments. -/
def dropEmptyLast (segments : List String) : List String :=
  if 2 ≤ segments.length ∧ segments.getLast? = some "" then segments.dropLast else segments

/-- Add a segment at the end of a path. A segment that is written as one or two points is left
out. -/
def pushSegment (kind : SchemeKind) (segments : List String) (segment : String) : List String :=
  if segment = "." ∨ segment = ".." then segments
  else
    let before := if segments = [""] then [] else segments
    let written :=
      Percent.encode (Percent.segment (kind != .general))
        (segment.toList.filter fun character => !UrlPath.isIgnored character)
    UrlPath.trim kind (UrlPath.add (kind = .file) true before written)

/-- The URL with segments added to its path, or none if it has no segments. -/
def extend? (url : Url) (segments : List String) : Option Url :=
  match url.path with
  | .plain _ => none
  | .segments before =>
      some { url with
        path := .segments (segments.foldl (pushSegment url.kind) (dropEmptyLast before)) }

/-- The segments of a path that ends in a slash. When one is added to the path of a file, a drive at
its start is written with a colon. -/
def closedPath (kind : SchemeKind) (segments : List String) : List String :=
  if segments.getLast? = some "" then segments
  else
    match kind, segments with
    | .file, first :: rest => String.ofList (UrlPath.writeDrive first.toList) :: rest ++ [""]
    | _, _ => segments ++ [""]

/-- The URL of a directory: its path ends in a slash, and it has no query and no fragment. -/
def directory? (url : Url) : Option Url :=
  match url.path with
  | .plain _ => none
  | .segments segments =>
      some { url with
        path := .segments (closedPath url.kind segments)
        query := none
        fragment := none }

/-- The URL with the pairs of a form as its query. -/
def withQuery (url : Url) (pairs : List (String × String)) : Url :=
  let written := pairs.map fun (name, value) =>
    String.ofList (Percent.encodeForm name ++ '=' :: Percent.encodeForm value)
  { url with query := some (String.intercalate "&" written) }

end KernelClient.Url
