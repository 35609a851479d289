import NodeTrial.Url.Parser

/-! Base URLs. A name joined onto a URL takes the place of the last segment of its path, so the
path of a base URL is closed by a slash first: names then come after all its segments.
-/

namespace NodeTrial

namespace Url

/-- The path that a text gives to a URL in the place of another path of the same kind. A bare path
must not start with a slash, so that there it is percent-encoded.
-/
def pathAnew (scheme : String) (old : UrlPath) (text : List Char) : UrlPath :=
  match old, text with
  | .bare _, '/' :: rest =>
    .bare ("%2F" ++ String.ofList (Percent.encode Percent.isControl (visible rest)))
  | .bare _, text => .bare (String.ofList (Percent.encode Percent.isControl (visible text)))
  | .rooted _, text =>
    if scheme = "file" then .rooted (dropEmpty (readFilePath text).segments)
    else
      let special := isSpecial scheme
      .rooted (readSegments special false (belowRoot special text)).segments

/-- A URL with its path closed by a slash. The path is written out and read anew with the slash. -/
def closed (u : Url) : Url :=
  if u.path.text.toList.getLast? = some '/' then u
  else { u with path := pathAnew u.scheme u.path (u.path.text.toList ++ ['/']) }

def isWrittenDrive (segment : String) : Bool :=
  isDrive segment.toList && segment.toList.getLast? == some ':'

/-- The segments of a path in which a name takes the place of the last one. -/
def replaceLast (segments : List String) (name : String) : List String :=
  segments.dropLast ++ [name]

/-- The segments of a file's path with a name joined onto it: a drive at the end is kept. -/
def joinFile (segments : List String) (name : String) : List String :=
  match segments.reverse with
  | [] => [name]
  | last :: before =>
    if !isWrittenDrive last then replaceLast segments name
    else if before.isEmpty then [last, name]
    else replaceLast segments (last ++ name)

/-- The URL of a name relative to another URL: the name takes the place of the last segment,
and the query and the fragment are left out.
-/
def join (u : Url) (name : String) : Except UrlError Url :=
  match u.path with
  | .bare _ => .error .notABase
  | .rooted segments =>
    let joined := if u.scheme = "file" then joinFile segments name else replaceLast segments name
    .ok { u with path := .rooted joined, query := none, fragment := none }

/-- The base URL of a candidate, or of the default where there is no candidate that is a URL
with a path of segments.
-/
def base (candidate : Option String) (default : String) : Except UrlError Url :=
  match candidate.map parse with
  | some (.ok url) => if url.isBase then .ok url.closed else (parse default).map closed
  | _ => (parse default).map closed

end Url

end NodeTrial
