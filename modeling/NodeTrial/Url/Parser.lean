import NodeTrial.Url.Host

/-! Reading URLs. The scheme is cut off at its colon, the fragment and the query at their marks.
What is left is an authority and a path, and how they are told apart depends on the scheme:
special ones take backslashes for slashes and any number of them before the authority. Tabs and
line ends count for nothing, but for one place in the path of a file.
-/

namespace NodeTrial.Url

open Text (splitFirst? splitLast? sections upTo)

/-- A tab or a line end, which is no part of a URL. -/
def isIgnored (c : Char) : Bool :=
  c == '\t' || c == '\n' || c == '\r'

/-- What is left of a text without its tabs and line ends. -/
def visible (cs : List Char) : List Char :=
  cs.filter fun c => !isIgnored c

/-- Takes the controls and spaces off both ends of a text. -/
def core (cs : List Char) : List Char :=
  let outer (c : Char) : Bool := c ≤ ' '
  ((cs.dropWhile outer).reverse.dropWhile outer).reverse

/-- A character that a scheme may hold after its first one, which is a letter. -/
def inScheme (c : Char) : Bool :=
  c.isAlphanum || ['+', '-', '.'].contains c

/-- The scheme in lower case, and what follows its colon. -/
def splitScheme? (cs : List Char) : Option (String × List Char) := do
  let (before, rest) ← splitFirst? (· == ':') cs
  match visible before with
  | first :: more =>
    if first.isAlpha && more.all inScheme then
      some (String.ofList ((first :: more).map Char.toLower), rest)
    else none
  | [] => none

/-- The parts before and after a mark; without the mark there is no part after. -/
def cutAt (mark : Char) (cs : List Char) : List Char × Option (List Char) :=
  match splitFirst? (· == mark) cs with
  | some (before, after) => (before, some after)
  | none => (cs, none)

/-- The characters that separate the segments of a path. -/
def isSeparator (special : Bool) (c : Char) : Bool :=
  c == '/' || (special && c == '\\')

/-- A segment that stands for the place it is in. -/
def isDot (segment : List Char) : Bool :=
  [".", "%2e"].contains (String.ofList (segment.map Char.toLower))

/-- A segment that stands for the place above. -/
def isDoubleDot (segment : List Char) : Bool :=
  ["..", ".%2e", "%2e.", "%2e%2e"].contains (String.ofList (segment.map Char.toLower))

/-- A segment that names a drive: a letter and a colon or a bar. -/
def isDrive : List Char → Bool
  | [letter, mark] => letter.isAlpha && [':', '|'].contains mark
  | _ => false

/-- A segment that starts with a drive, and ends there or goes on with a delimiter. -/
def startsWithDrive (segment : List Char) : Bool :=
  isDrive (segment.take 2)
    && (segment.drop 2).head?.all fun c => ['/', '\\', '?', '#'].contains c

def writtenDrive (segment : List Char) : String :=
  String.ofList (segment.take 1 ++ [':'])

/-- The path above; a segment that starts with a drive has none above it. -/
def above (path : List String) : List String :=
  if path.getLast?.any fun last => startsWithDrive last.toList then path else path.dropLast

/-- What has been read of a path: its segments, and whether a drive was found at its front. -/
structure PathReading where
  segments : List String
  drive : Bool

namespace PathReading

def add (p : PathReading) (segments : List String) : PathReading :=
  { p with segments := p.segments ++ segments }

end PathReading

def writtenSegment (segment : List Char) : String :=
  String.ofList (Percent.encode Percent.inPath segment)

/-- The two segments that a drive and what follows it make when a tab or a line end divides
them.
-/
def dividedDrive? (segment : List Char) : Option (List String) := do
  let (before, after) ← splitFirst? (· == ':') segment
  let drive := visible before ++ [':']
  let rest := visible after
  if isDrive drive && after.head?.any isIgnored && !rest.isEmpty then
    some [writtenDrive drive, writtenSegment rest]
  else none

/-- Adds the first segment of a file's path, which may be a drive. -/
def addFront (p : PathReading) (segment : List Char) : PathReading :=
  match dividedDrive? segment with
  | some segments => p.add segments
  | none =>
    if isDrive (visible segment) then ⟨[writtenDrive (visible segment)], true⟩
    else p.add [writtenSegment (visible segment)]

/-- Adds one segment to a path; dots move in it, and at its end they leave an empty segment. -/
def addSegment (file last : Bool) (p : PathReading) (segment : List Char) : PathReading :=
  let closing := if last then [""] else []
  if file && p.segments.isEmpty && (dividedDrive? segment).isSome then addFront p segment
  else if isDoubleDot (visible segment) then
    { p with segments := above p.segments ++ closing }
  else if isDot (visible segment) then p.add closing
  else if file && p.segments.isEmpty then addFront p segment
  else p.add [writtenSegment (visible segment)]

def addSegments (file : Bool) : PathReading → List (List Char) → PathReading
  | path, [] => path
  | path, [last] => addSegment file true path last
  | path, segment :: rest => addSegments file (addSegment file false path segment) rest

def readSegments (special file : Bool) (cs : List Char) : PathReading :=
  addSegments file ⟨[], false⟩ (sections (isSeparator special) cs)

/-- What follows the slash at the front of a path, which is its root. -/
def belowRoot (special : Bool) (cs : List Char) : List Char :=
  match cs.dropWhile isIgnored with
  | c :: rest => if isSeparator special c then rest else cs
  | [] => []

/-- The segments of a path after a host; only a special scheme needs any. -/
def readPath (special : Bool) (cs : List Char) : List String :=
  if cs.isEmpty && !special then []
  else (readSegments special false (belowRoot special cs)).segments

/-- Empty segments at the front of a file's path do not count, the last segment aside. -/
def dropEmpty : List String → List String
  | "" :: next :: rest => dropEmpty (next :: rest)
  | path => path

/-- The user name and the password before a host. -/
def readUserinfo (cs : List Char) : String × String :=
  let (name, secret) := cutAt ':' cs
  let encode (part : List Char) := String.ofList (Percent.encode Percent.inUserinfo part)
  (encode name, encode (secret.getD []))

/-- The host of an authority and what follows it, from a colon outside of brackets on. -/
def splitHost : (bracketed : Bool) → List Char → List Char × List Char
  | _, [] => ([], [])
  | bracketed, c :: rest =>
    if c = ':' ∧ ¬bracketed then ([], c :: rest)
    else
      let inside := if c = '[' then true else if c = ']' then false else bracketed
      let (host, after) := splitHost inside rest
      (c :: host, after)

/-- Reads the port after a colon; the default one is left out. A backslash may end it. -/
def readPort (default : Option UInt16) (cs : List Char)
    : Except UrlError (Option UInt16 × List Char) :=
  let (digits, rest) := upTo (fun c => !c.isDigit) cs
  let value := (Host.numberIn? 10 digits).getD 0
  if UInt16.size ≤ value then .error .badPort
  else if rest.isEmpty || rest.head? == some '\\' then
    let port := UInt16.ofNat value
    .ok (if digits.isEmpty ∨ default = some port then none else some port, rest)
  else .error .badPort

/-- A port, if a colon starts one. -/
def readOptionalPort (default : Option UInt16) (cs : List Char)
    : Except UrlError (Option UInt16 × List Char) :=
  match cs with
  | ':' :: rest => readPort default rest
  | rest => .ok (none, rest)

/-- The credentials that a sign ends, and the address after them. -/
def cutUserinfo (cs : List Char) : Option (List Char) × List Char :=
  match splitLast? (· == '@') cs with
  | some (info, address) => (some info, address)
  | none => (none, cs)

/-- Reads a host; which forms it may have depends on the scheme. -/
def readHost (scheme : String) (name : List Char) : Except UrlError Host :=
  if isSpecial scheme then Host.read name else Host.readPlain name

/-- Reads an authority; `followed` says that something follows it. What is over after the port
belongs to the path.
-/
def readAuthority (scheme : String) (followed : Bool) (cs : List Char)
    : Except UrlError (Url × List Char) := do
  let (info, address) := cutUserinfo cs
  if info = some [] ∧ address.isEmpty ∧ followed then throw .emptyHost
  let (username, password) := readUserinfo (info.getD [])
  let (name, rest) := splitHost false address
  if isSpecial scheme && name.isEmpty then throw .emptyHost
  let host ← readHost scheme name
  if host.isEmpty && !rest.isEmpty then throw .emptyHost
  let (port, rest) ← readOptionalPort (defaultPort? scheme) rest
  if host.isEmpty ∧ ¬(username = "" ∧ password = "") then throw .emptyHost
  let url :=
    { scheme, username, password, host := some host, port
      path := .rooted [], query := none, fragment := none }
  return (url, rest)

/-- A URL without credentials, port, query and fragment. -/
def plain (scheme : String) (host : Option Host) (path : UrlPath) : Url :=
  { scheme, username := "", password := "", host, port := none
    path, query := none, fragment := none }

/-- Reads what follows two slashes: an authority, then a path. -/
def readHostAndPath (scheme : String) (followed : Bool) (cs : List Char)
    : Except UrlError Url := do
  let (authority, pathText) := upTo (isSeparator (isSpecial scheme)) cs
  let (url, rest) ← readAuthority scheme (followed || !pathText.isEmpty) authority
  return { url with path := .rooted (readPath (isSpecial scheme) (rest ++ pathText)) }

/-- The host of a file's URL: none is the empty domain, and so is the machine itself. -/
def readFileHost (cs : List Char) : Except UrlError Host :=
  if cs.isEmpty then .ok (.domain "")
  else do
    let host ← Host.read cs
    return if host = .domain "localhost" then .domain "" else host

/-- The URL of a file: a path with a drive at its front has no host. -/
def fileUrl (host : Host) (path : PathReading) : Url :=
  let host := if path.drive then .domain "" else host
  plain "file" (some host) (.rooted (dropEmpty path.segments))

/-- The path of a file below its root. -/
def readFilePath (cs : List Char) : PathReading :=
  readSegments true true (belowRoot true cs)

/-- What follows two slashes at the front of a text. -/
def afterSlashes? (cs : List Char) : Option (List Char) :=
  let slash? (cs : List Char) : Option (List Char) :=
    match cs.dropWhile isIgnored with
    | c :: rest => if isSeparator true c then some rest else none
    | [] => none
  slash? cs >>= slash?

/-- Reads what follows the scheme `file`: after two slashes a host, unless a drive stands in
its place, and a path. Without a host the slash before the path makes an empty segment, so that
what follows is not at the front.
-/
def readFile (cs : List Char) : Except UrlError Url :=
  match afterSlashes? cs with
  | none => .ok (fileUrl (.domain "") (readFilePath cs))
  | some rest => do
    let (name, pathText) := upTo (isSeparator true) rest
    if isDrive (visible name) then
      return fileUrl (.domain "") (readSegments true true rest)
    let host ← readFileHost (visible name)
    if host.isEmpty then return fileUrl host (readSegments true true pathText)
    return fileUrl host (readFilePath pathText)

/-- Reads what follows a scheme, up to the query. -/
def readBody (scheme : String) (followed : Bool) (cs : List Char) : Except UrlError Url :=
  if scheme = "file" then readFile cs
  else if isSpecial scheme then
    readHostAndPath scheme followed ((visible cs).dropWhile (isSeparator true))
  else
    match visible cs with
    | '/' :: '/' :: rest => readHostAndPath scheme followed rest
    | '/' :: rest => .ok (plain scheme none (.rooted (readSegments false false rest).segments))
    | cs =>
      .ok (plain scheme none (.bare (String.ofList (Percent.encode Percent.isControl cs))))

/-- Reads a URL; its text must start with a scheme. -/
def parse (s : String) : Except UrlError Url :=
  match splitScheme? (core s.toList) with
  | none => .error .noScheme
  | some (scheme, rest) => do
    let (rest, fragment) := cutAt '#' rest
    let (body, query) := cutAt '?' rest
    let inQuery := if isSpecial scheme then Percent.inSpecialQuery else Percent.inQuery
    let written (set : Char → Bool) (cs : List Char) : String :=
      String.ofList (Percent.encode set (visible cs))
    let url ← readBody scheme (query.isSome || fragment.isSome) body
    return { url with
      query := query.map (written inQuery)
      fragment := fragment.map (written Percent.inFragment) }

end NodeTrial.Url
