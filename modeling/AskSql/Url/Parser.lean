import AskSql.Url.Basic
import AskSql.Url.Domain

/-!
# Reading URLs

The absolute URL that a text stands for. Blanks around it and line breaks in it count for
nothing. For the common schemes, which all name a host, any number of slashes may stand in front
of the host, a backslash counts as a slash, and the host is brought into the form in which it is
looked up. Dot segments of a path are resolved.
-/

namespace AskSql.Url

open Text

/-! ## Schemes -/

/-- What the scheme of a URL asks of the rest. -/
inductive SchemeKind where
  /-- A common scheme, with its own port: the URL names a host. -/
  | common (port : Nat)
  /-- The scheme of files, whose URLs need no host. -/
  | file
  /-- Any other scheme. -/
  | other
  deriving Repr, DecidableEq

/-- The kind of a scheme. -/
def SchemeKind.of (scheme : Text) : SchemeKind :=
  match String.ofList scheme with
  | "http" | "ws" => .common 80
  | "https" | "wss" => .common 443
  | "ftp" => .common 21
  | "file" => .file
  | _ => .other

/-- A backslash counts as a slash. -/
def SchemeKind.takesBackslash (kind : SchemeKind) : Bool :=
  kind != .other

/-- The scheme's own port. -/
def SchemeKind.port? : SchemeKind → Option Nat
  | .common port => some port
  | _ => none

/-- The scheme at the start of a URL, lower-cased, and the text after its colon. -/
def scheme? (s : Text) : Option (Text × Text) :=
  match s.span fun c => isAsciiLetter c || isAsciiDigit c || c == '+' || c == '-' || c == '.' with
  | (c :: name, ':' :: rest) =>
    if isAsciiLetter c then some ((c :: name).map Char.toLower, rest) else none
  | _ => none

/-! ## Hosts -/

/-- The characters that end an authority. -/
def endsAuthority (kind : SchemeKind) (c : Char) : Bool :=
  c == '/' || c == '?' || c == '#' || (c == '\\' && kind.takesBackslash)

/-- The host of a common scheme, or of a file. -/
def commonHost? (s : Text) : Option Host := do
  let decoded ← (ofUtf8 0 (percentDecoded s)).toOption
  let name ← domain? decoded
  if name.isEmpty then none
  else
    let parts := splitWhere (· == '.') name
    if endsInNumber parts then (dotted? parts).map .dotted else some (.name name)

/-- The characters that no host of another scheme holds. -/
def isForbiddenInHost (c : Char) : Bool :=
  ['\x00', '\t', '\n', '\r', ' ', '#', '/', ':', '<', '>', '?', '@', '[', '\\', ']', '^',
    '|'].contains c

/-- The host that a text names, if it is not empty. -/
def Host.parse? (kind : SchemeKind) (s : Text) : Option Host :=
  match s with
  | '[' :: rest =>
    match rest.reverse with
    | ']' :: address => (colons? address.reverse).map .colons
    | _ => none
  | s =>
    if kind.takesBackslash then commonHost? s
    else if s.any isForbiddenInHost then none
    else some (.name (encode [] s))

/-- The part of an authority up to the colon in front of the port. Colons between brackets do
not count. -/
def spanHost (bracketed : Bool) : Text → Text × Text
  | [] => ([], [])
  | c :: s =>
    if c = ':' ∧ !bracketed then ([], c :: s)
    else
      let bracketed := if c = '[' then true else if c = ']' then false else bracketed
      let (host, rest) := spanHost bracketed s
      (c :: host, rest)

/-- The port that a text begins with, unless it is the scheme's own, and what follows it. -/
def port? (kind : SchemeKind) (s : Text) : Option (Option Nat × Text) :=
  let (digits, rest) := s.span isAsciiDigit
  let isEnd := match rest with
    | [] => true
    | c :: _ => c == '\\'
  if !isEnd then none
  else if digits.isEmpty then some (none, rest)
  else
    (unsigned? 0xFFFF digits).map fun port =>
      (if kind.port? = some port then none else some port, rest)

/-- Name and password of an authority, and the rest of it. They end at the last `@`. -/
def credentials (s : Text) : Option Text × Text :=
  match s.reverse.span (· != '@') with
  | (rest, '@' :: written) => (some written.reverse, rest.reverse)
  | _ => (none, s)

/-- The authority of a URL, and what of the text is left of it. Where a name stands in front of
a host, or a port behind it, the host is written. -/
def authority? (kind : SchemeKind) (s : Text) : Option (Authority × Text) := do
  let (written, s) := credentials s
  let (user, password) := match breakAt? ':' (written.getD []) with
    | some (user, password) =>
      (user, if password.isEmpty then none else some (encode userReserved password))
    | none => (written.getD [], none)
  let start : Authority := { user := encode userReserved user, password }
  let (host, rest) := spanHost false s
  if host.isEmpty then
    if kind != .other || !rest.isEmpty || !start.credentials.isEmpty || written = some [] then
      none
    else some (start, [])
  else
    let host ← Host.parse? kind host
    match rest with
    | [] => some ({ start with host := some host }, [])
    | _ :: rest =>
      let (port, rest) ← port? kind rest
      some ({ start with host := some host, port }, rest)

/-! ## Paths -/

/-- A path segment that stands for its own place. -/
def isDot (segment : Text) : Bool :=
  [".".toList, "%2e".toList].contains (segment.map Char.toLower)

/-- A path segment that stands for the place above it. -/
def isDotDot (segment : Text) : Bool :=
  ["..".toList, ".%2e".toList, "%2e.".toList, "%2e%2e".toList].contains
    (segment.map Char.toLower)

/-- A path segment that names a drive. -/
def isDrive : Text → Bool
  | [c, mark] => isAsciiLetter c && (mark == ':' || mark == '|')
  | _ => false

/-- The segments `done`, last one first, without the last one. A drive is not left. -/
def above (kind : SchemeKind) (done : List Text) : List Text :=
  match kind, done with
  | .file, [segment] => if isDrive segment then [segment] else []
  | _, done => done.tail

/-- A segment as it is written at its place. -/
def placed (kind : SchemeKind) (done : List Text) (segment : Text) : Text :=
  match kind, done, isDrive segment with
  | .file, [], true => segment.take 1 ++ [':']
  | _, _, _ => segment

/-- The segments of a path with dot segments resolved, after the segments `done`, last one
first. -/
def resolve (kind : SchemeKind) (done : List Text) : List Text → List Text
  | [] => done.reverse
  | [s] =>
    if isDotDot s then ([] :: above kind done).reverse
    else if isDot s then ([] :: done).reverse
    else (placed kind done s :: done).reverse
  | s :: rest =>
    if isDotDot s then resolve kind (above kind done) rest
    else if isDot s then resolve kind done rest
    else resolve kind (placed kind done s :: done) rest

/-- The path with the segments of `s`, percent-encoded. -/
def segmentPath (kind : SchemeKind) (s : Text) : Text :=
  let isSlash := fun c => c == '/' || (c == '\\' && kind.takesBackslash)
  let s := match s with
    | [] => []
    | c :: rest => if isSlash c then rest else c :: rest
  let segments := resolve kind [] ((splitWhere isSlash s).map (encode pathReserved))
  let path := segments.flatMap ('/' :: ·)
  if kind = .file then '/' :: path.dropWhile (· == '/') else path

/-- The path after an authority. -/
def pathAfterAuthority (kind : SchemeKind) (s : Text) : Text :=
  if s.isEmpty && kind = .other then [] else segmentPath kind s

/-! ## URLs -/

/-- The host and the path of the URL of a file. The machine itself is no host, and a drive is
looked for on no other machine. -/
def filePath? (s : Text) : Option (Option Host × Text) :=
  let isSlash := fun c => c == '/' || c == '\\'
  match s with
  | a :: b :: rest =>
    if isSlash a && isSlash b then
      let (name, path) := rest.span (!isSlash ·)
      if isDrive name then some (none, segmentPath .file rest)
      else if name.isEmpty then some (none, segmentPath .file path)
      else do
        let host ← Host.parse? .file name
        let segments := segmentPath .file path
        let hasDrive := isDrive ((segments.drop 1).takeWhile (· != '/'))
        if host = .name "localhost".toList || hasDrive then some (none, segments)
        else some (some host, segments)
    else some (none, segmentPath .file s)
  | s => some (none, segmentPath .file s)

/-- A text without what counts for nothing in a URL. -/
def strippedText (s : Text) : Text :=
  let isVisible := fun c : Char => 0x20 < c.toNat
  (dropEndWhile (!isVisible ·) (s.dropWhile (!isVisible ·))).filter
    fun c => c != '\t' && c != '\n' && c != '\r'

/-- The authority and the path of a URL, from what stands between its scheme and its query. -/
def place? (kind : SchemeKind) (s : Text) : Option (Option Authority × Text) :=
  match kind with
  | .file => (filePath? s).map fun (host, path) => (some { host }, path)
  | .common _ => do
    let (written, path) := (s.dropWhile fun c => c == '/' || c == '\\').span (!endsAuthority kind ·)
    let (authority, _) ← authority? kind written
    some (some authority, pathAfterAuthority kind path)
  | .other =>
    match s with
    | '/' :: '/' :: s => do
      let (written, path) := s.span (!endsAuthority kind ·)
      let (authority, rest) ← authority? kind written
      some (some authority, pathAfterAuthority kind (rest ++ path))
    | '/' :: _ => some (none, segmentPath kind s)
    | s => some (none, encode [] s)

/-- The URL that a text stands for, if it is an absolute one. -/
def parse? (s : Text) : Option Url := do
  let (scheme, s) ← scheme? (strippedText s)
  let kind := SchemeKind.of scheme
  let (s, fragment) := match breakAt? '#' s with
    | some (s, fragment) => (s, some (encode fragmentReserved fragment))
    | none => (s, none)
  let (s, query) := match breakAt? '?' s with
    | some (s, query) => (s, some (encode (queryReserved (kind != .other)) query))
    | none => (s, none)
  let (authority, path) ← place? kind s
  some { scheme, authority, path, query, fragment }

end AskSql.Url
