import ChatClient.Url.Basic
import ChatClient.Url.Domain

/-!
Reading addresses, alone or relative to another. Reading is lenient: white space around an address,
tabs and line breaks in it, backslashes for slashes and missing slashes are put right where the scheme
is known.
-/
namespace ChatClient.Url

open Text (digit?)

/-- Where a scheme begins, a letter; then letters, digits and three signs. -/
def isSchemeChar (c : Char) : Bool :=
  c.isAlphanum || c = '+' || c = '-' || c = '.'

/-- The scheme and what follows its colon. -/
def cutScheme (cs : List Char) : Option (String × List Char) :=
  match cs with
  | c :: _ =>
    match cs.dropWhile isSchemeChar with
    | ':' :: rest =>
      if c.isAlpha then some (String.ofList ((cs.takeWhile isSchemeChar).map Char.toLower), rest)
      else none
    | _ => none
  | [] => none

/-- Whether a character separates segments. -/
def isSlash (known : Bool) (c : Char) : Bool :=
  c = '/' || (known && c = '\\')

/-- Whether a character ends the part with user, host and port. -/
def endsAuthority (known : Bool) (c : Char) : Bool :=
  isSlash known c || c = '?' || c = '#'

/-- The query and the fragment, from the character on that begins the first of them. -/
def endings (known : Bool) (cs : List Char) : Option String × Option String :=
  let (query, fragment) := cs.span (· ≠ '#')
  let set := if known then knownQuerySet else querySet
  ((match query with
    | '?' :: query => some (escape set query)
    | _ => none),
   (match fragment with
    | _ :: fragment => some (escape fragmentSet fragment)
    | [] => none))

def isSingleDot (part : String) : Bool :=
  [".", "%2e"].contains part.toLower

def isDoubleDot (part : String) : Bool :=
  ["..", ".%2e", "%2e.", "%2e%2e"].contains part.toLower

/-- The segments above the last one. Nothing is above a drive. -/
def goUp (above : List String) : List String :=
  if above.getLast?.any isDrive then above else above.dropLast

/-- The segments below `above` that the parts of a path lead to. One dot stays, two dots go up; at the
end both leave a directory. The first segment may be a drive. -/
def walk (drives : Bool) (above : List String) : List (List Char) → List String
  | [] => above
  | part :: parts =>
    let s := escape pathSet part
    let dirs :=
      if isDoubleDot s then goUp above
      else if isSingleDot s then above
      else above ++ [if drives && above.isEmpty then withColon s else s]
    if parts.isEmpty then if isDoubleDot s || isSingleDot s then dirs ++ [""] else dirs
    else walk drives dirs parts

/-- Cuts at every separator. -/
def cutSegments (known : Bool) (cs : List Char) : List (List Char) :=
  Text.cutAll '/' (cs.map fun c => if isSlash known c then '/' else c)

/-- Whether a character is part of a path, and not the start of a query or a fragment. -/
def inPath (c : Char) : Bool := c ≠ '?' && c ≠ '#'

/-- The segments that the path in front leads to from `above`. -/
def leadingSegments (scheme : String) (above : List String) (cs : List Char) : List String :=
  walk (scheme = "file") above (cutSegments (isKnownScheme scheme) (cs.takeWhile inPath))

/-- Fills in the path that leads on from `above`, the query and the fragment. -/
def withPath (u : Url) (above : List String) (cs : List Char) : Url :=
  let parts := leadingSegments u.scheme above cs
  let parts :=
    if u.scheme = "file" then
      match parts.dropWhile (· = "") with
      | [] => [""]
      | parts => parts
    else parts
  let (query, fragment) := endings (isKnownScheme u.scheme) (cs.dropWhile inPath)
  { u with path := .segments parts, query, fragment }

/-- Fills in what follows the host. The path of a known scheme is never empty. -/
def withPathAfterHost (u : Url) (cs : List Char) : Url :=
  let known := isKnownScheme u.scheme
  match cs with
  | c :: rest =>
    if isSlash known c then withPath u [] rest
    else if !known && (c = '?' || c = '#') then
      let (query, fragment) := endings known cs
      { u with path := .segments [], query, fragment }
    else withPath u [] cs
  | [] => { u with path := .segments (if known then [""] else []), query := none, fragment := none }

/-- Fills in what follows a scheme that has no place in a tree. -/
def withWholePath (u : Url) (cs : List Char) : Url :=
  let (path, rest) := cs.span fun c => c ≠ '?' && c ≠ '#'
  let (query, fragment) := endings (isKnownScheme u.scheme) rest
  { u with path := .whole (escape controlSet path), query, fragment }

/-- The part before the last `@`, and what follows it. -/
def cutAtLast (cs : List Char) : Option (List Char × List Char) :=
  match cs.reverse.span (· ≠ '@') with
  | (after, _ :: before) => some (before.reverse, after.reverse)
  | (_, []) => none

/-- The user and the password, and what follows them. An empty user with nothing behind it is an
empty host. -/
def cutUser (known : Bool) (cs : List Char) :
    Except Fault (String × Option String × List Char) :=
  let (authority, rest) := cs.span (!endsAuthority known ·)
  match cutAtLast authority with
  | none => .ok ("", none, cs)
  | some ([], after) =>
    if after.isEmpty && !rest.isEmpty then .error .emptyHost else .ok ("", none, after ++ rest)
  | some (user, after) =>
    let (name, password) := user.span (· ≠ ':')
    let password := match password with
      | _ :: c :: password => some (escape userSet (c :: password))
      | _ => none
    .ok (escape userSet name, password, after ++ rest)

/-- The host, which ends at a colon outside brackets, and what follows it. -/
def cutHost (known : Bool) (inBrackets : Bool) : List Char → List Char × List Char
  | [] => ([], [])
  | c :: cs =>
    if (c = ':' && !inBrackets) || endsAuthority known c then ([], c :: cs)
    else
      let inBrackets := if c = '[' then true else if c = ']' then false else inBrackets
      let (host, rest) := cutHost known inBrackets cs
      (c :: host, rest)

/-- The inner text of brackets around a whole text. -/
def unbracket? (cs : List Char) : Option (List Char) :=
  match cs.reverse with
  | ']' :: inner => some inner.reverse
  | _ => none

/-- Characters that the host of an unknown scheme may not hold. -/
def breaksHost (c : Char) : Bool :=
  ['\x00', '\t', '\n', '\r', ' ', '#', '/', ':', '<', '>', '?', '@', '[', '\\', ']', '^', '|'].contains c

/-- The host that a text stands for. -/
def readHost (known : Bool) (cs : List Char) : Except Fault Host :=
  match cs with
  | '[' :: rest =>
    match unbracket? rest with
    | some inner => (Ipv6.parse inner).map .ipv6
    | none => .error .badIpv6
  | cs =>
    if known then
      if cs.isEmpty then .error .emptyHost
      else do
        let name ← Domain.parse cs
        if Ipv4.endsInNumber name.toList then .ipv4 <$> Ipv4.parse name.toList else .ok (.name name)
    else if cs.any breaksHost then .error .badHostCharacter
    else .ok (.name (escape controlSet cs))

/-- The number after the colon behind a host, and what follows it. Nothing but a path, a query or a
fragment may follow. -/
def readPort (scheme : String) (cs : List Char) : Except Fault (Option Nat × List Char) :=
  let (digits, rest) := cs.span (digit? · |>.isSome)
  let bounded := match rest with
    | c :: _ => endsAuthority true c
    | [] => true
  match Text.digitsFrom? 10 0 digits with
  | some n =>
    if n < Text.limit16 && bounded then
      .ok (if digits.isEmpty || defaultPort? scheme = some n then none else some n, rest)
    else .error .badPort
  | none => .error .badPort

/-- Reads what follows the two slashes in front of a host. -/
def readAuthority (scheme : String) (cs : List Char) : Except Fault Url := do
  let known := isKnownScheme scheme
  let (user, password, cs) ← cutUser known cs
  let (text, rest) := cutHost known false cs
  let host ← readHost known text
  let (port, rest) ← match rest with
    | ':' :: rest => if text.isEmpty then .error .emptyHost else readPort scheme rest
    | rest => .ok (none, rest)
  if text.isEmpty && (user ≠ "" || password.isSome) then .error .emptyHost
  else .ok (withPathAfterHost ⟨scheme, user, password, some host, port, .segments [], none, none⟩ rest)

/-- The host of a tree of files, and what follows it. The local host is none, and a drive is no host. -/
def readFileHost (cs : List Char) : Except Fault (String × List Char) := do
  let (text, rest) := cs.span (!endsAuthority true ·)
  if text.isEmpty then .ok ("", rest)
  else if isDrive (String.ofList text) then .ok ("", cs)
  else
    let host ← readHost true text
    .ok (if host.text = "localhost" then "" else host.text, rest)

/-- An address without a host. -/
def withoutHost (u : Url) : Url := { u with host := some (.name "") }

/-- Fills in what follows the host of a tree of files. A path that starts with a drive needs no host. -/
def withFilePath (u : Url) (cs : List Char) : Url :=
  let cs := match cs with
    | c :: rest => if isSlash true c then rest else cs
    | [] => []
  let onDrive := (leadingSegments u.scheme [] cs).head?.any isDrive
  withPath (if onDrive then withoutHost u else u) [] cs

/-- Whether a path starts with a drive. -/
def startsWithDrive (cs : List Char) : Bool :=
  isDrive (String.ofList (cs.takeWhile (!endsAuthority true ·)))

/-- The directory that a path from the root starts in: a drive stays the same. -/
def rootOf (base : Url) (cs : List Char) : Url × List String :=
  if startsWithDrive cs then (withoutHost base, [])
  else
    match base.segments with
    | first :: _ => if isPlainDrive first then (withoutHost base, [first]) else (base, [])
    | [] => (base, [])

/-- The directory that an address in a tree of files is in. A drive is a directory itself. -/
def directoryOf (base : Url) : List String :=
  if base.segments.getLast?.any isPlainDrive then base.segments else base.segments.dropLast

/-- An address with the parts of its base up to the query, and another query and fragment. -/
def withEndings (base : Url) (cs : List Char) : Url :=
  let (query, fragment) := endings (isKnownScheme base.scheme) cs
  { base with query, fragment }

/-- Reads what follows the scheme of a tree of files. -/
def readFile (base : Option Url) (cs : List Char) : Except Fault Url :=
  let start : Url := ⟨"file", "", none, some (.name ""), none, .segments [""], none, none⟩
  let base := base.getD start
  match cs with
  | [] => .ok { base with fragment := none }
  | '?' :: _ => .ok (withEndings base cs)
  | '#' :: rest => .ok { base with fragment := some (escape fragmentSet rest) }
  | c :: rest =>
    if isSlash true c then
      if rest.head?.any (isSlash true) then do
        let (host, after) ← readFileHost (rest.drop 1)
        if host = "" then .ok (withPath start [] after)
        else .ok (withFilePath { start with host := some (.name host) } after)
      else
        let (base, above) := rootOf base rest
        .ok (withPath base above rest)
    else if startsWithDrive cs then .ok (withPath start [] cs)
    else .ok (withPath base (directoryOf base) cs)

/-- Reads an address that leaves out what it has in common with `base`. -/
def readRelative (base : Url) (cs : List Char) : Except Fault Url :=
  match cs with
  | [] => .ok { base with fragment := none }
  | '?' :: _ => .ok (withEndings base cs)
  | '#' :: rest => .ok { base with fragment := some (escape fragmentSet rest) }
  | '/' :: '/' :: rest => readAuthority base.scheme rest
  | c :: rest =>
    if isSlash true c then
      match rest with
      | d :: _ =>
        if isSlash true d then readAuthority base.scheme (rest.dropWhile (isSlash true))
        else .ok (withPath base [] rest)
      | [] => .ok (withPath base [] [])
    else .ok (withPath base base.segments.dropLast cs)

/-- Reads what follows the colon of a scheme. An address of the base's own known scheme without two
slashes is relative to it. -/
def readAfterScheme (base : Option Url) (scheme : String) (cs : List Char) : Except Fault Url :=
  let base := base.filter (·.scheme = scheme)
  if scheme = "file" then readFile base cs
  else if isKnownScheme scheme then
    let after := cs.dropWhile (isSlash true)
    match base with
    | some base => if cs.length < after.length + 2 then readRelative base cs else readAuthority scheme after
    | none => readAuthority scheme after
  else
    let bare : Url := ⟨scheme, "", none, none, none, .segments [], none, none⟩
    match cs with
    | '/' :: '/' :: rest => readAuthority scheme rest
    | '/' :: rest => .ok (withPath bare [] rest)
    | cs => .ok (withWholePath bare cs)

/-- The characters of an address: none at the ends up to the space, no tab and no line break. -/
def significant (s : String) : List Char :=
  let isEdge (c : Char) : Bool := c.toNat ≤ 0x20
  (Text.dropEnd isEdge (s.toList.dropWhile isEdge)).filter fun c => c ≠ '\t' && c ≠ '\n' && c ≠ '\r'

/-- Reads an address by itself. -/
def parse (s : String) : Except Fault Url :=
  match cutScheme (significant s) with
  | some (scheme, rest) => readAfterScheme none scheme rest
  | none => .error .noBase

/-- Reads an address, relative to `base` if it has no scheme. -/
def join (base : Url) (s : String) : Except Fault Url :=
  let cs := significant s
  match cutScheme cs with
  | some (scheme, rest) => readAfterScheme (some base) scheme rest
  | none =>
    match cs, base.path with
    | '#' :: rest, _ => .ok { base with fragment := some (escape fragmentSet rest) }
    | _, .whole _ => .error .baseHasNoPath
    | cs, .segments _ => if base.scheme = "file" then readFile (some base) cs else readRelative base cs

end ChatClient.Url
