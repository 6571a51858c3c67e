import ServiceApi.Text.Blank
import ServiceApi.Url.Host
import ServiceApi.Url.Path

/-!
# Reading URLs

`Url.parse` reads an absolute URL and `Url.join` one that may be relative to a base. Blanks and
control characters around the text, and tabs and line breaks anywhere in it, count for nothing. In
the special schemes a backslash is a slash, an authority needs a host, and a default port is left
out.
-/

namespace ServiceApi.Url

def defaultPort? : String → Option Nat
  | "http" | "ws" => some 80
  | "https" | "wss" => some 443
  | "ftp" => some 21
  | _ => none

/-- The text without what counts for nothing. -/
def clean (s : String) : List Char :=
  let cs := Text.dropTailWhile (·.toNat ≤ 0x20) (s.toList.dropWhile (·.toNat ≤ 0x20))
  cs.filter fun c => c != '\t' && c != '\n' && c != '\r'

def isSchemeChar (c : Char) : Bool := c.isAlphanum || c == '+' || c == '-' || c == '.'

/-- The scheme in lower case and what follows its colon. -/
def cutScheme (cs : List Char) : Option (String × List Char) :=
  match cs.takeWhile isSchemeChar, cs.dropWhile isSchemeChar with
  | c :: name, ':' :: rest =>
    if c.isAlpha then some (String.ofList ((c :: name).map Char.toLower), rest) else none
  | _, _ => none

/-- What ends an authority. -/
def endsAuthority (special : Bool) (c : Char) : Bool := isSlash special c || endsPath c

/-! ## Query and fragment -/

def withFragment (u : Url) (cs : List Char) : Url :=
  match cs with
  | '#' :: fragment =>
    { u with fragment := some (String.ofList (escape escapedInFragment fragment)) }
  | _ => { u with fragment := none }

def withQueryAndFragment (u : Url) (cs : List Char) : Url :=
  match cs with
  | '?' :: rest =>
    let query := escape (escapedInQuery (isSpecial u.scheme)) (rest.takeWhile (· != '#'))
    withFragment { u with query := some (String.ofList query) } (rest.dropWhile (· != '#'))
  | cs => withFragment { u with query := none } cs

/-! ## Authorities -/

/-- The port, without the default one, and the rest. -/
def readPort (scheme : String) (cs : List Char) : Except ParseError (Option Nat × List Char) :=
  let digits := cs.takeWhile Char.isDigit
  let rest := cs.dropWhile Char.isDigit
  let port := (Text.decimal? digits).getD 0
  if 0xFFFF < port then .error .invalidPort
  else if rest.head?.any (fun c => !(['/', '\\', '?', '#'].contains c)) then .error .invalidPort
  else if digits.isEmpty || some port == defaultPort? scheme then .ok (none, rest)
  else .ok (some port, rest)

/-- How many characters the host has: up to the end of the authority or a colon out of brackets. -/
def hostLength (special : Bool) (inBrackets : Bool) : List Char → Nat
  | [] => 0
  | c :: cs =>
    if endsAuthority special c || (c == ':' && !inBrackets) then 0
    else hostLength special (c == '[' || (inBrackets && c != ']')) cs + 1

/-- Cuts after the last `@`. -/
def cutCredentials (cs : List Char) : Option (List Char × List Char) :=
  if cs.contains '@' then
    let host := (cs.reverse.takeWhile (· != '@')).reverse
    some (cs.take (cs.length - host.length - 1), host)
  else none

/-- The URL after the two slashes of its authority. -/
def readAuthority (scheme : String) (cs : List Char) : Except ParseError Url := do
  let special := isSpecial scheme
  let authority := cs.takeWhile (!endsAuthority special ·)
  let rest := cs.dropWhile (!endsAuthority special ·)
  let (credentials, hostAndPort) := (cutCredentials authority).getD ([], authority)
  let username := escape escapedInCredentials (credentials.takeWhile (· != ':'))
  let password := escape escapedInCredentials ((credentials.dropWhile (· != ':')).drop 1)
  if (cutCredentials authority).isSome && credentials.isEmpty && hostAndPort.isEmpty &&
      !rest.isEmpty then
    throw .emptyHost
  let length := hostLength special false hostAndPort
  let hostText := hostAndPort.take length
  let afterHost := hostAndPort.drop length ++ rest
  if special && hostText.isEmpty then throw .emptyHost
  let host ← if special then Host.parse hostText else Host.parseOpaque hostText
  if hostText.isEmpty &&
    (afterHost.head? == some ':' || !(username.isEmpty && password.isEmpty)) then
    throw .emptyHost
  let (port, afterPort) ← match afterHost with
    | ':' :: cs => readPort scheme cs
    | cs => .ok (none, cs)
  let (path, rest) := readPathStart scheme afterPort
  return withQueryAndFragment {
    scheme, username := String.ofList username, password := String.ofList password,
    host := some host, port, path := String.ofList path } rest

/-! ## Files -/

/-- The path of a file begins with one slash. -/
def singleRoot (path : List Char) : String := String.ofList ('/' :: path.dropWhile (· == '/'))

def fileUrl (host : Host) (path rest : List Char) : Url :=
  withQueryAndFragment { scheme := "file", host := some host, path := singleRoot path } rest

def noHost : Host := .domain ""

/-- The first segment of a path, if it is a drive letter as it is written down. -/
def driveOf? : List Char → Option (List Char)
  | '/' :: path => some (path.takeWhile (· != '/')) |>.filter isWrittenDrive
  | _ => none

/-- A file URL after its host: a path that begins with a drive letter takes no host. -/
def fileUrlWithHost (host : Host) (cs : List Char) : Url :=
  let (path, rest) := readPathStart "file" cs
  fileUrl (if (driveOf? path).isSome then noHost else host) path rest

def readFileHost (cs : List Char) : Except ParseError Url := do
  let text := cs.takeWhile (!endsAuthority true ·)
  let rest := cs.dropWhile (!endsAuthority true ·)
  if isDriveLetter text then
    let (path, rest) := readPath "file" ['/'] cs
    return fileUrl noHost path rest
  else if text.isEmpty then return fileUrlWithHost noHost rest
  else
    let host ← Host.parse text
    return fileUrlWithHost (if host = .domain "localhost" then noHost else host) rest

/-- A file URL after its scheme, relative to the file URL `base?` if there is one. -/
def readFile (base? : Option Url) (cs : List Char) : Except ParseError Url :=
  match cs with
  | c :: rest =>
    if isSlash true c then
      match rest with
      | d :: afterSlashes =>
        if isSlash true d then readFileHost afterSlashes else .ok (onRoot rest)
      | [] => .ok (onRoot rest)
    else relative
  | [] => relative
where
  onRoot (cs : List Char) : Url :=
    let (path, host) := match if startsWithDrive cs then none else base? with
      | none => (['/'], noHost)
      | some base => match driveOf? base.path.toList with
        | some drive => ('/' :: drive ++ ['/'], noHost)
        | none => (['/'], base.host.getD noHost)
    let (path, rest) := readPath "file" path cs
    fileUrl host path rest
  relative : Except ParseError Url :=
    match base? with
    | none =>
      let (path, rest) := readPath "file" ['/'] cs
      .ok (fileUrl noHost path rest)
    | some base =>
      match cs with
      | [] => .ok { base with fragment := none }
      | '?' :: _ => .ok (withQueryAndFragment base cs)
      | '#' :: _ => .ok (withFragment base cs)
      | cs =>
        if startsWithDrive cs then
          let (path, rest) := readPath "file" ['/'] cs
          .ok (fileUrl noHost path rest)
        else
          let (path, rest) := readPath "file" (shorten true base.path.toList) cs
          .ok (withQueryAndFragment { base with path := singleRoot path } rest)

/-! ## URLs -/

def dropSlashes (cs : List Char) : List Char := cs.dropWhile (isSlash true)

def slashCount (cs : List Char) : Nat := (cs.takeWhile (isSlash true)).length

/-- A reference without a scheme, to a base of another scheme than `file`. Here a backslash is a
slash at the start of the reference in every scheme. -/
def readRelative (base : Url) (cs : List Char) : Except ParseError Url :=
  let onPath (path cs : List Char) : Except ParseError Url :=
    let (path, rest) := readPath base.scheme path cs
    .ok (withQueryAndFragment { base with path := String.ofList path } rest)
  match cs with
  | [] => .ok { base with fragment := none }
  | '?' :: _ => .ok (withQueryAndFragment base cs)
  | '#' :: _ => .ok (withFragment base cs)
  | '/' :: '/' :: rest => readAuthority base.scheme rest
  | _ :: rest =>
    match slashCount cs with
    | 0 =>
      let path := shorten false base.path.toList
      onPath (if path.isEmpty then ['/'] else path) cs
    | 1 => onPath ['/'] rest
    | _ => readAuthority base.scheme (dropSlashes cs)

/-- A URL with a scheme of no special meaning, after its colon. -/
def readOther (scheme : String) (cs : List Char) : Except ParseError Url :=
  match cs with
  | '/' :: '/' :: rest => readAuthority scheme rest
  | '/' :: rest =>
    let (path, rest) := readPath scheme ['/'] rest
    .ok (withQueryAndFragment { scheme, path := String.ofList path } rest)
  | cs =>
    let path := String.ofList (escape isControl (cs.takeWhile (!endsPath ·)))
    .ok (withQueryAndFragment { scheme, path } (cs.dropWhile (!endsPath ·)))

def read (base? : Option Url) (s : String) : Except ParseError Url :=
  let cs := clean s
  match cutScheme cs with
  | some ("file", rest) => readFile (base?.filter (·.scheme == "file")) rest
  | some (scheme, rest) =>
    if isSpecial scheme then
      match base?.filter (·.scheme == scheme) with
      | some base =>
        if slashCount rest < 2 then readRelative base rest
        else readAuthority scheme (dropSlashes rest)
      | none => readAuthority scheme (dropSlashes rest)
    else readOther scheme rest
  | none =>
    match base? with
    | none => .error .relativeWithoutBase
    | some base =>
      if cs.head? == some '#' then .ok (withFragment base cs)
      else if base.isOpaque then .error .relativeToOpaque
      else if base.scheme == "file" then readFile (some base) cs
      else readRelative base cs

def parse (s : String) : Except ParseError Url := read none s

def join (base : Url) (s : String) : Except ParseError Url := read (some base) s

end ServiceApi.Url
