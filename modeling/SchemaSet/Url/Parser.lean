import SchemaSet.Url.Basic

/-!
# Reading URLs

A text may be a URL by itself or relative to a base.  Controls and spaces around the text and tabs
and line ends in it are dropped.  What follows depends on the scheme: `file` URLs may have a host,
other special ones must have one, and the rest have one only after a double slash.  Without a scheme
the parts that the text leaves out come from the base.  A path is read segment by segment
(`walkSegments_append_slash`).

A segment that is a letter with a colon or a bar names a drive.  No `..` removes it, and as the
first segment of a `file` URL it is written with a colon and takes the place of the host.  The slash
after an empty host counts as the end of an empty first segment.
-/

namespace SchemaSet
namespace Url

/-- Tabs and line ends, which are dropped anywhere. -/
def isDropped (c : Char) : Bool := c == '\t' || c == '\n' || c == '\r'

/-- Controls and the space, which are dropped at both ends. -/
def isEdge (c : Char) : Bool := c.toNat ≤ 0x20

/-- The characters that count. -/
def clean (s : String) : List Char :=
  (Text.dropEnd isEdge (s.toList.dropWhile isEdge)).filter (fun c => !isDropped c)

/-- Whether a character is an ASCII letter. -/
def isLetter (c : Char) : Bool := ('A' ≤ c && c ≤ 'Z') || ('a' ≤ c && c ≤ 'z')

/-- Whether a scheme may hold a character. -/
def isSchemeChar (c : Char) : Bool :=
  isLetter c || ('0' ≤ c && c ≤ '9') || c == '+' || c == '-' || c == '.'

/-- The scheme in lower case and what follows its colon. -/
def scheme? (cs : List Char) : Option (String × List Char) :=
  match cs with
  | [] => none
  | c :: _ =>
      if isLetter c then
        match Text.cut (· == ':') cs with
        | some (name, rest) =>
            if name.all isSchemeChar then some (String.ofList (name.map lowerAscii), rest)
            else none
        | none => none
      else none

/-- Whether a character separates segments. -/
def isSeparator (special : Bool) (c : Char) : Bool := c == '/' || (special && c == '\\')

def endsPath (c : Char) : Bool := c == '?' || c == '#'

def endsAuthority (special : Bool) (c : Char) : Bool := isSeparator special c || endsPath c

section Segments

/-- Whether a segment stands for the directory itself. -/
def isDot (s : String) : Bool := [".", "%2e", "%2E"].contains s

/-- Whether a segment stands for the directory above. -/
def isDoubleDot (s : String) : Bool :=
  ["..", ".%2e", ".%2E", "%2e.", "%2E.", "%2e%2e", "%2e%2E", "%2E%2e", "%2E%2E"].contains s

/-- The letter of a segment that is a letter with a colon or a bar. -/
def drive? (s : String) : Option Char :=
  match s.toList with
  | [a, b] => if isLetter a && (b == ':' || b == '|') then some a else none
  | _ => none

/-- Whether a segment is a drive, or a drive with a backslash and more. -/
def startsWithDrive (s : String) : Bool :=
  match s.toList with
  | a :: b :: r => isLetter a && (b == ':' || b == '|') && (r.isEmpty || r.head? == some '\\')
  | _ => false

/-- Segments without the last one; a drive stays. -/
def shorten (names : List String) : List String :=
  match names.getLast? with
  | some l => if startsWithDrive l then names else names.dropLast
  | none => []

/-- How the segments of a path are told apart and kept. -/
structure PathStyle where
  /-- Whether a backslash separates segments, as a slash does. -/
  backslash : Bool
  /-- Whether a drive in the first place is written with a colon. -/
  drive : Bool
deriving DecidableEq, Repr

/-- Adds a segment that is kept. -/
def keep (style : PathStyle) (names : List String) (s : String) : List String :=
  match drive? s with
  | some letter =>
      if style.drive && names.isEmpty then [String.ofList [letter, ':']] else names ++ [s]
  | none => names ++ [s]

/-- Adds a segment that a slash follows. -/
def pushInner (style : PathStyle) (names : List String) (s : String) : List String :=
  if isDoubleDot s then shorten names
  else if isDot s then names
  else keep style names s

/-- Adds the last segment. -/
def pushLast (style : PathStyle) (names : List String) (s : String) : List String :=
  if isDoubleDot s then shorten names ++ [""]
  else if isDot s then names ++ [""]
  else keep style names s

/-- Adds all segments of a path to the segments of a base. -/
def walkSegments (style : PathStyle) (names : List String) : List String → List String
  | [] => names
  | [s] => pushLast style names s
  | s :: t :: r => walkSegments style (pushInner style names s) (t :: r)

theorem walkSegments_append_slash (style : PathStyle) (names : List String) (s t : String)
    (r : List String) :
    walkSegments style names (s :: t :: r) =
      walkSegments style (pushInner style names s) (t :: r) := rfl

def readSegments (style : PathStyle) (names : List String) (cs : List Char) : List String :=
  walkSegments style names
    ((Text.pieces (isSeparator style.backslash) cs).map (encodeChars pathSet))

end Segments

/-- The query and the fragment of what follows a path. -/
def readTail (special : Bool) (cs : List Char) : Option String × Option String :=
  let fragment (r : List Char) := encodeChars fragmentSet r
  match cs with
  | '?' :: r =>
      let set := if special then specialQuerySet else querySet
      match Text.cut (· == '#') r with
      | some (q, f) => (some (encodeChars set q), some (fragment f))
      | none => (some (encodeChars set r), none)
  | '#' :: r => (none, some (fragment r))
  | _ => (none, none)

/-- The URL with a given query and fragment. -/
def withTail (u : Url) (tail : Option String × Option String) : Url :=
  { u with query := tail.1, fragment := tail.2 }

/-- The URL with the path and all after it read from `cs`, where the path starts at `names`. -/
def withPath (u : Url) (names : List String) (cs : List Char) : Url :=
  let special := isSpecial u.scheme
  let path := cs.takeWhile fun c => !endsPath c
  { u with route := .segments (readSegments ⟨special, false⟩ names path) }
    |>.withTail (readTail special (cs.dropWhile fun c => !endsPath c))

section Authority

/-- The parts of an authority before and after its last `@`. -/
def cutAt (cs : List Char) : Option (List Char × List Char) :=
  (Text.cut (· == '@') cs.reverse).map fun p => (p.2.reverse, p.1.reverse)

/-- A user name and a password. -/
def readCredentials (cs : List Char) : String × Option String :=
  match Text.cut (· == ':') cs with
  | some (name, []) => (encodeChars userSet name, none)
  | some (name, word) => (encodeChars userSet name, some (encodeChars userSet word))
  | none => (encodeChars userSet cs, none)

/-- The host, and what follows it; a colon between brackets does not end a host. -/
def cutHost (inside : Bool) : List Char → List Char × List Char
  | [] => ([], [])
  | c :: r =>
      if c == ':' && !inside then ([], c :: r)
      else
        let rest := cutHost (if c == '[' then true else if c == ']' then false else inside) r
        (c :: rest.1, rest.2)

/-- A port, where no digits mean none. -/
def readPort (cs : List Char) : Except Fault (Option Nat) :=
  if cs.all Char.isDigit then
    let n := cs.foldl (fun n c => n * 10 + (c.toNat - 0x30)) 0
    if n < 65536 then .ok (if cs.isEmpty then none else some n) else .error .badPort
  else .error .badPort

/-- Reads what follows the host: a port, and the part where the path starts.  A backslash ends
a port in every URL. -/
def cutPort (cs : List Char) : Except Fault (Option Nat × List Char) :=
  match cs with
  | ':' :: r => do
      let ends (c : Char) := c == '/' || c == '\\' || endsPath c
      let port ← readPort (r.takeWhile (fun c => !ends c))
      .ok (port, r.dropWhile (fun c => !ends c))
  | _ => .ok (none, cs)

/-- Reads what follows the double slash of a URL with the given scheme. -/
def readAuthority (scheme : String) (cs : List Char) : Except Fault Url := do
  let special := isSpecial scheme
  let inner := cs.takeWhile (fun c => !endsAuthority special c)
  let outer := cs.dropWhile (fun c => !endsAuthority special c)
  let (user, address) := match cutAt inner with
    | some p => (some p.1, p.2)
    | none => (none, inner)
  if user == some [] && address.isEmpty && !outer.isEmpty then throw .emptyHost
  let (username, password) := readCredentials (user.getD [])
  let (name, after) := cutHost false address
  if special && name.isEmpty then throw .emptyHost
  let host ← if special then domainHost name else opaqueHost name
  if host.isEmpty && after.head? == some ':' then throw .emptyHost
  let (port, rest) ← cutPort (after ++ outer)
  if host.isEmpty && (!username.isEmpty || password.isSome) then throw .emptyHost
  let u : Url :=
    { scheme, username, password, host := some host,
      port := if port == usualPort scheme then none else port,
      route := .segments [], query := none, fragment := none }
  match rest with
  | c :: r =>
      if isSeparator special c then return u.withPath [] r
      else if special || !endsPath c then return u.withPath [] rest
      else return u.withTail (readTail special rest)
  | [] => if special then return u.withPath [] [] else return u

end Authority

/-- A `file` URL with a host and a path.  A drive in the first place takes the place of the host,
and empty segments that lead the path are dropped. -/
def fileUrl (host : String) (cs : List Char) : Url :=
  let names := readSegments ⟨true, true⟩ [] (cs.takeWhile fun c => !endsPath c)
  let named := names.dropWhile String.isEmpty
  let u : Url :=
    { scheme := "file", username := "", password := none,
      host := some (if (names.head?.bind drive?).isSome then "" else host), port := none,
      route := .segments (if named.isEmpty then [""] else named), query := none,
      fragment := none }
  u.withTail (readTail true (cs.dropWhile fun c => !endsPath c))

/-- Drops a character that separates segments. -/
def dropSeparator (cs : List Char) : List Char :=
  match cs with
  | c :: r => if isSeparator true c then r else cs
  | [] => []

/-- Reads what follows the double slash of a `file` URL: a drive, or a host and a path. -/
def readFileHost (cs : List Char) : Except Fault Url := do
  let name := cs.takeWhile fun c => !endsAuthority true c
  let rest := cs.dropWhile fun c => !endsAuthority true c
  if (drive? (String.ofList name)).isSome then return fileUrl "" cs
  let host ← if name.isEmpty then pure "" else domainHost name
  if host.isEmpty || host == "localhost" then return fileUrl "" rest
  else return fileUrl host (dropSeparator rest)

/-- Reads what follows the scheme of a `file` URL. -/
def readFile (cs : List Char) : Except Fault Url :=
  match cs with
  | c :: d :: r =>
      if isSeparator true c && isSeparator true d then readFileHost r
      else .ok (fileUrl "" (dropSeparator cs))
  | _ => .ok (fileUrl "" (dropSeparator cs))

/-- Reads a text without a scheme, or with that of its base, against a base. -/
def readRelative (base : Url) (cs : List Char) : Except Fault Url :=
  let special := isSpecial base.scheme
  let fresh : Url := { base with query := none, fragment := none }
  match cs with
  | [] => .ok { base with fragment := none }
  | c :: r =>
      if c == '?' then .ok (fresh.withTail (readTail special cs))
      else if c == '#' then .ok { base with fragment := (readTail special cs).2 }
      else if isSeparator true c then
        match r with
        | d :: rest =>
            if c == '/' && d == '/' then readAuthority base.scheme rest
            else if isSeparator true d then
              readAuthority base.scheme (rest.dropWhile (isSeparator true))
            else .ok (fresh.withPath [] r)
        | [] => .ok (fresh.withPath [] r)
      else
        match base.route with
        | .segments names => .ok (fresh.withPath names.dropLast cs)
        | .flat _ => .error .flatBase

/-- Reads what follows the scheme of a URL that is not special. -/
def readOther (scheme : String) (cs : List Char) : Except Fault Url :=
  let u : Url := ⟨scheme, "", none, none, none, .segments [], none, none⟩
  match cs with
  | '/' :: '/' :: r => readAuthority scheme r
  | '/' :: r => .ok (u.withPath [] r)
  | _ =>
      let text := encodeChars controlSet (cs.takeWhile (fun c => !endsPath c))
      .ok ({ u with route := .flat text }.withTail
        (readTail false (cs.dropWhile (fun c => !endsPath c))))

/-- Reads what follows the scheme of a URL. -/
def readScheme (base : Option Url) (scheme : String) (cs : List Char) : Except Fault Url :=
  if scheme == "file" then readFile cs
  else if isSpecial scheme then
    let rest := cs.dropWhile (isSeparator true)
    match base with
    | some b =>
        if b.scheme == scheme && cs.length < rest.length + 2 then readRelative b cs
        else readAuthority scheme rest
    | none => readAuthority scheme rest
  else readOther scheme cs

/-- Reads a URL, against a base when the text is relative. -/
def read (base : Option Url) (s : String) : Except Fault Url :=
  let cs := clean s
  match scheme? cs, base with
  | some (scheme, rest), _ => readScheme base scheme rest
  | none, none => .error .noBase
  | none, some b =>
      if cs.head? == some '#' then readRelative b cs
      else if b.isFlat then .error .flatBase
      else readRelative b cs

/-- Reads an absolute URL. -/
def parse (s : String) : Except Fault Url := read none s

/-- Reads a text relative to a URL. -/
def join (base : Url) (s : String) : Except Fault Url := read (some base) s

end Url
end SchemaSet
