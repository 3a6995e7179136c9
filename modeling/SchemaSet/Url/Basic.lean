import SchemaSet.Url.Host

/-!
# URLs

A `Url` holds its parts as they are written.  The path of a URL is a list of segments, or flat text
when no slash follows the scheme.
-/

namespace SchemaSet
namespace Url

/-- The path of a URL. -/
inductive Route
  /-- Segments, each of them after a slash. -/
  | segments (names : List String)
  /-- Text that no slash leads; it cannot be completed. -/
  | flat (text : String)
deriving DecidableEq, Repr

/-- The written form of a path. -/
def Route.text : Route → String
  | .segments names => String.join (names.map ("/" ++ ·))
  | .flat text => text

end Url

/-- A URL by its parts, as they are written. -/
structure Url where
  /-- The scheme in lower case. -/
  scheme : String
  username : String
  password : Option String
  /-- The host; absent when no double slash follows the scheme. -/
  host : Option String
  /-- The port, unless it is the usual one. -/
  port : Option Nat
  /-- The path. -/
  route : Url.Route
  /-- The text after the question mark. -/
  query : Option String
  /-- The text after the number sign. -/
  fragment : Option String
deriving DecidableEq, Repr

namespace Url

/-- The schemes with an authority, with their usual ports. -/
def specialSchemes : List (String × Option Nat) :=
  [("http", some 80), ("https", some 443), ("ws", some 80), ("wss", some 443), ("ftp", some 21),
    ("file", none)]

/-- Whether a scheme is one of those with an authority. -/
def isSpecial (scheme : String) : Bool := specialSchemes.any (·.1 == scheme)

def usualPort (scheme : String) : Option Nat :=
  (specialSchemes.find? (·.1 == scheme)).bind (·.2)

/-- Whether the path is flat text, so that nothing relative can be completed from it. -/
def isFlat (u : Url) : Bool :=
  match u.route with
  | .flat _ => true
  | .segments _ => false

/-- The user name and the password as they stand before the host. -/
def credentials (u : Url) : String :=
  match u.password with
  | some p => u.username ++ ":" ++ p ++ "@"
  | none => if u.username.isEmpty then "" else u.username ++ "@"

/-- What stands between the scheme and the path. -/
def authority (u : Url) : String :=
  match u.host with
  | some h =>
      "//" ++ u.credentials ++ h ++
        (match u.port with
          | some n => ":" ++ toString n
          | none => "")
  | none =>
      match u.route with
      | .segments ("" :: _ :: _) => "/."
      | _ => ""

/-- The written form of a URL. -/
def display (u : Url) : String :=
  u.scheme ++ ":" ++ u.authority ++ u.route.text ++
    (match u.query with
      | some q => "?" ++ q
      | none => "") ++
    (match u.fragment with
      | some f => "#" ++ f
      | none => "")

end Url
end SchemaSet
