import SchemaSet.Path
import SchemaSet.Url.Parser

/-!
# Paths as `file` URLs

In the URL of an absolute path each component is one percent-encoded segment, and `/` alone is the
empty one; a relative path has no URL.

In the other direction segments are percent-decoded and joined; a path that ends in a letter and a
colon or a bar gets a final slash, and a host is refused.
-/

namespace SchemaSet
namespace Url

/-- The octets of a component in a URL. -/
def componentOctets : Path.Component → Bytes
  | .root => []
  | .here => [Path.dot]
  | .up => [Path.dot, Path.dot]
  | .name octets => octets

/-- The written form of the components after the first. -/
def writeComponents (cs : List Path.Component) : List Char :=
  cs.flatMap fun c => '/' :: encodeOctets entrySet (componentOctets c)

/-- The `file` URL of an absolute path. -/
def ofPath (p : Path) : Option String :=
  if p.isAbsolute then
    let cs := p.components.tail
    some ("file://" ++ String.ofList (if cs.isEmpty then ['/'] else writeComponents cs))
  else none

/-- Whether octets end in a letter and a colon or a bar, after something else. -/
def endsInDrive (bs : Bytes) : Bool :=
  match bs.reverse with
  | b :: a :: _ :: _ =>
      (b == 0x3A || b == 0x7C) && ((0x41 ≤ a && a ≤ 0x5A) || (0x61 ≤ a && a ≤ 0x7A))
  | _ => false

/-- The path of a URL without a host. -/
def toPath (u : Url) : Option Path :=
  match u.host, u.route with
  | some "", .segments names =>
      let octets := names.flatMap fun n => Path.slash :: decodeOctets (Utf8.encode n)
      some ⟨if endsInDrive octets then octets ++ [Path.slash] else octets⟩
  | _, _ => none

end Url
end SchemaSet
