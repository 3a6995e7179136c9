import SchemaSet.FileSystem
import SchemaSet.Resolution
import SchemaSet.Url.Basic

/-!
# Notices

What is worth telling while an index is built or a schema set is compiled.  A notice has a level, a
message and named values.
-/

namespace SchemaSet

/-- How much a notice matters. -/
inductive Level
  /-- Of use only when looking for a fault. -/
  | debug
  /-- The ordinary course of the work. -/
  | info
  /-- Something that may be a mistake. -/
  | warn
deriving DecidableEq, Repr

def Level.name : Level → String
  | .debug => "DEBUG"
  | .info => "INFO"
  | .warn => "WARN"

/-- A value of a notice. -/
inductive Detail
  | text (s : String)
  /-- A truth value. -/
  | flag (b : Bool)
  /-- A number. -/
  | count (n : Nat)
deriving DecidableEq, Repr

/-- Something worth telling. -/
inductive Notice
  /-- A catalog was reached again. -/
  | catalogRepeated (catalog : Path)
  /-- A catalog maps nothing. -/
  | catalogEmpty (catalog : Path)
  /-- A catalog maps an identifier. -/
  | catalogEntry (id : String) (path : Path)
  | publicIdentifier (id : String) (path : Path)
  /-- A document declares a namespace. -/
  | namespaceFound (uri : String) (path : Path)
  | duplicateIgnored (key : String) (kept ignored : Path)
  | duplicateReplaced (key : String) (replaced kept : Path)
  | indexBuilt (directory : Path) (documents entries : Nat)
  /-- A request without a key was not looked up. -/
  | lookupSkipped (request : Request)
  | lookupResolved (key : Key) (location : Path)
  /-- Nothing is indexed under the key of a request. -/
  | lookupMissed (key : Key)
  | documentOpened (path : Path) (uri : Option String) (chameleon : Bool) (depth : Nat)
  /-- A namespace that needs no document was imported. -/
  | builtInImported (uri : Option String) (base : Path)
  /-- A namespace could not be located. -/
  | importMissing (uri : Option String) (base : Path)
  | includeMissing (location : String) (base : Path)
  /-- A written location is not local. -/
  | remoteIgnored (url : Url)
  /-- A written location leads nowhere. -/
  | hintMissing (location : String) (fault : FileSystem.Fault)
  /-- A schema set is complete. -/
  | compiled (entry : Path) (documents components : Nat)
deriving DecidableEq, Repr

namespace Notice

/-- How much a notice matters. -/
def level : Notice → Level
  | .catalogRepeated _ | .indexBuilt .. | .lookupSkipped _ | .documentOpened ..
  | .builtInImported .. => .debug
  | .catalogEntry .. | .publicIdentifier .. | .namespaceFound .. | .lookupResolved ..
  | .compiled .. => .info
  | .catalogEmpty _ | .duplicateIgnored .. | .duplicateReplaced .. | .lookupMissed _
  | .importMissing .. | .includeMissing .. | .remoteIgnored _ | .hintMissing .. => .warn

/-- What a notice says. -/
def message : Notice → String
  | .catalogRepeated _ => "catalog already loaded, skipping"
  | .catalogEmpty _ => "catalog has no entries"
  | .catalogEntry .. => "catalog entry"
  | .publicIdentifier .. => "public identifier"
  | .namespaceFound .. => "found namespace"
  | .duplicateIgnored .. => "duplicate namespace, keeping first"
  | .duplicateReplaced .. => "duplicate namespace, keeping last"
  | .indexBuilt .. => "namespace index built"
  | .lookupSkipped _ => "skipping lookup without namespace or public id"
  | .lookupResolved .. => "resolved"
  | .lookupMissed _ => "unable to resolve"
  | .documentOpened .. => "loading schema document"
  | .builtInImported .. => "built-in namespace imported without a local document"
  | .importMissing .. => "import could not be located, continuing"
  | .includeMissing .. => "include could not be located, continuing"
  | .remoteIgnored _ => "remote schemaLocation ignored"
  | .hintMissing .. => "schemaLocation does not exist"
  | .compiled .. => "schema set compiled"

/-- The named values of a notice. -/
def details : Notice → List (String × Detail)
  | .catalogRepeated p => [("catalog", .text p.display)]
  | .catalogEmpty p => [("catalog", .text p.display)]
  | .catalogEntry i p => [("public_id", .text i), ("path", .text p.display)]
  | .publicIdentifier i p => [("public_id", .text i), ("path", .text p.display)]
  | .namespaceFound u p => [("namespace", .text u), ("path", .text p.display)]
  | .duplicateIgnored k p q =>
      [("namespace", .text k), ("kept", .text p.display), ("ignored", .text q.display)]
  | .duplicateReplaced k p q =>
      [("namespace", .text k), ("replaced", .text p.display), ("kept", .text q.display)]
  | .indexBuilt d n m =>
      [("directory", .text d.display), ("documents", .count n), ("entries", .count m)]
  | .lookupSkipped r => [("request", .text r.display)]
  | .lookupResolved k p => [("key", .text k.display), ("location", .text p.display)]
  | .lookupMissed k => [("key", .text k.display)]
  | .documentOpened p u c d =>
      [("path", .text p.display), ("namespace", .text (u.getD "")), ("chameleon", .flag c),
        ("depth", .count d)]
  | .builtInImported u p => [("namespace", .text (u.getD "")), ("base", .text p.display)]
  | .importMissing u p => [("namespace", .text (u.getD "")), ("base", .text p.display)]
  | .includeMissing l p => [("location", .text l), ("base", .text p.display)]
  | .remoteIgnored u => [("location", .text u.display)]
  | .hintMissing l f => [("location", .text l), ("error", .text f.message)]
  | .compiled e n m =>
      [("entry", .text e.display), ("documents", .count n), ("components", .count m)]

end Notice
end SchemaSet
