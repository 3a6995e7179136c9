import SchemaSet.Index.Basic
import SchemaSet.Json
import SchemaSet.Schema.Compiler

/-!
# Indexes and schema sets as data

The JSON form of what the library computes.  Members stand in a fixed order, absent values are null,
and paths are shown as texts.
-/

namespace SchemaSet

/-- A path as data. -/
def Path.toJson (p : Path) : Json := .text p.display

/-- A name as data. -/
def QName.toJson (q : QName) : Json :=
  .object [("namespace", Json.ofOption q.uri), ("local_name", .text q.localName)]

/-- An entry of an index as data. -/
def IndexEntry.toJson (e : IndexEntry) : Json :=
  .object [("path", e.path.toJson), ("origin", .text e.origin.name)]

/-- An index as data. -/
def Index.toJson (i : Index) : Json :=
  .object
    [("directory", i.directory.toJson),
      ("entries", .object (i.entries.entries.map fun e => (e.1, e.2.toJson)))]

/-- An import as data. -/
def ImportRecord.toJson (r : ImportRecord) : Json :=
  .object
    [("namespace", Json.ofOption r.uri), ("schema_location", Json.ofOption r.schemaLocation),
      ("target", Json.ofOption (r.target.map Path.display)), ("outcome", .text r.outcome.name)]

/-- A document of a schema set as data. -/
def SchemaDocument.toJson (d : SchemaDocument) : Json :=
  .object
    [("path", d.path.toJson), ("target_namespace", Json.ofOption d.targetNamespace),
      ("chameleon", .bool d.chameleon), ("imports", .list (d.imports.map ImportRecord.toJson)),
      ("includes", .list (d.includes.map Path.toJson))]

/-- A component as data. -/
def Component.toJson (c : Component) : Json :=
  .object
    [("kind", .text c.kind.name), ("name", c.name.toJson), ("document", c.document.toJson),
      ("redefined", .bool c.redefined)]

/-- A schema set as data. -/
def CompiledSet.toJson (c : CompiledSet) : Json :=
  .object
    [("entry", c.entry.toJson), ("documents", .list (c.documents.map SchemaDocument.toJson)),
      ("components", .list (c.components.map Component.toJson))]

end SchemaSet
