import SchemaSet.Catalog
import SchemaSet.Index.Basic
import SchemaSet.Markup.RootScan

/-!
# Building an index

A plan says what an index is built from: the directory, the extensions of its documents, the policy
on repeated keys, limits, catalogs, and further identifiers.

The eligible files directly in the directory are scanned in the order of their names, and each
claims the namespace that its root declares.  Then each catalog claims its identifiers, and last the
further identifiers are claimed.
-/

namespace SchemaSet

/-- What an index is to be built from. -/
structure IndexPlan where
  /-- The directory whose documents are indexed. -/
  directory : Path
  /-- The extensions of eligible files, without the dot. -/
  extensions : List String
  /-- What becomes of repeated keys. -/
  policy : DuplicatePolicy
  /-- Whether each document must be readable to its end. -/
  verify : Bool
  limits : Limits
  catalogs : List Path
  /-- Further identifiers, in order. -/
  publicIds : List (String × Path)

namespace IndexPlan

/-- The extension of schema documents. -/
def defaultExtension : String := "xsd"

/-- The plan for a directory with nothing else said. -/
def ofDirectory (directory : Path) : IndexPlan :=
  ⟨directory, [defaultExtension], .firstWins, false, .standard, [], []⟩

/-- The names that lead to the directory of a plan. -/
def checkDirectory (fs : FileSystem) (directory : Path) : Except Error (List Bytes) :=
  match fs.locate directory with
  | .error .notFound => .error (.configuration (.missingDirectory directory))
  | .error f => .error (.io f)
  | .ok ⟨names, .directory⟩ => .ok names
  | .ok _ => .error (.configuration (.notADirectory directory))

/-- Whether a name has one of the extensions of a plan. -/
def isEligible (plan : IndexPlan) (name : Bytes) : Bool :=
  match (Path.extensionOf name).map Utf8.decode with
  | some (.ok extension) => plan.extensions.contains extension
  | _ => false

/-- The names of the eligible files of a directory, sorted. -/
def eligibleNames (plan : IndexPlan) (fs : FileSystem) (directory : List Bytes) : List Bytes :=
  ((fs.children directory).filter fun name =>
    fs.isFile (Path.ofNames (directory ++ [name])) && plan.isEligible name).mergeSort
      fun a b => a ≤ b

/-- The canonical path of the target of an entry. -/
def canonicalTarget (fs : FileSystem) (p : Path) : Except Error Path :=
  (fs.canonicalize p).mapError fun f => .resource (.target p f)

/-- The root of the document at a canonical path. -/
def scanRoot (plan : IndexPlan) (fs : FileSystem) (p : Path) : Except Error Markup.RootScan :=
  if plan.verify then do
    let octets ← fs.readPath plan.limits p
    (Markup.RootScan.scanWellFormed octets).mapError fun f => Error.asMalformed p (.markup f)
  else do
    let octets ← fs.openPath plan.limits p
    let octets ← octets.mapError .io
    (Markup.RootScan.scanFile octets).mapError fun f => Error.asMalformed p (.markup f)

/-- The claim of the document at a path. -/
def describe (plan : IndexPlan) (fs : FileSystem) (p : Path) : Except Error Claim := do
  let canonical ← canonicalTarget fs p
  let root ← plan.scanRoot fs canonical
  return ⟨root.targetNamespace, canonical, .document⟩

/-- Enters a claim, minding the number of entries. -/
def enter (plan : IndexPlan) (entries : Entries) (c : Claim) : Journal Notice Error Entries := do
  let entries ← Entries.claim plan.policy entries c
  (plan.limits.check .indexEntries entries.size).mapError Error.limit
  return entries

/-- Enters the documents at some paths in order. -/
def enterDocuments (plan : IndexPlan) (fs : FileSystem) :
    Entries → List Path → Journal Notice Error Entries
  | entries, [] => .done entries
  | entries, p :: r => do
      let c ← plan.describe fs p
      Journal.note (.namespaceFound c.key c.path)
      let entries ← plan.enter entries c
      plan.enterDocuments fs entries r

/-- Enters identifiers with their files in order; `tell` is what entering one tells. -/
def enterTargets (plan : IndexPlan) (fs : FileSystem) (tell : String → Path → Notice) :
    Entries → List (String × Path) → Journal Notice Error Entries
  | entries, [] => .done entries
  | entries, (id, p) :: r => do
      let canonical ← canonicalTarget fs p
      Journal.note (tell id canonical)
      let entries ← plan.enter entries ⟨id, canonical, .catalog⟩
      plan.enterTargets fs tell entries r

/-- Enters the mappings of some catalogs in order. -/
def enterCatalogs (plan : IndexPlan) (fs : FileSystem) :
    Entries → List Path → Journal Notice Error Entries
  | entries, [] => .done entries
  | entries, p :: r => do
      let catalog ← Catalog.ofFile fs plan.limits p
      if catalog.isEmpty then Journal.note (.catalogEmpty p)
      let entries ← plan.enterTargets fs .catalogEntry entries catalog.entries
      plan.enterCatalogs fs entries r

def build (plan : IndexPlan) (fs : FileSystem) : Journal Notice Error Index := do
  let names ← checkDirectory fs plan.directory
  let directory := Path.ofNames names
  let eligible := plan.eligibleNames fs names
  if eligible.isEmpty then
    throw (Error.configuration (.noDocuments directory plan.extensions))
  let paths := eligible.map fun name => directory.join ⟨name⟩
  let entries ← plan.enterDocuments fs ∅ paths
  let entries ← plan.enterCatalogs fs entries plan.catalogs
  let entries ← plan.enterTargets fs .publicIdentifier entries plan.publicIds
  Journal.note (.indexBuilt directory paths.length entries.size)
  return ⟨directory, entries⟩

end IndexPlan
end SchemaSet
