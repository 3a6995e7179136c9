import SchemaSet.Index.Builder
import SchemaSet.Proofs.Blocks
import SchemaSet.Proofs.CanonicalPath
import SchemaSet.Proofs.RootTag
import SchemaSet.Schema.Item

/-!
# What an index tells of its documents

The index of this module is built from a plan without catalogs and further identifiers.
`IndexPlan.Told` says of the entries that each is what one of the documents claims.  Whatever the
policy on repeated keys, a claim leaves the entries told (`enterDocuments_told`, `build_told`).

The scan that an index is built from and the tree that is read later agree on the target namespace,
unless a label without a namespace hides it or the scan met the document in another division into
blocks.  Hence the document under a key declares that namespace, unless it is misread
(`declared_of_get?`).
-/

namespace SchemaSet

namespace Entries

/-- After a claim, what stands under a key stood there before or is the claim. -/
theorem get?_of_claim {policy : DuplicatePolicy} {entries entries' : Entries} {c : Claim}
    (h : (claim policy entries c).outcome = .ok entries') {key : String} {e : IndexEntry}
    (hk : entries'.get? key = some e) :
    entries.get? key = some e ∨ (c.key = key ∧ e = ⟨c.path, c.origin⟩) := by
  have inserted : entries' = entries.insert c.key ⟨c.path, c.origin⟩ →
      entries.get? key = some e ∨ (c.key = key ∧ e = ⟨c.path, c.origin⟩) := by
    rintro rfl
    rw [OrderedMap.get?_insert] at hk
    split at hk
    · rename_i hkey
      exact .inr ⟨hkey, (Option.some.inj hk).symm⟩
    · exact .inl hk
  unfold claim at h
  split at h
  · exact inserted (Except.ok.inj h).symm
  · split at h
    · cases h
      exact .inl hk
    · cases policy with
      | firstWins =>
          cases h
          exact .inl hk
      | lastWins => exact inserted (Except.ok.inj h).symm
      | reject => cases h

end Entries

/-- The root of the document that a path leads to. -/
def FileSystem.rootAt? (fs : FileSystem) (p : Path) : Option Markup.Element :=
  match (fs.canonicalize p).bind fs.entry with
  | .ok (.file bs) => (Markup.readDocument bs).toOption
  | _ => none

namespace IndexPlan

variable {plan : IndexPlan} {fs : FileSystem}

/-- The paths of the documents to be indexed. -/
def paths (plan : IndexPlan) (fs : FileSystem) : List Path :=
  match checkDirectory fs plan.directory with
  | .ok names =>
      (plan.eligibleNames fs names).map fun name => (Path.ofNames names).join ⟨name⟩
  | .error _ => []

theorem paths_of_checkDirectory {names : List Bytes}
    (h : checkDirectory fs plan.directory = .ok names) :
    plan.paths fs =
      (plan.eligibleNames fs names).map fun name => (Path.ofNames names).join ⟨name⟩ := by
  rw [paths, h]

/-- The roots of the documents to be indexed, as far as they can be read. -/
def roots (plan : IndexPlan) (fs : FileSystem) : List Markup.Element :=
  (plan.paths fs).filterMap fs.rootAt?

/-- No root of a document to be indexed binds a label to the empty namespace. -/
def NoEmptyLabels (plan : IndexPlan) (fs : FileSystem) : Prop :=
  ∀ root ∈ plan.roots fs, ∀ label, root.scope.labels.get? label ≠ some ""

/-- The root of a file that is scanned block by block is not the one that its content has. -/
structure Misreads (plan : IndexPlan) (fs : FileSystem) (p : Path) : Prop where
  unverified : plan.verify = false
  differs : ∃ bs, fs.entry p = .ok (.file bs) ∧ Markup.RootScan.blockLength < bs.length ∧
    Markup.RootScan.scanFile bs ≠ Markup.RootScan.scan bs

/-- Every entry is what one of the documents at some paths claims. -/
def Told (plan : IndexPlan) (fs : FileSystem) (ps : List Path) (entries : Entries) : Prop :=
  ∀ key e, entries.get? key = some e → ∃ p ∈ ps, plan.describe fs p = .ok ⟨key, e.path, e.origin⟩

section Building

theorem told_empty : Told plan fs [] ∅ := by
  intro key e h
  cases h

/-- Entering what a document claims leaves the entries told. -/
theorem enter_told {ps : List Path} {p : Path} {entries entries' : Entries} {c : Claim}
    (ht : Told plan fs ps entries) (hc : plan.describe fs p = .ok c)
    (h : (plan.enter entries c).outcome = .ok entries') :
    Told plan fs (ps ++ [p]) entries' := by
  obtain ⟨entered, hclaim, h⟩ := Journal.outcome_bind_eq_ok_iff.1 h
  obtain ⟨_, _, h⟩ := Journal.outcome_bind_eq_ok_iff.1 h
  cases h
  intro key e hk
  rcases Entries.get?_of_claim hclaim hk with hold | ⟨rfl, rfl⟩
  · obtain ⟨q, hq, hd⟩ := ht key e hold
    exact ⟨q, List.mem_append_left _ hq, hd⟩
  · exact ⟨p, by simp, hc⟩

/-- Entering documents in order leaves the entries told. -/
theorem enterDocuments_told {ps rest : List Path} {entries entries' : Entries}
    (ht : Told plan fs ps entries)
    (h : (plan.enterDocuments fs entries rest).outcome = .ok entries') :
    Told plan fs (ps ++ rest) entries' := by
  induction rest generalizing ps entries with
  | nil =>
      cases h
      rwa [List.append_nil]
  | cons p rest ih =>
      obtain ⟨c, hc, h⟩ := Journal.outcome_bind_eq_ok_iff.1 h
      obtain ⟨_, _, h⟩ := Journal.outcome_bind_eq_ok_iff.1 h
      obtain ⟨entered, henter, h⟩ := Journal.outcome_bind_eq_ok_iff.1 h
      have hall := ih (enter_told ht hc henter) h
      rwa [List.append_assoc] at hall

/-- Every entry of an index without catalogs and further identifiers is what a document
claims. -/
theorem build_told {index : Index} (hc : plan.catalogs = []) (hi : plan.publicIds = [])
    (h : (plan.build fs).outcome = .ok index) :
    Told plan fs (plan.paths fs) index.entries := by
  unfold build at h
  obtain ⟨names, hnames, h⟩ := Journal.outcome_bind_eq_ok_iff.1 h
  have hchecked : checkDirectory fs plan.directory = .ok names := hnames
  dsimp only at h
  split at h
  · obtain ⟨_, hthrow, _⟩ := Journal.outcome_bind_eq_ok_iff.1 h
    cases hthrow
  · obtain ⟨entries, hentries, h⟩ := Journal.outcome_bind_eq_ok_iff.1 h
    rw [hc, hi] at h
    obtain ⟨_, hcatalogs, h⟩ := Journal.outcome_bind_eq_ok_iff.1 h
    cases hcatalogs
    obtain ⟨_, htargets, h⟩ := Journal.outcome_bind_eq_ok_iff.1 h
    cases htargets
    obtain ⟨_, _, h⟩ := Journal.outcome_bind_eq_ok_iff.1 h
    cases h
    have htold := enterDocuments_told told_empty hentries
    rwa [paths_of_checkDirectory hchecked]

end Building

section Scanning

/-- What the scan of a document reads is the root of the file there, whole or in blocks. -/
theorem content_of_scanRoot {p : Path} {r : Markup.RootScan} (h : plan.scanRoot fs p = .ok r) :
    ∃ bs, fs.entry p = .ok (.file bs) ∧
      (Markup.RootScan.scan bs = .ok r ∨
        plan.verify = false ∧ Markup.RootScan.scanFile bs = .ok r) := by
  unfold scanRoot at h
  split at h
  · obtain ⟨bs, hread, h⟩ := bind_eq_ok_iff.1 h
    have hscan := Markup.RootScan.scan_of_scanWellFormed (mapError_eq_ok_iff.1 h)
    exact ⟨bs, FileSystem.entry_of_readPath hread, .inl hscan⟩
  · rename_i hverify
    obtain ⟨octets, hopen, h⟩ := bind_eq_ok_iff.1 h
    obtain ⟨bs, hoctets, h⟩ := bind_eq_ok_iff.1 h
    rw [mapError_eq_ok_iff] at hoctets
    subst hoctets
    exact ⟨bs, FileSystem.entry_of_openPath hopen,
      .inr ⟨by simpa using hverify, mapError_eq_ok_iff.1 h⟩⟩

/-- The scan of a document that is not misread is that of its content. -/
theorem scan_of_scanRoot {p : Path} {r : Markup.RootScan} (h : plan.scanRoot fs p = .ok r) :
    plan.Misreads fs p ∨
      ∃ bs, fs.entry p = .ok (.file bs) ∧ Markup.RootScan.scan bs = .ok r := by
  obtain ⟨bs, hentry, hscan | ⟨hverify, hscan⟩⟩ := content_of_scanRoot h
  · exact .inr ⟨bs, hentry, hscan⟩
  · by_cases hsame : Markup.RootScan.scanFile bs = Markup.RootScan.scan bs
    · exact .inr ⟨bs, hentry, hsame ▸ hscan⟩
    · have hlong : Markup.RootScan.blockLength < bs.length := by
        by_contra hshort
        exact hsame (Markup.scanFile_of_short (Nat.not_lt.1 hshort))
      exact .inl ⟨hverify, bs, hentry, hlong, hsame⟩

/-- What is known of the document under a key: its path is canonical, and its scan yields the
key. -/
theorem scanned_of_get? {index : Index} (hc : plan.catalogs = []) (hi : plan.publicIds = [])
    (h : (plan.build fs).outcome = .ok index) {key : String} {p : Path}
    (hk : index.get? key = some p) :
    ∃ q ∈ plan.paths fs, fs.canonicalize q = .ok p ∧
      ∃ r, plan.scanRoot fs p = .ok r ∧ r.targetNamespace = key := by
  obtain ⟨e, he, rfl⟩ := Option.map_eq_some_iff.1 hk
  obtain ⟨q, hq, hd⟩ := build_told hc hi h key e he
  obtain ⟨canonical, hcanonical, hd⟩ := bind_eq_ok_iff.1 hd
  obtain ⟨r, hr, hd⟩ := bind_eq_ok_iff.1 hd
  obtain ⟨rfl, rfl, _⟩ := Claim.mk.inj (Except.ok.inj hd)
  exact ⟨q, hq, mapError_eq_ok_iff.1 hcanonical, r, hr, rfl⟩

theorem mem_roots {p q : Path} {bs : Bytes} {root : Markup.Element} (hp : p ∈ plan.paths fs)
    (hq : fs.canonicalize p = .ok q) (hentry : fs.entry q = .ok (.file bs))
    (hroot : Markup.readDocument bs = .ok root) : root ∈ plan.roots fs := by
  refine List.mem_filterMap.2 ⟨p, hp, ?_⟩
  have hbind : (fs.canonicalize p).bind fs.entry = .ok (.file bs) := by
    rw [hq]
    exact hentry
  rw [FileSystem.rootAt?, hbind]
  exact toOption_eq_some_iff.2 hroot

/-- The document under a key of an index declares that namespace, unless it is misread. -/
theorem declared_of_get? {index : Index} (hc : plan.catalogs = []) (hi : plan.publicIds = [])
    (hb : plan.NoEmptyLabels fs) (h : (plan.build fs).outcome = .ok index) {key : String}
    (hne : key ≠ "") {p : Path} (hk : index.get? key = some p) {bs : Bytes}
    (hentry : fs.entry p = .ok (.file bs)) {root : Markup.Element}
    (hroot : Markup.readDocument bs = .ok root) :
    Schema.declaredNamespace root = some key ∨ plan.Misreads fs p := by
  obtain ⟨q, hq, hcanonical, r, hr, hkey⟩ := scanned_of_get? hc hi h hk
  rcases scan_of_scanRoot hr with hmisread | ⟨bs', hentry', hscan⟩
  · exact .inr hmisread
  · cases hentry.symm.trans hentry'
    have hagree : root.attribute? "targetNamespace" = r.attribute? "targetNamespace" :=
      Markup.attribute_agrees hscan hroot (by decide)
        (hb root (mem_roots hq hcanonical hentry hroot))
    left
    rw [Schema.declaredNamespace, hagree]
    rw [Markup.RootScan.targetNamespace] at hkey
    cases ha : r.attribute? "targetNamespace" with
    | none =>
        rw [ha] at hkey
        exact absurd hkey.symm hne
    | some value =>
        rw [ha] at hkey
        cases (show value = key from hkey)
        simp [nonEmpty, Option.filter, hne]

end Scanning

end IndexPlan
end SchemaSet
