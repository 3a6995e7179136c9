import Mathlib.Tactic.Choose
import SchemaSet.Proofs.CatalogClaims
import SchemaSet.Proofs.Listing

/-!
# The index of a directory

`IndexPlan.IsEligibleFile` says which files of a directory a plan indexes, and `IndexPlan.Scans`
what the scan of such a file yields.  In a `SchemaDirectory` all of them can be scanned and declare
different namespaces.

Every document of such a directory claims a key that no other one claims, so each claim makes an
entry of its own (`enterDocuments_fresh`).  A request is then answered from the document that
declares its key.

The main theorem `directory_round_trip` is about the plan with nothing but a directory.  Its index
does not depend on the order in which the directory is listed; it has one entry for each document
and answers every request from them.
-/

namespace SchemaSet

/-- The entry that a claim makes. -/
def Claim.entry (c : Claim) : String × IndexEntry := (c.key, ⟨c.path, c.origin⟩)

namespace IndexPlan

section Files

/-- The path of an entry of a directory. -/
def memberPath (names : List Bytes) (name : Bytes) : Path := (Path.ofNames names).join ⟨name⟩

variable (plan : IndexPlan) (fs : FileSystem) (names : List Bytes)

/-- A regular file directly in a directory, with one of the extensions of a plan. -/
structure IsEligibleFile (name : Bytes) : Prop where
  listed : name ∈ fs.children names
  regular : fs.isFile (Path.ofNames (names ++ [name])) = true
  extension : ∃ extension ∈ plan.extensions,
    (Path.extensionOf name).map Utf8.decode = some (.ok extension)

/-- The scan of the root of a file in a directory yields a target namespace; the file is at a
canonical path. -/
def Scans (name : Bytes) (key : String) (p : Path) : Prop :=
  fs.canonicalize (memberPath names name) = .ok p ∧
    ∃ root, plan.scanRoot fs p = .ok root ∧ root.targetNamespace = key

variable {plan fs names} {name : Bytes}

theorem isEligible_eq_true_iff :
    plan.isEligible name = true ↔
      ∃ extension ∈ plan.extensions,
        (Path.extensionOf name).map Utf8.decode = some (.ok extension) := by
  unfold isEligible
  split
  · rename_i extension h
    simp [h]
  · rename_i h
    constructor
    · intro hfalse
      cases hfalse
    · rintro ⟨extension, _, hx⟩
      exact absurd hx (h extension)

theorem mem_filter_children :
    name ∈ (fs.children names).filter (fun name =>
        fs.isFile (Path.ofNames (names ++ [name])) && plan.isEligible name) ↔
      plan.IsEligibleFile fs names name := by
  rw [List.mem_filter, Bool.and_eq_true, isEligible_eq_true_iff]
  constructor
  · rintro ⟨hlisted, hregular, hextension⟩
    exact ⟨hlisted, hregular, hextension⟩
  · rintro ⟨hlisted, hregular, hextension⟩
    exact ⟨hlisted, hregular, hextension⟩

theorem mem_eligibleNames :
    name ∈ plan.eligibleNames fs names ↔ plan.IsEligibleFile fs names name := by
  rw [eligibleNames, (List.mergeSort_perm _ _).mem_iff, mem_filter_children]

theorem describe_eq_ok_iff {c : Claim} :
    plan.describe fs (memberPath names name) = .ok c ↔
      plan.Scans fs names name c.key c.path ∧ c.origin = .document := by
  constructor
  · intro h
    obtain ⟨p, hp, h⟩ := bind_eq_ok_iff.1 h
    obtain ⟨root, hroot, h⟩ := bind_eq_ok_iff.1 h
    cases h
    exact ⟨⟨mapError_eq_ok_iff.1 hp, root, hroot, rfl⟩, rfl⟩
  · obtain ⟨key, p, origin⟩ := c
    rintro ⟨⟨hp, root, hroot, rfl⟩, rfl⟩
    refine bind_eq_ok_iff.2 ⟨p, mapError_eq_ok_iff.2 hp, ?_⟩
    exact bind_eq_ok_iff.2 ⟨root, hroot, rfl⟩

theorem Scans.unique {key key' : String} {p p' : Path} (h : plan.Scans fs names name key p)
    (h' : plan.Scans fs names name key' p') :
    key = key' ∧ p = p' := by
  obtain ⟨hc, root, hroot, rfl⟩ := h
  obtain ⟨hc', root', hroot', rfl⟩ := h'
  cases hc.symm.trans hc'
  cases hroot.symm.trans hroot'
  exact ⟨rfl, rfl⟩

theorem eq_snoc_of_child {key : List Bytes} {name : Bytes}
    (h : (if key.dropLast == names then key.getLast? else none) = some name) :
    key = names ++ [name] := by
  split at h
  · rename_i hdir
    obtain ⟨front, rfl⟩ := List.getLast?_eq_some_iff.1 h
    rw [List.dropLast_concat] at hdir
    rw [eq_of_beq hdir]
  · cases h

theorem mem_children_iff : name ∈ fs.children names ↔ names ++ [name] ∈ fs.nodes.keys := by
  rw [FileSystem.children, List.mem_filterMap]
  constructor
  · rintro ⟨key, hkey, hname⟩
    exact eq_snoc_of_child hname ▸ hkey
  · exact fun hkey => ⟨_, hkey, by simp⟩

theorem nodup_children (fs : FileSystem) (names : List Bytes) : (fs.children names).Nodup := by
  refine List.Nodup.filterMap ?_ fs.nodes.distinct
  intro key key' name h h'
  rw [eq_snoc_of_child h, eq_snoc_of_child h']

theorem nodup_eligibleNames (plan : IndexPlan) (fs : FileSystem) (names : List Bytes) :
    (plan.eligibleNames fs names).Nodup :=
  (List.mergeSort_perm _ _).nodup_iff.2 ((nodup_children fs names).filter _)

end Files

section Directory

variable (plan : IndexPlan) (fs : FileSystem) (names : List Bytes)

/-- A directory with documents that a plan indexes, all of which can be scanned, that declare
different namespaces; and there are no more of them than an index may have entries. -/
structure SchemaDirectory : Prop where
  supplied : ∃ name, plan.IsEligibleFile fs names name
  /-- All of them can be scanned. -/
  scanned : ∀ name, plan.IsEligibleFile fs names name → ∃ uri p, plan.Scans fs names name uri p
  /-- No two of them declare the same namespace. -/
  distinct : ∀ name name' uri p p', plan.IsEligibleFile fs names name →
    plan.IsEligibleFile fs names name' → plan.Scans fs names name uri p →
    plan.Scans fs names name' uri p' → name = name'
  counted : ∀ files : List Bytes, files.Nodup →
    (∀ name ∈ files, plan.IsEligibleFile fs names name) →
    files.length ≤ plan.limits.maxIndexEntries

/-- The answer to a request with a key: the document that declares the key, with the other parts of
the request, or that there is none. -/
def Answers (r : Request) (key : Key) (answer : Resolution) : Prop :=
  (∃ name p, plan.IsEligibleFile fs names name ∧ plan.Scans fs names name key.text p ∧
    answer = .resolved ⟨key, p, r.publicId, r.base⟩) ∨
  ((¬ ∃ name p, plan.IsEligibleFile fs names name ∧ plan.Scans fs names name key.text p) ∧
    answer = .unresolved key)

/-- An index has one entry for each document of a directory that a plan indexes, in the order of
their names, and answers requests from them. -/
structure Mirrors (index : Index) : Prop where
  directory : index.directory = Path.ofNames names
  /-- There is one entry for each document and no other. -/
  entries : ∃ files : List Bytes, files.Nodup ∧ files.Pairwise (· ≤ ·) ∧
    (∀ name, name ∈ files ↔ plan.IsEligibleFile fs names name) ∧
    List.Forall₂ (fun name e => plan.Scans fs names name e.1 e.2.path ∧ e.2.origin = .document)
      files index.entries.entries
  /-- A namespace is the key of a request, whatever its other parts are. -/
  byUri : ∀ r uri, nonEmpty r.uri = some uri →
    plan.Answers fs names r (.uri uri) (index.resolver r)
  /-- Without one, a public identifier is. -/
  byPublicId : ∀ r id, nonEmpty r.uri = none → nonEmpty r.publicId = some id →
    plan.Answers fs names r (.publicId id) (index.resolver r)
  skipped : ∀ r, nonEmpty r.uri = none → nonEmpty r.publicId = none → index.resolver r = .skip

end Directory

section Fresh

variable {plan : IndexPlan} {fs : FileSystem} {entries : Entries}

theorem enter_fresh {c : Claim} (hk : c.key ∉ entries.keys)
    (hs : entries.size < plan.limits.maxIndexEntries) :
    ∃ entries', (plan.enter entries c).outcome = .ok entries' ∧
      entries'.entries = entries.entries ++ [c.entry] := by
  have hentries : (entries.insert c.key ⟨c.path, c.origin⟩).entries = entries.entries ++ [c.entry] :=
    OrderedMap.put_of_notMem hk
  refine ⟨entries.insert c.key ⟨c.path, c.origin⟩, ?_, hentries⟩
  rw [enter, Entries.claim_new _ _ _ ((OrderedMap.get?_eq_none_iff _ _).2 hk)]
  have hsize : (entries.insert c.key ⟨c.path, c.origin⟩).size ≤ plan.limits.maxIndexEntries := by
    rw [OrderedMap.size, hentries, List.length_append]
    exact hs
  refine Journal.outcome_bind_eq_ok_iff.2 ⟨_, rfl, ?_⟩
  exact Journal.outcome_bind_eq_ok_iff.2
    ⟨(), mapError_eq_ok_iff.2 ((Limits.check_ok_iff _ .indexEntries _).2 hsize), rfl⟩

/-- Claims of fresh keys are entered one after the other. -/
theorem enterDocuments_fresh {ps : List Path} {cs : List Claim}
    (hd : List.Forall₂ (fun p c => plan.describe fs p = .ok c) ps cs)
    (hk : (entries.keys ++ cs.map Claim.key).Nodup)
    (hs : entries.size + cs.length ≤ plan.limits.maxIndexEntries) :
    ∃ entries', (plan.enterDocuments fs entries ps).outcome = .ok entries' ∧
      entries'.entries = entries.entries ++ cs.map Claim.entry := by
  induction hd generalizing entries with
  | nil => exact ⟨entries, rfl, (List.append_nil _).symm⟩
  | @cons p c ps cs hdescribe _ ih =>
      have hfresh : c.key ∉ entries.keys := by
        intro hmem
        exact (List.nodup_append.1 hk).2.2 _ hmem _ (by simp) rfl
      rw [List.length_cons] at hs
      obtain ⟨entered, henter, hentered⟩ := @enter_fresh plan entries c hfresh (by omega)
      have hkeys : entered.keys = entries.keys ++ [c.key] := by
        rw [OrderedMap.keys, hentered, List.map_append]
        rfl
      have hsize : entered.size = entries.size + 1 := by
        rw [OrderedMap.size, hentered, List.length_append]
        rfl
      obtain ⟨entries', hrest, hentries⟩ := @ih entered
        (by rw [hkeys, List.append_assoc]; exact hk) (by omega)
      refine ⟨entries', ?_, by rw [hentries, hentered, List.append_assoc]; rfl⟩
      refine Journal.outcome_bind_eq_ok_iff.2 ⟨c, hdescribe, ?_⟩
      refine Journal.outcome_bind_eq_ok_iff.2 ⟨(), rfl, ?_⟩
      exact Journal.outcome_bind_eq_ok_iff.2 ⟨entered, henter, hrest⟩

end Fresh

section Answering

variable {plan : IndexPlan} {fs : FileSystem} {names : List Bytes} {index : Index}
variable {files : List Bytes} {claim : Bytes → Claim}

/-- The path under a key is that of the document that declares it. -/
theorem get?_eq_some_iff (hfiles : ∀ name, name ∈ files ↔ plan.IsEligibleFile fs names name)
    (hc : ∀ name ∈ files, plan.Scans fs names name (claim name).key (claim name).path)
    (hentries : index.entries.entries = files.map fun name => (claim name).entry)
    {key : String} {p : Path} :
    index.get? key = some p ↔
      ∃ name, plan.IsEligibleFile fs names name ∧ plan.Scans fs names name key p := by
  constructor
  · intro h
    obtain ⟨e, he, rfl⟩ := Option.map_eq_some_iff.1 h
    have hmem := OrderedMap.get?_eq_some_iff.1 he
    rw [hentries] at hmem
    obtain ⟨name, hname, heq⟩ := List.mem_map.1 hmem
    cases heq
    exact ⟨name, (hfiles name).1 hname, hc name hname⟩
  · rintro ⟨name, hname, hscans⟩
    have hmem : name ∈ files := (hfiles name).2 hname
    obtain ⟨rfl, rfl⟩ := (hc name hmem).unique hscans
    have hlisted : (claim name).entry ∈ index.entries.entries := by
      rw [hentries]
      exact List.mem_map_of_mem hmem
    exact Option.map_eq_some_iff.2 ⟨_, OrderedMap.get?_eq_some_iff.2 hlisted, rfl⟩

/-- A request with a key is answered from the document that declares the key. -/
theorem answers_of_key
    (hget : ∀ key p, index.get? key = some p ↔
      ∃ name, plan.IsEligibleFile fs names name ∧ plan.Scans fs names name key p)
    {r : Request} {key : Key} (hk : r.key = some key) :
    plan.Answers fs names r key (index.resolver r) := by
  cases hfound : index.get? key.text with
  | some p =>
      obtain ⟨name, hname, hscans⟩ := (hget key.text p).1 hfound
      refine .inl ⟨name, p, hname, hscans, ?_⟩
      simp [Index.resolver, Resolver.ofLookup, hk, hfound, Resolution.hit]
  | none =>
      refine .inr ⟨?_, ?_⟩
      · rintro ⟨name, p, hname, hscans⟩
        rw [(hget key.text p).2 ⟨name, hname, hscans⟩] at hfound
        cases hfound
      · simp [Index.resolver, Resolver.ofLookup, hk, hfound]

end Answering

section RoundTrip

variable {plan : IndexPlan} {fs : FileSystem} {names : List Bytes} {directory : Path}

theorem SchemaDirectory.exists_claim (h : plan.SchemaDirectory fs names) :
    ∃ claim : Bytes → Claim, ∀ name, plan.IsEligibleFile fs names name →
      plan.describe fs (memberPath names name) = .ok (claim name) := by
  have hclaims : ∀ name, plan.IsEligibleFile fs names name → ∃ c,
      plan.describe fs (memberPath names name) = .ok c := by
    intro name hname
    obtain ⟨uri, p, hscans⟩ := h.scanned name hname
    exact ⟨⟨uri, p, .document⟩, describe_eq_ok_iff.2 ⟨hscans, rfl⟩⟩
  have : Nonempty Claim := ⟨⟨"", default, .document⟩⟩
  choose! claim hclaim using hclaims
  exact ⟨claim, hclaim⟩

/-- The documents of a directory claim different keys. -/
theorem SchemaDirectory.nodup_keys (h : plan.SchemaDirectory fs names) {files : List Bytes}
    (hf : files.Nodup) (hfiles : ∀ name ∈ files, plan.IsEligibleFile fs names name)
    {claim : Bytes → Claim}
    (hc : ∀ name ∈ files, plan.Scans fs names name (claim name).key (claim name).path) :
    ((files.map claim).map Claim.key).Nodup := by
  rw [List.map_map]
  refine List.Nodup.map_on ?_ hf
  intro name hname name' hname' hkey
  have hsame : plan.Scans fs names name' (claim name).key (claim name').path := by
    rw [show (claim name).key = (claim name').key from hkey]
    exact hc name' hname'
  exact h.distinct name name' _ _ _ (hfiles name hname) (hfiles name' hname') (hc name hname) hsame

/-- What is built in a directory from the claims of its documents, if they are fresh. -/
theorem build_fresh (hn : checkDirectory fs directory = .ok names) {files : List Bytes}
    (hfiles : (ofDirectory directory).eligibleNames fs names = files) (hsome : files ≠ [])
    {claim : Bytes → Claim}
    (hc : ∀ name ∈ files,
      (ofDirectory directory).describe fs (memberPath names name) = .ok (claim name))
    (hk : ((files.map claim).map Claim.key).Nodup)
    (hs : files.length ≤ Limits.standard.maxIndexEntries) :
    ∃ index, ((ofDirectory directory).build fs).outcome = .ok index ∧
      index.directory = Path.ofNames names ∧
      index.entries.entries = files.map fun name => (claim name).entry := by
  have hpaths : (ofDirectory directory).paths fs = files.map (memberPath names) := by
    rw [paths_of_checkDirectory hn, hfiles]
    rfl
  have hsupplied : (ofDirectory directory).paths fs ≠ [] := by
    rw [hpaths]
    exact hsome ∘ List.map_eq_nil_iff.1
  have hdescribe : List.Forall₂ (fun p c => (ofDirectory directory).describe fs p = .ok c)
      (files.map (memberPath names)) (files.map claim) := by
    rw [List.forall₂_map_left_iff, List.forall₂_map_right_iff, List.forall₂_same]
    exact hc
  have hroom : (∅ : Entries).size + (files.map claim).length ≤
      (ofDirectory directory).limits.maxIndexEntries := by
    show 0 + _ ≤ Limits.standard.maxIndexEntries
    rwa [List.length_map, Nat.zero_add]
  obtain ⟨entries, hentered, hentries⟩ :=
    @enterDocuments_fresh _ fs ∅ _ _ hdescribe hk hroom
  have hall : ((ofDirectory directory).enterAll fs ((ofDirectory directory).paths fs)).outcome =
      .ok entries := by
    rw [hpaths]
    refine Journal.outcome_bind_eq_ok_iff.2 ⟨entries, hentered, ?_⟩
    exact Journal.outcome_bind_eq_ok_iff.2 ⟨entries, rfl, rfl⟩
  refine ⟨⟨Path.ofNames names, entries⟩, ?_, rfl, ?_⟩
  · rw [outcome_build hn hsupplied, hall]
    rfl
  · rw [hentries, List.map_map]
    rfl

/-- A directory of schema documents that declare different namespaces is indexed. -/
theorem build_mirrors (hn : checkDirectory fs directory = .ok names)
    (h : (ofDirectory directory).SchemaDirectory fs names) :
    ∃ index, ((ofDirectory directory).build fs).outcome = .ok index ∧
      (ofDirectory directory).Mirrors fs names index := by
  obtain ⟨files, heq⟩ : ∃ files, (ofDirectory directory).eligibleNames fs names = files := ⟨_, rfl⟩
  have hfiles : ∀ name, name ∈ files ↔ (ofDirectory directory).IsEligibleFile fs names name :=
    fun name => heq ▸ mem_eligibleNames
  have hnodup : files.Nodup := heq ▸ nodup_eligibleNames (ofDirectory directory) fs names
  have hsome : files ≠ [] := by
    obtain ⟨name, hname⟩ := h.supplied
    exact List.ne_nil_of_mem ((hfiles name).2 hname)
  obtain ⟨claim, hclaim⟩ := h.exists_claim
  have hdescribe : ∀ name ∈ files,
      (ofDirectory directory).describe fs (memberPath names name) = .ok (claim name) :=
    fun name hname => hclaim name ((hfiles name).1 hname)
  have hscans := fun name hname => describe_eq_ok_iff.1 (hdescribe name hname)
  have hkeys := h.nodup_keys hnodup (fun name => (hfiles name).1)
    fun name hname => (hscans name hname).1
  obtain ⟨index, hbuilt, hdirectory, hentries⟩ := build_fresh hn heq hsome hdescribe hkeys
    (h.counted files hnodup fun name => (hfiles name).1)
  have hget : ∀ key p, index.get? key = some p ↔
      ∃ name, (ofDirectory directory).IsEligibleFile fs names name ∧
        (ofDirectory directory).Scans fs names name key p :=
    fun key p => get?_eq_some_iff hfiles (fun name hname => (hscans name hname).1) hentries
  refine ⟨index, hbuilt, ?_⟩
  exact
    { directory := hdirectory
      entries := by
        refine ⟨files, hnodup, heq ▸ pairwise_mergeSort _, hfiles, ?_⟩
        rw [hentries, List.forall₂_map_right_iff, List.forall₂_same]
        exact hscans
      byUri := by
        intro r uri huri
        exact answers_of_key hget (by simp [Request.key, huri])
      byPublicId := by
        intro r id huri hid
        exact answers_of_key hget (by simp [Request.key, huri, hid])
      skipped := by
        intro r huri hid
        rw [Index.resolve_eq_skip_iff, Request.key_eq_none_iff]
        exact ⟨huri, hid⟩ }

/-- The index of a directory does not depend on the order in which it is listed.  If its schema
documents declare different namespaces, it holds one entry for each of them, and every request is
answered from them. -/
theorem directory_round_trip (fs : FileSystem) (directory : Path) :
    (∀ fs', fs.Relists fs' →
      (ofDirectory directory).build fs' = (ofDirectory directory).build fs) ∧
    ∀ names, checkDirectory fs directory = .ok names →
      (ofDirectory directory).SchemaDirectory fs names →
      ∃ index, ((ofDirectory directory).build fs).outcome = .ok index ∧
        (ofDirectory directory).Mirrors fs names index :=
  ⟨fun _ h => build_relists _ h, fun _ hn h => build_mirrors hn h⟩

end RoundTrip

section Sample

/-- What is known of a directory from the claims of its documents. -/
theorem schemaDirectory_of_claims {plan : IndexPlan} {fs : FileSystem} {names files : List Bytes}
    (hfiles : (fs.children names).filter (fun name =>
      fs.isFile (Path.ofNames (names ++ [name])) && plan.isEligible name) = files)
    (hsome : files.isEmpty = false) (claim : Bytes → Claim)
    (hc : ∀ name ∈ files,
      (plan.describe fs (memberPath names name)).toOption = some (claim name))
    (hk : ∀ name ∈ files, ∀ name' ∈ files, (claim name).key = (claim name').key → name = name')
    (hs : files.length ≤ plan.limits.maxIndexEntries) :
    plan.SchemaDirectory fs names := by
  have hmem : ∀ name, plan.IsEligibleFile fs names name ↔ name ∈ files :=
    fun name => hfiles ▸ mem_filter_children.symm
  have hscans : ∀ name ∈ files, plan.Scans fs names name (claim name).key (claim name).path :=
    fun name hname => (describe_eq_ok_iff.1 (toOption_eq_some_iff.1 (hc name hname))).1
  exact
    { supplied := by
        obtain ⟨name, hname⟩ := List.exists_mem_of_ne_nil files (by rintro rfl; cases hsome)
        exact ⟨name, (hmem name).2 hname⟩
      scanned := fun name hname => ⟨_, _, hscans name ((hmem name).1 hname)⟩
      distinct := by
        intro name name' uri p p' hname hname' h h'
        have hin := (hmem name).1 hname
        have hin' := (hmem name').1 hname'
        refine hk name hin name' hin' ?_
        rw [((hscans name hin).unique h).1, ((hscans name' hin').unique h').1]
      counted := by
        intro others hnodup hothers
        exact Nat.le_trans
          (hnodup.length_le_of_subset fun name hname => (hmem name).1 (hothers name hname)) hs }

/-- Three files at the top, listed in some order: a schema without a namespace, one with a namespace,
and a file that is no schema. -/
def folder (arrange : List (String × Bytes) → List (String × Bytes)) : FileSystem :=
  topFiles (arrange
    [("b.xsd", schemaOctets "" []), ("a.xsd", schemaOctets "targetNamespace='urn:a'" []),
      ("c.txt", [])])

theorem folder_relists : (folder id).Relists (folder List.reverse) where
  workingDirectory := rfl
  nodes := by decide +kernel

theorem folder_schemaDirectory :
    (ofDirectory (Path.ofNames [])).SchemaDirectory (folder id) [] := by
  refine @schemaDirectory_of_claims _ _ _
    [Utf8.encode "b.xsd", Utf8.encode "a.xsd"] ?_ rfl
    (fun name =>
      if name = Utf8.encode "a.xsd" then ⟨"urn:a", topPath "a.xsd", .document⟩
      else ⟨"", topPath "b.xsd", .document⟩) ?_ ?_ ?_ <;>
    decide +kernel

theorem folder_round_trip :
    (ofDirectory (Path.ofNames [])).build (folder List.reverse) =
        (ofDirectory (Path.ofNames [])).build (folder id) ∧
      ∃ index, ((ofDirectory (Path.ofNames [])).build (folder id)).outcome = .ok index ∧
        (ofDirectory (Path.ofNames [])).Mirrors (folder id) [] index :=
  ⟨(directory_round_trip (folder id) (Path.ofNames [])).1 _ folder_relists,
    (directory_round_trip (folder id) (Path.ofNames [])).2 [] rfl folder_schemaDirectory⟩

end Sample

end IndexPlan
end SchemaSet
