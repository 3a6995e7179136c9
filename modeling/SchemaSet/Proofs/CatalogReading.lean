import SchemaSet.Catalog
import SchemaSet.Proofs.CanonicalPath
import SchemaSet.Proofs.Descent
import SchemaSet.Proofs.Overwriting

/-!
# What a catalog lists

Catalog files are the nodes of a traversal: the agenda of a file reports its mappings and enters the
further catalogs where they are mentioned, groups flattened.  `Catalog.Lists` says which mappings
that traversal reports, in which order.  It is one sequence of mappings for each catalog
(`lists_unique`).

`Catalog.Readable` says that the further catalogs of a catalog file can be read.  The nesting of
catalogs is less than the number of files, so the reading of a catalog never stops short: a readable
catalog is read, and made of the mappings that it lists (`ofFile_reads`).  Its entries are, kind by
kind, its identifiers at their first places with their last targets (`entries_ofMappings`).
-/

namespace SchemaSet

/-- The file that an item names. -/
def CatalogItem.path : CatalogItem → Path
  | .mapping _ _ target => target
  | .next catalog => catalog

/-- An element of a catalog that maps an identifier to a file. -/
structure CatalogMapping where
  /-- What the identifier identifies. -/
  kind : IdentifierKind
  id : String
  target : Path
deriving DecidableEq

namespace Catalog

section Listing

variable (fs : FileSystem) (limits : Limits)

/-- The tasks that an item brings up. -/
def itemTasks : CatalogItem → List (Task Path CatalogMapping)
  | .mapping kind id target => [.report ⟨kind, id, target⟩]
  | .next catalog =>
      match fs.canonicalize catalog with
      | .ok p => [.enter p]
      | .error _ => []

/-- What the catalog file at a canonical path brings up. -/
def agenda (p : Path) : List (Task Path CatalogMapping) :=
  match fileItems fs limits p with
  | .ok is => is.flatMap (itemTasks fs)
  | .error _ => []

/-- The file at a canonical path is a catalog that names existing files only. -/
def Sound (p : Path) : Prop :=
  ∃ is, fileItems fs limits p = .ok is ∧ ∀ i ∈ is, ∃ q, fs.canonicalize i.path = .ok q

/-- A path leads to a catalog that is sound, and so are all further catalogs. -/
def Readable (p : Path) : Prop :=
  ∃ start, fs.canonicalize p = .ok start ∧
    ∀ q, Relation.ReflTransGen (Leads (agenda fs limits)) start q → Sound fs limits q

/-- The catalog that a path leads to lists mappings: those of its elements, and those of a further
catalog where it is first mentioned. -/
def Lists (p : Path) (ms : List CatalogMapping) : Prop :=
  ∃ start out, fs.canonicalize p = .ok start ∧
    DepthFirst (agenda fs limits) [] [.enter start] ms out

/-- What a catalog lists is determined by the files. -/
theorem lists_unique {p : Path} {ms ms' : List CatalogMapping} (h : Lists fs limits p ms)
    (h' : Lists fs limits p ms') :
    ms = ms' := by
  obtain ⟨start, out, hc, hd⟩ := h
  obtain ⟨start', out', hc', hd'⟩ := h'
  cases hc.symm.trans hc'
  exact (hd.unique hd').1

/-- A catalog file may be entered while nested catalogs are not deeper than there are files. -/
def Enters (_parent : Path) (depth : Nat) (p : Path) : Prop :=
  Sound fs limits p ∧ depth < fs.fileCount

end Listing

section Reading

variable {fs : FileSystem} {limits : Limits}

/-- Adds the mapping of an element. -/
def add (c : Catalog) (m : CatalogMapping) : Catalog := c.insert m.kind m.id m.target

/-- The catalog made of the mappings of some elements in order. -/
def ofMappings (ms : List CatalogMapping) : Catalog := ms.foldl add empty

theorem mem_filePaths_of_sound {p q : Path} (hc : fs.canonicalize q = .ok p)
    (h : Sound fs limits p) : p ∈ fs.filePaths := by
  obtain ⟨is, hitems, _⟩ := h
  obtain ⟨octets, hload, _⟩ := bind_eq_ok_iff.1 hitems
  obtain ⟨read, hread, _⟩ := bind_eq_ok_iff.1 hload
  exact FileSystem.mem_filePaths hc (FileSystem.entry_of_readPath hread)

theorem mem_itemTasks_enter_iff {i : CatalogItem} {p : Path} :
    .enter p ∈ itemTasks fs i ↔ ∃ q, i = .next q ∧ fs.canonicalize q = .ok p := by
  cases i with
  | mapping kind id target => simp [itemTasks]
  | next q =>
      cases hc : fs.canonicalize q with
      | error f => simp [itemTasks, hc]
      | ok p' => simp [itemTasks, hc, eq_comm]

theorem mem_itemTasks_report_iff {i : CatalogItem} {m : CatalogMapping} :
    .report m ∈ itemTasks fs i ↔ i = .mapping m.kind m.id m.target := by
  cases i with
  | mapping kind id target =>
      obtain ⟨kind', id', target'⟩ := m
      simp [itemTasks, eq_comm]
  | next q => cases hc : fs.canonicalize q <;> simp [itemTasks, hc]

/-- What is on the agenda of a file is brought up by one of its items. -/
theorem mem_agenda_iff {p : Path} {task : Task Path CatalogMapping} :
    task ∈ agenda fs limits p ↔
      ∃ is, fileItems fs limits p = .ok is ∧ ∃ i ∈ is, task ∈ itemTasks fs i := by
  cases hitems : fileItems fs limits p with
  | error e => simp [agenda, hitems]
  | ok is => simp [agenda, hitems]

theorem canonical_of_leads {p q : Path} (h : Leads (agenda fs limits) p q) :
    ∃ r, fs.canonicalize r = .ok q := by
  obtain ⟨_, _, i, _, hi⟩ := mem_agenda_iff.1 h
  obtain ⟨r, _, hc⟩ := mem_itemTasks_enter_iff.1 hi
  exact ⟨r, hc⟩

/-- A catalog is readable if it is one of some sound ones that mention no others. -/
theorem readable_of_closed {p start : Path} {nodes : List Path} (hc : fs.canonicalize p = .ok start)
    (hs : start ∈ nodes)
    (hn : ∀ n ∈ nodes, ∃ is, fileItems fs limits n = .ok is ∧
      ∀ i ∈ is, ∃ q, fs.canonicalize i.path = .ok q ∧ (i = .next i.path → q ∈ nodes)) :
    Readable fs limits p := by
  have hclosed : ∀ q, Relation.ReflTransGen (Leads (agenda fs limits)) start q → q ∈ nodes := by
    intro q path
    induction path with
    | refl => exact hs
    | tail _ hleads ih =>
        obtain ⟨is, hitems, i, hi, htask⟩ := mem_agenda_iff.1 hleads
        obtain ⟨r, rfl, hr⟩ := mem_itemTasks_enter_iff.1 htask
        obtain ⟨is', hitems', hall⟩ := hn _ ih
        cases hitems.symm.trans hitems'
        obtain ⟨q, hq, hmem⟩ := hall _ hi
        cases hr.symm.trans hq
        exact hmem rfl
  refine ⟨start, hc, fun q path => ?_⟩
  obtain ⟨is, hitems, hall⟩ := hn q (hclosed q path)
  refine ⟨is, hitems, fun i hi => ?_⟩
  obtain ⟨r, hr, _⟩ := hall i hi
  exact ⟨r, hr⟩

/-- `nested` reads a further catalog while the agenda of a file is worked off. -/
def Obeys (fs : FileSystem) (limits : Limits) (parent : Path) (depth : Nat)
    (nested : Path → Reading → Journal Notice Error Reading) : Prop :=
  ∀ ⦃q p : Path⦄ ⦃seen out : List Path⦄ ⦃ms : List CatalogMapping⦄,
    fs.canonicalize q = .ok p →
    Descent (agenda fs limits) (Enters fs limits) parent depth seen [.enter p] ms out →
    ∀ c, (nested q ⟨c, seen⟩).outcome = .ok ⟨ms.foldl add c, out⟩

variable {parent : Path} {depth : Nat} {nested : Path → Reading → Journal Notice Error Reading}

theorem follow_reads (hn : Obeys fs limits parent depth nested) {is : List CatalogItem}
    (hi : ∀ i ∈ is, ∃ p, fs.canonicalize i.path = .ok p) {seen out : List Path}
    {ms : List CatalogMapping}
    (hd : Descent (agenda fs limits) (Enters fs limits) parent depth seen
      (is.flatMap (itemTasks fs)) ms out)
    (c : Catalog) :
    (follow nested is ⟨c, seen⟩).outcome = .ok ⟨ms.foldl add c, out⟩ := by
  induction is generalizing seen ms c with
  | nil =>
      obtain ⟨rfl, rfl⟩ := hd.eq_of_nil
      rfl
  | cons i is ih =>
      have hrest : ∀ j ∈ is, ∃ p, fs.canonicalize j.path = .ok p :=
        fun j hj => hi j (List.mem_cons_of_mem _ hj)
      rw [List.flatMap_cons] at hd
      obtain ⟨mid, front, back, hfront, hback, rfl⟩ := hd.split
      rw [List.foldl_append]
      cases i with
      | mapping kind id target =>
          have hreport : Descent (agenda fs limits) (Enters fs limits) parent depth seen
              ([⟨kind, id, target⟩].map .report) front mid := hfront
          obtain ⟨rfl, rfl⟩ := hreport.eq_of_reports
          exact ih hrest hback _
      | next q =>
          obtain ⟨p, hc⟩ := hi (.next q) List.mem_cons_self
          have htasks : itemTasks fs (.next q) = [.enter p] := by
            rw [itemTasks, show fs.canonicalize q = .ok p from hc]
          rw [htasks] at hfront
          exact Journal.outcome_bind_eq_ok_iff.2 ⟨_, hn hc hfront c, ih hrest hback _⟩

/-- A catalog that was not read before is read by following its items. -/
theorem visit_reads {q p : Path} (hc : fs.canonicalize q = .ok p) (hs : Sound fs limits p)
    (hn : Obeys fs limits p depth nested) {seen out : List Path} (hp : p ∉ seen)
    {ms : List CatalogMapping}
    (hd : Descent (agenda fs limits) (Enters fs limits) p depth (seen ++ [p])
      (agenda fs limits p) ms out)
    (c : Catalog) :
    (visit fs limits nested q ⟨c, seen⟩).outcome = .ok ⟨ms.foldl add c, out⟩ := by
  obtain ⟨is, hitems, hnamed⟩ := hs
  have htasks : agenda fs limits p = is.flatMap (itemTasks fs) := by rw [agenda, hitems]
  rw [htasks] at hd
  refine Journal.outcome_bind_eq_ok_iff.2 ⟨p, mapError_eq_ok_iff.2 hc, ?_⟩
  rw [if_neg (by simpa using hp)]
  exact Journal.outcome_bind_eq_ok_iff.2 ⟨is, hitems, follow_reads hn hnamed hd c⟩

theorem visit_again {q p : Path} (hc : fs.canonicalize q = .ok p) {seen : List Path}
    (hp : p ∈ seen) (c : Catalog) :
    (visit fs limits nested q ⟨c, seen⟩).outcome = .ok ⟨c, seen⟩ := by
  refine Journal.outcome_bind_eq_ok_iff.2 ⟨p, mapError_eq_ok_iff.2 hc, ?_⟩
  rw [if_pos (by simpa using hp)]
  rfl

/-- Reading with as many levels as there are files below reads every further catalog. -/
theorem load_obeys (levels : Nat) {parent : Path} {depth : Nat}
    (hl : fs.fileCount ≤ levels + depth) : Obeys fs limits parent depth (load fs limits levels) := by
  induction levels generalizing parent depth with
  | zero =>
      intro q p seen out ms hc hd c
      cases hd with
      | pass _ hrest =>
          obtain ⟨rfl, rfl⟩ := hrest.eq_of_nil
          rfl
      | enter _ henters _ _ =>
          have := henters.2
          omega
  | succ levels ih =>
      intro q p seen out ms hc hd c
      cases hd with
      | pass hp hrest =>
          obtain ⟨rfl, rfl⟩ := hrest.eq_of_nil
          exact visit_again hc hp c
      | enter hp henters hsub hrest =>
          obtain ⟨rfl, rfl⟩ := hrest.eq_of_nil
          rw [List.append_nil]
          exact visit_reads hc henters.1 (ih (by omega)) hp hsub c

open Classical in
/-- The further catalogs of a readable one can be descended. -/
theorem exists_descent_of_sound {start : Path}
    (hc : ∃ p, fs.canonicalize p = .ok start)
    (hs : ∀ q, Relation.ReflTransGen (Leads (agenda fs limits)) start q → Sound fs limits q) :
    ∃ ms out, Descent (agenda fs limits) (Enters fs limits) start 0 [start]
      (agenda fs limits start) ms out := by
  let nodes := fs.filePaths.filter fun q =>
    decide (Relation.ReflTransGen (Leads (agenda fs limits)) start q)
  have hlength : nodes.length ≤ fs.fileCount := by
    rw [← FileSystem.length_filePaths]
    exact List.length_filter_le _ _
  have hnodes : ∀ q, q ∈ nodes ↔
      q ∈ fs.filePaths ∧ Relation.ReflTransGen (Leads (agenda fs limits)) start q := by
    simp [nodes]
  have hstart : start ∈ nodes := by
    obtain ⟨p, hc⟩ := hc
    exact (hnodes start).2 ⟨mem_filePaths_of_sound hc (hs start .refl), .refl⟩
  have hsound : ∀ m ∈ nodes, ∀ n, Leads (agenda fs limits) m n →
      Relation.ReflTransGen (Leads (agenda fs limits)) start n ∧ Sound fs limits n := by
    intro m hm n hmn
    have hreach := (((hnodes m).1 hm).2).tail hmn
    exact ⟨hreach, hs n hreach⟩
  have hclosed : ∀ m ∈ nodes, ∀ n, Leads (agenda fs limits) m n → n ∈ nodes := by
    intro m hm n hmn
    obtain ⟨hreach, hn⟩ := hsound m hm n hmn
    obtain ⟨r, hr⟩ := canonical_of_leads hmn
    exact (hnodes n).2 ⟨mem_filePaths_of_sound hr hn, hreach⟩
  have henters : ∀ m ∈ nodes, ∀ n, Leads (agenda fs limits) m n → ∀ d, d + 1 < nodes.length →
      Enters fs limits m d n :=
    fun m hm n hmn d hd => ⟨(hsound m hm n hmn).2, by omega⟩
  obtain ⟨ms, out, hd, _⟩ := exists_descent hclosed henters nodes.length
    (List.nodup_singleton start) (by simpa using hstart) (by simp) List.mem_cons_self
    Nat.zero_lt_one (List.Subset.refl (agenda fs limits start))
  exact ⟨ms, out, hd⟩

/-- A readable catalog is read, and made of the mappings that it lists.  All their targets
exist. -/
theorem ofFile_reads {p : Path} (h : Readable fs limits p) :
    ∃ ms, Lists fs limits p ms ∧ (ofFile fs limits p).outcome = .ok (ofMappings ms) ∧
      ∀ m ∈ ms, ∃ q, fs.canonicalize m.target = .ok q := by
  obtain ⟨start, hc, hs⟩ := h
  obtain ⟨ms, out, hd⟩ := exists_descent_of_sound ⟨p, hc⟩ hs
  have hlists : DepthFirst (agenda fs limits) [] [.enter start] ms out :=
    .enterOnly List.not_mem_nil hd.depthFirst
  refine ⟨ms, ⟨start, out, hc, hlists⟩, ?_, ?_⟩
  · have hread : (load fs limits (fs.fileCount + 1) p ⟨empty, []⟩).outcome =
        .ok ⟨ms.foldl add empty, out⟩ :=
      visit_reads hc (hs start .refl) (load_obeys _ (Nat.le_refl _)) List.not_mem_nil hd empty
    exact Journal.outcome_bind_eq_ok_iff.2 ⟨_, hread, rfl⟩
  · intro m hm
    rcases (hlists.reported_iff m).1 hm with htask | ⟨n, hn, _, hreport⟩
    · simp at htask
    · obtain ⟨is, hitems, hnamed⟩ := hs n ((hlists.mem_iff_reachable n).1 hn)
      obtain ⟨is', hitems', i, hi, htask⟩ := mem_agenda_iff.1 hreport
      cases hitems.symm.trans hitems'
      have hitem := mem_itemTasks_report_iff.1 htask
      subst hitem
      exact hnamed _ hi

end Reading

section Kinds

/-- The identifiers of one kind that some elements map, with their targets. -/
def ofKind (kind : IdentifierKind) (ms : List CatalogMapping) : List (String × Path) :=
  (ms.filter fun m => m.kind = kind).map fun m => (m.id, m.target)

/-- What some elements map, kind by kind. -/
def byKind (ms : List CatalogMapping) : List (String × Path) :=
  ofKind .publicId ms ++ ofKind .systemId ms ++ ofKind .uriName ms

/-- What a catalog keeps of it: an identifier of a kind stands at its first place, with its last
target. -/
def kept (ms : List CatalogMapping) : List (String × Path) :=
  OrderedMap.lastly (ofKind .publicId ms) ++ OrderedMap.lastly (ofKind .systemId ms) ++
    OrderedMap.lastly (ofKind .uriName ms)

theorem exists_of_mem_kept {ms : List CatalogMapping} {e : String × Path} (h : e ∈ kept ms) :
    ∃ m ∈ ms, e = (m.id, m.target) := by
  have hkind : ∀ kind, e ∈ OrderedMap.lastly (ofKind kind ms) → ∃ m ∈ ms, e = (m.id, m.target) := by
    intro kind he
    obtain ⟨m, hm, rfl⟩ := List.mem_map.1 (OrderedMap.mem_of_mem_lastly he)
    exact ⟨m, (List.mem_filter.1 hm).1, rfl⟩
  rcases List.mem_append.1 h with h | h
  · rcases List.mem_append.1 h with h | h
    · exact hkind _ h
    · exact hkind _ h
  · exact hkind _ h

/-- The files of the identifiers of a kind. -/
def files (c : Catalog) : IdentifierKind → OrderedMap String Path
  | .publicId => c.publicIds
  | .systemId => c.systemIds
  | .uriName => c.uriNames

/-- The mapping of an element only touches the identifiers of its own kind. -/
theorem files_add (c : Catalog) (m : CatalogMapping) (kind : IdentifierKind) :
    (c.add m).files kind =
      if m.kind = kind then (c.files kind).insert m.id m.target else c.files kind := by
  obtain ⟨own, id, target⟩ := m
  cases own <;> cases kind <;> rfl

theorem files_ofMappings (ms : List CatalogMapping) (kind : IdentifierKind) :
    (ofMappings ms).files kind = .ofList (ofKind kind ms) := by
  induction ms using List.reverseRecOn with
  | nil => cases kind <;> rfl
  | append_singleton ms m ih =>
      have hstep : ofMappings (ms ++ [m]) = (ofMappings ms).add m := by
        simp [ofMappings, List.foldl_append]
      rw [hstep, files_add, ih]
      by_cases hk : m.kind = kind
      · rw [if_pos hk, ← OrderedMap.ofList_snoc]
        simp [ofKind, List.filter_append, hk]
      · rw [if_neg hk]
        simp [ofKind, List.filter_append, hk]

/-- The entries of a catalog are what it keeps of its elements. -/
theorem entries_ofMappings (ms : List CatalogMapping) : (ofMappings ms).entries = kept ms := by
  have hkind : ∀ kind, ((ofMappings ms).files kind).entries = OrderedMap.lastly (ofKind kind ms) := by
    intro kind
    rw [files_ofMappings, OrderedMap.entries_ofList]
  rw [kept, ← hkind, ← hkind, ← hkind]
  rfl

end Kinds

end Catalog
end SchemaSet
