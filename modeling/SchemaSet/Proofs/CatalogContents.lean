import SchemaSet.Proofs.CatalogClaims
import SchemaSet.Proofs.CatalogTermination

/-!
# What the reachable catalogs say

A catalog is read from any path, and its mappings need not lead to existing files.  This module
states by the catalog files alone what the catalog contains.

An element of a catalog file counts if only groups that count stand between it and the root:
`Catalog.Grouped`.  Each is seen from its own place, `Catalog.seen`: from the directory of its file,
moved by the bases of the groups around it, outermost first.  `Catalog.survey` lists, in document
order, what the elements of a file say by themselves.

Reading a catalog works off tasks of the traversal of the catalog files and adds the mappings that
it reports; this invariant is `Catalog.Works`.  A reading that ends well has followed every further
catalog that was mentioned (`load_works`), so that a catalog that is read contains exactly what the
reachable catalog files say (`ofFile_tells`).
-/

namespace SchemaSet

namespace IdentifierKind

/-- The local name of the elements that map identifiers of a kind. -/
def elementName : IdentifierKind → String
  | .publicId => "public"
  | .systemId => "system"
  | .uriName => "uri"

/-- The attribute that holds an identifier of a kind. -/
def attributeName : IdentifierKind → String
  | .publicId => "publicId"
  | .systemId => "systemId"
  | .uriName => "name"

/-- The kind that an element with a local name maps. -/
def ofElementName? (localName : String) : Option IdentifierKind :=
  [publicId, systemId, uriName].find? fun kind => kind.elementName = localName

theorem ofElementName?_eq_some_iff {localName : String} {kind : IdentifierKind} :
    ofElementName? localName = some kind ↔ localName = kind.elementName := by
  constructor
  · intro h
    have hname := List.find?_some h
    exact (of_decide_eq_true hname).symm
  · rintro rfl
    cases kind <;> rfl

end IdentifierKind

namespace Catalog

open Markup

section Grouping

/-- An element counts in a catalog file if it is eligible and stands directly inside the root, or
inside a group that counts; the groups around it are listed outermost first. -/
inductive Grouped (root : Element) : List Element → Element → Prop
  | top {e : Element} :
      e ∈ root.children → isEligible e = true → Grouped root [] e
  | inner {groups : List Element} {g e : Element} :
      Grouped root groups g → g.name.localName = "group" → e ∈ g.children → isEligible e = true →
      Grouped root (groups ++ [g]) e

mutual

/-- The element, if it counts, and all that count inside it, in document order, each with the
groups around it. -/
def groupedOf (groups : List Element) : Element → List (List Element × Element)
  | ⟨name, attributes, children, scope⟩ =>
      let e : Element := ⟨name, attributes, children, scope⟩
      if isEligible e then
        if name.localName = "group" then (groups, e) :: grouped (groups ++ [e]) children
        else [(groups, e)]
      else []

/-- The elements of a list that count and all that count inside them, in document order, each with
the groups around it. -/
def grouped (groups : List Element) : List Element → List (List Element × Element)
  | [] => []
  | e :: r => groupedOf groups e ++ grouped groups r

end

variable {root e g : Element} {groups groups' : List Element} {l : List Element}
variable {place : List Element × Element}

theorem groupedOf_of_group (he : isEligible e = true) (hg : e.name.localName = "group") :
    groupedOf groups e = (groups, e) :: grouped (groups ++ [e]) e.children := by
  obtain ⟨name, attributes, children, scope⟩ := e
  simp only at hg
  rw [groupedOf, if_pos he, if_pos hg]

theorem groupedOf_of_not_group (he : isEligible e = true) (hg : e.name.localName ≠ "group") :
    groupedOf groups e = [(groups, e)] := by
  obtain ⟨name, attributes, children, scope⟩ := e
  simp only at hg
  rw [groupedOf, if_pos he, if_neg hg]

theorem groupedOf_of_not_eligible (he : ¬ isEligible e = true) : groupedOf groups e = [] := by
  obtain ⟨name, attributes, children, scope⟩ := e
  rw [groupedOf, if_neg he]

mutual

theorem grouped_of_mem_groupedOf : (e : Element) → {groups : List Element} →
    (isEligible e = true → Grouped root groups e) → place ∈ groupedOf groups e →
    Grouped root place.1 place.2
  | ⟨name, attributes, children, scope⟩, groups, he, hplace => by
      by_cases heligible : isEligible ⟨name, attributes, children, scope⟩ = true
      · by_cases hg : name.localName = "group"
        · rw [groupedOf_of_group heligible hg] at hplace
          rcases List.mem_cons.1 hplace with rfl | hplace
          · exact he heligible
          · exact grouped_of_mem_grouped children
              (fun f hf hfe => .inner (he heligible) hg hf hfe) hplace
        · rw [groupedOf_of_not_group heligible hg] at hplace
          cases List.mem_singleton.1 hplace
          exact he heligible
      · rw [groupedOf_of_not_eligible heligible] at hplace
        exact absurd hplace List.not_mem_nil

theorem grouped_of_mem_grouped : (l : List Element) → {groups : List Element} →
    (∀ e ∈ l, isEligible e = true → Grouped root groups e) → place ∈ grouped groups l →
    Grouped root place.1 place.2
  | [], _, _, hplace => absurd hplace List.not_mem_nil
  | e :: r, _, hl, hplace => by
      rcases List.mem_append.1 hplace with hplace | hplace
      · exact grouped_of_mem_groupedOf e (hl e List.mem_cons_self) hplace
      · exact grouped_of_mem_grouped r (fun f hf => hl f (List.mem_cons_of_mem _ hf)) hplace

end

/-- An eligible element of a list is listed. -/
theorem mem_grouped (he : e ∈ l) (heligible : isEligible e = true) :
    (groups, e) ∈ grouped groups l := by
  induction l with
  | nil => exact absurd he List.not_mem_nil
  | cons f r ih =>
      rcases List.mem_cons.1 he with rfl | he
      · refine List.mem_append_left _ ?_
        by_cases hg : e.name.localName = "group"
        · rw [groupedOf_of_group heligible hg]
          exact List.mem_cons_self
        · rw [groupedOf_of_not_group heligible hg]
          exact List.mem_cons_self
      · exact List.mem_append_right _ (ih he)

mutual

/-- With a group, the eligible elements directly inside it are listed. -/
theorem inner_mem_groupedOf (hg : g.name.localName = "group") (he : e ∈ g.children)
    (heligible : isEligible e = true) : (f : Element) → {groups : List Element} →
    (groups', g) ∈ groupedOf groups f → (groups' ++ [g], e) ∈ groupedOf groups f
  | ⟨name, attributes, children, scope⟩, groups, hplace => by
      by_cases hfe : isEligible ⟨name, attributes, children, scope⟩ = true
      · by_cases hf : name.localName = "group"
        · rw [groupedOf_of_group hfe hf] at hplace ⊢
          refine List.mem_cons_of_mem _ ?_
          rcases List.mem_cons.1 hplace with heq | hplace
          · cases heq
            exact mem_grouped he heligible
          · exact inner_mem_grouped hg he heligible children hplace
        · rw [groupedOf_of_not_group hfe hf] at hplace
          cases List.mem_singleton.1 hplace
          exact absurd hg hf
      · rw [groupedOf_of_not_eligible hfe] at hplace
        exact absurd hplace List.not_mem_nil

theorem inner_mem_grouped (hg : g.name.localName = "group") (he : e ∈ g.children)
    (heligible : isEligible e = true) : (l : List Element) → {groups : List Element} →
    (groups', g) ∈ grouped groups l → (groups' ++ [g], e) ∈ grouped groups l
  | [], _, hplace => absurd hplace List.not_mem_nil
  | f :: r, _, hplace => by
      rcases List.mem_append.1 hplace with hplace | hplace
      · exact List.mem_append_left _ (inner_mem_groupedOf hg he heligible f hplace)
      · exact List.mem_append_right _ (inner_mem_grouped hg he heligible r hplace)

end

/-- Exactly the elements that count are listed. -/
theorem mem_grouped_iff : (groups, e) ∈ grouped [] root.children ↔ Grouped root groups e := by
  constructor
  · exact grouped_of_mem_grouped root.children fun f hf hfe => .top hf hfe
  · intro h
    induction h with
    | top he heligible => exact mem_grouped he heligible
    | inner _ hg he heligible ih => exact inner_mem_grouped hg he heligible _ ih

end Grouping

section Places

/-- The directory of a catalog file, moved by the bases of some groups, outermost first. -/
def directory (file : Path) (groups : List Element) : Path :=
  (groups.filterMap fun g => g.attributeNamed? baseName).foldl
    (fun base s => base.join (Path.ofString s)) (file.parent.getD ⟨[]⟩)

/-- The path that a text names inside some groups of a catalog file. -/
def seen (file : Path) (groups : List Element) (text : String) : Path :=
  (directory file groups).join (Path.ofString text)

/-- An element inside some groups of a catalog file maps an identifier. -/
structure Maps (file : Path) (groups : List Element) (e : Element) (m : CatalogMapping) : Prop where
  element : e.name.localName = m.kind.elementName
  id : e.attribute? m.kind.attributeName = some m.id
  target : ∃ text, e.attribute? "uri" = some text ∧ m.target = seen file groups text

/-- An element inside some groups of a catalog file mentions a further catalog. -/
structure Mentions (file : Path) (groups : List Element) (e : Element) (next : Path) : Prop where
  element : e.name.localName = "nextCatalog"
  target : ∃ text, e.attribute? "catalog" = some text ∧ next = seen file groups text

/-- What an element inside some groups of a catalog file asks for, apart from the elements inside
it. -/
def asks (file : Path) (groups : List Element) (e : Element) : Option CatalogItem :=
  if e.name.localName = "nextCatalog" then
    (e.attribute? "catalog").map fun text => .next (seen file groups text)
  else do
    let kind ← IdentifierKind.ofElementName? e.name.localName
    let id ← e.attribute? kind.attributeName
    let text ← e.attribute? "uri"
    return .mapping kind id (seen file groups text)

variable {file : Path} {groups : List Element} {e : Element}

/-- An element that maps a kind asks for a mapping if it has both attributes. -/
theorem asks_of_kind {kind : IdentifierKind} (hkind : e.name.localName = kind.elementName) :
    asks file groups e = do
      let id ← e.attribute? kind.attributeName
      let text ← e.attribute? "uri"
      return .mapping kind id (seen file groups text) := by
  have hne : ¬ e.name.localName = "nextCatalog" := by
    rw [hkind]
    cases kind <;> decide
  rw [asks, if_neg hne, IdentifierKind.ofElementName?_eq_some_iff.2 hkind]
  rfl

theorem asks_eq_mapping_iff {m : CatalogMapping} :
    asks file groups e = some (.mapping m.kind m.id m.target) ↔ Maps file groups e m := by
  obtain ⟨kind, id, target⟩ := m
  constructor
  · intro h
    unfold asks at h
    split at h
    · simp at h
    · simp only [bind, Option.bind_eq_some_iff, pure, Option.some.injEq,
        IdentifierKind.ofElementName?_eq_some_iff] at h
      obtain ⟨kind', hkind, id', hid, text, htext, hitem⟩ := h
      cases hitem
      exact ⟨hkind, hid, text, htext, rfl⟩
  · rintro ⟨hkind, hid, text, htext, htarget⟩
    simp only at hkind hid htarget
    rw [asks_of_kind hkind, hid, htext, htarget]
    rfl

theorem asks_eq_next_iff {next : Path} :
    asks file groups e = some (.next next) ↔ Mentions file groups e next := by
  unfold asks
  constructor
  · intro h
    split at h
    · rename_i hname
      obtain ⟨text, htext, hitem⟩ := Option.map_eq_some_iff.1 h
      cases hitem
      exact ⟨hname, text, htext, rfl⟩
    · simp [bind, Option.bind_eq_some_iff] at h
  · rintro ⟨hname, text, htext, rfl⟩
    rw [if_pos hname, htext]
    rfl

theorem directory_snoc (file : Path) (groups : List Element) (g : Element) :
    directory file (groups ++ [g]) = groupBase (directory file groups) g := by
  unfold directory groupBase
  rw [List.filterMap_append, List.foldl_append]
  cases h : g.attributeNamed? baseName <;> simp [h]

/-- The mapping of an element, seen from its place. -/
theorem mapping_eq_asks (kind : IdentifierKind) (hkind : e.name.localName = kind.elementName) :
    mapping (directory file groups) e kind kind.attributeName = (asks file groups e).toList := by
  rw [asks_of_kind hkind, mapping, target]
  cases e.attribute? kind.attributeName <;> cases e.attribute? "uri" <;> rfl

theorem asks_of_group (hname : e.name.localName = "group") : asks file groups e = none := by
  unfold asks
  rw [hname]
  rfl

/-- An element that is no group is followed as it asks. -/
theorem itemsOf_of_not_group (he : isEligible e = true) (hname : e.name.localName ≠ "group") :
    itemsOf (directory file groups) e = (asks file groups e).toList := by
  obtain ⟨name, attributes, children, scope⟩ := e
  simp only at hname
  rw [itemsOf, if_pos he]
  -- the local names in the order in which the reader tries them
  split
  · rename_i h
    exact mapping_eq_asks .publicId h
  split
  · rename_i h
    exact mapping_eq_asks .systemId h
  split
  · rename_i h
    exact mapping_eq_asks .uriName h
  split
  · rename_i h
    unfold asks target
    rw [if_pos h, Option.map_map]
    rfl
  · rename_i hpublic hsystem huri hnext
    have hkind : IdentifierKind.ofElementName? name.localName = none := by
      refine List.find?_eq_none.2 fun kind _ hkind => ?_
      cases kind
      · exact hpublic (of_decide_eq_true hkind).symm
      · exact hsystem (of_decide_eq_true hkind).symm
      · exact huri (of_decide_eq_true hkind).symm
    unfold asks
    rw [if_neg hnext, hkind]
    rfl

mutual

/-- The items of an element are what it and the elements inside it that count ask for, each from
its own place. -/
theorem itemsOf_eq (file : Path) (groups : List Element) : (e : Element) →
    itemsOf (directory file groups) e =
      (groupedOf groups e).filterMap fun place => asks file place.1 place.2
  | ⟨name, attributes, children, scope⟩ => by
      by_cases he : isEligible ⟨name, attributes, children, scope⟩ = true
      · by_cases hname : name.localName = "group"
        · rw [items_group _ _ he hname, ← directory_snoc, items_eq, groupedOf_of_group he hname,
            List.filterMap_cons_none]
          exact asks_of_group hname
        · rw [itemsOf_of_not_group he hname, groupedOf_of_not_group he hname]
          cases hitem : asks file groups ⟨name, attributes, children, scope⟩ <;> simp [hitem]
      · rw [itemsOf, if_neg he, groupedOf_of_not_eligible he]
        rfl

/-- The items of some elements are what those that count ask for. -/
theorem items_eq (file : Path) (groups : List Element) : (l : List Element) →
    items (directory file groups) l =
      (grouped groups l).filterMap fun place => asks file place.1 place.2
  | [] => rfl
  | e :: r => by
      rw [items, grouped, List.filterMap_append, itemsOf_eq file groups e, items_eq file groups r]

end

end Places

section Files

variable (fs : FileSystem) (limits : Limits)

/-- The root of the file at a canonical path, if the file can be read and is a catalog. -/
def rootOf (p : Path) : Option Element := do
  let octets ← (fs.loadEncoded limits (.path p)).toOption
  let root ← (readDocument octets).toOption
  if root.name.localName = "catalog" then some root else none

/-- What the elements of a file that count ask for, in document order. -/
def survey (p : Path) : List (Task Path CatalogMapping) :=
  match rootOf fs limits p with
  | some root =>
      ((grouped [] root.children).filterMap fun place => asks p place.1 place.2).flatMap
        (itemTasks fs)
  | none => []

/-- A catalog file mentions the file at another canonical path as a further catalog. -/
def Includes (p q : Path) : Prop :=
  ∃ root groups e next, rootOf fs limits p = some root ∧ Grouped root groups e ∧
    Mentions p groups e next ∧ fs.canonicalize next = .ok q

/-- A file is reached from another one through further catalogs. -/
def Reaches : Path → Path → Prop := Relation.ReflTransGen (Includes fs limits)

variable {fs : FileSystem} {limits : Limits} {p q : Path} {is : List CatalogItem}

theorem rootOf_eq_some_iff {root : Element} :
    rootOf fs limits p = some root ↔
      ∃ octets, fs.loadEncoded limits (.path p) = .ok octets ∧ readDocument octets = .ok root ∧
        root.name.localName = "catalog" := by
  simp only [rootOf, bind, Option.bind_eq_some_iff, toOption_eq_some_iff,
    Option.ite_none_right_eq_some, Option.some.injEq]
  constructor
  · rintro ⟨octets, hload, root', hread, hname, rfl⟩
    exact ⟨octets, hload, hread, hname⟩
  · rintro ⟨octets, hload, hread, hname⟩
    exact ⟨octets, hload, root, hread, hname, rfl⟩

/-- A file has instructions if it is a catalog: what its elements that count ask for. -/
theorem fileItems_eq_ok_iff :
    fileItems fs limits p = .ok is ↔
      ∃ root, rootOf fs limits p = some root ∧
        is = (grouped [] root.children).filterMap fun place => asks p place.1 place.2 := by
  have hitems : ∀ root : Element, items (p.parent.getD ⟨[]⟩) root.children =
      (grouped [] root.children).filterMap fun place => asks p place.1 place.2 :=
    fun root => items_eq p [] root.children
  simp only [fileItems, rootOf_eq_some_iff]
  constructor
  · intro h
    obtain ⟨octets, hload, h⟩ := bind_eq_ok_iff.1 h
    obtain ⟨root, hread, h⟩ := bind_eq_ok_iff.1 h
    split at h
    · cases h
    · rename_i hname
      cases h
      exact ⟨root, ⟨octets, hload, mapError_eq_ok_iff.1 hread, not_not.1 hname⟩, hitems root⟩
  · rintro ⟨root, ⟨octets, hload, hread, hname⟩, rfl⟩
    refine bind_eq_ok_iff.2 ⟨octets, hload, bind_eq_ok_iff.2 ⟨root, mapError_eq_ok_iff.2 hread, ?_⟩⟩
    rw [if_neg (not_not.2 hname), ← hitems]
    rfl

theorem agenda_eq_survey : agenda fs limits = survey fs limits := by
  funext p
  unfold agenda survey
  cases hroot : rootOf fs limits p with
  | some root => rw [fileItems_eq_ok_iff.2 ⟨root, hroot, rfl⟩]
  | none =>
      cases hitems : fileItems fs limits p with
      | error e => rfl
      | ok is =>
          obtain ⟨root, hroot', _⟩ := fileItems_eq_ok_iff.1 hitems
          exact absurd (hroot.symm.trans hroot') nofun

/-- What a catalog file brings up is what one of its elements asks for. -/
theorem mem_survey_iff {task : Task Path CatalogMapping} :
    task ∈ survey fs limits p ↔
      ∃ root groups e i, rootOf fs limits p = some root ∧ Grouped root groups e ∧
        asks p groups e = some i ∧ task ∈ itemTasks fs i := by
  rw [← agenda_eq_survey, mem_agenda_iff]
  constructor
  · rintro ⟨is, hitems, i, hi, htask⟩
    obtain ⟨root, hroot, rfl⟩ := fileItems_eq_ok_iff.1 hitems
    obtain ⟨⟨groups, e⟩, hplace, hasks⟩ := List.mem_filterMap.1 hi
    exact ⟨root, groups, e, i, hroot, mem_grouped_iff.1 hplace, hasks, htask⟩
  · rintro ⟨root, groups, e, i, hroot, hgrouped, hasks, htask⟩
    refine ⟨_, fileItems_eq_ok_iff.2 ⟨root, hroot, rfl⟩, i, ?_, htask⟩
    exact List.mem_filterMap.2 ⟨⟨groups, e⟩, mem_grouped_iff.2 hgrouped, hasks⟩

theorem leads_survey_iff : Leads (survey fs limits) p q ↔ Includes fs limits p q := by
  unfold Leads Includes
  rw [mem_survey_iff]
  constructor
  · rintro ⟨root, groups, e, i, hroot, hgrouped, hasks, htask⟩
    obtain ⟨next, rfl, hc⟩ := mem_itemTasks_enter_iff.1 htask
    exact ⟨root, groups, e, next, hroot, hgrouped, asks_eq_next_iff.1 hasks, hc⟩
  · rintro ⟨root, groups, e, next, hroot, hgrouped, hmentions, hc⟩
    exact ⟨root, groups, e, .next next, hroot, hgrouped, asks_eq_next_iff.2 hmentions,
      mem_itemTasks_enter_iff.2 ⟨next, rfl, hc⟩⟩

theorem report_mem_survey_iff {m : CatalogMapping} :
    .report m ∈ survey fs limits p ↔
      ∃ root groups e, rootOf fs limits p = some root ∧ Grouped root groups e ∧
        Maps p groups e m := by
  rw [mem_survey_iff]
  constructor
  · rintro ⟨root, groups, e, i, hroot, hgrouped, hasks, htask⟩
    rw [mem_itemTasks_report_iff.1 htask] at hasks
    exact ⟨root, groups, e, hroot, hgrouped, asks_eq_mapping_iff.1 hasks⟩
  · rintro ⟨root, groups, e, hroot, hgrouped, hmaps⟩
    exact ⟨root, groups, e, _, hroot, hgrouped, asks_eq_mapping_iff.2 hmaps,
      mem_itemTasks_report_iff.2 rfl⟩

end Files

section Following

variable {fs : FileSystem} {limits : Limits} {p q : Path} {s mid s' : Reading}
variable {tasks tasks' : List (Task Path CatalogMapping)}

/-- The file at a canonical path is a catalog, and every further catalog that it mentions is
somewhere. -/
def Located (fs : FileSystem) (limits : Limits) (p : Path) : Prop :=
  ∃ root, rootOf fs limits p = some root ∧
    ∀ groups e next, Grouped root groups e → Mentions p groups e next →
      ∃ q, fs.canonicalize next = .ok q

/-- Between two states of a reading, some tasks of the traversal were worked off. -/
structure Works (fs : FileSystem) (limits : Limits) (s : Reading)
    (tasks : List (Task Path CatalogMapping)) (s' : Reading) : Prop where
  traversed : ∃ ms, DepthFirst (survey fs limits) s.read tasks ms s'.read ∧
    s'.catalog = ms.foldl add s.catalog
  /-- The files read on the way have all their further catalogs located. -/
  located : ∀ p ∈ s'.read, p ∉ s.read → Located fs limits p
  regular : s'.Regular fs

theorem Works.nil (hs : s.Regular fs) : Works fs limits s [] s where
  traversed := ⟨[], .done _, rfl⟩
  located _ hp hnew := absurd hp hnew
  regular := hs

theorem Works.append (h : Works fs limits s tasks mid) (h' : Works fs limits mid tasks' s') :
    Works fs limits s (tasks ++ tasks') s' := by
  obtain ⟨ms, hd, hcatalog⟩ := h.traversed
  obtain ⟨ms', hd', hcatalog'⟩ := h'.traversed
  refine ⟨⟨ms ++ ms', hd.append hd', ?_⟩, ?_, h'.regular⟩
  · rw [hcatalog', hcatalog, List.foldl_append]
  · intro p hp hnew
    by_cases hmid : p ∈ mid.read
    · exact h.located p hmid hnew
    · exact h'.located p hp hmid

/-- Files are only added to those that were read. -/
theorem Works.length_le (h : Works fs limits s tasks s') : s.read.length ≤ s'.read.length := by
  obtain ⟨ms, hd, _⟩ := h.traversed
  exact hd.seen_isPrefix.length_le

/-- With as many levels as this, reading a further catalog works off its task. -/
def Reads (fs : FileSystem) (limits : Limits) (levels : Nat)
    (nested : Path → Reading → Journal Notice Error Reading) : Prop :=
  ∀ ⦃q : Path⦄ ⦃s s' : Reading⦄, s.Regular fs → fs.fileCount < levels + s.read.length →
    (nested q s).outcome = .ok s' →
    ∃ p, fs.canonicalize q = .ok p ∧ Works fs limits s [.enter p] s'

variable {levels : Nat} {nested : Path → Reading → Journal Notice Error Reading}

/-- Following items works off their tasks, and locates the further catalogs. -/
theorem follow_works (hn : Reads fs limits levels nested) {is : List CatalogItem}
    (hs : s.Regular fs) (hlevels : fs.fileCount < levels + s.read.length)
    (h : (follow nested is s).outcome = .ok s') :
    Works fs limits s (is.flatMap (itemTasks fs)) s' ∧
      ∀ next, .next next ∈ is → ∃ q, fs.canonicalize next = .ok q := by
  induction is generalizing s with
  | nil =>
      cases h
      exact ⟨.nil hs, fun next hnext => absurd hnext List.not_mem_nil⟩
  | cons i is ih =>
      rw [List.flatMap_cons]
      cases i with
      | mapping kind id target =>
          obtain ⟨hrest, hlocated⟩ :=
            @ih { s with catalog := s.catalog.insert kind id target } ⟨hs.nodup, hs.known⟩ hlevels h
          refine ⟨?_, fun next hnext => hlocated next (by simpa using hnext)⟩
          have hfirst : Works fs limits s (itemTasks fs (.mapping kind id target))
              { s with catalog := s.catalog.insert kind id target } :=
            ⟨⟨[⟨kind, id, target⟩], .reports _ [_], rfl⟩, fun p hp hnew => absurd hp hnew,
              ⟨hs.nodup, hs.known⟩⟩
          exact hfirst.append hrest
      | next q =>
          obtain ⟨mid, hmid, hfollow⟩ := Journal.outcome_bind_eq_ok_iff.1 h
          obtain ⟨p, hc, hfirst⟩ := hn hs hlevels hmid
          have hgrown := hfirst.length_le
          obtain ⟨hrest, hlocated⟩ := ih hfirst.regular (by omega) hfollow
          refine ⟨?_, ?_⟩
          · have htasks : itemTasks fs (.next q) = [.enter p] := by rw [itemTasks, hc]
            rw [htasks]
            exact hfirst.append hrest
          · intro next hnext
            rcases List.mem_cons.1 hnext with heq | hnext
            · cases heq
              exact ⟨p, hc⟩
            · exact hlocated next hnext

/-- Reading a catalog works off the task to enter it. -/
theorem visit_works (hn : Reads fs limits levels nested) :
    Reads fs limits (levels + 1) (visit fs limits nested) := by
  intro q s s' hs hlevels h
  obtain ⟨p, hc, h⟩ := Journal.outcome_bind_eq_ok_iff.1 h
  have hc : fs.canonicalize q = .ok p := mapError_eq_ok_iff.1 hc
  refine ⟨p, hc, ?_⟩
  by_cases hread : s.read.contains p = true
  · rw [if_pos hread] at h
    cases h
    exact ⟨⟨[], .pass (List.contains_iff_mem.1 hread) (.done _), rfl⟩,
      fun p hp hnew => absurd hp hnew, hs⟩
  · rw [if_neg hread] at h
    have hnew : p ∉ s.read := fun hmem => hread (List.contains_iff_mem.2 hmem)
    obtain ⟨is, hitems, hfollow⟩ := Journal.outcome_bind_eq_ok_iff.1 h
    have hitems : fileItems fs limits p = .ok is := hitems
    have hroom : fs.fileCount < levels + (s.read ++ [p]).length := by
      rw [List.length_append, List.length_singleton]
      omega
    obtain ⟨⟨⟨ms, hd, hcatalog⟩, hothers, hregular⟩, hnamed⟩ :=
      follow_works hn (hs.push hc hitems hnew) hroom hfollow
    have htasks : survey fs limits p = is.flatMap (itemTasks fs) := by
      rw [← agenda_eq_survey, agenda, hitems]
    refine ⟨⟨ms, .enterOnly hnew (htasks ▸ hd), hcatalog⟩, ?_, hregular⟩
    intro r hr hunread
    -- the file itself has its items followed, the others were read on the way
    by_cases hrp : r = p
    · subst hrp
      obtain ⟨root, hroot, rfl⟩ := fileItems_eq_ok_iff.1 hitems
      refine ⟨root, hroot, fun groups e next hgrouped hmentions => hnamed next ?_⟩
      exact List.mem_filterMap.2
        ⟨⟨groups, e⟩, mem_grouped_iff.2 hgrouped, asks_eq_next_iff.2 hmentions⟩
    · exact hothers r hr (by simp [hunread, hrp])

/-- With more levels than there are files unread, a reading that ends well has followed every
further catalog. -/
theorem load_works (fs : FileSystem) (limits : Limits) (levels : Nat) :
    Reads fs limits levels (load fs limits levels) := by
  induction levels with
  | zero =>
      -- levels do not run out: more files would have been read than there are
      intro q s s' hs hlevels
      have := hs.length_le
      omega
  | succ levels ih => exact visit_works ih

end Following

section Contents

variable {fs : FileSystem} {limits : Limits} {p start : Path} {c : Catalog}

/-- A catalog contains what the files say that can be reached from a start. -/
structure Tells (fs : FileSystem) (limits : Limits) (start : Path) (c : Catalog) : Prop where
  /-- All entries: first those of public identifiers, then of system identifiers, then of names. -/
  listed : c.entries =
    (c.files .publicId).entries ++ (c.files .systemId).entries ++ (c.files .uriName).entries
  /-- Every entry comes from an element that counts, seen from its place. -/
  sound : ∀ kind key target, (key, target) ∈ (c.files kind).entries →
    ∃ file root groups e, Reaches fs limits start file ∧ rootOf fs limits file = some root ∧
      Grouped root groups e ∧ Maps file groups e ⟨kind, key, target⟩
  /-- Every element that counts has its identifier among the keys of its kind. -/
  complete : ∀ file root groups e m, Reaches fs limits start file →
    rootOf fs limits file = some root → Grouped root groups e → Maps file groups e m →
    m.id ∈ (c.files m.kind).keys
  /-- All files reached are catalogs, and all that they mention was located. -/
  located : ∀ file, Reaches fs limits start file → Located fs limits file
  /-- The identifiers of a kind stand in the order in which the traversal first comes to them, each
  with the target that it comes to last. -/
  ordered : ∃ ms out, DepthFirst (survey fs limits) [] [.enter start] ms out ∧
    ∀ kind, (c.files kind).keys = ((ofKind kind ms).map Prod.fst).eraseDups ∧
      (c.files kind).entries = OrderedMap.lastly (ofKind kind ms)

theorem mem_ofKind_iff {kind : IdentifierKind} {ms : List CatalogMapping} {key : String}
    {target : Path} : (key, target) ∈ ofKind kind ms ↔ ⟨kind, key, target⟩ ∈ ms := by
  unfold ofKind
  constructor
  · intro h
    obtain ⟨m, hm, heq⟩ := List.mem_map.1 h
    obtain ⟨hmember, hkind⟩ := List.mem_filter.1 hm
    have hkind : m.kind = kind := of_decide_eq_true hkind
    cases heq
    cases hkind
    exact hmember
  · intro h
    exact List.mem_map.2 ⟨_, List.mem_filter.2 ⟨h, decide_eq_true rfl⟩, rfl⟩

/-- A catalog that is read contains exactly what the reachable catalog files say.  Each mapping
is seen from the place of its element, and the identifiers of a kind are listed in the order in which
a depth-first traversal first comes to them. -/
theorem ofFile_tells (h : (ofFile fs limits p).outcome = .ok c) :
    ∃ start, fs.canonicalize p = .ok start ∧ Tells fs limits start c := by
  obtain ⟨s, hload, hc⟩ := Journal.outcome_bind_eq_ok_iff.1 h
  cases hc
  obtain ⟨start, hstart, ⟨ms, hd, hcatalog⟩, hlocated, _⟩ :=
    load_works fs limits (fs.fileCount + 1) regular_empty (by simp) hload
  -- the traversal that was worked off enters and reports exactly what the files say
  have hleads : Leads (survey fs limits) = Includes fs limits := by
    funext a b
    exact propext leads_survey_iff
  have hreached : ∀ file, file ∈ s.read ↔ Reaches fs limits start file := by
    intro file
    rw [Reaches, ← hleads]
    exact hd.mem_iff_reachable file
  have hreported : ∀ m, m ∈ ms ↔ ∃ file, Reaches fs limits start file ∧
      .report m ∈ survey fs limits file := by
    intro m
    rw [hd.reported_iff_of_start m]
    simp only [hreached]
  have hfiles : ∀ kind, s.catalog.files kind = .ofList (ofKind kind ms) := by
    intro kind
    rw [hcatalog]
    exact files_ofMappings ms kind
  refine ⟨start, hstart, rfl, ?_, ?_, ?_, ?_⟩
  · intro kind key target hentry
    rw [hfiles, OrderedMap.entries_ofList] at hentry
    have hmapping := mem_ofKind_iff.1 (OrderedMap.mem_of_mem_lastly hentry)
    obtain ⟨file, hreach, hreport⟩ := (hreported _).1 hmapping
    obtain ⟨root, groups, e, hroot, hgrouped, hmaps⟩ := report_mem_survey_iff.1 hreport
    exact ⟨file, root, groups, e, hreach, hroot, hgrouped, hmaps⟩
  · intro file root groups e m hreach hroot hgrouped hmaps
    have hreport : .report m ∈ survey fs limits file :=
      report_mem_survey_iff.2 ⟨root, groups, e, hroot, hgrouped, hmaps⟩
    have hmapping : m ∈ ms := (hreported m).2 ⟨file, hreach, hreport⟩
    rw [hfiles, OrderedMap.keys_ofList, List.mem_eraseDups]
    exact List.mem_map.2 ⟨(m.id, m.target), mem_ofKind_iff.2 hmapping, rfl⟩
  · intro file hreach
    exact hlocated file ((hreached file).2 hreach) List.not_mem_nil
  · refine ⟨ms, s.read, hd, fun kind => ?_⟩
    rw [hfiles]
    exact ⟨OrderedMap.keys_ofList _, OrderedMap.entries_ofList _⟩

section Sample

/-- Catalogs that mention each other, one of them in a directory of its own.  The first has a group
with a relative base, and in it one with an absolute base; both map `p`. -/
def nested : FileSystem :=
  ⟨.ofList
    [([Utf8.encode "catalog"], .file (IndexPlan.catalogOctets
        ["<nextCatalog catalog='d/further'/>", "<group xml:base='d'>",
          "<public publicId='p' uri='one'/>", "<group xml:base='/e/'>",
          "<system systemId='s' uri='two'/>", "<nextCatalog catalog='/d/further'/>", "</group>",
          "</group>", "<public publicId='p' uri='two'/>"])),
      ([Utf8.encode "d"], .directory),
      ([Utf8.encode "d", Utf8.encode "further"], .file (IndexPlan.catalogOctets
        ["<nextCatalog catalog='../catalog'/>", "<group><uri name='u' uri='one'/>",
          "<public publicId='q' uri='three'/></group>",
          "<other><public publicId='r' uri='one'/></other>"]))],
    []⟩

/-- What is read from them: `p` comes after `q`, and has the target that was written last. -/
def nestedCatalog : Catalog where
  publicIds := .ofList
    [("q", Path.ofNames [Utf8.encode "d", Utf8.encode "three"]), ("p", topPath "two")]
  systemIds := .ofList [("s", Path.ofNames [Utf8.encode "e", Utf8.encode "two"])]
  uriNames := .ofList [("u", Path.ofNames [Utf8.encode "d", Utf8.encode "one"])]

set_option maxRecDepth 10000 in
theorem nested_tells :
    (ofFile nested .standard (topPath "catalog")).outcome = .ok nestedCatalog ∧
      ∃ start, nested.canonicalize (topPath "catalog") = .ok start ∧
        Tells nested .standard start nestedCatalog := by
  have hread : (ofFile nested .standard (topPath "catalog")).outcome = .ok nestedCatalog := by
    rw [← toOption_eq_some_iff]
    decide +kernel
  exact ⟨hread, ofFile_tells hread⟩

end Sample

end Contents

end Catalog
end SchemaSet
