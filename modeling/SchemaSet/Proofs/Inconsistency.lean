import SchemaSet.Proofs.Obstruction
import SchemaSet.Proofs.Redefinition
import SchemaSet.Proofs.References
import SchemaSet.Proofs.Scoping

/-!
# Inconsistencies that are told of are there

`Setting.Exhibits` says for each kind of violation which defect of the documents it stands for.  It
looks at the files, the resolver and the documents that can be reached, and not at what was opened
or registered when the error was met.

A mismatch and an unbound label are met while documents are opened (`Obstructs.exhibits`), a
repeated component while the table is assembled (`exhibits_of_table`), and a dangling reference only
when all documents were opened and all declarations registered (`exhibits_of_reference`).  So every
violation that a compilation ends in is exhibited by the documents, and consistent documents never
lead to one (`compile_exhibits`).

The samples are a set with a defect of each kind, and a set that compiles and is therefore
consistent: `Compiles.selfConsistent` turns the compiled table into what is asked of the documents.
-/

namespace SchemaSet

open Markup

namespace Schema

/-- A name in a schema that refers to a component: it stands in the value of an attribute that does
so, in an element that may refer. -/
structure Mentions (root e : Element) (row : ReferenceRow) (value text : String) : Prop where
  held : Holds root.children e
  listed : row ∈ referenceRows
  owned : e.name.localName = row.owner
  given : e.attribute? row.key = some value
  among : text ∈ Text.blankWords value

theorem exists_mentions {root : Element} {t : Token} (h : t ∈ tokens root) :
    ∃ e row, Mentions root e row t.value t.text ∧ row.space = t.space ∧ row.key = t.key ∧
      e.scope = t.scope := by
  obtain ⟨e, he, ht⟩ := List.mem_flatMap.1 h
  obtain ⟨row, hrow, ht⟩ := List.mem_flatMap.1 ht
  unfold tokensOfRow at ht
  split at ht
  · rename_i howner
    cases hvalue : e.attribute? row.key with
    | none => simp [hvalue] at ht
    | some value =>
        rw [hvalue] at ht
        obtain ⟨text, htext, rfl⟩ := List.mem_map.1 ht
        exact ⟨e, row, ⟨(mem_referring_iff _ e).1 he, hrow, howner, hvalue, htext⟩, rfl, rfl, rfl⟩
  · exact absurd ht List.not_mem_nil

theorem Mentions.mem_tokens {root e : Element} {row : ReferenceRow} {value text : String}
    (h : Mentions root e row value text) :
    (⟨row.space, row.key, value, text, e.scope⟩ : Token) ∈ tokens root :=
  List.mem_flatMap.2
    ⟨e, (mem_referring_iff _ e).2 h.held, mem_tokensOf h.listed h.owned h.given h.among⟩

theorem mem_preorderAll {depth : Nat} {l : List Element} {e : Element} {p : Nat × Element}
    (he : e ∈ l) (hp : p ∈ e.preorder depth) : p ∈ Element.preorderAll depth l := by
  induction l with
  | nil => exact absurd he List.not_mem_nil
  | cons f rest ih =>
      rcases List.mem_cons.1 he with rfl | he
      · exact List.mem_append_left _ hp
      · exact List.mem_append_right _ (ih he)

/-- An element that some elements hold is one of those inside them. -/
theorem Holds.mem_preorder {l : List Element} {e : Element} (h : Holds l e) (depth : Nat) :
    ∃ deeper, (deeper, e) ∈ Element.preorderAll depth l := by
  induction h generalizing depth with
  | @here l e he _ =>
      refine ⟨depth, mem_preorderAll he ?_⟩
      obtain ⟨name, attributes, children, scope⟩ := e
      exact List.mem_cons_self
  | @inside l e f he _ _ ih =>
      obtain ⟨deeper, hf⟩ := ih (depth + 1)
      refine ⟨deeper, mem_preorderAll he ?_⟩
      obtain ⟨name, attributes, children, scope⟩ := e
      exact List.mem_cons_of_mem _ hf

end Schema

namespace Setting

section Defects

variable (s : Setting) (entry : Path)

/-- None of the tags that begin an element of a document, or an element around it, declares a
label. -/
def Undeclared (p : Path) (e : Element) (label : String) : Prop :=
  ∃ content root depth, s.files.entry p = .ok (.file content) ∧
    readDocument content = .ok root ∧ (depth, e) ∈ root.preorder 0 ∧
    ∃ tags ∈ nestings [] (Markup.events .whole content).notes, tags.length = depth + 1 ∧
      Nested tags e.head ∧ ∀ t ∈ tags, ¬ t.DeclaresLabel label

/-- A file under its canonical path. -/
def IsCanonicalFile (p : Path) : Prop :=
  ∃ place, s.files.locate p = .ok place ∧ p = Path.ofNames place.names ∧ place.node.isFile = true

/-- The resolver named a document for an import of `uri` in a document that can be reached, and the
schema there declares another namespace or none. -/
structure Misnamed (declared uri : Option String) (p : Path) : Prop where
  resolved : ∃ n root location answer, s.Stands entry n root ∧
    .importing uri location ∈ Schema.items root ∧
    s.resolver (referenceRequest n.path uri location) = .resolved answer ∧
    s.files.canonicalize answer.systemId = .ok p
  root : ∃ root, s.readRoot p = .ok root ∧ Schema.declaredNamespace root = declared
  differs : declared ≠ uri

/-- Two files that can be reached declare components of one symbol space under one name, and the
second declaration is no redefinition. -/
structure Repeated (kind : ComponentKind) (name : QName) (first second : Path) : Prop where
  files : s.IsCanonicalFile first ∧ s.IsCanonicalFile second
  differ : first ≠ second
  earlier : ∃ m x, s.Reachable entry m ∧ m.path = first ∧ s.Declares m x ∧
    x.key = (kind.space, name)
  later : ∃ n y, s.Reachable entry n ∧ n.path = second ∧ s.Declares n y ∧ y.kind = kind ∧
    y.name = name ∧ y.redefined = false

/-- A document that can be reached has a name with a label that is neither the reserved one nor
declared where the name stands. -/
structure Unlabelled (label key value : String) (p : Path) : Prop where
  mentioned : ∃ n root e row text rest, s.Stands entry n root ∧ n.path = p ∧ row.key = key ∧
    Schema.Mentions root e row value text ∧ Name.splitColon text = some (label, rest) ∧
    s.Undeclared p e label
  reserved : label ≠ "xml"

/-- A name in a node, as the schema set has it. -/
def Means (n : SchemaNode) (root e : Element) (text : String) (name : QName) : Prop :=
  ∃ q, e.scope.resolve text = .ok q ∧
    name = { q with uri := q.uri.or (Schema.adopted root n.uri) }

/-- A document that can be reached refers to a component that no such document declares, though all
of them were opened. -/
structure Dangling (space : SymbolSpace) (name : QName) (p : Path) : Prop where
  opened : ∀ m, s.Reachable entry m → ∃ chameleon, .opened m chameleon ∈ (s.compile entry).notes
  mentioned : ∃ n root e row value text, s.Stands entry n root ∧ n.path = p ∧ row.space = space ∧
    Schema.Mentions root e row value text ∧ Means n root e text name
  undeclared : ∀ m x, s.Reachable entry m → s.Declares m x → x.key ≠ (space, name)
  native : name.uri ≠ some Vocabulary.xsd ∧ name.uri ≠ some Vocabulary.xml

/-- The documents have the defect that a violation tells of. -/
inductive Exhibits : Violation → Prop
  | namespaceMismatch {declared uri : Option String} {p : Path} :
      s.Misnamed entry declared uri p →
      Exhibits ⟨.namespaceMismatch declared uri, some p⟩
  | duplicateComponent {kind : ComponentKind} {name : QName} {first second : Path} :
      s.Repeated entry kind name first second →
      Exhibits ⟨.duplicateComponent kind name first, some second⟩
  | unboundLabel {label key value : String} {p : Path} :
      s.Unlabelled entry label key value p →
      Exhibits ⟨.unboundLabel ⟨label⟩ key value, some p⟩
  | danglingReference {space : SymbolSpace} {name : QName} {p : Path} :
      s.Dangling entry space name p →
      Exhibits ⟨.danglingReference space name, some p⟩

/-- The documents that can be reached fit together. -/
structure SelfConsistent : Prop where
  /-- What the resolver names for an import declares the namespace of the import. -/
  imports : ∀ n root uri location answer p target, s.Stands entry n root →
    .importing uri location ∈ Schema.items root →
    s.resolver (referenceRequest n.path uri location) = .resolved answer →
    s.files.canonicalize answer.systemId = .ok p → s.readRoot p = .ok target →
    Schema.declaredNamespace target = uri
  /-- A component declared directly in a schema is neither declared nor redefined by another
  document.  So documents of which one redefines what another declares are outside of this, also
  where the redefinition is meant and replaces what it redefines. -/
  components : ∀ m n x y, s.Reachable entry m → s.Reachable entry n → s.Declares m x →
    s.Declares n y → x.key = y.key → y.redefined = false → m.path = n.path
  /-- The label of every name is declared. -/
  labels : ∀ n root e row value text label rest, s.Stands entry n root →
    Schema.Mentions root e row value text → Name.splitColon text = some (label, rest) →
    label = "xml" ∨ ¬ s.Undeclared n.path e label
  /-- What is referred to is declared. -/
  references : ∀ n root e row value text name, s.Stands entry n root →
    Schema.Mentions root e row value text → Means n root e text name →
    name.uri = some Vocabulary.xsd ∨ name.uri = some Vocabulary.xml ∨
      ∃ m x, s.Reachable entry m ∧ s.Declares m x ∧ x.key = (row.space, name)

variable {s entry}

/-- Documents that fit together have no defect. -/
theorem SelfConsistent.not_exhibits (h : s.SelfConsistent entry) {v : Violation}
    (hv : s.Exhibits entry v) : False := by
  cases hv with
  | namespaceMismatch hm =>
      obtain ⟨n, root, location, answer, hn, hi, hanswer, hp⟩ := hm.resolved
      obtain ⟨target, hroot, rfl⟩ := hm.root
      exact hm.differs (h.imports n root _ location answer _ target hn hi hanswer hp hroot)
  | duplicateComponent hr =>
      obtain ⟨m, x, hm, rfl, hx, hkey⟩ := hr.earlier
      obtain ⟨n, y, hn, rfl, hy, rfl, rfl, hredefined⟩ := hr.later
      exact hr.differ (h.components m n x y hm hn hx hy hkey hredefined)
  | unboundLabel hu =>
      obtain ⟨n, root, e, row, text, rest, hn, rfl, _, hmentions, hsplit, hundeclared⟩ :=
        hu.mentioned
      rcases h.labels n root e row _ text _ rest hn hmentions hsplit with hxml | hdeclared
      · exact hu.reserved hxml
      · exact hdeclared hundeclared
  | danglingReference hd =>
      obtain ⟨n, root, e, row, value, text, hn, rfl, rfl, hmentions, hmeans⟩ := hd.mentioned
      rcases h.references n root e row value text _ hn hmentions hmeans with
        hxsd | hxml | ⟨m, x, hm, hx, hkey⟩
      · exact hd.native.1 hxsd
      · exact hd.native.2 hxml
      · exact hd.undeclared m x hm hx hkey

end Defects

section Exhibited

variable {s : Setting} {entry start : Path} {v : Violation}

/-- What the resolver names is the target that is found. -/
theorem resolved_of_isNamed {base p : Path} {uri location : Option String}
    (hnamed : s.isNamed base uri location = true) (hfound : s.found? base uri location = some p) :
    ∃ answer, s.resolver (referenceRequest base uri location) = .resolved answer ∧
      s.files.canonicalize answer.systemId = .ok p := by
  unfold isNamed Resolution.isResolved at hnamed
  split at hnamed
  · rename_i answer hanswer
    simp only [found?, hanswer] at hfound
    exact ⟨answer, hanswer, toOption_eq_some_iff.1 hfound⟩
  · cases hnamed

/-- A document that can be reached and declares something is a file under its canonical path. -/
theorem Reachable.isCanonicalFile {n : SchemaNode} {x : Component} (h : s.Reachable entry n)
    (hx : s.Declares n x) : s.IsCanonicalFile n.path := by
  obtain ⟨root, _, _, hroot, _⟩ := hx
  exact file_of_readRoot h.canonical hroot

/-- A label without a namespace is not declared where it stands. -/
theorem undeclared_of_lookup {p : Path} {root e : Element} {label : String}
    (hroot : s.readRoot p = .ok root) (he : Schema.Holds root.children e)
    (hlookup : e.scope.lookup label = none) : s.Undeclared p e label := by
  obtain ⟨content, hentry, hread⟩ := content_of_readRoot hroot
  obtain ⟨depth, hmem⟩ := he.mem_preorder 1
  have hinside : (depth, e) ∈ root.preorder 0 := by
    obtain ⟨name, attributes, children, scope⟩ := root
    exact List.mem_cons_of_mem _ hmem
  exact ⟨content, root, depth, hentry, hread, hinside, undeclared_of_unbound hread hinside hlookup⟩

/-- A violation that stops the traversal is exhibited by the documents. -/
theorem Obstructs.exhibits (h : s.Obstructs entry (.consistency v)) : s.Exhibits entry v := by
  rcases h.cases with hplain | ⟨_, _, _, hlimit⟩ | ⟨p, uri, root, hp, hroot, hne, heq⟩ |
    ⟨n, root, t, label, rest, hn, ht, hsplit, hlookup, heq⟩
  · rw [not_isPlain_consistency] at hplain
    cases hplain
  · cases hlimit
  · cases heq
    obtain ⟨n, root', location, hn, hi, hnamed, hfound⟩ := hp.named
    obtain ⟨answer, hanswer, hcanonical⟩ := resolved_of_isNamed hnamed hfound
    exact .namespaceMismatch
      ⟨⟨n, root', location, answer, hn, hi, hanswer, hcanonical⟩, ⟨root, hroot, rfl⟩, hne⟩
  · cases heq
    obtain ⟨e, row, hmentions, _, hkey, hscope⟩ := Schema.exists_mentions ht
    rw [← hscope] at hlookup
    have hundeclared := undeclared_of_lookup hn.read hmentions.held hlookup
    refine .unboundLabel
      ⟨⟨n, root, e, row, t.text, rest, hn, rfl, hkey, hmentions, hsplit, hundeclared⟩, ?_⟩
    rintro rfl
    cases hlookup

/-- A component that the table refuses is declared by two documents. -/
theorem exhibits_of_table {steps : List Step} (hsteps : ∀ step ∈ steps, s.Grounded entry step)
    (h : (declaredOf steps).foldlM (Table.register s.options.limits) ∅ =
      .error (.consistency v)) :
    s.Exhibits entry v := by
  rcases Table.foldlM_eq_error h with ⟨old, hold, c, hc, hkey, hredefined, heq⟩ |
    ⟨_, _, _, _, hlimit⟩
  · obtain ⟨m, hm, hx⟩ := hsteps _ (mem_declaredOf_iff.1 hold)
    obtain ⟨n, hn, hy⟩ := hsteps _ (mem_declaredOf_iff.1 hc)
    unfold Table.clash at heq
    split at heq
    · cases heq
    · rename_i hne
      cases heq
      rw [hx.document, hy.document] at *
      exact .duplicateComponent
        { files := ⟨hm.isCanonicalFile hx, hn.isCanonicalFile hy⟩
          differ := hne
          earlier := ⟨m, old, hm, rfl, hx, hkey⟩
          later := ⟨n, c, hn, rfl, hy, rfl, rfl, hredefined⟩ }
  · cases hlimit

/-- The entry document is opened as one node. -/
theorem Starts.unique {m n : SchemaNode} (hm : s.Starts entry m) (hn : s.Starts entry n) :
    m = n := by
  have hpath : m.path = n.path := Except.ok.inj (hm.canonical.symm.trans hn.canonical)
  obtain ⟨root, hroot, hm⟩ := hm.declared
  obtain ⟨root', hroot', hn⟩ := hn.declared
  rw [hpath, hroot'] at hroot
  cases hroot
  exact SchemaNode.ext hpath (hm.symm.trans hn)

/-- What can be reached is what the agenda of the first node leads to. -/
theorem Starts.reachable_iff {first : SchemaNode} (h : s.Starts entry first) (n : SchemaNode) :
    s.Reachable entry n ↔ Relation.ReflTransGen (Leads s.agenda) first n := by
  have hedge : Leads s.agenda = s.Edge := by
    funext m n
    exact propext (leads_iff_edge m n)
  rw [hedge]
  constructor
  · rintro ⟨other, hother, hpath⟩
    exact hother.unique h ▸ hpath
  · exact fun hpath => ⟨first, h, hpath⟩

/-- A traversal that ends covers exactly what can be reached. -/
theorem covers_reachable {opened : List SchemaNode}
    (hc : s.files.canonicalize ((s.resolver (entryRequest entry)).systemId.getD entry) =
      .ok start)
    (h : (s.traverse start).outcome = .ok opened) :
    ∃ first, s.Covers first (SchemaSet.events (s.traverse start).notes) opened ∧
      ∀ n, s.Reachable entry n ↔ n ∈ opened := by
  obtain ⟨first, rfl, hdeclared, hcovers⟩ := covers_of_traverse ⟨_, hc⟩ h
  have hstarts : s.Starts entry first := ⟨hc, hdeclared⟩
  refine ⟨first, hcovers, fun n => ?_⟩
  rw [hcovers.order.mem_iff_reachable n, hstarts.reachable_iff n]

/-- A reference that lands nowhere has no declaration in any document, and all documents were
opened by then. -/
theorem exhibits_of_reference {t : Table} {opened : List SchemaNode} {r : Schema.Reference}
    (hc : s.files.canonicalize ((s.resolver (entryRequest entry)).systemId.getD entry) =
      .ok start)
    (ht : (assemble s.options.limits ∅ (s.traverse start).notes).outcome = .ok t)
    (hwalk : (s.traverse start).outcome = .ok opened)
    (hr : r ∈ referencesOf (s.traverse start).notes) (hlands : lands t r = false) :
    s.Exhibits entry ⟨.danglingReference r.space r.name, some r.document⟩ := by
  obtain ⟨first, hcovers, hreach⟩ := covers_reachable hc hwalk
  obtain ⟨rest, _, hnotes⟩ := notes_compile hc ht
  simp only [lands, Bool.or_eq_false_iff] at hlands
  obtain ⟨hnative, hmissing⟩ := hlands
  refine .danglingReference ⟨fun m hm => ?_, ?_, fun m x hm hx hkey => ?_, ?_⟩
  · -- what was opened was noted, and the table keeps all notes
    have hmem := (hreach m).1 hm
    obtain ⟨root, hroot⟩ := hcovers.admitted m hmem
    have hopened := hcovers.mem_events hmem hroot.read (report_mem_rootTasks_iff.2 (.inl rfl))
    rw [hnotes]
    exact ⟨_, List.mem_cons_of_mem _ (List.mem_append_left _ (List.mem_filter.1 hopened).1)⟩
  · obtain ⟨n, root, token, hn, htoken, hresolve⟩ :=
      (traverse_sound hc).notes _ (mem_referencesOf_iff.1 hr)
    obtain ⟨e, row, hmentions, hspace, _, hscope⟩ := Schema.exists_mentions htoken
    obtain ⟨_, q, hq, rfl⟩ := Schema.resolve_eq_ok_iff.1 hresolve
    exact ⟨n, root, e, row, _, _, hn, rfl, hspace, hmentions, q, hscope ▸ hq, rfl⟩
  · -- a declaration was noted and registered, so something stands under its key
    have hdeclared : x ∈ declaredOf (SchemaSet.events (s.traverse start).notes) :=
      (hcovers.mem_declaredOf_iff x).2 ⟨m, (hreach m).1 hm, hx⟩
    rw [declaredOf_events] at hdeclared
    rw [outcome_assemble] at ht
    have hrecords := Table.records_foldlM Table.records_empty ht
    rw [List.nil_append] at hrecords
    have hunder : x ∈ Table.under (r.space, r.name) (declaredOf (s.traverse start).notes) :=
      List.mem_filter.2 ⟨hdeclared, decide_eq_true hkey⟩
    rw [hrecords.component?_eq, Option.isSome_eq_false_iff, Option.isNone_iff_eq_none,
      List.getLast?_eq_none_iff] at hmissing
    exact List.ne_nil_of_mem hunder hmissing
  · simpa [Schema.isBuiltIn, QName.isXsd] using hnative

/-- Every violation that a compilation ends in is exhibited by the documents: a document that
the resolver named for an import declares another namespace, two files declare one component, a
label is declared nowhere around a name, or no document declares what a name refers to.  So
documents that fit together never lead to a violation. -/
theorem compile_exhibits (s : Setting) (entry : Path) :
    (∀ v, (s.compile entry).outcome = .error (.consistency v) → s.Exhibits entry v) ∧
      (s.SelfConsistent entry →
        ∀ v, (s.compile entry).outcome ≠ .error (.consistency v)) := by
  suffices hexhibits :
      ∀ v, (s.compile entry).outcome = .error (.consistency v) → s.Exhibits entry v from
    ⟨hexhibits, fun hconsistent v hv => hconsistent.not_exhibits (hexhibits v hv)⟩
  intro v hv
  rcases compile_error_cases hv with hc | ⟨start, hstart, hstops⟩
  · have hplain := canonical_failsPlainly _ _ hc
    rw [not_isPlain_consistency] at hplain
    cases hplain
  cases hstops with
  | traversal _ h => exact h.exhibits
  | table h => exact exhibits_of_table (traverse_sound hstart).notes h
  | reference ht hwalk hr hlands => exact exhibits_of_reference hstart ht hwalk hr hlands

end Exhibited

section Fitting

variable {s : Setting} {entry : Path} {c : CompiledSet} {start : SchemaNode} {es : List Step}

/-- A label that is declared nowhere around an element has no namespace there. -/
theorem Undeclared.lookup_eq_none {p : Path} {e : Element} {label : String}
    (h : s.Undeclared p e label) (hl : label ≠ "xml") : e.scope.lookup label = none := by
  obtain ⟨_, _, _, _, _, _, tags, _, _, hnested, hnone⟩ := h
  exact hnested.lookup_eq_none hl hnone

/-- The documents of a set that compiles are those that can be reached. -/
theorem Compiles.reachable_iff (h : s.Compiles entry c start es) (n : SchemaNode) :
    s.Reachable entry n ↔ n ∈ c.nodes := by
  have hstarts : s.Starts entry start := ⟨h.path ▸ h.canonical, h.declared⟩
  rw [h.order.mem_iff_reachable n, hstarts.reachable_iff n]

/-- If no component of a set is a redefinition, nothing that its documents declare is one. -/
theorem Compiles.not_redefined (h : s.Compiles entry c start es)
    (hplain : ∀ x ∈ c.table.components, x.redefined = false) {n : SchemaNode} (hn : n ∈ c.nodes)
    {x : Component} (hx : s.Declares n x) : x.redefined = false := by
  have hdeclared := (mem_declaredOf_iff_declares h x).2 ⟨n, hn, hx⟩
  have hmem : x ∈ Table.under x.key (declaredOf es) :=
    List.mem_filter.2 ⟨hdeclared, decide_eq_true rfl⟩
  have hlater := h.records.later x.key
  have hlast := h.records.component?_eq x.kind.space x.name
  cases hunder : Table.under x.key (declaredOf es) with
  | nil => exact absurd (hunder ▸ hmem) List.not_mem_nil
  | cons y later =>
      rw [hunder] at hmem hlater
      rw [show Table.under (x.kind.space, x.name) _ = y :: later from hunder,
        List.getLast?_cons] at hlast
      obtain ⟨hstands, _⟩ := (Table.component?_eq_some_iff h.records.coupled _ _).1 hlast
      have hfresh := hplain _ hstands
      -- what was declared last is no redefinition, so it was declared first
      cases hrest : later.getLast? with
      | none =>
          rw [hrest, Option.getD_none] at hfresh
          rw [List.getLast?_eq_none_iff.1 hrest] at hmem
          rwa [List.mem_singleton.1 hmem]
      | some z =>
          rw [hrest, Option.getD_some, hlater z (List.mem_of_getLast? hrest)] at hfresh
          cases hfresh

/-- What the resolver names for the imports of a node declares the namespaces of the imports. -/
def namesRightly (s : Setting) (n : SchemaNode) : Bool :=
  (s.readRoot n.path).toOption.all fun root => (Schema.items root).all fun i =>
    match i with
    | .importing uri location =>
        match s.resolver (referenceRequest n.path uri location) with
        | .resolved answer =>
            ((s.files.canonicalize answer.systemId).toOption.bind fun p =>
              (s.readRoot p).toOption).all fun target => Schema.declaredNamespace target = uri
        | _ => true
    | _ => true

/-- The documents of a set that compiles fit together if it redefines nothing, and if what the
resolver names for an import declares the namespace of the import. -/
theorem Compiles.selfConsistent (h : s.Compiles entry c start es)
    (hplain : ∀ x ∈ c.table.components, x.redefined = false)
    (hnames : ∀ n ∈ c.nodes, s.namesRightly n = true) :
    s.SelfConsistent entry where
  imports := by
    intro n root uri location answer p target hn hi hanswer hcanonical htarget
    have hnamed := hnames n ((h.reachable_iff n).1 hn.reachable)
    rw [namesRightly, toOption_eq_some_iff.2 hn.read, Option.all_some, List.all_eq_true] at hnamed
    have hitem := hnamed _ hi
    simp only [hanswer, toOption_eq_some_iff.2 hcanonical, Option.bind_some,
      toOption_eq_some_iff.2 htarget, Option.all_some, decide_eq_true_eq] at hitem
    exact hitem
  components := by
    intro m n x y hm hn hx hy hkey hr
    have hm := (h.reachable_iff m).1 hm
    have hn := (h.reachable_iff n).1 hn
    obtain ⟨later, hunder, hlater⟩ :=
      h.records.first ((mem_declaredOf_iff_declares h y).2 ⟨n, hn, hy⟩) hr
    obtain ⟨rfl, _⟩ :=
      h.declares_unique hn hy hunder hlater hm hx (h.not_redefined hplain hm hx) hkey
    rfl
  labels := by
    intro n root e row value text label rest hn hmentions hsplit
    obtain ⟨_, q, hq, _⟩ :=
      h.knows_of_mem_tokens ((h.reachable_iff n).1 hn.reachable) hn.read hmentions.mem_tokens
    have hbound := (e.scope.resolve_ok_iff text).1 ⟨q, hq⟩ label rest hsplit
    by_cases hl : label = "xml"
    · exact .inl hl
    · refine .inr fun hundeclared => ?_
      rw [hundeclared.lookup_eq_none hl] at hbound
      cases hbound
  references := by
    intro n root e row value text name hn hmentions hmeans
    obtain ⟨_, q, hq, hknows⟩ :=
      h.knows_of_mem_tokens ((h.reachable_iff n).1 hn.reachable) hn.read hmentions.mem_tokens
    obtain ⟨q', hq', rfl⟩ := hmeans
    cases hq.symm.trans hq'
    refine hknows.imp_right (Or.imp_right ?_)
    rintro ⟨x, hx⟩
    obtain ⟨hstands, hspace, hname⟩ := (Table.component?_eq_some_iff h.records.coupled _ _).1 hx
    have hlatest := h.records.latest x hstands
    have hdeclared := (List.mem_filter.1 (List.mem_of_getLast? hlatest)).1
    obtain ⟨m, hm, hx⟩ := (mem_declaredOf_iff_declares h x).1 hdeclared
    exact ⟨m, x, (h.reachable_iff m).2 hm, hx, Prod.ext hspace hname⟩

end Fitting

section Shelf

/-- A document with some content in the namespace `urn:m`, beside a part that declares an element
and no namespace; the resolver names the part for `urn:b`. -/
def beside (content : List String) : Setting where
  files := topFiles
    [("main", schemaOctets "targetNamespace='urn:m' xmlns:m='urn:m'" content),
      ("part", schemaOctets "" ["<element name='e'/>"])]
  resolver := .ofLookup fun key => if key = "urn:b" then some (topPath "part") else none
  options := .standard

/-- Three documents that fit together: the first includes one that declares no namespace, imports
one that the resolver names for it, and refers to a component of each. -/
def concord : Setting where
  files := topFiles
    [("main", schemaOctets "targetNamespace='urn:m' xmlns:m='urn:m' xmlns:b='urn:b'"
        ["<include schemaLocation='part'/>", "<import namespace='urn:b'/>",
          "<element name='e' type='m:t'/>", "<element name='f' type='b:u'/>"]),
      ("part", schemaOctets "" ["<simpleType name='t'/>", "<attribute name='a' type='t'/>"]),
      ("b", schemaOctets "targetNamespace='urn:b'" ["<simpleType name='u'/>"])]
  resolver := .ofLookup fun key => if key = "urn:b" then some (topPath "b") else none
  options := .standard

/-- What the three documents compile to. -/
def concordSet : CompiledSet where
  entry := topPath "main"
  documents :=
    [⟨topPath "main", some "urn:m", false, [⟨some "urn:b", none, some (topPath "b"), .resolved⟩],
        [topPath "part"]⟩,
      ⟨topPath "part", some "urn:m", true, [], []⟩, ⟨topPath "b", some "urn:b", false, [], []⟩]
  table :=
    ⟨[⟨.simpleType, .of "urn:m" "t", topPath "part", false⟩,
        ⟨.attribute, .of "urn:m" "a", topPath "part", false⟩,
        ⟨.simpleType, .of "urn:b" "u", topPath "b", false⟩,
        ⟨.element, .of "urn:m" "e", topPath "main", false⟩,
        ⟨.element, .of "urn:m" "f", topPath "main", false⟩],
      .ofList [((.type, .of "urn:m" "t"), 0), ((.attribute, .of "urn:m" "a"), 1),
        ((.type, .of "urn:b" "u"), 2), ((.element, .of "urn:m" "e"), 3),
        ((.element, .of "urn:m" "f"), 4)]⟩

set_option maxRecDepth 10000 in
theorem concord_compiles : (concord.compile (topPath "main")).outcome = .ok concordSet := by
  decide +kernel

theorem concord_selfConsistent : concord.SelfConsistent (topPath "main") := by
  have hplain : ∀ x ∈ concordSet.table.components, x.redefined = false := by decide
  have hnames : ∀ n ∈ concordSet.nodes, concord.namesRightly n = true := by decide +kernel
  obtain ⟨start, es, hc⟩ := compiles concord_compiles
  exact hc.selfConsistent hplain hnames

set_option maxRecDepth 10000 in
/-- Each kind of violation that some content leads to is exhibited, and documents that fit together
lead to none, although they include and import each other and refer to each other's components. -/
theorem beside_exhibits :
    (beside ["<import namespace='urn:b'/>"]).Exhibits (topPath "main")
        ⟨.namespaceMismatch none (some "urn:b"), some (topPath "part")⟩ ∧
      (beside ["<element name='e'/>", "<include schemaLocation='part'/>"]).Exhibits
        (topPath "main")
        ⟨.duplicateComponent .element (.of "urn:m" "e") (topPath "main"),
          some (topPath "part")⟩ ∧
      (beside ["<element name='f' type='q:t'/>"]).Exhibits (topPath "main")
        ⟨.unboundLabel ⟨"q"⟩ "type" "q:t", some (topPath "main")⟩ ∧
      (beside ["<element name='f' type='m:t'/>"]).Exhibits (topPath "main")
        ⟨.danglingReference .type (.of "urn:m" "t"), some (topPath "main")⟩ ∧
      concord.SelfConsistent (topPath "main") ∧
      ∀ v, (concord.compile (topPath "main")).outcome ≠ .error (.consistency v) :=
  ⟨(compile_exhibits _ _).1 _ (by decide +kernel), (compile_exhibits _ _).1 _ (by decide +kernel),
    (compile_exhibits _ _).1 _ (by decide +kernel), (compile_exhibits _ _).1 _ (by decide +kernel),
    concord_selfConsistent, (compile_exhibits _ _).2 concord_selfConsistent⟩

end Shelf

end Setting
end SchemaSet
