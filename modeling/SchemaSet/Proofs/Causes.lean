import SchemaSet.Proofs.Excess
import SchemaSet.Proofs.Inconsistency

/-!
# What the errors of a compilation tell

`Setting.Faulty` lists what may be wrong with the content of a document that was opened and read.
`Setting.Fails` lists every cause of failure of a compilation with the error that tells of it.

What is wrong with a document is told of that document, under its path.  The octets are looked at
before that, where it is not known whom they are read for: if they are no text, the error is one of
the markup.

Each part of a compilation has a lemma that says how it fails, for instance `readRoot_eq_error`; a
declaration that is refused is the last one noted (`fails_of_table`).  Together they show that every
error of a compilation has its cause (`compile_fails`).
-/

namespace SchemaSet

section Failure

variable {ε δ α β : Type} {x : Except ε α} {e : ε}

theorem bind_eq_error_iff {f : α → Except ε β} :
    (x >>= f) = .error e ↔ x = .error e ∨ ∃ a, x = .ok a ∧ f a = .error e := by
  cases x with
  | error e' => simp [bind, Except.bind]
  | ok a => simp [bind, Except.bind]

theorem mapError_eq_error_iff {f : ε → δ} {d : δ} :
    x.mapError f = .error d ↔ ∃ e, x = .error e ∧ f e = d := by
  cases x with
  | error e => simp [Except.mapError]
  | ok a => simp [Except.mapError]

end Failure

theorem Limits.check_eq_error_iff {limits : Limits} {what : Limits.Measure} {found : Nat}
    {x : Limits.Excess} :
    limits.check what found = .error x ↔
      limits.bound what < found ∧ x = .over what found (limits.bound what) := by
  unfold check
  split
  · rename_i hover
    simp [hover, eq_comm]
  · rename_i hwithin
    simp [hwithin]

/-- Whether an error is of a kind that a compilation is to end in. -/
def Error.isExpected : Error → Bool
  | .document _ | .consistency _ | .unresolvedImport _ _ | .resource _ | .limit _ => true
  | _ => false

namespace FileSystem

theorem readPath_eq_error {fs : FileSystem} {limits : Limits} {p : Path} {e : Error}
    (h : fs.readPath limits p = .error e) :
    (∃ f, (fs.entry p).bind content = .error f ∧ e = .resource (.reading p f)) ∨
      ∃ octets, fs.entry p = .ok (.file octets) ∧ limits.maxDocumentSize < octets.length ∧
        e = .limit (.over .documentSize octets.length limits.maxDocumentSize) := by
  unfold readPath at h
  cases hc : (fs.entry p).bind content with
  | error f =>
      rw [hc] at h
      exact .inl ⟨f, rfl, (Except.error.inj h).symm⟩
  | ok octets =>
      rw [hc] at h
      right
      rcases bind_eq_error_iff.1 h with h | ⟨_, _, h⟩
      · obtain ⟨x, hx, rfl⟩ := mapError_eq_error_iff.1 h
        obtain ⟨hover, rfl⟩ := Limits.check_eq_error_iff.1 hx
        refine ⟨octets, ?_, hover, rfl⟩
        obtain ⟨node, hnode, hcontent⟩ := bind_eq_ok_iff.1 hc
        cases node with
        | file bs =>
            cases hcontent
            exact hnode
        | directory => cases hcontent
        | link target => cases hcontent
      · cases h

end FileSystem

theorem Location.parse_eq_error {text : String} {e : Error} (h : parse text = .error e) :
    e = .resource (.foreignHost text) := by
  unfold parse at h
  split at h
  · split at h
    · split at h
      · cases h
      · exact (Except.error.inj h).symm
    · split at h <;> cases h
  · cases h

theorem Location.join_path_eq_error {base : Path} {text : String} {e : Error}
    (h : (Location.path base).join text = .error e) :
    parse text = .error e := by
  rcases bind_eq_error_iff.1 h with h | ⟨target, _, h⟩
  · exact h
  · cases target with
    | path p =>
        dsimp only at h
        split at h <;> cases h
    | url u => cases h
    | memory text => cases h

namespace Setting

section Causes

variable (s : Setting) (entry : Path)

/-- A document is to be opened, and its octets are read within the limits. -/
structure Loads (p : Path) (octets : Bytes) : Prop where
  summoned : ∃ reason, s.Summons entry p reason
  read : s.files.readPath s.options.limits p = .ok octets

/-- The last thing that a compilation notes is a declaration that is no redefinition, while another
one stands under its key: the last of those noted before it. -/
structure Repeats (old c : Component) : Prop where
  earlier : ∃ m, s.Reachable entry m ∧ s.Declares m old
  later : ∃ n, s.Reachable entry n ∧ s.Declares n c
  redefined : c.redefined = false
  /-- All that were noted after the first one are redefinitions. -/
  noted : ∃ before, (s.compile entry).notes = before ++ [.declared c] ∧
    (Table.under c.key (declaredOf before)).getLast? = some old ∧
    ∀ x ∈ (Table.under c.key (declaredOf before)).tail, x.redefined = true

/-- The last declaration that a compilation notes repeats one of the same document. -/
def Redeclared (c : Component) : Prop :=
  ∃ before x, (s.compile entry).notes = before ++ [.declared c] ∧ .declared x ∈ before ∧
    x.key = c.key ∧ x.document = c.document

/-- Something is wrong with the content of a document that was opened and read. -/
inductive Faulty : Path → DocumentFault → Prop
  | markup {p : Path} {octets : Bytes} {text : String} {f : Markup.Fault} :
      s.Loads entry p octets → Utf8.decode octets = .ok text →
      Markup.readDocument octets = .error f → Faulty p (.markup f)
  | schemaRoot {p : Path} {octets : Bytes} {text : String} {root : Markup.Element} :
      s.Loads entry p octets → Utf8.decode octets = .ok text →
      Markup.readDocument octets = .ok root → Schema.isSchema root = false →
      Faulty p (.schemaRoot root.name)
  | importedNamespace {p : Path} {uri : Option String} {root : Markup.Element} :
      s.Summons entry p (.imported uri false) → s.readRoot p = .ok root →
      Schema.declaredNamespace root ≠ uri →
      Faulty p (.importedNamespace (Schema.declaredNamespace root) uri)
  | includedNamespace {p : Path} {uri : Option String} {root : Markup.Element} {d : String} :
      s.Summons entry p (.included uri) → s.readRoot p = .ok root →
      Schema.declaredNamespace root = some d → some d ≠ uri →
      Faulty p (.includedNamespace d uri)
  | ownNamespace {n : SchemaNode} {root : Markup.Element} {location : Option String} :
      s.Stands entry n root → .importing n.uri location ∈ Schema.items root →
      Faulty n.path (.ownNamespace n.uri)
  | unwrittenInclude {n : SchemaNode} {root : Markup.Element} :
      s.Stands entry n root → .including none ∈ Schema.items root →
      Faulty n.path (.missingLocation "include")
  | unwrittenRedefine {n : SchemaNode} {root : Markup.Element} {ds : List Schema.Declaration} :
      s.Stands entry n root → .redefining none ds ∈ Schema.items root →
      Faulty n.path (.missingLocation "redefine")
  | missingName {n : SchemaNode} {root : Markup.Element} {i : Schema.Item}
      {d : Schema.Declaration} :
      s.Stands entry n root → i ∈ Schema.items root → d ∈ i.declarations → d.name = none →
      Faulty n.path (.missingName d.kind)
  | declaredName {n : SchemaNode} {root : Markup.Element} {i : Schema.Item}
      {d : Schema.Declaration} {name : String} {f : Name.Fault} :
      s.Stands entry n root → i ∈ Schema.items root → d ∈ i.declarations → d.name = some name →
      Name.validate name = .error f → Faulty n.path (.badName f)
  | mentionedName {n : SchemaNode} {root : Markup.Element} {t : Schema.Token} {f : Name.Fault} :
      s.Stands entry n root → t ∈ Schema.tokens root → Name.validateQualified t.text = .error f →
      Faulty n.path (.badName f)
  | declaredTwice {old c : Component} :
      s.Repeats entry old c → old.document = c.document →
      Faulty c.document (.declaredTwice c.kind c.name)

/-- The causes of failure, and the errors that tell of them. -/
inductive Fails : Error → Prop
  | content {p : Path} {fault : DocumentFault} :
      s.Faulty entry p fault → Fails (Error.inDocument p fault)
  /-- The octets of a document are no text. -/
  | notText {p : Path} {octets : Bytes} {f : Utf8.Fault} :
      s.Loads entry p octets → Utf8.decode octets = .error f →
      Fails (.markup (.notText p.display f))
  /-- Two documents declare one component.  If the document of the second declaration had declared it
  before, the other one redefined it since. -/
  | repeated {old c : Component} :
      s.Repeats entry old c → old.document ≠ c.document →
      (s.Redeclared entry c → old.redefined = true) →
      Fails (.consistency ⟨.duplicateComponent c.kind c.name old.document, some c.document⟩)
  /-- Documents contradict each other otherwise. -/
  | contradiction {v : Violation} :
      s.Exhibits entry v → v.inconsistency.kind ≠ .duplicateComponent → Fails (.consistency v)
  | missingImport {n : SchemaNode} {root : Markup.Element} {uri location : Option String} :
      s.Stands entry n root → .importing uri location ∈ Schema.items root →
      s.options.strict = true → s.found? n.path uri location = none →
      needsNoDocument uri = false → Fails (.unresolvedImport (uri.getD "") n.path.display)
  | missingInclude {n : SchemaNode} {root : Markup.Element} {i : Schema.Item} {l : String} :
      s.Stands entry n root → i ∈ Schema.items root → i.inquiry? = some (none, some l) →
      s.options.strict = true → s.found? n.path none (some l) = none →
      Fails (.resource (.missingInclude l n.path))
  | missingEntry {p : Path} {f : FileSystem.Fault} :
      (s.resolver (entryRequest entry)).systemId.getD entry = p →
      s.files.canonicalize p = .error f → Fails (.resource (.schema p f))
  /-- The resolver names a document that cannot be found. -/
  | missingAnswer {n : SchemaNode} {root : Markup.Element} {i : Schema.Item}
      {uri location : Option String} {answer : ResolvedEntity} {f : FileSystem.Fault} :
      s.Stands entry n root → i ∈ Schema.items root → i.inquiry? = some (uri, location) →
      s.resolver (referenceRequest n.path uri location) = .resolved answer →
      s.files.canonicalize answer.systemId = .error f →
      Fails (.resource (.schema answer.systemId f))
  /-- A location is a `file` URL with a host. -/
  | foreignHost {n : SchemaNode} {root : Markup.Element} {i : Schema.Item}
      {uri : Option String} {l : String} :
      s.Stands entry n root → i ∈ Schema.items root → i.inquiry? = some (uri, some l) →
      Location.parse l = .error (.resource (.foreignHost l)) →
      Fails (.resource (.foreignHost l))
  | unreadable {p : Path} {reason : Reason} {f : FileSystem.Fault} :
      s.Summons entry p reason → (s.files.entry p).bind FileSystem.content = .error f →
      Fails (.resource (.reading p f))
  | oversize {p : Path} {reason : Reason} {octets : Bytes} :
      s.Summons entry p reason → s.files.entry p = .ok (.file octets) →
      s.options.limits.maxDocumentSize < octets.length →
      Fails (.limit (.over .documentSize octets.length s.options.limits.maxDocumentSize))
  | nested {levels : Nat} :
      s.options.limits.maxSchemaDepth < levels →
      Fails (.limit (.over .schemaDepth levels s.options.limits.maxSchemaDepth))
  | crowded {nodes : List SchemaNode} :
      nodes.Nodup → (∀ n ∈ nodes, s.Reachable entry n) →
      s.options.limits.maxDocuments < nodes.length →
      Fails (.limit (.over .documents nodes.length s.options.limits.maxDocuments))
  | overfull {keys : List (SymbolSpace × QName)} :
      keys.Nodup → (∀ key ∈ keys, s.DeclaresKey entry key) →
      s.options.limits.maxSchemaComponents < keys.length →
      Fails (.limit (.over .schemaComponents keys.length s.options.limits.maxSchemaComponents))

end Causes

section Parts

variable {s : Setting} {entry : Path} {e : Error}

theorem readRoot_eq_error {p : Path} {reason : Reason} (hp : s.Summons entry p reason)
    (h : s.readRoot p = .error e) : s.Fails entry e := by
  rcases bind_eq_error_iff.1 h with h | ⟨octets, hload, h⟩
  · rcases bind_eq_error_iff.1 h with h | ⟨octets, hread, h⟩
    · rcases FileSystem.readPath_eq_error h with ⟨f, hf, rfl⟩ | ⟨octets, hentry, hover, rfl⟩
      · exact .unreadable hp hf
      · exact .oversize hp hentry hover
    · split at h
      · rename_i f hdecode
        cases h
        exact .notText ⟨⟨_, hp⟩, hread⟩ hdecode
      · cases h
  · obtain ⟨read, hread, hload⟩ := bind_eq_ok_iff.1 hload
    split at hload
    · cases hload
    rename_i text htext
    cases hload
    have hloads : s.Loads entry p octets := ⟨⟨_, hp⟩, hread⟩
    rcases bind_eq_error_iff.1 h with h | ⟨root, hroot, h⟩
    · obtain ⟨f, hf, rfl⟩ := mapError_eq_error_iff.1 h
      exact .content (.markup hloads htext hf)
    · split at h
      · cases h
      · rename_i hschema
        cases h
        exact .content (.schemaRoot hloads htext (mapError_eq_ok_iff.1 hroot)
          (Bool.eq_false_iff.2 hschema))

theorem effective_eq_error_cases {p : Path} {reason : Reason} {root : Markup.Element}
    (hp : s.Summons entry p reason) (hroot : s.readRoot p = .ok root)
    (h : effective p reason (Schema.declaredNamespace root) = .error e) :
    (∃ fault, s.Faulty entry p fault ∧ e = Error.inDocument p fault) ∨ ∃ v, e = .consistency v := by
  cases reason with
  | entry => cases h
  | imported uri resolved =>
      simp only [effective] at h
      split at h
      · cases h
      · rename_i hne
        split at h
        · cases h
          exact .inr ⟨_, rfl⟩
        · rename_i hresolved
          cases h
          rw [Bool.not_eq_true] at hresolved
          subst hresolved
          exact .inl ⟨_, .importedNamespace hp hroot hne, rfl⟩
  | included uri =>
      simp only [effective] at h
      split at h
      · cases h
      · rename_i d hd
        split at h
        · cases h
        · rename_i hne
          cases h
          exact .inl ⟨_, .includedNamespace hp hroot hd hne, rfl⟩

theorem component_eq_error {n : SchemaNode} {redefined : Bool} {d : Schema.Declaration}
    (h : component n redefined d = .error e) :
    (d.name = none ∧ e = Error.inDocument n.path (.missingName d.kind)) ∨
      ∃ name f, d.name = some name ∧ Name.validate name = .error f ∧
        e = Error.inDocument n.path (.badName f) := by
  unfold component at h
  split at h
  · rename_i hnone
    exact .inl ⟨hnone, (Except.error.inj h).symm⟩
  · rename_i name hname
    rcases bind_eq_error_iff.1 h with h | ⟨_, _, h⟩
    · obtain ⟨f, hf, rfl⟩ := mapError_eq_error_iff.1 h
      exact .inr ⟨name, f, hname, hf, rfl⟩
    · cases h

/-- Looking for a document fails if the resolver names a missing one, or the location is on another
host. -/
theorem find_eq_error {base : Path} {uri location : Option String}
    (h : (s.find base uri location).outcome = .error e) :
    (∃ answer f, s.resolver (referenceRequest base uri location) = .resolved answer ∧
        s.files.canonicalize answer.systemId = .error f ∧
        e = .resource (.schema answer.systemId f)) ∨
      ∃ l, location = some l ∧ Location.parse l = .error e ∧ e = .resource (.foreignHost l) := by
  have hwritten : (s.locateWritten base location).outcome = .error e →
      ∃ l, location = some l ∧ Location.parse l = .error e ∧ e = .resource (.foreignHost l) := by
    intro h
    cases location with
    | none => cases h
    | some l =>
        rcases Journal.outcome_bind_eq_error_iff.1 h with h | ⟨target, _, h⟩
        · have hparse := Location.join_path_eq_error h
          exact ⟨l, rfl, hparse, Location.parse_eq_error hparse⟩
        · split at h
          · split at h <;> cases h
          · cases h
          · cases h
  rcases Journal.outcome_bind_eq_error_iff.1 h with h | ⟨answer, hanswer, h⟩
  · cases h
  cases hanswer
  split at h
  · rename_i answer hanswer
    left
    rcases Journal.outcome_bind_eq_error_iff.1 h with h | ⟨_, _, h⟩
    · obtain ⟨f, hf, rfl⟩ := mapError_eq_error_iff.1 h
      exact ⟨answer, f, hanswer, hf, rfl⟩
    · cases h
  · right
    rcases Journal.outcome_bind_eq_error_iff.1 h with h | ⟨_, _, h⟩
    · exact hwritten h
    · cases h

theorem Refuses.fails {n : SchemaNode} {root : Markup.Element} {i : Schema.Item}
    (hn : s.Stands entry n root) (hi : i ∈ Schema.items root) (h : s.Refuses n i e) :
    s.Fails entry e := by
  cases h with
  | ownNamespace location => exact .content (.ownNamespace hn hi)
  | notFound hinquiry hfind =>
      rcases find_eq_error hfind with ⟨answer, f, hanswer, hf, rfl⟩ | ⟨l, rfl, hparse, rfl⟩
      · exact .missingAnswer hn hi hinquiry hanswer hf
      · exact .foreignHost hn hi hinquiry hparse
  | missingImport hstrict hnone hneeds => exact .missingImport hn hi hstrict hnone hneeds
  | missingInclude hstrict hinquiry hnone => exact .missingInclude hn hi hinquiry hstrict hnone
  | unwrittenInclude => exact .content (.unwrittenInclude hn hi)
  | unwrittenRedefine ds => exact .content (.unwrittenRedefine hn hi)
  | declaration hd hcomponent =>
      rcases component_eq_error hcomponent with ⟨hnone, rfl⟩ | ⟨name, f, hname, hf, rfl⟩
      · exact .content (.missingName hn hi hd hnone)
      · exact .content (.declaredName hn hi hd hname hf)

/-- A name in a document is refused for its form, or its label is unbound. -/
theorem resolve_eq_error_cases {document : Path} {adopted : Option String} {t : Schema.Token}
    (h : t.resolve document adopted = .error e) :
    (∃ f, Name.validateQualified t.text = .error f ∧ e = Error.inDocument document (.badName f)) ∨
      ∃ v, e = .consistency v ∧ v.inconsistency.kind ≠ .duplicateComponent := by
  rcases bind_eq_error_iff.1 h with h | ⟨_, _, h⟩
  · obtain ⟨f, hf, rfl⟩ := mapError_eq_error_iff.1 h
    exact .inl ⟨f, hf, rfl⟩
  · rcases bind_eq_error_iff.1 h with h | ⟨_, _, h⟩
    · obtain ⟨u, _, rfl⟩ := mapError_eq_error_iff.1 h
      exact .inr ⟨_, rfl, nofun⟩
    · cases h

/-- What stops a traversal is a cause of failure. -/
theorem Obstructs.fails (h : s.Obstructs entry e) : s.Fails entry e := by
  have hexhibits : ∀ v, e = .consistency v → s.Exhibits entry v := by
    rintro v rfl
    exact h.exhibits
  cases h with
  | depth hx =>
      obtain ⟨hover, rfl⟩ := Limits.check_eq_error_iff.1 hx
      exact .nested hover
  | count hseen hx =>
      obtain ⟨hover, rfl⟩ := Limits.check_eq_error_iff.1 hx
      exact .crowded hseen.nodup hseen.reachable hover
  | unread hp hread => exact readRoot_eq_error hp hread
  | misplaced hp hroot heff =>
      rcases effective_eq_error_cases hp hroot heff with ⟨fault, hfault, rfl⟩ | ⟨v, rfl⟩
      · exact .content hfault
      · rcases effective_eq_error heff with hplain | ⟨uri, rfl, hne, heq⟩
        · rw [not_isPlain_consistency] at hplain
          cases hplain
        · cases heq
          exact .contradiction (hexhibits _ rfl) nofun
  | item hn hi hrefuses => exact hrefuses.fails hn hi
  | name hn ht hresolve =>
      rcases resolve_eq_error_cases hresolve with ⟨f, hf, rfl⟩ | ⟨v, rfl, hkind⟩
      · exact .content (.mentionedName hn ht hf)
      · exact .contradiction (hexhibits v rfl) hkind

end Parts

section Registering

variable {limits : Limits} {t : Table} {steps : List Step} {e : Error}

/-- If a table is not assembled, the declaration that it refuses is the last thing noted. -/
theorem notes_assemble_of_error (h : (assemble limits t steps).outcome = .error e) :
    ∃ before c u, (assemble limits t steps).notes = before ++ [.declared c] ∧
      before ++ [.declared c] <+: steps ∧
      (declaredOf before).foldlM (Table.register limits) t = .ok u ∧
      u.register limits c = .error e := by
  induction steps generalizing t with
  | nil => cases h
  | cons step rest ih =>
      cases step with
      | declared c =>
          have hnotes : (assemble limits t (.declared c :: rest)).notes = .declared c ::
              (liftM (t.register limits c) >>= fun u => assemble limits u rest).notes := rfl
          have houtcome : ((liftM (t.register limits c) : Journal Step Error Table) >>=
              fun u => assemble limits u rest).outcome = .error e := h
          rw [hnotes]
          cases hr : t.register limits c with
          | error e' =>
              rw [hr] at houtcome
              cases houtcome
              exact ⟨[], c, t, rfl, ⟨rest, rfl⟩, rfl, hr⟩
          | ok u =>
              rw [hr] at houtcome
              obtain ⟨before, d, v, hrest, hfront, hv, hd⟩ := ih houtcome
              refine ⟨.declared c :: before, d, v, ?_, ?_, ?_, hd⟩
              · exact congrArg _ hrest
              · exact (List.prefix_cons_inj _).2 hfront
              · rw [declaredOf, List.filterMap_cons_some (by rfl), List.foldlM_cons, hr]
                exact hv
      | _ =>
          obtain ⟨before, d, v, hrest, hfront, hv, hd⟩ := ih h
          exact ⟨_ :: before, d, v, congrArg _ hrest, (List.prefix_cons_inj _).2 hfront, hv, hd⟩

variable {s : Setting} {entry start : Path}

theorem notes_compile_of_table
    (hc : s.files.canonicalize ((s.resolver (entryRequest entry)).systemId.getD entry) = .ok start)
    (h : (assemble s.options.limits ∅ (s.traverse start).notes).outcome = .error e) :
    (s.compile entry).notes = .asked (entryRequest entry) (s.resolver (entryRequest entry)) ::
      (assemble s.options.limits ∅ (s.traverse start).notes).notes := by
  have hask : (s.ask (entryRequest entry)).outcome = .ok (s.resolver (entryRequest entry)) := rfl
  have hcanonical : (liftM (s.canonical ((s.resolver (entryRequest entry)).systemId.getD entry)) :
      Journal Step Error Path).outcome = .ok start :=
    mapError_eq_ok_iff.2 hc
  unfold compile
  rw [Journal.bind_of_ok hask, Journal.bind_of_ok hcanonical, Journal.bind_of_error h]
  rfl

/-- A declaration of the same document that does not stand any more was redefined. -/
theorem Repeats.redefined_of_redeclared {old c : Component} (h : s.Repeats entry old c)
    (hother : old.document ≠ c.document) (hc : s.Redeclared entry c) : old.redefined = true := by
  obtain ⟨before, hnotes, hlatest, hlater⟩ := h.noted
  obtain ⟨before', x, hnotes', hx, hkey, hdocument⟩ := hc
  obtain ⟨rfl, _⟩ := List.append_inj' (hnotes.symm.trans hnotes') rfl
  have hunder : x ∈ Table.under c.key (declaredOf before) :=
    List.mem_filter.2 ⟨mem_declaredOf_iff.2 hx, decide_eq_true hkey⟩
  generalize Table.under c.key (declaredOf before) = standing at hlatest hlater hunder
  match standing with
  | [] => cases hunder
  | [y] =>
      cases List.mem_singleton.1 hunder
      cases hlatest
      exact absurd hdocument hother
  | _ :: y :: rest =>
      rw [List.getLast?_cons_cons] at hlatest
      exact hlater old (List.mem_of_getLast? hlatest)

/-- A declaration that is refused is told of its document, if the one that stands under its key
is of the same document, or else contradicts the other document. -/
theorem fails_of_table
    (hc : s.files.canonicalize ((s.resolver (entryRequest entry)).systemId.getD entry) = .ok start)
    (h : (declaredOf (s.traverse start).notes).foldlM (Table.register s.options.limits) ∅ =
      .error e) :
    s.Fails entry e := by
  have hassemble := (outcome_assemble s.options.limits ∅ (s.traverse start).notes).trans h
  obtain ⟨before, c, u, hnotes, hfront, hu, hrefused⟩ := notes_assemble_of_error hassemble
  have hgrounded : ∀ x, .declared x ∈ before ++ [.declared c] →
      ∃ n, s.Reachable entry n ∧ s.Declares n x :=
    fun x hx => (traverse_sound hc).notes _ (hfront.subset hx)
  have hrecords : u.Records (declaredOf before) := by
    simpa using Table.records_foldlM Table.records_empty hu
  rcases Table.register_eq_error hrefused with ⟨i, hi, hredefined, rfl⟩ | ⟨hnew, hover, rfl⟩
  · obtain ⟨old, hget, hkey⟩ := Option.map_eq_some_iff.1 ((hrecords.coupled c.key i).1 hi)
    have hlatest := hrecords.latest old (List.mem_of_getElem? hget)
    rw [hkey] at hlatest
    have hold : .declared old ∈ before :=
      mem_declaredOf_iff.1 (List.mem_filter.1 (List.mem_of_getLast? hlatest)).1
    have hrepeats : s.Repeats entry old c :=
      { earlier := hgrounded old (List.mem_append_left _ hold)
        later := hgrounded c (by simp)
        redefined := hredefined
        noted := by
          refine ⟨.asked (entryRequest entry) (s.resolver (entryRequest entry)) :: before, ?_,
            hlatest, hrecords.later c.key⟩
          rw [notes_compile_of_table hc hassemble, hnotes]
          rfl }
    rw [List.getD_eq_getElem?_getD, hget, Option.getD_some, Table.clash]
    split
    · rename_i hsame
      exact .content (.declaredTwice hrepeats hsame)
    · rename_i hother
      exact .repeated hrepeats hother (hrepeats.redefined_of_redeclared hother)
  · have happended := hrecords.append hnew
    have hsize : (u.append c).size = ((u.append c).components.map Component.key).length := by
      simp [Table.size]
    rw [hsize] at hover ⊢
    refine .overfull happended.coupled.distinct (fun key hkey => ?_) hover
    rw [happended.keys, List.mem_eraseDups] at hkey
    obtain ⟨x, hx, rfl⟩ := List.mem_map.1 hkey
    have hnoted : .declared x ∈ before ++ [.declared c] := by
      rcases List.mem_append.1 hx with hx | hx
      · exact List.mem_append_left _ (mem_declaredOf_iff.1 hx)
      · rw [List.mem_singleton.1 hx]
        simp
    obtain ⟨n, hn, hdeclares⟩ := hgrounded x hnoted
    exact ⟨n, x, hn, hdeclares, rfl⟩

end Registering

section Whole

variable {s : Setting} {entry : Path} {e : Error}

/-- Every error of a compilation has its cause. -/
theorem compile_fails (h : (s.compile entry).outcome = .error e) : s.Fails entry e := by
  rcases compile_error_cases h with hc | ⟨start, hstart, hstops⟩
  · obtain ⟨f, hf, rfl⟩ := mapError_eq_error_iff.1 hc
    exact .missingEntry rfl hf
  cases hstops with
  | traversal _ h => exact h.fails
  | table h => exact fails_of_table hstart h
  | reference ht hwalk hr hlands =>
      exact .contradiction (exhibits_of_reference hstart ht hwalk hr hlands) nofun

theorem Fails.isExpected (h : s.Fails entry e) :
    e.isExpected = true ∨ ∃ p octets f, s.Loads entry p octets ∧ Utf8.decode octets = .error f ∧
      e = .markup (.notText p.display f) := by
  cases h with
  | notText hloads hf => exact .inr ⟨_, _, _, hloads, hf, rfl⟩
  | _ => exact .inl rfl

/-- An error of a document is told under its path. -/
theorem Fails.located {d : DocumentError} (h : s.Fails entry (.document d)) :
    ∃ p fault, s.Faulty entry p fault ∧ d = ⟨fault, some p.display⟩ := by
  generalize he : Error.document d = e at h
  cases h with
  | content hfaulty =>
      cases he
      exact ⟨_, _, hfaulty, rfl⟩
  | _ => cases he

/-- Every error of a compilation is of an expected kind and tells of its cause, and what is wrong
with the content of a document is told under the path of that document; except that octets which are
no text are told as an error of the markup. -/
theorem compile_error_told (h : (s.compile entry).outcome = .error e) :
    s.Fails entry e ∧
      (e.isExpected = true ∨ ∃ p octets f, s.Loads entry p octets ∧ Utf8.decode octets = .error f ∧
        e = .markup (.notText p.display f)) ∧
      ∀ d, e = .document d → ∃ p fault, s.Faulty entry p fault ∧ d = ⟨fault, some p.display⟩ := by
  have hfails := compile_fails h
  refine ⟨hfails, hfails.isExpected, ?_⟩
  rintro d rfl
  exact hfails.located

end Whole

section Sample

set_option maxRecDepth 10000 in
/-- A declaration without a name is told of the document where it stands. -/
theorem unnamed_told :
    ((beside ["<element/>"]).compile (topPath "main")).outcome =
        .error (.document ⟨.missingName .element, some "/main"⟩) ∧
      ∃ p fault, (beside ["<element/>"]).Faulty (topPath "main") p fault ∧
        (⟨.missingName .element, some "/main"⟩ : DocumentError) = ⟨fault, some p.display⟩ := by
  have hfails : ((beside ["<element/>"]).compile (topPath "main")).outcome =
      .error (.document ⟨.missingName .element, some "/main"⟩) := by
    decide +kernel
  exact ⟨hfails, (compile_error_told hfails).2.2 _ rfl⟩

/-- A document that is a schema but for its last octet. -/
def garbled : Setting where
  files := topFiles [("main", schemaOctets "" [] ++ [0xFF])]
  resolver := .ofLookup fun _ => none
  options := .standard

set_option maxRecDepth 10000 in
/-- Octets that are no text are not told of the document, though they were read. -/
theorem garbled_not_located :
    garbled.Loads (topPath "main") (topPath "main") (schemaOctets "" [] ++ [0xFF]) ∧
      (∃ f, Utf8.decode (schemaOctets "" [] ++ [0xFF]) = .error f ∧
        (garbled.compile (topPath "main")).outcome = .error (.markup (.notText "/main" f))) ∧
      ∀ d, (garbled.compile (topPath "main")).outcome ≠ .error (.document d) := by
  have hdecode : ∃ f, Utf8.decode (schemaOctets "" [] ++ [0xFF]) = .error f ∧
      (garbled.compile (topPath "main")).outcome = .error (.markup (.notText "/main" f)) := by
    refine ⟨⟨59, some 1⟩, ?_, ?_⟩ <;> decide +kernel
  refine ⟨⟨⟨.entry, .entry ?_⟩, ?_⟩, hdecode, fun d hd => ?_⟩
  · decide +kernel
  · decide +kernel
  · obtain ⟨f, _, houtcome⟩ := hdecode
    rw [houtcome] at hd
    cases hd

end Sample

end Setting
end SchemaSet
