import SchemaSet.Proofs.Reachability
import SchemaSet.Proofs.SymbolTable

/-!
# What becomes of a declaration

Under every key of a compiled table stands what was declared last (`Table.Records.component?_eq`).
If a component is declared directly in a schema of the set, it is declared first under its key, and
all that is declared later are redefinitions, the last of which stands.  Where their documents are,
and what their redefines lead to, makes no difference.

`declaration_kept_iff` draws the consequence.  Such a component stands exactly when no document
redeclares its key; so it is replaced by a redefinition of its own document, or stands, exactly when
a redefine brings in its document or no redefine at all names it.  The last sample is a set where a
redefine of one document replaces a component of another one.
-/

namespace SchemaSet

namespace Table

variable {t : Table} {ds : List Component}

/-- Under every key stands what was declared last. -/
theorem Records.component?_eq (h : t.Records ds) (space : SymbolSpace) (name : QName) :
    t.component? space name = (under (space, name) ds).getLast? := by
  cases hc : t.component? space name with
  | some c =>
      obtain ⟨hmem, rfl, rfl⟩ := (component?_eq_some_iff h.coupled space name).1 hc
      exact (h.latest c hmem).symm
  | none =>
      symm
      rw [List.getLast?_eq_none_iff, under, List.filter_eq_nil_iff]
      intro x hx hk
      have hkey : x.key = (space, name) := of_decide_eq_true hk
      -- a declaration puts some component under its key
      have hlisted : x.key ∈ t.components.map Component.key := by
        rw [h.keys, List.mem_eraseDups]
        exact List.mem_map_of_mem hx
      obtain ⟨c, hmem, hck⟩ := List.mem_map.1 hlisted
      obtain ⟨hspace, hname⟩ := Prod.mk.inj (hck.trans hkey)
      have hfound := (component?_eq_some_iff h.coupled space name).2 ⟨hmem, hspace, hname⟩
      rw [hc] at hfound
      cases hfound

/-- A declaration that redefines nothing comes first under its key. -/
theorem Records.first (h : t.Records ds) {x : Component} (hx : x ∈ ds)
    (hr : x.redefined = false) :
    ∃ later, under x.key ds = x :: later ∧ ∀ y ∈ later, y.redefined = true := by
  have hmem : x ∈ under x.key ds := List.mem_filter.2 ⟨hx, decide_eq_true rfl⟩
  have hlater := h.later x.key
  cases hu : under x.key ds with
  | nil =>
      rw [hu] at hmem
      exact absurd hmem List.not_mem_nil
  | cons y later =>
      rw [hu] at hmem hlater
      rcases List.mem_cons.1 hmem with rfl | hmem
      · exact ⟨later, rfl, hlater⟩
      · rw [hlater x hmem] at hr
        cases hr

end Table

namespace Setting

section Redefining

variable (s : Setting)

/-- A node includes or redefines another one. -/
def Includes (m n : SchemaNode) : Prop :=
  ∃ root i, s.readRoot m.path = .ok root ∧ i ∈ Schema.items root ∧ i.isInclusion = true ∧
    s.leadsTo m i = some n

/-- The document of a node has a redefine with a declaration under a key. -/
def Redeclares (m : SchemaNode) (key : SymbolSpace × QName) : Prop :=
  ∃ y, s.Declares m y ∧ y.redefined = true ∧ y.key = key

/-- The document of `m` has a redefine with a declaration under a key, and what it redefines is
`n` or brings in `n` by includes and redefines. -/
def RedefinesIn (m n : SchemaNode) (key : SymbolSpace × QName) : Prop :=
  ∃ root location ds target, s.readRoot m.path = .ok root ∧
    Schema.Item.redefining location ds ∈ Schema.items root ∧
    s.leadsTo m (.redefining location ds) = some target ∧
    Relation.ReflTransGen s.Includes target n ∧
    ∃ y ∈ componentsOf m true ds, y.key = key

/-- A component that a node declares stands, or a redefine that brings in the node redeclares its
key. -/
def Accounts (c : CompiledSet) (n : SchemaNode) (x : Component) : Prop :=
  c.component? x.kind.space x.name = some x ∨ ∃ m ∈ c.nodes, s.RedefinesIn m n x.key

/-- What a set has under the key of a component that a node declares directly; `es` are the events
of its traversal. -/
structure Keeps (c : CompiledSet) (es : List Step) (n : SchemaNode) (x : Component) : Prop where
  /-- It is declared first, and what is declared later are redefinitions. -/
  first : ∃ later, (declaredOf es).filter (fun y => y.key = x.key) = x :: later ∧
    ∀ y ∈ later, y.redefined = true
  /-- No other document declares it directly. -/
  only : ∀ m ∈ c.nodes, ∀ y, s.Declares m y → y.redefined = false → y.key = x.key →
    m = n ∧ y = x
  /-- It stands if no document redeclares it. -/
  kept : c.component? x.kind.space x.name = some x ↔ ∀ m ∈ c.nodes, ¬ s.Redeclares m x.key
  /-- If some document does, such a redeclaration stands. -/
  lost : (∃ m ∈ c.nodes, s.Redeclares m x.key) → ∃ m ∈ c.nodes, ∃ y, s.Declares m y ∧
    y.redefined = true ∧ c.component? x.kind.space x.name = some y
  /-- It is accounted for if, once some document redeclares it, one does that brings it in. -/
  accounted : s.Accounts c n x ↔
    ((∃ m ∈ c.nodes, s.Redeclares m x.key) → ∃ m ∈ c.nodes, s.RedefinesIn m n x.key)

end Redefining

section Kept

variable {s : Setting} {entry : Path} {c : CompiledSet} {start n : SchemaNode} {es : List Step}
variable {x y : Component} {later : List Component}

/-- The table of a set records what the events of its traversal declare. -/
theorem Compiles.records (h : s.Compiles entry c start es) : c.table.Records (declaredOf es) := by
  simpa using Table.records_foldlM Table.records_empty h.table

/-- A document of a set has a namespace that is not empty. -/
theorem Compiles.uri_ne (h : s.Compiles entry c start es) (hn : n ∈ c.nodes) :
    n.uri ≠ some "" := by
  have hreach := (h.order.mem_iff_reachable n).1 hn
  have hstart : start.uri ≠ some "" := by
    obtain ⟨root, _, hd⟩ := h.declared
    rw [← hd]
    exact nonEmpty_ne _
  have hedges : Relation.ReflTransGen s.Edge start n :=
    Relation.ReflTransGen.mono (fun a b hab => (leads_iff_edge a b).1 hab) _ _ hreach
  exact uri_of_reachable hstart hedges

/-- The name of a component tells the namespace of the document that declares it. -/
theorem uri_of_declares {x : Component} (hd : s.Declares n x) (hn : n.uri ≠ some "") :
    x.name.uri = n.uri := by
  obtain ⟨_, _, name, _, _, _, _, hname, _⟩ := hd
  rw [hname]
  show nonEmpty n.uri = n.uri
  cases hu : n.uri with
  | none => rfl
  | some u =>
      have hne : u ≠ "" := fun q => hn (by rw [hu, q])
      simp [nonEmpty, Option.filter, hne]

/-- What stands under the key of a component is the last redefinition of it, or the component. -/
theorem Compiles.component?_eq (h : s.Compiles entry c start es)
    (hunder : Table.under x.key (declaredOf es) = x :: later) :
    c.component? x.kind.space x.name = some (later.getLast?.getD x) := by
  rw [← List.getLast?_cons, ← hunder]
  exact h.records.component?_eq _ _

/-- What is declared under the key of a component are it and the later declarations. -/
theorem Compiles.mem_cons_iff (h : s.Compiles entry c start es)
    (hunder : Table.under x.key (declaredOf es) = x :: later) :
    y ∈ x :: later ↔ (∃ m ∈ c.nodes, s.Declares m y) ∧ y.key = x.key := by
  rw [← hunder, Table.under, List.mem_filter, mem_declaredOf_iff_declares h, decide_eq_true_iff]

/-- The later declarations are the redeclarations. -/
theorem Compiles.redeclared_iff (h : s.Compiles entry c start es) (hr : x.redefined = false)
    (hunder : Table.under x.key (declaredOf es) = x :: later)
    (hlater : ∀ y ∈ later, y.redefined = true) :
    (∃ m ∈ c.nodes, s.Redeclares m x.key) ↔ later ≠ [] := by
  constructor
  · rintro ⟨m, hm, y, hy, hyr, hk⟩ rfl
    obtain rfl := List.mem_singleton.1 ((h.mem_cons_iff hunder).2 ⟨⟨m, hm, hy⟩, hk⟩)
    rw [hr] at hyr
    cases hyr
  · intro hne
    obtain ⟨y, hy⟩ := List.exists_mem_of_ne_nil later hne
    obtain ⟨⟨m, hm, hd⟩, hk⟩ := (h.mem_cons_iff hunder).1 (List.mem_cons_of_mem x hy)
    exact ⟨m, hm, y, hd, hlater y hy, hk⟩

/-- A component stands if it is declared last. -/
theorem Compiles.stands_iff (h : s.Compiles entry c start es) (hr : x.redefined = false)
    (hunder : Table.under x.key (declaredOf es) = x :: later)
    (hlater : ∀ y ∈ later, y.redefined = true) :
    c.component? x.kind.space x.name = some x ↔ later = [] := by
  rw [h.component?_eq hunder, Option.some_inj]
  cases hlast : later.getLast? with
  | none => simp [List.getLast?_eq_none_iff.1 hlast]
  | some y =>
      have hy := List.mem_of_getLast? hlast
      have hyx : y ≠ x := by
        rintro rfl
        rw [hlater y hy] at hr
        cases hr
      simp [hyx, List.ne_nil_of_mem hy]

/-- No other document declares a component directly that one declares. -/
theorem Compiles.declares_unique (h : s.Compiles entry c start es) (hn : n ∈ c.nodes)
    (hx : s.Declares n x) (hunder : Table.under x.key (declaredOf es) = x :: later)
    (hlater : ∀ y ∈ later, y.redefined = true) {m : SchemaNode} (hm : m ∈ c.nodes)
    (hy : s.Declares m y) (hr : y.redefined = false) (hk : y.key = x.key) : m = n ∧ y = x := by
  have hyx : y = x := by
    rcases List.mem_cons.1 ((h.mem_cons_iff hunder).2 ⟨⟨m, hm, hy⟩, hk⟩) with heq | hmem
    · exact heq
    · rw [hlater y hmem] at hr
      cases hr
  subst hyx
  have hpath : m.path = n.path := hy.document.symm.trans hx.document
  have huri : m.uri = n.uri :=
    (uri_of_declares hy (h.uri_ne hm)).symm.trans (uri_of_declares hx (h.uri_ne hn))
  exact ⟨SchemaNode.ext hpath huri, rfl⟩

/-- A redeclaration stands if there is one. -/
theorem Compiles.exists_redeclaration (h : s.Compiles entry c start es)
    (hunder : Table.under x.key (declaredOf es) = x :: later)
    (hlater : ∀ y ∈ later, y.redefined = true) (hne : later ≠ []) :
    ∃ m ∈ c.nodes, ∃ y, s.Declares m y ∧ y.redefined = true ∧
      c.component? x.kind.space x.name = some y := by
  have hlast := List.getLast?_eq_some_getLast hne
  have hmem := List.mem_of_getLast? hlast
  obtain ⟨⟨m, hm, hd⟩, _⟩ := (h.mem_cons_iff hunder).1 (List.mem_cons_of_mem x hmem)
  refine ⟨m, hm, _, hd, hlater _ hmem, ?_⟩
  rw [h.component?_eq hunder, hlast, Option.getD_some]

/-- A component that stands if no document redeclares it is accounted for if, once some document
redeclares it, one does that brings it in. -/
theorem accounts_iff (hkept : c.component? x.kind.space x.name = some x ↔
      ∀ m ∈ c.nodes, ¬ s.Redeclares m x.key) :
    s.Accounts c n x ↔
      ((∃ m ∈ c.nodes, s.Redeclares m x.key) → ∃ m ∈ c.nodes, s.RedefinesIn m n x.key) := by
  rw [Accounts, hkept]
  constructor
  · rintro (hnone | hin)
    · rintro ⟨m, hm, hd⟩
      exact absurd hd (hnone m hm)
    · exact fun _ => hin
  · intro himp
    by_cases hd : ∃ m ∈ c.nodes, s.Redeclares m x.key
    · exact .inr (himp hd)
    · exact .inl fun m hm hm' => hd ⟨m, hm, hm'⟩

/-- A component declared directly in a schema stands exactly when no document of the set redeclares
its key, whatever is redefined there. -/
theorem declaration_kept_iff (h : (s.compile entry).outcome = .ok c) :
    ∃ start es, start.path = c.entry ∧ DepthFirst s.agenda [] [.enter start] es c.nodes ∧
      ∀ n ∈ c.nodes, ∀ x, s.Declares n x → x.redefined = false → s.Keeps c es n x := by
  obtain ⟨start, es, hc⟩ := compiles h
  refine ⟨start, es, hc.path, hc.order, fun n hn x hx hr => ?_⟩
  obtain ⟨later, hunder, hlater⟩ :=
    hc.records.first ((mem_declaredOf_iff_declares hc x).2 ⟨n, hn, hx⟩) hr
  have hredeclared := hc.redeclared_iff hr hunder hlater
  have hkept : c.component? x.kind.space x.name = some x ↔
      ∀ m ∈ c.nodes, ¬ s.Redeclares m x.key := by
    rw [hc.stands_iff hr hunder hlater, ← not_ne_iff, ← hredeclared]
    simp only [not_exists, not_and]
  exact
    { first := ⟨later, hunder, hlater⟩
      only := fun _ hm _ hy hyr hk => hc.declares_unique hn hx hunder hlater hm hy hyr hk
      kept := hkept
      lost := fun hd => hc.exists_redeclaration hunder hlater (hredeclared.1 hd)
      accounted := accounts_iff hkept }

theorem sample_declaration_kept :
    (sample.compile (topPath "main")).outcome = .ok sampleSet ∧
      ∃ start es, start.path = sampleSet.entry ∧
        DepthFirst sample.agenda [] [.enter start] es sampleSet.nodes ∧
        ∀ n ∈ sampleSet.nodes, ∀ x, sample.Declares n x → x.redefined = false →
          sample.Keeps sampleSet es n x :=
  ⟨sample_compiles, declaration_kept_iff sample_compiles⟩

end Kept

section Lost

/-- Three documents in one namespace: the second declares a component, the third is empty.  The
first includes the second and redefines the third with a declaration of that component, in either
order. -/
def astray (redefinesFirst : Bool) : Setting where
  files :=
    let inclusion := ["<include schemaLocation='d'/>"]
    let redefinition := ["<redefine schemaLocation='e'>", "<simpleType name='t'/>", "</redefine>"]
    topFiles
      [("main", schemaOctets "targetNamespace='urn:m'"
          (if redefinesFirst then redefinition ++ inclusion else inclusion ++ redefinition)),
        ("d", schemaOctets "targetNamespace='urn:m'" ["<simpleType name='t'/>"]),
        ("e", schemaOctets "targetNamespace='urn:m'" [])]
  resolver := Resolution.miss
  options := .standard

/-- What the documents compile to if the include stands first. -/
def astraySet : CompiledSet where
  entry := topPath "main"
  documents :=
    [⟨topPath "main", some "urn:m", false, [], [topPath "d", topPath "e"]⟩,
      ⟨topPath "d", some "urn:m", false, [], []⟩,
      ⟨topPath "e", some "urn:m", false, [], []⟩]
  table :=
    ⟨[⟨.simpleType, .of "urn:m" "t", topPath "main", true⟩],
      .ofList [((.type, .of "urn:m" "t"), 0)]⟩

/-- What the items of a document are can be read off the outcome of reading it. -/
theorem items_of_readRoot {s : Setting} {p : Path} {root : Markup.Element}
    {items : List Schema.Item} (h : (s.readRoot p).toOption.map Schema.items = some items)
    (hroot : s.readRoot p = .ok root) : Schema.items root = items := by
  rw [hroot] at h
  exact Option.some.inj h

set_option maxRecDepth 10000 in
/-- A redefine of one document replaces a component that another one declares, and is refused if
it stands before the include of that document. -/
theorem declaration_lost :
    (∃ c, ((astray false).compile (topPath "main")).outcome = .ok c ∧
        ∃ n ∈ c.nodes, ∃ x, (astray false).Declares n x ∧ x.redefined = false ∧
          ¬ (astray false).Accounts c n x) ∧
      ((astray true).compile (topPath "main")).outcome =
        .error (.consistency
          ⟨.duplicateComponent .simpleType (.of "urn:m" "t") (topPath "main"),
            some (topPath "d")⟩) := by
  constructor
  · have hcompiles : ((astray false).compile (topPath "main")).outcome = .ok astraySet := by
      decide +kernel
    have hmain : ((astray false).readRoot (topPath "main")).toOption.map Schema.items =
        some [.including (some "d"), .redefining (some "e") [⟨.simpleType, some "t"⟩]] := by
      decide +kernel
    have hd : ((astray false).readRoot (topPath "d")).toOption.map Schema.items =
        some [.declaring ⟨.simpleType, some "t"⟩] := by
      decide +kernel
    have he : ((astray false).readRoot (topPath "e")).toOption.map Schema.items = some [] := by
      decide +kernel
    have hleads : (astray false).leadsTo ⟨topPath "main", some "urn:m"⟩
        (.redefining (some "e") [⟨.simpleType, some "t"⟩]) =
          some ⟨topPath "e", some "urn:m"⟩ := by
      decide +kernel
    obtain ⟨start, es, hc⟩ := compiles hcompiles
    have hmem : (⟨topPath "d", some "urn:m"⟩ : SchemaNode) ∈ astraySet.nodes := by decide
    refine ⟨astraySet, hcompiles, _, hmem, ⟨.simpleType, .of "urn:m" "t", topPath "d", false⟩,
      ?_, rfl, ?_⟩
    · obtain ⟨root, hroot⟩ := hc.admitted _ hmem
      rw [← mem_declares_iff hroot, items_of_readRoot hd hroot.read]
      exact ⟨_, List.mem_singleton_self _, by decide⟩
    · rintro (hstands | ⟨m, hm, root, location, ds, target, hroot, hi, hl, hreach, _⟩)
      · exact absurd hstands (by decide)
      -- only the first document redefines anything
      · have hnodes : m = ⟨topPath "main", some "urn:m"⟩ ∨ m = ⟨topPath "d", some "urn:m"⟩ ∨
            m = ⟨topPath "e", some "urn:m"⟩ := by
          simpa [CompiledSet.nodes, astraySet, SchemaDocument.node] using hm
        rcases hnodes with rfl | rfl | rfl
        · rw [items_of_readRoot hmain hroot] at hi
          simp only [List.mem_cons, reduceCtorEq, Schema.Item.redefining.injEq, List.not_mem_nil,
            or_false, false_or] at hi
          obtain ⟨rfl, rfl⟩ := hi
          cases Option.some.inj (hleads.symm.trans hl)
          -- and what it redefines includes nothing
          rcases hreach.cases_head with heq | ⟨_, ⟨root, i, hroot, hi, _⟩, _⟩
          · exact absurd (congrArg SchemaNode.path heq) (by decide)
          · rw [items_of_readRoot he hroot] at hi
            exact absurd hi List.not_mem_nil
        · rw [items_of_readRoot hd hroot] at hi
          cases List.mem_singleton.1 hi
        · rw [items_of_readRoot he hroot] at hi
          exact absurd hi List.not_mem_nil
  · decide +kernel

end Lost

end Setting
end SchemaSet
