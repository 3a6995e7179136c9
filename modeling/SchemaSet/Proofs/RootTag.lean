import SchemaSet.Error
import SchemaSet.Markup.RootScan

/-!
# Two readers of one start tag

The scan of a document keeps the attributes of the first tag by the name as written, the tree keeps
those of the root by expanded name; of two attributes with one name, either keeps the later.

Both readers read the same tag (`StartTag.of_readers`), and where no label is bound to the empty
namespace, they find the same value for an attribute (`attribute_agrees`).  The main theorem
`root_tag_agrees` is that name and bindings of the root are always the same for both, and the target
namespace exactly when no attribute with another value hides the one that declares it.  The last
sample shows that there may be one.
-/

namespace SchemaSet
namespace Markup

/-- The tag of an element that begins. -/
def Event.tag? : Event → Option Tag
  | .start t => some t
  | .empty t => some t
  | _ => none

/-- The first tag among some events. -/
def firstTag (os : List Occurrence) : Option Tag := os.findSome? fun o => o.event.tag?

/-- Whether an attribute has an expanded name. -/
def denotes (scope : Scope) (name : QName) (a : Attribute) : Bool :=
  (resolveAttribute scope a.1).toOption = some name

namespace StartTag

/-- The attribute that counts for an expanded name: the last one that has it. -/
def counting? (t : StartTag) (name : QName) : Option Attribute :=
  t.attributes.reverse.find? (denotes t.own name)

/-- The attribute that counts in the place of the one written with a name. -/
def hiding? (t : StartTag) (name : String) : Option Attribute :=
  (t.counting? (QName.bare name)).filter fun a => a.1 ≠ name

/-- The tag is the first one of a document. -/
def Begins (t : StartTag) (bs : Bytes) : Prop :=
  ∃ tag, firstTag (events .whole bs).notes = some tag ∧ tag.read = .ok t

/-- A scan and a tree are read from one start tag. -/
structure Underlies (t : StartTag) (r : RootScan) (root : Element) : Prop where
  name : r.name = root.name
  scanned : r.scope = t.own
  scope : root.scope = t.own
  written : r.attributes = OrderedMap.ofList t.attributes
  expanded : expandAttributes t.own ∅ t.attributes = .ok root.attributes

end StartTag

namespace Element

/-- The element without its children. -/
def head (e : Element) : Element := e.withChildren []

end Element

section Scan

variable {ending : Except Break Unit} {os : List Occurrence} {r : RootScan}

/-- A scan is made of the first tag. -/
theorem firstTag_of_scan (h : RootScan.ofEvents ending os = .ok r) :
    ∃ t, firstTag os = some t ∧ RootScan.ofTag t = .ok r := by
  induction os with
  | nil => cases ending <;> cases h
  | cons o os ih =>
      obtain ⟨event, position⟩ := o
      cases event with
      | start t => exact ⟨t, rfl, h⟩
      | empty t => exact ⟨t, rfl, h⟩
      | text raw =>
          simp only [RootScan.ofEvents] at h
          split at h
          · exact ih h
          · cases h
      | _ => exact ih h

end Scan

namespace Growth

variable {g g' : Growth} {o : Occurrence} {os : List Occurrence} {t : Tag} {e : Element}

/-- The outermost element: the root, once it has begun. -/
def base (g : Growth) : Option Element := g.stack.getLast?.or g.root

/-- Nothing but a tag changes the empty tree. -/
theorem step_of_no_tag (ht : o.event.tag? = none) (h : empty.step o = .ok g) : g = empty := by
  obtain ⟨event, position⟩ := o
  cases event with
  | start t => cases ht
  | empty t => cases ht
  | text raw =>
      obtain ⟨s, _, h⟩ := bind_eq_ok_iff.1 h
      split at h
      · cases h
      · exact (Except.ok.inj h).symm
  | _ => exact (Except.ok.inj h).symm

/-- The first tag begins the outermost element. -/
theorem base_of_tag (ht : o.event.tag? = some t) (h : empty.step o = .ok g) :
    ∃ e, t.element none = .ok e ∧ g.base = some e := by
  obtain ⟨event, position⟩ := o
  cases event with
  | start u =>
      cases ht
      obtain ⟨_, _, h⟩ := bind_eq_ok_iff.1 h
      obtain ⟨e, he, h⟩ := bind_eq_ok_iff.1 h
      cases h
      exact ⟨e, he, rfl⟩
  | empty u =>
      cases ht
      obtain ⟨_, _, h⟩ := bind_eq_ok_iff.1 h
      obtain ⟨e, he, h⟩ := bind_eq_ok_iff.1 h
      cases h
      exact ⟨e, he, rfl⟩
  | _ => cases ht

/-- While something is open, the outermost element is the last of the stack. -/
theorem getLast?_of_base (hb : g.base = some e) (hne : g.stack ≠ []) :
    g.stack.getLast? = some e := by
  obtain ⟨last, hlast⟩ := Option.isSome_iff_exists.1 (List.getLast?_isSome.2 hne)
  rw [base, hlast, Option.some_or] at hb
  exact hlast.trans hb

/-- A second element at the top is refused once the outermost one is closed. -/
theorem stack_ne_nil_of_accepts {position : Nat} {u : Unit} (hb : g.base = some e)
    (h : g.refuseSecond position = .ok u) : g.stack ≠ [] := by
  obtain ⟨stack, root⟩ := g
  rintro hnil
  cases (show stack = [] from hnil)
  have hroot : root = some e := hb
  subst hroot
  cases h

/-- An element that is handed over changes the outermost one in its children only. -/
theorem base_deliver (hb : g.stack.getLast? = some e) (child : Element) :
    (g.deliver child).base.map Element.head = some e.head := by
  obtain ⟨stack, root⟩ := g
  cases stack with
  | nil => cases hb
  | cons p r =>
      cases r with
      | nil =>
          cases hb
          rfl
      | cons q r =>
          have hlast : (q :: r).getLast? = some e := by rwa [List.getLast?_cons_cons] at hb
          simp [deliver, base, List.getLast?_cons_cons, hlast]

/-- An event changes the outermost element in its children only. -/
theorem base_step (hb : g.base.map Element.head = some e) (h : g.step o = .ok g') :
    g'.base.map Element.head = some e := by
  obtain ⟨b, hbase, rfl⟩ := Option.map_eq_some_iff.1 hb
  obtain ⟨event, position⟩ := o
  cases event with
  | start t =>
      obtain ⟨_, haccepts, h⟩ := bind_eq_ok_iff.1 h
      obtain ⟨c, _, h⟩ := bind_eq_ok_iff.1 h
      cases h
      have hlast := getLast?_of_base hbase (stack_ne_nil_of_accepts hbase haccepts)
      simp [base, List.getLast?_cons, hlast]
  | empty t =>
      obtain ⟨_, haccepts, h⟩ := bind_eq_ok_iff.1 h
      obtain ⟨c, _, h⟩ := bind_eq_ok_iff.1 h
      cases h
      exact base_deliver (getLast?_of_base hbase (stack_ne_nil_of_accepts hbase haccepts)) c
  | close =>
      obtain ⟨stack, root⟩ := g
      cases stack with
      | nil =>
          cases h
          exact hb
      | cons c r =>
          cases h
          cases r with
          | nil =>
              cases hbase
              rfl
          | cons p r =>
              have hlast := getLast?_of_base hbase (List.cons_ne_nil c (p :: r))
              rw [List.getLast?_cons_cons] at hlast
              exact base_deliver hlast _
  | text raw =>
      obtain ⟨s, _, h⟩ := bind_eq_ok_iff.1 h
      split at h
      · cases h
      · cases h
        exact hb
  | _ =>
      cases h
      exact hb

theorem base_stepAll (hb : g.base.map Element.head = some e) (h : g.stepAll os = .ok g') :
    g'.base.map Element.head = some e := by
  induction os generalizing g with
  | nil =>
      cases h
      exact hb
  | cons o os ih =>
      obtain ⟨u, hu, h⟩ := bind_eq_ok_iff.1 h
      exact ih (base_step hb hu) h

/-- The outermost element is the one that the first tag begins. -/
theorem base_of_firstTag (ht : firstTag os = some t) (h : empty.stepAll os = .ok g) :
    ∃ e, t.element none = .ok e ∧ g.base.map Element.head = some e.head := by
  induction os with
  | nil => cases ht
  | cons o os ih =>
      obtain ⟨u, hu, h⟩ := bind_eq_ok_iff.1 h
      cases htag : o.event.tag? with
      | none =>
          have hrest : firstTag os = some t := by rwa [firstTag, List.findSome?_cons, htag] at ht
          cases step_of_no_tag htag hu
          exact ih hrest h
      | some t' =>
          have hfirst : t' = t := by
            rw [firstTag, List.findSome?_cons, htag] at ht
            exact Option.some.inj ht
          subst hfirst
          obtain ⟨e, he, hb⟩ := base_of_tag htag hu
          exact ⟨e, he, base_stepAll (by rw [hb]; rfl) h⟩

theorem base_of_finish (h : g.finish = .ok e) : g.base = some e := by
  obtain ⟨stack, root⟩ := g
  cases stack with
  | cons p r => cases h
  | nil =>
      cases root with
      | none => cases h
      | some e' =>
          cases h
          rfl

end Growth

section Readers

variable {bs : Bytes} {r : RootScan} {root : Element}

/-- Both readers read the same start tag. -/
theorem StartTag.of_readers (hs : RootScan.scan bs = .ok r) (hd : readDocument bs = .ok root) :
    ∃ t : StartTag, t.Begins bs ∧ t.Underlies r root := by
  obtain ⟨tag, hfirst, hscan⟩ := firstTag_of_scan hs
  obtain ⟨g, hg, hd⟩ := bind_eq_ok_iff.1 hd
  have hfinish : g.finish = .ok root := by
    split at hd
    · exact hd
    · cases hd
  -- the tree grows below the first tag, which leaves its head as it was begun
  obtain ⟨e, he, hhead⟩ := Growth.base_of_firstTag hfirst hg
  rw [Growth.base_of_finish hfinish] at hhead
  have hhead : root.head = e.head := Option.some.inj hhead
  obtain ⟨t, ht, hscan⟩ := bind_eq_ok_iff.1 hscan
  obtain ⟨name, hname, hscan⟩ := bind_eq_ok_iff.1 hscan
  obtain ⟨t', ht', he⟩ := bind_eq_ok_iff.1 he
  cases Except.ok.inj (ht.symm.trans ht')
  obtain ⟨name', hname', he⟩ := bind_eq_ok_iff.1 he
  cases Except.ok.inj (hname.symm.trans hname')
  obtain ⟨attributes, hattributes, he⟩ := bind_eq_ok_iff.1 he
  cases he
  cases hscan
  refine ⟨t, ⟨tag, hfirst, ht⟩, ?_⟩
  exact
    { name := (congrArg Element.name hhead).symm
      scanned := rfl
      scope := congrArg Element.scope hhead
      written := rfl
      expanded := by
        have hsame : root.attributes = attributes := congrArg Element.attributes hhead
        rw [hsame]
        exact hattributes }

end Readers

section Lookup

variable {scope : Scope} {m m' : OrderedMap QName String} {as : List Attribute} {name : String}

/-- The tree holds under an expanded name the last attribute that has it. -/
theorem get?_expandAttributes (h : expandAttributes scope m as = .ok m') (key : QName) :
    m'.get? key = ((as.reverse.find? (denotes scope key)).map Prod.snd).or (m.get? key) := by
  induction as generalizing m with
  | nil =>
      cases h
      simp
  | cons a as ih =>
      obtain ⟨q, hq, h⟩ := bind_eq_ok_iff.1 h
      rw [ih h, OrderedMap.get?_insert]
      by_cases hk : q = key
      · simp [List.find?_append, denotes, hq, Except.toOption, hk]
      · simp [List.find?_append, denotes, hq, Except.toOption, hk]

theorem Element.attribute?_eq_get? (e : Element) (name : String) :
    e.attribute? name = e.attributes.get? (QName.bare name) := by
  rw [attribute?, OrderedMap.get?, OrderedMap.find_eq_find?]
  congr 2
  funext a
  obtain ⟨⟨uri, localName⟩, value⟩ := a
  cases uri with
  | none => simp [QName.bare, Bool.beq_eq_decide_eq]
  | some u => simp [QName.bare]

theorem of_eq_bare_iff {uri rest : String} :
    QName.of (some uri) rest = QName.bare name ↔ uri = "" ∧ rest = name := by
  by_cases hu : uri = "" <;> simp [QName.of, QName.bare, nonEmpty, Option.filter, hu]

/-- An attribute is in no namespace if it has no label, or one that is bound to none. -/
theorem denotes_bare_iff (hn : Name.splitColon name = none) (a : Attribute) :
    denotes scope (QName.bare name) a = true ↔
      a.1 = name ∨
        ∃ label, Name.splitColon a.1 = some (label, name) ∧ scope.lookup label = some "" := by
  rw [denotes, decide_eq_true_iff, toOption_eq_some_iff, resolveAttribute]
  cases hs : Name.splitColon a.1 with
  | none => simp [QName.bare]
  | some p =>
      obtain ⟨label, rest⟩ := p
      have hne : a.1 ≠ name := by
        rintro rfl
        rw [hn] at hs
        cases hs
      rw [mapError_eq_ok_iff, Scope.resolve, hs]
      constructor
      · intro h
        dsimp only at h
        split at h
        · rename_i uri hl
          obtain ⟨rfl, rfl⟩ := of_eq_bare_iff.1 (Except.ok.inj h)
          exact .inr ⟨label, rfl, hl⟩
        · cases h
      · rintro (he | ⟨_, hp, hl⟩)
        · exact absurd he hne
        · obtain ⟨rfl, rfl⟩ := Prod.mk.inj (Option.some.inj hp)
          dsimp only
          rw [hl]
          exact congrArg Except.ok (of_eq_bare_iff.2 ⟨rfl, rfl⟩)

end Lookup

section Agreement

variable {bs : Bytes} {r : RootScan} {root : Element} {t : StartTag} {name : String}

/-- What is found first under a condition is found first under a stronger one that it satisfies. -/
theorem find?_of_find? {α : Type} {p q : α → Bool} {l : List α} {a : α}
    (hqp : ∀ x ∈ l, q x = true → p x = true) (h : l.find? p = some a) (ha : q a = true) :
    l.find? q = some a := by
  obtain ⟨_, front, back, rfl, hfront⟩ := List.find?_eq_some_iff_append.1 h
  refine List.find?_eq_some_iff_append.2 ⟨ha, front, back, rfl, ?_⟩
  intro x hx
  cases hq : q x with
  | false => rfl
  | true =>
      have hp := hqp x (List.mem_append_left _ hx) hq
      have hnp := hfront x hx
      rw [hp] at hnp
      cases hnp

/-- The tree has the value of the attribute that hides the one written with a name, or else the
value that the scan has. -/
theorem StartTag.Underlies.attribute?_eq (h : t.Underlies r root)
    (hn : Name.splitColon name = none) :
    root.attribute? name = ((t.hiding? name).map Prod.snd).or (r.attribute? name) := by
  have htree : root.attribute? name = (t.counting? (QName.bare name)).map Prod.snd := by
    rw [Element.attribute?_eq_get?, get?_expandAttributes h.expanded]
    exact Option.or_none
  have hscan : r.attribute? name =
      (t.attributes.reverse.find? fun a => a.1 = name).map Prod.snd := by
    rw [RootScan.attribute?, h.written, OrderedMap.ofList, OrderedMap.get?_insertAll]
    exact Option.or_none
  have hwritten : ∀ a ∈ t.attributes.reverse, decide (a.1 = name) = true →
      denotes t.own (QName.bare name) a = true := by
    intro a _ ha
    exact (denotes_bare_iff hn a).2 (.inl (of_decide_eq_true ha))
  rw [htree, hscan, hiding?]
  cases hc : t.counting? (QName.bare name) with
  | none =>
      have hnone : t.attributes.reverse.find? (fun a => a.1 = name) = none := by
        rw [List.find?_eq_none]
        intro a ha hw
        exact List.find?_eq_none.1 hc a ha (hwritten a ha hw)
      simp [hnone]
  | some a =>
      by_cases ha : a.1 = name
      · simp [find?_of_find? hwritten hc (decide_eq_true ha), Option.filter, ha]
      · simp [Option.filter, ha]

/-- What hides an attribute has a label that is bound to no namespace. -/
theorem StartTag.label_of_hiding {a : Attribute} (hn : Name.splitColon name = none)
    (ha : t.hiding? name = some a) :
    ∃ label, Name.splitColon a.1 = some (label, name) ∧ t.own.lookup label = some "" := by
  obtain ⟨hc, hne⟩ := Option.filter_eq_some_iff.1 ha
  rcases (denotes_bare_iff hn a).1 (List.find?_some hc) with he | hlabel
  · exact absurd he (of_decide_eq_true hne)
  · exact hlabel

/-- Where no label is bound to the empty namespace, both readers have the same values. -/
theorem attribute_agrees (hs : RootScan.scan bs = .ok r) (hd : readDocument bs = .ok root)
    (hn : Name.splitColon name = none)
    (hlabels : ∀ label, root.scope.labels.get? label ≠ some "") :
    root.attribute? name = r.attribute? name := by
  obtain ⟨t, _, ht⟩ := StartTag.of_readers hs hd
  rw [ht.attribute?_eq hn]
  cases ha : t.hiding? name with
  | none => rfl
  | some a =>
      obtain ⟨label, _, hl⟩ := StartTag.label_of_hiding hn ha
      rw [← ht.scope, Scope.lookup] at hl
      split at hl
      · exact absurd (Option.some.inj hl) (by decide)
      · exact absurd hl (hlabels label)

/-- Both readers agree on the name and the bindings of the root, and on the target namespace
exactly when no attribute with another value hides the one that declares it. -/
theorem root_tag_agrees (hs : RootScan.scan bs = .ok r) (hd : readDocument bs = .ok root) :
    r.name = root.name ∧ r.scope = root.scope ∧
      ∃ t : StartTag, t.Begins bs ∧ t.Underlies r root ∧
        (r.targetNamespace = (root.attribute? "targetNamespace").getD "" ↔
          ∀ a, t.hiding? "targetNamespace" = some a → a.2 = r.targetNamespace) ∧
        ∀ a, t.hiding? "targetNamespace" = some a →
          ∃ label, Name.splitColon a.1 = some (label, "targetNamespace") ∧
            root.scope.lookup label = some "" := by
  have hn : Name.splitColon "targetNamespace" = none := by decide
  obtain ⟨t, hbegins, ht⟩ := StartTag.of_readers hs hd
  refine ⟨ht.name, ht.scanned.trans ht.scope.symm, t, hbegins, ht, ?_, ?_⟩
  · rw [ht.attribute?_eq hn]
    cases ha : t.hiding? "targetNamespace" with
    | none => simp [RootScan.targetNamespace]
    | some a => simp [eq_comm]
  · intro a ha
    rw [ht.scope]
    exact StartTag.label_of_hiding hn ha

/-- An empty schema with two target namespaces: one written plainly, one with a label that is
bound to no namespace. -/
def labelled : Bytes :=
  Utf8.encode ("<schema xmlns='http://www.w3.org/2001/XMLSchema' xmlns:p='' " ++
    "targetNamespace='urn:a' p:targetNamespace='urn:b'/>")

/-- What the scan of that document finds. -/
def labelledScan : RootScan where
  name := .of (some Vocabulary.xsd) "schema"
  attributes := .ofList [("targetNamespace", "urn:a"), ("p:targetNamespace", "urn:b")]
  scope := ⟨.ofList [("p", "")], some Vocabulary.xsd⟩

theorem labelled_scanned : RootScan.scan labelled = .ok labelledScan := by
  rw [← toOption_eq_some_iff]
  decide +kernel

theorem labelled_read :
    ∃ root, readDocument labelled = .ok root ∧
      root.attribute? "targetNamespace" = some "urn:b" := by
  have h : (readDocument labelled).toOption.map (fun e => e.attribute? "targetNamespace") =
      some (some "urn:b") := by
    decide +kernel
  obtain ⟨root, hroot, hvalue⟩ := Option.map_eq_some_iff.1 h
  exact ⟨root, toOption_eq_some_iff.1 hroot, hvalue⟩

theorem labelled_agrees :
    ∃ root, RootScan.scan labelled = .ok labelledScan ∧ readDocument labelled = .ok root ∧
      labelledScan.name = root.name ∧ labelledScan.scope = root.scope ∧
        ∃ t : StartTag, t.Begins labelled ∧ t.Underlies labelledScan root ∧
          (labelledScan.targetNamespace = (root.attribute? "targetNamespace").getD "" ↔
            ∀ a, t.hiding? "targetNamespace" = some a →
              a.2 = labelledScan.targetNamespace) ∧
          ∀ a, t.hiding? "targetNamespace" = some a →
            ∃ label, Name.splitColon a.1 = some (label, "targetNamespace") ∧
              root.scope.lookup label = some "" := by
  obtain ⟨root, hread, _⟩ := labelled_read
  exact ⟨root, labelled_scanned, hread, root_tag_agrees labelled_scanned hread⟩

/-- A label that is bound to no namespace hides the target namespace from one of the readers. -/
theorem target_namespace_hidden :
    ∃ bs r root, RootScan.scan bs = .ok r ∧ readDocument bs = .ok root ∧
      r.targetNamespace ≠ (root.attribute? "targetNamespace").getD "" := by
  obtain ⟨root, hread, hvalue⟩ := labelled_read
  refine ⟨labelled, labelledScan, root, labelled_scanned, hread, ?_⟩
  rw [hvalue]
  decide

end Agreement
end Markup
end SchemaSet
