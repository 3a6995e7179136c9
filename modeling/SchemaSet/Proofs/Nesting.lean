import Mathlib.Data.List.Forall2
import SchemaSet.Proofs.RootTag

/-!
# Elements and the tags that begin them

Given the events of a document from which a tree is read, `nestings` lists the tags that begin an
element in order, each with the tags that are open around it, innermost first.  `Nested` says which
element such tags begin: each of them in the scope of the one around it.

While events are read, the open elements begin with the open tags, and what there is of the tree in
document order begins with the tags so far.  This invariant is `Grown`, and `stepAll_grown` is its
preservation.  An element that is closed keeps its place, although it is handed over to the one
around it only then.

At the end, the elements of a document in document order begin with its tags, at the depth at which
these are nested (`readDocument_outline`).
-/

namespace SchemaSet
namespace Markup

section Tags

/-- The tags that are open after one more event, innermost first. -/
def Event.nest (tags : List Tag) : Event → List Tag
  | .start t => t :: tags
  | .close => tags.tail
  | _ => tags

def openTags (tags : List Tag) (os : List Occurrence) : List Tag :=
  os.foldl (fun tags o => o.event.nest tags) tags

/-- The tags that begin an element, in order, each with the tags that are open around it; `tags`
are open at first. -/
def nestings (tags : List Tag) : List Occurrence → List (List Tag)
  | [] => []
  | o :: r =>
      match o.event.tag? with
      | some t => (t :: tags) :: nestings (o.event.nest tags) r
      | none => nestings (o.event.nest tags) r

/-- The first of some tags begins an element inside the elements that the others begin. -/
inductive Nested : List Tag → Element → Prop
  | top {t : Tag} {e : Element} :
      t.element none = .ok e → Nested [t] e
  | inside {t : Tag} {tags : List Tag} {outer e : Element} :
      Nested tags outer → t.element (some outer.scope) = .ok e → Nested (t :: tags) e

/-- Some tags begin the open elements, innermost first. -/
inductive Opened : List Tag → List Element → Prop
  | nil : Opened [] []
  | cons {t : Tag} {tags : List Tag} {e : Element} {stack : List Element} :
      Nested (t :: tags) e.head → Opened tags stack → Opened (t :: tags) (e :: stack)

end Tags

section Outlines

/-- An element and all inside it in document order, with their depth and without children. -/
def Element.outline (depth : Nat) (e : Element) : List (Nat × Element) :=
  (e.preorder depth).map fun p => (p.1, p.2.head)

def Element.outlineAll (depth : Nat) (l : List Element) : List (Nat × Element) :=
  (Element.preorderAll depth l).map fun p => (p.1, p.2.head)

/-- What there is of open elements, innermost first and with their children last first, in document
order. -/
def stackOutline : List Element → List (Nat × Element)
  | [] => []
  | e :: r => stackOutline r ++ (r.length, e.head) ::
      Element.outlineAll (r.length + 1) e.children.reverse

def Growth.outline (g : Growth) : List (Nat × Element) :=
  g.root.elim (stackOutline g.stack) (Element.outline 0)

theorem outline_eq (depth : Nat) (e : Element) :
    e.outline depth = (depth, e.head) :: Element.outlineAll (depth + 1) e.children := by
  obtain ⟨name, attributes, children, scope⟩ := e
  rfl

theorem outlineAll_snoc (depth : Nat) (l : List Element) (e : Element) :
    Element.outlineAll depth (l ++ [e]) = Element.outlineAll depth l ++ e.outline depth := by
  have happend : ∀ l : List Element,
      Element.preorderAll depth (l ++ [e]) = Element.preorderAll depth l ++ e.preorder depth := by
    intro l
    induction l with
    | nil => simp [Element.preorderAll]
    | cons f r ih => simp [Element.preorderAll, ih]
  rw [Element.outlineAll, happend, List.map_append]
  rfl

/-- A closed element that is handed over comes after all that was there before. -/
theorem outline_deliver {g : Growth} (hroot : g.root = none) (e : Element) :
    (g.deliver e).outline = stackOutline g.stack ++ e.outline g.stack.length := by
  obtain ⟨stack, root⟩ := g
  cases hroot
  cases stack with
  | nil => rfl
  | cons p r =>
      show stackOutline r ++ (r.length, p.head) ::
        Element.outlineAll (r.length + 1) (e :: p.children).reverse = _
      rw [List.reverse_cons, outlineAll_snoc]
      simp [stackOutline]

/-- Closing the innermost element leaves what there is of it in its place. -/
theorem stackOutline_cons (e : Element) (r : List Element) :
    stackOutline (e :: r) =
      stackOutline r ++ (e.withChildren e.children.reverse).outline r.length := by
  rw [outline_eq]
  rfl

end Outlines

section Growing

/-- Some tags with those around them begin an element at a depth. -/
def Places (tags : List Tag) (p : Nat × Element) : Prop :=
  tags.length = p.1 + 1 ∧ Nested tags p.2

/-- A tree that grew from events which leave some tags open and had other tags begin elements. -/
structure Grown (g : Growth) (tags : List Tag) (begun : List (List Tag)) : Prop where
  opened : Opened tags g.stack
  /-- Nothing is open once there is a root. -/
  single : g.stack ≠ [] → g.root = none
  placed : List.Forall₂ Places begun g.outline

variable {g g' : Growth} {tags : List Tag} {begun : List (List Tag)} {t : Tag} {e : Element}

theorem Opened.length_eq {stack : List Element} (h : Opened tags stack) :
    tags.length = stack.length := by
  induction h with
  | nil => rfl
  | cons _ _ ih => simp [ih]

theorem element_children {outer : Option Scope} (h : t.element outer = .ok e) :
    e.children = [] := by
  obtain ⟨start, _, h⟩ := bind_eq_ok_iff.1 h
  obtain ⟨name, _, h⟩ := bind_eq_ok_iff.1 h
  obtain ⟨attributes, _, h⟩ := bind_eq_ok_iff.1 h
  cases h
  rfl

theorem head_of_element {outer : Option Scope} (h : t.element outer = .ok e) : e.head = e := by
  obtain ⟨name, attributes, children, scope⟩ := e
  cases element_children h
  rfl

/-- A tag begins an element inside those that are open. -/
theorem Opened.nested (h : Opened tags g.stack) (he : t.element g.outer = .ok e) :
    Nested (t :: tags) e.head := by
  obtain ⟨stack, root⟩ := g
  rw [head_of_element he]
  cases h with
  | nil => exact .top he
  | cons hp _ => exact .inside hp he

theorem root_of_refuseSecond {position : Nat} {u : Unit} (h : g.refuseSecond position = .ok u)
    (hsingle : g.stack ≠ [] → g.root = none) :
    g.root = none := by
  obtain ⟨stack, root⟩ := g
  cases stack with
  | cons p r => exact hsingle (List.cons_ne_nil p r)
  | nil =>
      cases root with
      | none => rfl
      | some e => cases h

theorem outline_of_root (h : g.root = none) : g.outline = stackOutline g.stack := by
  rw [Growth.outline, h]
  rfl

theorem Grown.start (h : Grown g tags begun) (hroot : g.root = none)
    (he : t.element g.outer = .ok e) :
    Grown { g with stack := e :: g.stack } (t :: tags) (begun ++ [t :: tags]) where
  opened := .cons (h.opened.nested he) h.opened
  single := fun _ => hroot
  placed := by
    have hplaced := h.placed
    rw [outline_of_root hroot] at hplaced
    have houtline : Growth.outline { g with stack := e :: g.stack } = stackOutline (e :: g.stack) :=
      outline_of_root hroot
    rw [houtline, stackOutline, element_children he]
    exact List.rel_append hplaced
      (.cons ⟨by simp [h.opened.length_eq], h.opened.nested he⟩ .nil)

theorem Grown.empty (h : Grown g tags begun) (hroot : g.root = none)
    (he : t.element g.outer = .ok e) :
    Grown (g.deliver e) tags (begun ++ [t :: tags]) := by
  have hplaced : List.Forall₂ Places (begun ++ [t :: tags]) (g.deliver e).outline := by
    have hbefore := h.placed
    rw [outline_of_root hroot] at hbefore
    rw [outline_deliver hroot, outline_eq, element_children he]
    exact List.rel_append hbefore
      (.cons ⟨by simp [h.opened.length_eq], h.opened.nested he⟩ .nil)
  refine ⟨?_, ?_, hplaced⟩
  · have hopened := h.opened
    obtain ⟨stack, root⟩ := g
    cases hopened with
    | nil => exact .nil
    | cons hp hrest => exact .cons hp hrest
  · obtain ⟨stack, root⟩ := g
    cases stack with
    | nil => exact fun hne => absurd rfl hne
    | cons p r => exact fun _ => hroot

theorem Grown.close {r : List Element} (h : Grown g tags begun) (hstack : g.stack = e :: r) :
    Grown (Growth.deliver { g with stack := r } (e.withChildren e.children.reverse)) tags.tail
      begun := by
  have hroot : g.root = none := h.single (by rw [hstack]; exact List.cons_ne_nil e r)
  have hopened := h.opened
  have hplaced := h.placed
  rw [outline_of_root hroot, hstack, stackOutline_cons] at hplaced
  rw [hstack] at hopened
  obtain ⟨stack, root⟩ := g
  cases hroot
  cases hopened with
  | cons _ hrest =>
      refine ⟨?_, ?_, ?_⟩
      · cases hrest with
        | nil => exact .nil
        | cons hp hrest => exact .cons hp hrest
      · cases r with
        | nil => exact fun hne => absurd rfl hne
        | cons p r => exact fun _ => rfl
      · rw [outline_deliver rfl]
        exact hplaced

theorem Grown.idle (h : Grown g tags begun) : Grown g tags (begun ++ []) := by
  rwa [List.append_nil]

/-- An event preserves the invariant. -/
theorem step_grown {o : Occurrence} (h : Grown g tags begun) (hstep : g.step o = .ok g') :
    Grown g' (o.event.nest tags) (begun ++ (o.event.tag?.map (· :: tags)).toList) := by
  obtain ⟨event, position⟩ := o
  cases event with
  | start t =>
      obtain ⟨_, haccepts, hstep⟩ := bind_eq_ok_iff.1 hstep
      obtain ⟨e, he, hstep⟩ := bind_eq_ok_iff.1 hstep
      cases hstep
      exact h.start (root_of_refuseSecond haccepts h.single) he
  | empty t =>
      obtain ⟨_, haccepts, hstep⟩ := bind_eq_ok_iff.1 hstep
      obtain ⟨e, he, hstep⟩ := bind_eq_ok_iff.1 hstep
      cases hstep
      exact h.empty (root_of_refuseSecond haccepts h.single) he
  | close =>
      cases hs : g.stack with
      | nil =>
          -- an end tag without a start tag closes nothing, and no tag is open either
          simp only [Growth.step, hs] at hstep
          cases hstep
          have hopened := h.opened
          rw [hs] at hopened
          cases hopened
          exact h.idle
      | cons e r =>
          simp only [Growth.step, hs] at hstep
          cases hstep
          exact (h.close hs).idle
  | text raw =>
      obtain ⟨s, _, hstep⟩ := bind_eq_ok_iff.1 hstep
      split at hstep
      · cases hstep
      · cases hstep
        exact h.idle
  | _ =>
      cases hstep
      exact h.idle

theorem stepAll_grown {os : List Occurrence} (h : Grown g tags begun)
    (hsteps : g.stepAll os = .ok g') :
    Grown g' (openTags tags os) (begun ++ nestings tags os) := by
  induction os generalizing g tags begun with
  | nil =>
      cases hsteps
      simpa [nestings, openTags] using h
  | cons o r ih =>
      obtain ⟨u, hu, hrest⟩ := bind_eq_ok_iff.1 hsteps
      have hnext := ih (step_grown h hu) hrest
      rw [List.append_assoc] at hnext
      cases ht : o.event.tag? with
      | none => simpa [nestings, openTags, ht] using hnext
      | some t => simpa [nestings, openTags, ht] using hnext

end Growing

/-- The elements of a document in document order begin with its tags, each at the depth at
which its tag is nested. -/
theorem readDocument_outline {bs : Bytes} {root : Element} (h : readDocument bs = .ok root) :
    List.Forall₂ Places (nestings [] (events .whole bs).notes) (root.outline 0) := by
  obtain ⟨g, hg, hfinish⟩ := bind_eq_ok_iff.1 h
  have hgrown : Grown g _ _ := stepAll_grown (g := .empty) ⟨.nil, fun _ => rfl, .nil⟩ hg
  have hplaced := hgrown.placed
  obtain ⟨stack, groot⟩ := g
  split at hfinish
  · cases stack with
    | cons e r => cases hfinish
    | nil =>
        cases groot with
        | none => cases hfinish
        | some e =>
            cases hfinish
            exact hplaced
  · cases hfinish

theorem exists_of_mem_right {α β : Type} {R : α → β → Prop} {l : List α} {m : List β}
    (h : List.Forall₂ R l m) {b : β} (hb : b ∈ m) :
    ∃ a ∈ l, R a b := by
  induction h with
  | nil => exact absurd hb List.not_mem_nil
  | cons hr _ ih =>
      rcases List.mem_cons.1 hb with rfl | hb
      · exact ⟨_, List.mem_cons_self, hr⟩
      · obtain ⟨a, ha, hab⟩ := ih hb
        exact ⟨a, List.mem_cons_of_mem _ ha, hab⟩

section Labels

/-- An attribute of a tag declares a label. -/
def Tag.DeclaresLabel (t : Tag) (label : String) : Prop :=
  ∃ a ∈ t.attributes.notes, Utf8.decode a.key = .ok ("xmlns:" ++ label)

theorem splitColon_xmlns (label : String) :
    Name.splitColon ("xmlns:" ++ label) = some ("xmlns", label) := by
  have hlist : ("xmlns:" ++ label).toList =
      'x' :: 'm' :: 'l' :: 'n' :: 's' :: ':' :: label.toList := by
    simp
  simp [Name.splitColon, hlist, Text.cut]

theorem ofAttribute_xmlns (label value : String) :
    Declaration.ofAttribute ("xmlns:" ++ label) value = .label label value := by
  have hne : "xmlns:" ++ label ≠ "xmlns" := by
    intro heq
    have hlength : ("xmlns:" ++ label).length = "xmlns".length := congrArg String.length heq
    rw [String.length_append] at hlength
    have hlong : "xmlns:".length = "xmlns".length + 1 := rfl
    omega
  simp [Declaration.ofAttribute, hne, splitColon_xmlns]

end Labels

end Markup
end SchemaSet
