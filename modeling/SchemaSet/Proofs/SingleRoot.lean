import Mathlib.Data.List.DropRight
import SchemaSet.Proofs.RootTag
import SchemaSet.Proofs.Spacing

/-!
# One root and what stands around it

`OneElement` says that events are one element: an empty tag, or a start tag and its end tag around
`Content`.  `Amid P` says that they are one element amid events that satisfy `P`.  Outside of the
root the reader passes over comments, instructions, declarations and CDATA sections, and over
character data that stands for white space: `Spacing`, which may be any white space of Unicode and
may be written with numeric references.

The invariant is `Progress`: the events so far are none of an element, or an element of which as
many parts are open as elements are on the stack, or one whole element.  An end tag always closes an
open element, because the reading of events has refused it otherwise.  `progress_events` is the
preservation over a whole document.

So a document is one element amid events that are passed over (`readDocument_amid`), and
`silent_iff` says which of these events are character data all the same.
`readDocument_surrounded` says what stands around the root, and when it is no character data.
-/

namespace SchemaSet
namespace Markup

section Elements

/-- Whether an event begins or ends an element. -/
def Event.isBoundary : Event → Bool
  | .start _ => true
  | .empty _ => true
  | .close => true
  | _ => false

/-- The events inside an element: whole elements, and events that begin and end none. -/
inductive Content : List Event → Prop
  | nil : Content []
  | aside {e : Event} {r : List Event} : e.isBoundary = false → Content r → Content (e :: r)
  | empty {t : Tag} {r : List Event} : Content r → Content (.empty t :: r)
  | element {t : Tag} {inner r : List Event} :
      Content inner → Content r → Content (.start t :: inner ++ .close :: r)

/-- The events of one element. -/
inductive OneElement : List Event → Prop
  | empty {t : Tag} : OneElement [.empty t]
  | tags {t : Tag} {inner : List Event} :
      Content inner → OneElement (.start t :: inner ++ [.close])

/-- The events of one element up to a place where it and elements inside it are open, as many as
`n` with it. -/
inductive Unclosed : Nat → List Event → Prop
  | outermost {t : Tag} {inner : List Event} : Content inner → Unclosed 1 (.start t :: inner)
  | inside {n : Nat} {es inner : List Event} {t : Tag} :
      Unclosed n es → Content inner → Unclosed (n + 1) (es ++ .start t :: inner)

variable {n : Nat} {es inner front element back : List Event} {t : Tag} {P : Event → Prop}

theorem Content.append {r : List Event} (h : Content es) (hr : Content r) : Content (es ++ r) := by
  induction h with
  | nil => exact hr
  | aside he _ ih => exact .aside he ih
  | empty _ ih => exact .empty ih
  | element hinner _ _ ih => simpa using Content.element hinner ih

theorem Unclosed.append (h : Unclosed n es) (hinner : Content inner) :
    Unclosed n (es ++ inner) := by
  cases h with
  | outermost h => exact .outermost (h.append hinner)
  | inside hes h =>
      rw [List.append_assoc, List.cons_append]
      exact .inside hes (h.append hinner)

theorem Unclosed.start (h : Unclosed n es) (t : Tag) : Unclosed (n + 1) (es ++ [.start t]) :=
  .inside h .nil

/-- The end tag of the outermost element ends the events of it. -/
theorem Unclosed.last (h : Unclosed 1 es) : OneElement (es ++ [.close]) := by
  cases h with
  | outermost h => exact .tags h
  | inside h _ => cases h

/-- Any other end tag makes an element content of the one around it. -/
theorem Unclosed.close (h : Unclosed (n + 2) es) : Unclosed (n + 1) (es ++ [.close]) := by
  cases h with
  | inside hes hinner =>
      rw [List.append_assoc]
      exact hes.append (.element hinner .nil)

/-- Some events are one element amid events that satisfy a condition. -/
def Amid (P : Event → Prop) (es : List Event) : Prop :=
  ∃ front element back, es = front ++ element ++ back ∧ OneElement element ∧
    ∀ e ∈ front ++ back, P e

/-- The events before the first and after the last that begins or ends an element. -/
def surroundings (es : List Event) : List Event :=
  es.takeWhile (fun e => !e.isBoundary) ++ es.rtakeWhile (fun e => !e.isBoundary)

/-- An element begins and ends with an event that does so. -/
theorem OneElement.boundaries (h : OneElement es) :
    (∃ e r, es = e :: r ∧ e.isBoundary = true) ∧ ∃ r e, es = r ++ [e] ∧ e.isBoundary = true := by
  cases h with
  | @empty t => exact ⟨⟨.empty t, [], rfl, rfl⟩, [], .empty t, rfl, rfl⟩
  | @tags t inner _ => exact ⟨⟨.start t, _, rfl, rfl⟩, .start t :: inner, .close, rfl, rfl⟩

/-- What stands around an element does not depend on how the events are divided. -/
theorem surroundings_eq (he : OneElement element)
    (h : ∀ e ∈ front ++ back, e.isBoundary = false) :
    surroundings (front ++ element ++ back) = front ++ back := by
  obtain ⟨⟨first, rest, hfirst, hbegins⟩, others, last, hlast, hends⟩ := he.boundaries
  have hfront : ∀ e ∈ front, (!e.isBoundary) = true := by
    intro e hmem
    rw [h e (List.mem_append_left _ hmem)]
    rfl
  have hback : ∀ e ∈ back, (!e.isBoundary) = true := by
    intro e hmem
    rw [h e (List.mem_append_right _ hmem)]
    rfl
  have hbefore : (front ++ element ++ back).takeWhile (fun e => !e.isBoundary) = front := by
    rw [List.append_assoc, List.takeWhile_append_of_pos hfront, hfirst, List.cons_append,
      List.takeWhile_cons_of_neg (by simp [hbegins]), List.append_nil]
  have hafter : (front ++ element ++ back).rtakeWhile (fun e => !e.isBoundary) = back := by
    have hreverse : ∀ e ∈ back.reverse, (!e.isBoundary) = true :=
      fun e hmem => hback e (List.mem_reverse.1 hmem)
    have hshape : (front ++ element ++ back).reverse =
        back.reverse ++ last :: (front ++ others).reverse := by simp [hlast]
    rw [List.rtakeWhile, hshape, List.takeWhile_append_of_pos hreverse,
      List.takeWhile_cons_of_neg (by simp [hends]), List.append_nil, List.reverse_reverse]
  rw [surroundings, hbefore, hafter]

/-- One element stands amid events of a kind exactly if those around it are of that kind. -/
theorem amid_iff (he : OneElement element) (h : ∀ e ∈ front ++ back, e.isBoundary = false)
    (hP : ∀ e, P e → e.isBoundary = false) :
    Amid P (front ++ element ++ back) ↔ ∀ e ∈ front ++ back, P e := by
  constructor
  · rintro ⟨front', element', back', heq, he', hP'⟩
    have hsame := surroundings_eq he' fun e hmem => hP e (hP' e hmem)
    rw [← heq, surroundings_eq he h] at hsame
    rw [hsame]
    exact hP'
  · exact fun hall => ⟨front, element, back, rfl, he, hall⟩

end Elements

section Reading

/-- The names of the open elements, innermost first, before and after an event. -/
inductive Event.Leaves : Event → List Bytes → List Bytes → Prop
  | start {t : Tag} {names : List Bytes} : Leaves (.start t) names (t.name :: names)
  | empty {t : Tag} {names : List Bytes} : Leaves (.empty t) names names
  | close {name : Bytes} {names : List Bytes} : Leaves .close (name :: names) names
  | aside {e : Event} {names : List Bytes} : e.isBoundary = false → Leaves e names names

variable {c d : Cursor} {o : Occurrence}

theorem leaves_of_nextSection (h : nextSection c = .read o d) :
    o.event.Leaves c.openNames d.openNames := by
  unfold nextSection at h
  split at h
  · split at h
    · cases h
    · rename_i kind _
      split at h
      · cases h
      · dsimp only at h
        split at h
        · cases h
        · cases h
          cases kind <;> exact .aside rfl
  · cases h

theorem leaves_of_nextClose (h : nextClose c = .read o d) :
    o.event.Leaves c.openNames d.openNames := by
  unfold nextClose at h
  dsimp only at h
  split at h
  · cases h
  · rename_i expected outer hnames
    split at h
    · cases h
      rw [hnames]
      exact .close
    · cases h

theorem leaves_of_nextTag (h : nextTag c = .read o d) :
    o.event.Leaves c.openNames d.openNames := by
  unfold nextTag at h
  dsimp only at h
  split at h
  · cases h
    exact .empty
  · cases h
    exact .start

theorem leaves_of_nextMarkup (h : nextMarkup c = .read o d) :
    o.event.Leaves c.openNames d.openNames := by
  unfold nextMarkup at h
  split at h
  · cases h
  split at h
  · exact leaves_of_nextSection h
  split at h
  · unfold nextInstruction at h
    dsimp only at h
    split at h
    · cases h
      exact .aside rfl
    · cases h
  split at h
  · exact leaves_of_nextClose h
  · exact leaves_of_nextTag h

/-- An event opens or closes an element as its kind says; an end tag closes one that is open. -/
theorem leaves_of_next (h : next c = .read o d) : o.event.Leaves c.openNames d.openNames := by
  unfold next at h
  split at h
  · exact leaves_of_nextMarkup h
  dsimp only at h
  split at h
  · cases h
  · rename_i b r _
    split at h
    · have hskip : c.openNames =
          { c.skipBlank with rest := r, offset := c.skipBlank.offset + 1 }.openNames :=
        rfl
      rw [hskip]
      exact leaves_of_nextMarkup h
    · cases h
      exact .aside rfl

end Reading

section Growing

/-- Events that the reader passes over outside of the root. -/
inductive Event.Passes : Event → Prop
  | cdata : Passes .cdata
  | comment : Passes .comment
  | instruction : Passes .instruction
  | doctype : Passes .doctype
  | text {raw : Bytes} {t : String} :
      Utf8.decode raw = .ok t → Spacing t.toList → Passes (.text raw)

/-- A tree has grown from some events: there was no element yet, or it is inside of one, or that is
closed. -/
inductive Progress : Growth → List Event → Prop
  | before {es : List Event} : (∀ e ∈ es, e.Passes) → Progress .empty es
  | within {g : Growth} {front es : List Event} :
      g.root = none → (∀ e ∈ front, e.Passes) → Unclosed g.stack.length es →
      Progress g (front ++ es)
  | after {root : Element} {front element back : List Event} :
      OneElement element → (∀ e ∈ front ++ back, e.Passes) →
      Progress ⟨[], some root⟩ (front ++ element ++ back)

variable {g g' : Growth} {es : List Event} {o : Occurrence} {t : Tag} {e : Element}

theorem Event.Passes.isBoundary {e : Event} (h : e.Passes) : e.isBoundary = false := by
  cases h <;> rfl

/-- What begins and ends no element leaves the tree as it is, and outside of the root it is passed
over. -/
theorem passes_of_step (h : g.step o = .ok g') (he : o.event.isBoundary = false) :
    g' = g ∧ (g.stack = [] → o.event.Passes) := by
  obtain ⟨event, position⟩ := o
  cases event with
  | start t => cases he
  | empty t => cases he
  | close => cases he
  | text raw =>
      obtain ⟨s, hs, h⟩ := bind_eq_ok_iff.1 h
      split at h
      · cases h
      · rename_i hplace
        cases h
        refine ⟨rfl, fun hstack => ?_⟩
        have hblank : Text.isAllBlank s = true := by simpa [hstack] using hplace
        obtain ⟨u, hu, hspacing⟩ := spacing_of_readValue (mapError_eq_ok_iff.1 hs) hblank
        exact .text hu hspacing
  | cdata => cases h; exact ⟨rfl, fun _ => .cdata⟩
  | comment => cases h; exact ⟨rfl, fun _ => .comment⟩
  | instruction => cases h; exact ⟨rfl, fun _ => .instruction⟩
  | doctype => cases h; exact ⟨rfl, fun _ => .doctype⟩

theorem Progress.aside {e : Event} (h : Progress g es) (he : e.isBoundary = false)
    (hpass : g.stack = [] → e.Passes) : Progress g (es ++ [e]) := by
  cases h with
  | before hes =>
      exact .before (List.forall_mem_append.2 ⟨hes, List.forall_mem_singleton.2 (hpass rfl)⟩)
  | within hroot hfront hes =>
      rw [List.append_assoc]
      exact .within hroot hfront (hes.append (.aside he .nil))
  | @after _ front element back helement hall =>
      rw [List.append_assoc _ back]
      refine .after helement ?_
      rw [← List.append_assoc]
      exact List.forall_mem_append.2 ⟨hall, List.forall_mem_singleton.2 (hpass rfl)⟩

theorem Progress.start {position : Nat} {u : Unit} (h : Progress g es)
    (haccepts : g.refuseSecond position = .ok u) :
    Progress { g with stack := e :: g.stack } (es ++ [.start t]) := by
  cases h with
  | before hes => exact .within rfl hes (.outermost .nil)
  | within hroot hfront hes =>
      rw [List.append_assoc]
      exact .within hroot hfront (hes.start t)
  | after _ _ => cases haccepts

theorem Progress.empty {position : Nat} {u : Unit} (h : Progress g es)
    (haccepts : g.refuseSecond position = .ok u) :
    Progress (g.deliver e) (es ++ [.empty t]) := by
  cases h with
  | before hes =>
      have hafter : Progress (.deliver .empty e) (es ++ [.empty t] ++ []) :=
        .after .empty (by simpa using hes)
      rwa [List.append_nil] at hafter
  | within hroot hfront hes =>
      rw [List.append_assoc]
      obtain ⟨stack, root⟩ := g
      cases stack with
      | nil => cases hes
      | cons p r => exact .within hroot hfront (hes.append (.empty .nil))
  | after _ _ => cases haccepts

theorem Progress.close {r : List Element} (h : Progress g es) (hstack : g.stack = e :: r) :
    Progress (Growth.deliver { g with stack := r } (e.withChildren e.children.reverse))
      (es ++ [.close]) := by
  cases h with
  | before _ => cases hstack
  | @within _ front es hroot hfront hes =>
      rw [hstack] at hes
      obtain ⟨stack, root⟩ := g
      cases hroot
      cases r with
      | nil =>
          have hafter : ∀ root, Progress ⟨[], some root⟩ (front ++ (es ++ [.close]) ++ []) :=
            fun root => .after hes.last (by simpa using hfront)
          rw [List.append_assoc, ← List.append_nil (front ++ _)]
          exact hafter _
      | cons p r =>
          rw [List.append_assoc]
          exact .within rfl hfront hes.close
  | after _ _ => cases hstack

/-- An event preserves the invariant, and the elements on the stack are the open ones. -/
theorem progress_step {names names' : List Bytes} (h : Progress g es)
    (hnames : names.length = g.stack.length) (hleaves : o.event.Leaves names names')
    (hstep : g.step o = .ok g') :
    Progress g' (es ++ [o.event]) ∧ names'.length = g'.stack.length := by
  obtain ⟨event, position⟩ := o
  cases hleaves with
  | start =>
      obtain ⟨_, haccepts, hstep⟩ := bind_eq_ok_iff.1 hstep
      obtain ⟨e, _, hstep⟩ := bind_eq_ok_iff.1 hstep
      cases hstep
      exact ⟨h.start haccepts, by simp [hnames]⟩
  | empty =>
      obtain ⟨_, haccepts, hstep⟩ := bind_eq_ok_iff.1 hstep
      obtain ⟨e, _, hstep⟩ := bind_eq_ok_iff.1 hstep
      cases hstep
      refine ⟨h.empty haccepts, hnames.trans ?_⟩
      obtain ⟨stack, root⟩ := g
      cases stack <;> rfl
  | close =>
      cases hs : g.stack with
      | nil =>
          rw [hs] at hnames
          cases hnames
      | cons e r =>
          simp only [Growth.step, hs] at hstep
          cases hstep
          refine ⟨h.close hs, ?_⟩
          rw [hs] at hnames
          have hlength : names'.length = r.length := Nat.succ.inj hnames
          cases r <;> exact hlength
  | aside he =>
      obtain ⟨rfl, hpass⟩ := passes_of_step hstep he
      exact ⟨h.aside he hpass, hnames⟩

/-- Reading the events of a document preserves the invariant. -/
theorem progress_events {n : Nat} {c : Cursor} (h : Progress g es)
    (hnames : c.openNames.length = g.stack.length)
    (hsteps : g.stepAll (eventsFrom n c).notes = .ok g') :
    Progress g' (es ++ (eventsFrom n c).notes.map Occurrence.event) := by
  induction n generalizing c g es with
  | zero =>
      cases hsteps
      simpa [eventsFrom, Journal.done] using h
  | succ n ih =>
      cases hnext : next c with
      | finished =>
          rw [eventsFrom, hnext] at hsteps ⊢
          cases hsteps
          simpa [Journal.done] using h
      | broken b =>
          rw [eventsFrom, hnext] at hsteps ⊢
          cases hsteps
          simpa [Journal.fail] using h
      | read o d =>
          have hnotes : (eventsFrom (n + 1) c).notes = o :: (eventsFrom n d).notes := by
            rw [eventsFrom, hnext]
            rfl
          rw [hnotes] at hsteps ⊢
          obtain ⟨u, hu, hrest⟩ := bind_eq_ok_iff.1 hsteps
          obtain ⟨hprogress, hlength⟩ := progress_step h hnames (leaves_of_next hnext) hu
          have hafter := ih hprogress hlength hrest
          rwa [List.append_assoc] at hafter

/-- A document is one element amid events that are passed over. -/
theorem readDocument_amid {bs : Bytes} {root : Element} (h : readDocument bs = .ok root) :
    Amid Event.Passes ((events .whole bs).notes.map Occurrence.event) := by
  obtain ⟨g, hg, hfinish⟩ := bind_eq_ok_iff.1 h
  have hprogress : Progress g ([] ++ (events .whole bs).notes.map Occurrence.event) :=
    progress_events (.before (by simp)) rfl hg
  rw [List.nil_append] at hprogress
  split at hfinish
  · generalize (events .whole bs).notes.map Occurrence.event = es at hprogress ⊢
    cases hprogress with
    | before _ => cases hfinish
    | within hroot _ hes =>
        obtain ⟨stack, groot⟩ := g
        cases stack with
        | nil => cases hes
        | cons e r => cases hfinish
    | after helement hall => exact ⟨_, _, _, rfl, helement, hall⟩
  · cases hfinish

end Growing

section Silence

/-- Events that are no character data, but for the white space of the markup. -/
inductive Event.Silent : Event → Prop
  | comment : Silent .comment
  | instruction : Silent .instruction
  | doctype : Silent .doctype
  | text {raw : Bytes} : raw.all Text.isMarkupBlank = true → Silent (.text raw)

/-- Character data that is more than the white space of the markup and may be passed over all the
same. -/
inductive Event.Intrudes : Event → Prop
  | cdata : Intrudes .cdata
  /-- There is a reference. -/
  | reference {raw : Bytes} {t : String} :
      Utf8.decode raw = .ok t → '&' ∈ t.toList → Intrudes (.text raw)
  /-- There is white space that is not that of the markup. -/
  | blank {raw : Bytes} {t : String} {c : Char} :
      Utf8.decode raw = .ok t → c ∈ t.toList → Text.isBlank c = true → c.isWhitespace = false →
      Intrudes (.text raw)

variable {raw : Bytes} {e : Event}

/-- Of the events that are passed over, those that intrude are the ones that are not silent. -/
theorem silent_iff (h : e.Passes) : e.Silent ↔ ¬ e.Intrudes := by
  cases h with
  | cdata => exact ⟨nofun, fun hno => absurd .cdata hno⟩
  | comment => exact ⟨fun _ => nofun, fun _ => .comment⟩
  | instruction => exact ⟨fun _ => nofun, fun _ => .instruction⟩
  | doctype => exact ⟨fun _ => nofun, fun _ => .doctype⟩
  | @text raw t ht hspacing =>
      constructor
      · intro hsilent hintrudes
        cases hsilent with
        | text hblank => ?_
        have hspaces := isWhitespace_of_isMarkupBlank hblank ht
        cases hintrudes with
        | reference ht' hmem =>
            cases Except.ok.inj (ht.symm.trans ht')
            exact absurd (hspaces _ hmem) (by decide)
        | blank ht' hmem _ hno =>
            cases Except.ok.inj (ht.symm.trans ht')
            rw [hspaces _ hmem] at hno
            cases hno
      · intro hno
        have hplain : '&' ∉ t.toList := fun hmem => hno (.reference ht hmem)
        refine .text (isMarkupBlank_of_isWhitespace ht fun c hc => ?_)
        by_contra hspace
        exact hno (.blank ht hc (hspacing.isBlank hplain c hc) (by simpa using hspace))

theorem Event.Silent.isBoundary (h : e.Silent) : e.isBoundary = false := by
  cases h <;> rfl

/-- The quick scan refuses character data before the root unless it is ASCII white space. -/
theorem isAsciiBlank_of_scan {ending : Except Break Unit} {os : List Occurrence} {s : RootScan}
    {front back : List Event} (h : RootScan.ofEvents ending os = .ok s)
    (hos : os.map Occurrence.event = front ++ back)
    (hfront : ∀ e ∈ front, e.isBoundary = false) (hraw : .text raw ∈ front) :
    raw.all Text.isAsciiBlank = true := by
  induction os generalizing front with
  | nil =>
      have hnil := (List.append_eq_nil_iff.1 hos.symm).1
      rw [hnil] at hraw
      cases hraw
  | cons o os ih =>
      cases front with
      | nil => cases hraw
      | cons e front =>
          obtain ⟨event, position⟩ := o
          rw [List.map_cons, List.cons_append] at hos
          obtain ⟨rfl, htail⟩ := List.cons.inj hos
          have hrest : ∀ e ∈ front, e.isBoundary = false :=
            fun e he => hfront e (List.mem_cons_of_mem _ he)
          have hhere := hfront event List.mem_cons_self
          cases event with
          | start t => cases hhere
          | empty t => cases hhere
          | close => cases hhere
          | text raw' =>
              simp only [RootScan.ofEvents] at h
              split at h
              · rename_i hblank
                rcases List.mem_cons.1 hraw with heq | hraw
                · cases heq
                  exact hblank
                · exact ih h htail hrest hraw
              · cases h
          | _ =>
              rcases List.mem_cons.1 hraw with heq | hraw
              · cases heq
              · exact ih h htail hrest hraw

end Silence

section Documents

variable {bs : Bytes} {root : Element}

/-- The events of a document are those of one element, with others before and after it. -/
structure Surrounded (bs : Bytes) (front element back : List Event) : Prop where
  /-- Nothing stops the reading before the end of the document. -/
  complete : (events .whole bs).outcome = .ok ()
  divided : (events .whole bs).notes.map Occurrence.event = front ++ element ++ back
  element : OneElement element
  /-- Around it stands nothing but what is passed over. -/
  passes : ∀ e ∈ front ++ back, e.Passes

theorem complete_of_readDocument (h : readDocument bs = .ok root) :
    (events .whole bs).outcome = .ok () := by
  obtain ⟨g, _, hfinish⟩ := bind_eq_ok_iff.1 h
  split at hfinish
  · rename_i hcomplete
    exact hcomplete
  · cases hfinish

/-- A document has one root, and around it no character data unless it intrudes: CDATA sections,
references to white space, and white space that is not that of the markup.  The thorough scan lets
none of these stand before the root but CDATA sections and form feeds. -/
theorem readDocument_surrounded (h : readDocument bs = .ok root) :
    ∃ front element back, Surrounded bs front element back ∧
      (Amid Event.Silent ((events .whole bs).notes.map Occurrence.event) ↔
        ∀ e ∈ front ++ back, ¬ e.Intrudes) ∧
      ∀ s, RootScan.scanWellFormed bs = .ok s →
        ∀ raw, .text raw ∈ front → raw.all Text.isAsciiBlank = true := by
  obtain ⟨front, element, back, hdivided, helement, hpasses⟩ := readDocument_amid h
  have haside : ∀ e ∈ front ++ back, e.isBoundary = false := fun e he => (hpasses e he).isBoundary
  refine ⟨front, element, back, ⟨complete_of_readDocument h, hdivided, helement, hpasses⟩, ?_, ?_⟩
  · rw [hdivided, amid_iff helement haside fun _ => Event.Silent.isBoundary]
    exact forall₂_congr fun e he => silent_iff (hpasses e he)
  · intro s hs raw hraw
    rw [List.append_assoc] at hdivided
    exact isAsciiBlank_of_scan (RootScan.scan_of_scanWellFormed hs) hdivided
      (fun e he => haside e (List.mem_append_left _ he)) hraw

/-- A document with a form feed before its root, and a CDATA section and a reference after it. -/
def strewn : Bytes :=
  Utf8.encode "<!--a--> \u000C <r><s/>t</r> <![CDATA[x]]> <?p q?> &#8195;"

theorem strewn_surrounded :
    ∃ root s, readDocument strewn = .ok root ∧ RootScan.scanWellFormed strewn = .ok s ∧
      ∃ front element back, Surrounded strewn front element back ∧
        (Amid Event.Silent ((events .whole strewn).notes.map Occurrence.event) ↔
          ∀ e ∈ front ++ back, ¬ e.Intrudes) ∧
        ∀ s, RootScan.scanWellFormed strewn = .ok s →
          ∀ raw, .text raw ∈ front → raw.all Text.isAsciiBlank = true := by
  have hread : (readDocument strewn).toOption.isSome = true := by decide +kernel
  have hscan : (RootScan.scanWellFormed strewn).toOption.isSome = true := by decide +kernel
  obtain ⟨root, hroot⟩ := Option.isSome_iff_exists.1 hread
  obtain ⟨s, hs⟩ := Option.isSome_iff_exists.1 hscan
  have hroot := toOption_eq_some_iff.1 hroot
  exact ⟨root, s, hroot, toOption_eq_some_iff.1 hs, readDocument_surrounded hroot⟩

/-- A document with a CDATA section after its root. -/
def trailed : Bytes := Utf8.encode "<r/><![CDATA[x]]>"

/-- Visible character data may stand outside of the root, in a CDATA section. -/
theorem section_outside_root :
    (∃ root, readDocument trailed = .ok root) ∧
      (∃ s, RootScan.scanWellFormed trailed = .ok s) ∧
      ¬ Amid Event.Silent ((events .whole trailed).notes.map Occurrence.event) := by
  have hread : (readDocument trailed).toOption.isSome = true := by decide +kernel
  have hscan : (RootScan.scanWellFormed trailed).toOption.isSome = true := by decide +kernel
  have hevents : (events .whole trailed).notes.map Occurrence.event =
      [] ++ [.empty ⟨Utf8.encode "r", []⟩] ++ [.cdata] := by
    decide +kernel
  obtain ⟨root, hroot⟩ := Option.isSome_iff_exists.1 hread
  obtain ⟨s, hs⟩ := Option.isSome_iff_exists.1 hscan
  refine ⟨⟨root, toOption_eq_some_iff.1 hroot⟩, ⟨s, toOption_eq_some_iff.1 hs⟩, ?_⟩
  rw [hevents, amid_iff .empty (by simp [Event.isBoundary]) fun _ => Event.Silent.isBoundary]
  exact fun hall => nomatch hall .cdata (by simp)

end Documents

end Markup
end SchemaSet
