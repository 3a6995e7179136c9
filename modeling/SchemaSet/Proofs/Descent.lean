import Mathlib.Data.List.Basic
import Mathlib.Data.List.Nodup
import SchemaSet.Proofs.DepthFirst

/-!
# Depth-first traversals with their nesting

`Descent` is a depth-first traversal whose derivation is nested like the visits themselves: what is
on the agenda of a node is done in a derivation of its own.  So a derivation tells how deep every
node was met, and from which other node.  It also minds a condition `Enters m d n` on entering the
node `n` while the agenda of `m`, which lies `d` levels deep, is being worked off.

Main facts:
* `Descent.depthFirst`: a descent is a depth-first traversal;
* `Descent.map`: renaming the nodes and the events of a descent gives a descent;
* `exists_descent`: a finite set of nodes that leads nowhere else can be descended;
* `Descent.entered_from`: every node is entered from one that was entered before;
* `DepthFirst.events_perm`: what is reported is what is on the agendas of the nodes entered, as
  often as it is there;
* `DepthFirst.view`, `DepthFirst.filterMap_eq`: a traversal as far as a view of its events shows it.
-/

namespace SchemaSet

section Tasks

variable {ν ν' ω ω' : Type}

/-- A task with its node or its event under another name. -/
def Task.map (f : ν → ν') (g : ω → ω') : Task ν ω → Task ν' ω'
  | .enter node => .enter (f node)
  | .report event => .report (g event)

/-- The event that a task reports. -/
def Task.event? : Task ν ω → Option ω
  | .report event => some event
  | .enter _ => none

/-- A task as far as a view of its event shows it. -/
def Task.view? (f : ω → Option ω') : Task ν ω → Option (Task ν ω')
  | .enter node => some (.enter node)
  | .report event => (f event).map .report

end Tasks

variable {ν ω : Type}

/-- While the agenda of a node at some depth is worked off, with some nodes entered and some
tasks to do, a traversal reports the events and ends with the nodes entered, oldest first. -/
inductive Descent (agenda : ν → List (Task ν ω)) (Enters : ν → Nat → ν → Prop) :
    ν → Nat → List ν → List (Task ν ω) → List ω → List ν → Prop
  | done (parent : ν) (depth : Nat) (seen : List ν) :
      Descent agenda Enters parent depth seen [] [] seen
  | report {parent : ν} {depth : Nat} {seen out : List ν} {rest : List (Task ν ω)}
      {events : List ω} (event : ω) :
      Descent agenda Enters parent depth seen rest events out →
      Descent agenda Enters parent depth seen (.report event :: rest) (event :: events) out
  | pass {parent node : ν} {depth : Nat} {seen out : List ν} {rest : List (Task ν ω)}
      {events : List ω} :
      node ∈ seen →
      Descent agenda Enters parent depth seen rest events out →
      Descent agenda Enters parent depth seen (.enter node :: rest) events out
  | enter {parent node : ν} {depth : Nat} {seen mid out : List ν} {rest : List (Task ν ω)}
      {inner outer : List ω} :
      node ∉ seen →
      Enters parent depth node →
      Descent agenda Enters node (depth + 1) (seen ++ [node]) (agenda node) inner mid →
      Descent agenda Enters parent depth mid rest outer out →
      Descent agenda Enters parent depth seen (.enter node :: rest) (inner ++ outer) out

namespace Descent

variable {agenda : ν → List (Task ν ω)} {Enters : ν → Nat → ν → Prop}
variable {parent : ν} {depth : Nat} {seen mid out : List ν}

/-- A descent is a depth-first traversal. -/
theorem depthFirst {tasks : List (Task ν ω)} {events : List ω}
    (h : Descent agenda Enters parent depth seen tasks events out) :
    DepthFirst agenda seen tasks events out := by
  induction h with
  | done parent depth seen => exact .done seen
  | report event _ ih => exact .report event ih
  | pass hn _ ih => exact .pass hn ih
  | enter hn _ _ _ ihinner ihouter => exact .enter hn (ihinner.append ihouter)

theorem append {tasks tasks' : List (Task ν ω)} {events events' : List ω}
    (h : Descent agenda Enters parent depth seen tasks events mid)
    (h' : Descent agenda Enters parent depth mid tasks' events' out) :
    Descent agenda Enters parent depth seen (tasks ++ tasks') (events ++ events') out := by
  induction h with
  | done parent depth seen => exact h'
  | report event _ ih => exact .report event (ih h')
  | pass hn _ ih => exact .pass hn (ih h')
  | enter hn he sub _ _ ih =>
      rw [List.append_assoc]
      exact .enter hn he sub (ih h')

/-- Doing the tasks of two lists is doing those of the first and then the others. -/
theorem split {front back : List (Task ν ω)} {events : List ω}
    (h : Descent agenda Enters parent depth seen (front ++ back) events out) :
    ∃ mid events₁ events₂,
      Descent agenda Enters parent depth seen front events₁ mid ∧
        Descent agenda Enters parent depth mid back events₂ out ∧
          events = events₁ ++ events₂ := by
  induction front generalizing seen events with
  | nil => exact ⟨seen, [], events, .done parent depth seen, h, rfl⟩
  | cons task front ih =>
      cases h with
      | report event rest =>
          obtain ⟨mid, _, _, hfront, hback, rfl⟩ := ih rest
          exact ⟨mid, _, _, .report event hfront, hback, rfl⟩
      | pass hn rest =>
          obtain ⟨mid, _, _, hfront, hback, rfl⟩ := ih rest
          exact ⟨mid, _, _, .pass hn hfront, hback, rfl⟩
      | enter hn he sub rest =>
          obtain ⟨mid, _, _, hfront, hback, rfl⟩ := ih rest
          exact ⟨mid, _, _, .enter hn he sub hfront, hback, (List.append_assoc _ _ _).symm⟩

theorem reports (parent : ν) (depth : Nat) (seen : List ν) (events : List ω) :
    Descent agenda Enters parent depth seen (events.map .report) events seen := by
  induction events with
  | nil => exact .done parent depth seen
  | cons event rest ih => exact .report event ih

/-- Tasks that only report leave the nodes alone. -/
theorem eq_of_reports {events events' : List ω}
    (h : Descent agenda Enters parent depth seen (events.map .report) events' out) :
    events' = events ∧ out = seen := by
  obtain ⟨he, ho⟩ := h.depthFirst.unique (.reports seen events)
  exact ⟨he, ho⟩

/-- A weaker condition on entering nodes is met as well. -/
theorem mono {Enters' : ν → Nat → ν → Prop} {tasks : List (Task ν ω)} {events : List ω}
    (h : Descent agenda Enters parent depth seen tasks events out)
    (he : ∀ m d n, Enters m d n → Enters' m d n) :
    Descent agenda Enters' parent depth seen tasks events out := by
  induction h with
  | done parent depth seen => exact .done parent depth seen
  | report event _ ih => exact .report event ih
  | pass hn _ ih => exact .pass hn ih
  | enter hn henters _ _ ihsub ihnext => exact .enter hn (he _ _ _ henters) ihsub ihnext

/-- Nothing to do leaves the nodes alone. -/
theorem eq_of_nil {events : List ω}
    (h : Descent agenda Enters parent depth seen [] events out) :
    events = [] ∧ out = seen := by
  cases h
  exact ⟨rfl, rfl⟩

/-- Every node that is entered on the way is entered from one that was entered before, and that
leads to it. -/
theorem entered_from {tasks : List (Task ν ω)} {events : List ω}
    (h : Descent agenda Enters parent depth seen tasks events out) (hp : parent ∈ seen)
    (ht : tasks ⊆ agenda parent) {n : ν} (hn : n ∈ out) (hs : n ∉ seen) :
    ∃ front back, out = front ++ n :: back ∧
      ∃ m ∈ front, ∃ d, Leads agenda m n ∧ Enters m d n := by
  induction h with
  | done parent depth seen => exact absurd hn hs
  | report event _ ih => exact ih hp (List.subset_of_cons_subset ht) hn hs
  | pass _ _ ih => exact ih hp (List.subset_of_cons_subset ht) hn hs
  | @enter parent node depth seen mid out rest inner outer _ henters sub next ihsub ihnext =>
      obtain ⟨later, hmid⟩ := sub.depthFirst.seen_isPrefix
      obtain ⟨last, hout⟩ := next.depthFirst.seen_isPrefix
      by_cases hm : n ∈ mid
      · by_cases heq : n = node
        · subst heq
          have hleads : Leads agenda parent n := ht List.mem_cons_self
          refine ⟨seen, later ++ last, ?_, parent, hp, depth, hleads, henters⟩
          rw [← hout, ← hmid]
          simp
        · obtain ⟨front, back, rfl, hfrom⟩ :=
            ihsub (by simp) (List.Subset.refl _) hm (by simp [hs, heq])
          exact ⟨front, back ++ last, by rw [← hout]; simp, hfrom⟩
      · have hparent : parent ∈ mid := hmid ▸ List.mem_append_left _ (List.mem_append_left _ hp)
        exact ihnext hparent (List.subset_of_cons_subset ht) hn hm

section Map

variable {ν' ω' : Type} {agenda' : ν' → List (Task ν' ω')} {Enters' : ν' → Nat → ν' → Prop}
variable {f : ν → ν'} {g : ω → ω'}

/-- Renaming the nodes and the events of a descent gives a descent, if no two of its nodes come
to have one name. -/
theorem map {tasks : List (Task ν ω)} {events : List ω}
    (h : Descent agenda Enters parent depth seen tasks events out)
    (hf : ∀ m ∈ out, ∀ n ∈ out, f m = f n → m = n)
    (hp : parent ∈ seen)
    (ha : ∀ n ∈ out, agenda' (f n) = (agenda n).map (Task.map f g))
    (he : ∀ m ∈ out, ∀ n ∈ out, ∀ d, Enters m d n → Enters' (f m) d (f n)) :
    Descent agenda' Enters' (f parent) depth (seen.map f) (tasks.map (Task.map f g))
      (events.map g) (out.map f) := by
  induction h with
  | done parent depth seen => exact .done _ _ _
  | report event _ ih => exact .report (g event) (ih hf hp ha he)
  | pass hn _ ih => exact .pass (List.mem_map_of_mem hn) (ih hf hp ha he)
  | @enter parent node depth seen mid out rest inner outer hn henters sub next ihsub ihnext =>
      have hmid : mid ⊆ out := next.depthFirst.seen_subset
      have hseen : seen ++ [node] ⊆ mid := sub.depthFirst.seen_subset
      have hnode : node ∈ mid := hseen (by simp)
      have hparent : parent ∈ mid := hseen (List.mem_append_left _ hp)
      have hinner := ihsub (fun m hm n hn => hf m (hmid hm) n (hmid hn)) (by simp)
        (fun n hm => ha n (hmid hm)) (fun m hm n hn => he m (hmid hm) n (hmid hn))
      rw [List.map_append, List.map_singleton] at hinner
      rw [List.map_append]
      refine .enter ?_ (he parent (hmid hparent) node (hmid hnode) depth henters) ?_
        (ihnext hf hparent ha he)
      · intro hm
        obtain ⟨m, hms, heq⟩ := List.mem_map.1 hm
        have hold : m ∈ out := hmid (hseen (List.mem_append_left _ hms))
        cases hf m hold node (hmid hnode) heq
        exact hn hms
      · rwa [ha node (hmid hnode)]

end Map

end Descent

section Existence

variable {agenda : ν → List (Task ν ω)} {Enters : ν → Nat → ν → Prop}

/-- A finite set of nodes that leads nowhere else can be descended, if its nodes may be entered
at every depth that is smaller than their number. -/
theorem exists_descent [DecidableEq ν] {nodes : List ν}
    (hclosed : ∀ m ∈ nodes, ∀ n, Leads agenda m n → n ∈ nodes)
    (henters : ∀ m ∈ nodes, ∀ n, Leads agenda m n → ∀ d, d + 1 < nodes.length → Enters m d n) :
    ∀ (closed : Nat) {parent : ν} {depth : Nat} {seen : List ν} {tasks : List (Task ν ω)},
      seen.Nodup → seen ⊆ nodes → nodes.length ≤ seen.length + closed →
      parent ∈ seen → depth < seen.length → tasks ⊆ agenda parent →
      ∃ events out, Descent agenda Enters parent depth seen tasks events out ∧
        out.Nodup ∧ out ⊆ nodes := by
  intro closed
  induction closed using Nat.strongRecOn with
  | ind closed ihclosed =>
      intro parent depth seen tasks hs hsub hlen hp hd ht
      induction tasks with
      | nil => exact ⟨[], seen, .done parent depth seen, hs, hsub⟩
      | cons task rest ih =>
          have htail : rest ⊆ agenda parent := fun t hm => ht (List.mem_cons_of_mem _ hm)
          cases task with
          | report event =>
              obtain ⟨events, out, hrest, hout⟩ := ih htail
              exact ⟨event :: events, out, .report event hrest, hout⟩
          | enter node =>
              by_cases hmem : node ∈ seen
              · obtain ⟨events, out, hrest, hout⟩ := ih htail
                exact ⟨events, out, .pass hmem hrest, hout⟩
              · have hleads : Leads agenda parent node := ht List.mem_cons_self
                have hnode : node ∈ nodes := hclosed parent (hsub hp) node hleads
                have hpush : (seen ++ [node]).Nodup := by simpa using List.Nodup.concat hmem hs
                have hknown : seen ++ [node] ⊆ nodes :=
                  List.append_subset.2 ⟨hsub, by simpa using hnode⟩
                have hlength : (seen ++ [node]).length = seen.length + 1 := by simp
                have hroom : (seen ++ [node]).length ≤ nodes.length :=
                  hpush.length_le_of_subset hknown
                -- one node less is closed while the agenda of the node is worked off
                obtain ⟨inner, mid, hinner, hmid, hmidsub⟩ :=
                  @ihclosed (closed - 1) (by omega) node (depth + 1) _ (agenda node) hpush hknown
                    (by omega) (by simp) (by omega) (List.Subset.refl _)
                have hgrown : (seen ++ [node]).length ≤ mid.length :=
                  hinner.depthFirst.seen_isPrefix.length_le
                have hstill : seen ++ [node] ⊆ mid := hinner.depthFirst.seen_subset
                obtain ⟨outer, out, houter, hout⟩ :=
                  @ihclosed (closed - 1) (by omega) parent depth mid rest hmid hmidsub (by omega)
                    (hstill (List.mem_append_left _ hp)) (by omega) htail
                exact ⟨inner ++ outer, out,
                  .enter hmem (henters parent (hsub hp) node hleads depth (by omega)) hinner
                    houter, hout⟩

end Existence

section Events

variable {agenda : ν → List (Task ν ω)}

/-- The events of a traversal are those of its tasks and of the nodes entered on the way, each as
often as it is on an agenda. -/
theorem DepthFirst.exists_events_perm
    {seen out : List ν} {tasks : List (Task ν ω)} {events : List ω}
    (h : DepthFirst agenda seen tasks events out) :
    ∃ entered, out = seen ++ entered ∧
      events.Perm (tasks.filterMap Task.event? ++
        entered.flatMap fun n => (agenda n).filterMap Task.event?) := by
  induction h with
  | done seen => exact ⟨[], by simp, by simp⟩
  | report event _ ih =>
      obtain ⟨entered, hout, hperm⟩ := ih
      exact ⟨entered, hout, by simpa [List.filterMap_cons, Task.event?] using hperm⟩
  | pass _ _ ih =>
      obtain ⟨entered, hout, hperm⟩ := ih
      exact ⟨entered, hout, by simpa [List.filterMap_cons, Task.event?] using hperm⟩
  | @enter seen out rest events node _ _ ih =>
      obtain ⟨entered, hout, hperm⟩ := ih
      refine ⟨node :: entered, by simpa using hout, hperm.trans ?_⟩
      simp only [List.filterMap_append, List.filterMap_cons, Task.event?, List.flatMap_cons]
      rw [← List.append_assoc]
      exact List.perm_append_comm.append_right _

/-- What is reported is what is on the agendas of the nodes entered, as often as it is
there. -/
theorem DepthFirst.events_perm {start : ν} {out : List ν} {events : List ω}
    (h : DepthFirst agenda [] [.enter start] events out) :
    events.Perm (out.flatMap fun n => (agenda n).filterMap Task.event?) := by
  obtain ⟨entered, hout, hperm⟩ := h.exists_events_perm
  rw [List.nil_append] at hout
  rw [hout]
  simpa [List.filterMap_cons, Task.event?] using hperm

variable {β ω' : Type} {f : ω → Option β} {g : ω' → β} {seen out : List ν}
variable {tasks : List (Task ν ω)} {events : List ω}

/-- Tasks that look like those to enter a node and more are such tasks. -/
theorem Task.looks_enter {node : ν} {rest : List (Task ν ω)} {tasks' : List (Task ν ω')}
    (h : (Task.enter node :: rest).filterMap (Task.view? f) = tasks'.map (Task.map id g)) :
    ∃ rest', tasks' = .enter node :: rest' ∧
      rest.filterMap (Task.view? f) = rest'.map (Task.map id g) := by
  obtain ⟨task, rest', rfl, htask, hrest⟩ := List.map_eq_cons_iff.1 h.symm
  cases task with
  | enter node' =>
      cases htask
      exact ⟨rest', rfl, hrest.symm⟩
  | report event => cases htask

/-- Tasks that look like those to report an event that is shown and more are such tasks. -/
theorem Task.looks_report {event : ω} {shown : β} {rest : List (Task ν ω)}
    {tasks' : List (Task ν ω')} (hf : f event = some shown)
    (h : (Task.report event :: rest).filterMap (Task.view? f) = tasks'.map (Task.map id g)) :
    ∃ event' rest', tasks' = .report event' :: rest' ∧ g event' = shown ∧
      rest.filterMap (Task.view? f) = rest'.map (Task.map id g) := by
  rw [List.filterMap_cons_some (b := .report shown) (by simp [Task.view?, hf])] at h
  obtain ⟨task, rest', rfl, htask, hrest⟩ := List.map_eq_cons_iff.1 h.symm
  cases task with
  | enter node => cases htask
  | report event' => exact ⟨event', rest', rfl, Task.report.inj htask, hrest.symm⟩

/-- A traversal seen through a view of its events is a traversal of every agenda that looks the
same. -/
theorem DepthFirst.view {agenda' : ν → List (Task ν ω')} {tasks' : List (Task ν ω')}
    (h : DepthFirst agenda seen tasks events out)
    (ht : tasks.filterMap (Task.view? f) = tasks'.map (Task.map id g))
    (ha : ∀ n ∈ out, (agenda n).filterMap (Task.view? f) = (agenda' n).map (Task.map id g)) :
    ∃ events', DepthFirst agenda' seen tasks' events' out ∧ events.filterMap f = events'.map g := by
  induction h generalizing tasks' with
  | done seen =>
      cases List.map_eq_nil_iff.1 ht.symm
      exact ⟨[], .done seen, rfl⟩
  | report event _ ih =>
      cases hf : f event with
      | none =>
          -- the view hides the event, so the other traversal has nothing to do here
          rw [List.filterMap_cons_none (by simp [Task.view?, hf])] at ht
          rw [List.filterMap_cons_none hf]
          exact ih ht ha
      | some shown =>
          obtain ⟨event', rest', rfl, hshown, hrest⟩ := Task.looks_report hf ht
          obtain ⟨events', htraversal, hevents⟩ := ih hrest ha
          refine ⟨event' :: events', .report event' htraversal, ?_⟩
          rw [List.filterMap_cons_some hf, hevents, List.map_cons, hshown]
  | pass hn _ ih =>
      obtain ⟨rest', rfl, hrest⟩ := Task.looks_enter ht
      obtain ⟨events', htraversal, hevents⟩ := ih hrest ha
      exact ⟨events', .pass hn htraversal, hevents⟩
  | @enter seen out rest events node hn sub ih =>
      obtain ⟨rest', rfl, hrest⟩ := Task.looks_enter ht
      have hlooks : (agenda node ++ rest).filterMap (Task.view? f) =
          (agenda' node ++ rest').map (Task.map id g) := by
        rw [List.filterMap_append, List.map_append, ha node (sub.seen_subset (by simp)), hrest]
      obtain ⟨events', htraversal, hevents⟩ := ih hlooks ha
      exact ⟨events', .enter hn htraversal, hevents⟩

variable {n : ν}

/-- Once a node was entered, a view that shows no event of another node shows what is still to be
done. -/
theorem DepthFirst.filterMap_of_mem (h : DepthFirst agenda seen tasks events out)
    (hf : ∀ m, m ≠ n → ((agenda m).filterMap Task.event?).filterMap f = []) (hn : n ∈ seen) :
    events.filterMap f = (tasks.filterMap Task.event?).filterMap f := by
  induction h with
  | done seen => rfl
  | report event _ ih => simp [List.filterMap_cons, Task.event?, ih hn]
  | pass _ _ ih => exact ih hn
  | @enter seen out rest events node hnode _ ih =>
      have hne : node ≠ n := fun heq => hnode (heq ▸ hn)
      rw [ih (List.mem_append_left _ hn), List.filterMap_append, List.filterMap_append, hf node hne,
        List.nil_append]
      rfl

/-- What a traversal reports of one node is what is on its agenda, in order, whatever is
reported in between. -/
theorem DepthFirst.filterMap_eq (h : DepthFirst agenda seen tasks events out)
    (hf : ∀ m, m ≠ n → ((agenda m).filterMap Task.event?).filterMap f = [])
    (ht : (tasks.filterMap Task.event?).filterMap f = []) (hn : n ∈ out) (hs : n ∉ seen) :
    events.filterMap f = ((agenda n).filterMap Task.event?).filterMap f := by
  induction h with
  | done seen => exact absurd hn hs
  | report event _ ih =>
      simp only [List.filterMap_cons, Task.event?] at ht
      cases hevent : f event with
      | some shown => simp [hevent] at ht
      | none =>
          rw [hevent] at ht
          rw [List.filterMap_cons_none hevent, ih ht hn hs]
  | pass _ _ ih => exact ih ht hn hs
  | @enter seen out rest events node _ sub ih =>
      by_cases heq : node = n
      · subst heq
        rw [sub.filterMap_of_mem hf (by simp), List.filterMap_append, List.filterMap_append]
        exact (congrArg _ ht).trans (List.append_nil _)
      · refine ih ?_ hn (by simp [hs, Ne.symm heq])
        rw [List.filterMap_append, List.filterMap_append, hf node heq]
        exact ht

end Events

end SchemaSet
