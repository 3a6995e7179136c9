import Mathlib.Logic.Relation

/-!
# Depth-first traversals of a graph

An agenda lists for each node the tasks that entering it brings up, in order.  A task is to enter a
further node or to report an event.  Tasks are done from the front.  A node that was entered before
is passed over; the tasks of a node that is entered come before those that were waiting.
`DepthFirst` relates the nodes entered before and the tasks to the events reported and the nodes
entered in the end.

Main facts:
* `DepthFirst.unique`: a traversal is determined by its agenda and its first tasks;
* `DepthFirst.mem_iff_reachable`: from one node, exactly the reachable nodes are entered;
* `DepthFirst.reported_iff`: exactly the events on the agendas of the entered nodes are reported;
* `DepthFirst.announced`: if every agenda starts by announcing its node, the announcements list the
  nodes in order;
* `DepthFirst.preorder`: nodes are entered in the order of their first visits, `Preorder`.
-/

namespace SchemaSet

/-- Something that a traversal has to do. -/
inductive Task (ν ω : Type)
  /-- Enter a node, unless it was entered before. -/
  | enter (node : ν)
  /-- Report an event. -/
  | report (event : ω)

section DepthFirst

variable {ν ω : Type}
variable {agenda : ν → List (Task ν ω)}

/-- Starting with some nodes entered and some tasks to do, a traversal reports the events and
ends with the nodes entered, oldest first. -/
inductive DepthFirst (agenda : ν → List (Task ν ω)) :
    List ν → List (Task ν ω) → List ω → List ν → Prop
  | done (seen : List ν) :
      DepthFirst agenda seen [] [] seen
  | report {seen out : List ν} {rest : List (Task ν ω)} {events : List ω} (event : ω) :
      DepthFirst agenda seen rest events out →
      DepthFirst agenda seen (.report event :: rest) (event :: events) out
  | pass {seen out : List ν} {rest : List (Task ν ω)} {events : List ω} {node : ν} :
      node ∈ seen →
      DepthFirst agenda seen rest events out →
      DepthFirst agenda seen (.enter node :: rest) events out
  | enter {seen out : List ν} {rest : List (Task ν ω)} {events : List ω} {node : ν} :
      node ∉ seen →
      DepthFirst agenda (seen ++ [node]) (agenda node ++ rest) events out →
      DepthFirst agenda seen (.enter node :: rest) events out

/-- A node leads to the nodes that its agenda enters. -/
def Leads (agenda : ν → List (Task ν ω)) (m n : ν) : Prop :=
  .enter n ∈ agenda m

namespace DepthFirst

/-- Two traversals with the same agenda that start alike are alike. -/
theorem unique
    {seen out out' : List ν} {tasks : List (Task ν ω)} {events events' : List ω}
    (h : DepthFirst agenda seen tasks events out)
    (h' : DepthFirst agenda seen tasks events' out') :
    events = events' ∧ out = out' := by
  induction h generalizing events' with
  | done seen =>
      cases h'
      exact ⟨rfl, rfl⟩
  | report event _ ih =>
      cases h' with
      | report _ rest' =>
          obtain ⟨he, ho⟩ := ih rest'
          exact ⟨by rw [he], ho⟩
  | pass hn _ ih =>
      cases h' with
      | pass _ rest' => exact ih rest'
      | enter hn' _ => exact absurd hn hn'
  | enter hn _ ih =>
      cases h' with
      | pass hn' _ => exact absurd hn' hn
      | enter _ rest' => exact ih rest'

/-- Doing some tasks and then others is doing the tasks of both lists. -/
theorem append
    {seen mid out : List ν} {tasks tasks' : List (Task ν ω)} {events events' : List ω}
    (h : DepthFirst agenda seen tasks events mid)
    (h' : DepthFirst agenda mid tasks' events' out) :
    DepthFirst agenda seen (tasks ++ tasks') (events ++ events') out := by
  induction h with
  | done seen => exact h'
  | report event _ ih => exact .report event (ih h')
  | pass hn _ ih => exact .pass hn (ih h')
  | @enter seen mid rest events node hn _ ih =>
      have sub := ih h'
      rw [List.append_assoc] at sub
      exact .enter hn sub

/-- Tasks that only report are done without entering a node. -/
theorem reports (seen : List ν) (events : List ω) :
    DepthFirst agenda seen (events.map .report) events seen := by
  induction events with
  | nil => exact .done seen
  | cons event rest ih => exact .report event ih

/-- Entering a node that was not entered before does what is on its agenda. -/
theorem enterOnly
    {seen out : List ν} {events : List ω} {node : ν}
    (hn : node ∉ seen)
    (h : DepthFirst agenda (seen ++ [node]) (agenda node) events out) :
    DepthFirst agenda seen [.enter node] events out := by
  refine .enter hn ?_
  rwa [List.append_nil]

/-- The nodes entered before stay at the front. -/
theorem seen_isPrefix
    {seen out : List ν} {tasks : List (Task ν ω)} {events : List ω}
    (h : DepthFirst agenda seen tasks events out) :
    seen <+: out := by
  induction h with
  | done seen => exact List.prefix_rfl
  | report _ _ ih => exact ih
  | pass _ _ ih => exact ih
  | enter _ _ ih => exact (List.prefix_append _ _).trans ih

theorem seen_subset
    {seen out : List ν} {tasks : List (Task ν ω)} {events : List ω}
    (h : DepthFirst agenda seen tasks events out) :
    seen ⊆ out :=
  h.seen_isPrefix.subset

/-- No node is entered twice. -/
theorem nodup
    {seen out : List ν} {tasks : List (Task ν ω)} {events : List ω}
    (h : DepthFirst agenda seen tasks events out)
    (hs : seen.Nodup) :
    out.Nodup := by
  induction h with
  | done seen => exact hs
  | report _ _ ih => exact ih hs
  | pass _ _ ih => exact ih hs
  | enter hn _ ih =>
      refine ih (List.nodup_append.2 ⟨hs, by simp, ?_⟩)
      intro a ha b hb
      rw [List.mem_singleton.1 hb]
      exact fun q => hn (q ▸ ha)

/-- Every node that a task names is entered in the end. -/
theorem mem_of_task
    {seen out : List ν} {tasks : List (Task ν ω)} {events : List ω}
    (h : DepthFirst agenda seen tasks events out)
    {n : ν} (hn : Task.enter n ∈ tasks) :
    n ∈ out := by
  induction h with
  | done seen => exact absurd hn List.not_mem_nil
  | report _ _ ih =>
      refine ih ?_
      simpa using hn
  | pass hm rest ih =>
      rcases List.mem_cons.1 hn with he | hn
      · cases he
        exact rest.seen_subset hm
      · exact ih hn
  | enter _ rest ih =>
      rcases List.mem_cons.1 hn with he | hn
      · cases he
        exact rest.seen_subset (by simp)
      · exact ih (List.mem_append_right _ hn)

/-- A node that was entered on the way has all that it leads to entered as well. -/
theorem closed
    {seen out : List ν} {tasks : List (Task ν ω)} {events : List ω}
    (h : DepthFirst agenda seen tasks events out)
    {m n : ν} (hm : m ∈ out) (hs : m ∉ seen) (hmn : Leads agenda m n) :
    n ∈ out := by
  induction h with
  | done seen => exact absurd hm hs
  | report _ _ ih => exact ih hm hs
  | pass _ _ ih => exact ih hm hs
  | @enter seen out rest events node _ sub ih =>
      by_cases he : m = node
      · subst he
        exact sub.mem_of_task (List.mem_append_left _ hmn)
      · exact ih hm (by simp [hs, he])

/-- What is entered on the way can be reached from a node that a task names. -/
theorem reached
    {seen out : List ν} {tasks : List (Task ν ω)} {events : List ω}
    (h : DepthFirst agenda seen tasks events out)
    {m : ν} (hm : m ∈ out) (hs : m ∉ seen) :
    ∃ n, Task.enter n ∈ tasks ∧ Relation.ReflTransGen (Leads agenda) n m := by
  induction h with
  | done seen => exact absurd hm hs
  | report _ _ ih =>
      obtain ⟨n, hn, path⟩ := ih hm hs
      exact ⟨n, List.mem_cons_of_mem _ hn, path⟩
  | pass _ _ ih =>
      obtain ⟨n, hn, path⟩ := ih hm hs
      exact ⟨n, List.mem_cons_of_mem _ hn, path⟩
  | @enter seen out rest events node _ _ ih =>
      by_cases he : m = node
      · exact ⟨node, List.mem_cons_self, he ▸ Relation.ReflTransGen.refl⟩
      · obtain ⟨n, hn, path⟩ := ih hm (by simp [hs, he])
        rcases List.mem_append.1 hn with hn | hn
        · exact ⟨node, List.mem_cons_self, Relation.ReflTransGen.head hn path⟩
        · exact ⟨n, List.mem_cons_of_mem _ hn, path⟩

/-- The events reported are those of the first tasks and of the nodes entered on the way. -/
theorem reported_iff
    {seen out : List ν} {tasks : List (Task ν ω)} {events : List ω}
    (h : DepthFirst agenda seen tasks events out) (e : ω) :
    e ∈ events ↔
      Task.report e ∈ tasks ∨ ∃ n ∈ out, n ∉ seen ∧ Task.report e ∈ agenda n := by
  induction h with
  | done seen =>
      simp only [List.not_mem_nil, false_or, false_iff, not_exists, not_and]
      exact fun n hn hs => absurd hn hs
  | report event _ ih =>
      rw [List.mem_cons, List.mem_cons, ih, Task.report.injEq, or_assoc]
  | pass _ _ ih =>
      rw [ih, List.mem_cons]
      simp
  | @enter seen out rest events node hn sub ih =>
      have hnode : node ∈ out := sub.seen_subset (by simp)
      rw [ih, List.mem_append, List.mem_cons]
      constructor
      · rintro ((he | he) | ⟨n, ho, hs, he⟩)
        · exact .inr ⟨node, hnode, hn, he⟩
        · exact .inl (.inr he)
        · exact .inr ⟨n, ho, fun q => hs (List.mem_append_left _ q), he⟩
      · rintro ((he | he) | ⟨n, ho, hs, he⟩)
        · cases he
        · exact .inl (.inr he)
        · by_cases hnn : n = node
          · exact .inl (.inl (hnn ▸ he))
          · exact .inr ⟨n, ho, by simp [hs, hnn], he⟩

/-- An event announces a node when it comes first on the agenda of the node and no later event
there announces anything; `f` reads the node off an event. -/
def Announces (agenda : ν → List (Task ν ω)) (f : ω → Option ν) (n : ν) : Prop :=
  ∃ event rest, agenda n = .report event :: rest ∧ f event = some n ∧
    ∀ e, Task.report e ∈ rest → f e = none

/-- Announcements that were put off, `waiting`, make up for the nodes entered since `base`. -/
theorem announced_waiting {f : ω → Option ν}
    {seen out : List ν} {tasks : List (Task ν ω)} {events : List ω}
    (h : DepthFirst agenda seen tasks events out)
    (ha : ∀ n ∈ out, n ∉ seen → Announces agenda f n)
    (base : List ν) (waiting : List ω) (rest : List (Task ν ω))
    (hsplit : tasks = waiting.map .report ++ rest)
    (hseen : seen = base ++ waiting.filterMap f)
    (hrest : ∀ e, Task.report e ∈ rest → f e = none) :
    base ++ events.filterMap f = out := by
  induction h generalizing base waiting rest with
  | done seen =>
      cases waiting with
      | nil => simpa using hseen.symm
      | cons e w => cases hsplit
  | report event _ ih =>
      cases waiting with
      | nil =>
          subst hsplit
          rw [List.filterMap_cons_none (hrest event List.mem_cons_self)]
          exact ih ha base [] _ rfl hseen fun e he => hrest e (List.mem_cons_of_mem _ he)
      | cons e w =>
          obtain ⟨he, hw⟩ := List.cons.inj hsplit
          cases he
          have hnext := ih ha (base ++ [event].filterMap f) w rest hw
            (by rw [hseen, List.append_assoc, ← List.filterMap_append, List.singleton_append])
            hrest
          rwa [List.append_assoc, ← List.filterMap_append, List.singleton_append] at hnext
  | pass _ _ ih =>
      cases waiting with
      | nil =>
          subst hsplit
          exact ih ha base [] _ rfl hseen fun e he => hrest e (List.mem_cons_of_mem _ he)
      | cons e w => cases hsplit
  | @enter seen out rest' events node hn sub ih =>
      cases waiting with
      | cons e w => cases hsplit
      | nil =>
          subst hsplit
          obtain ⟨event, tail, htasks, hevent, htail⟩ := ha node (sub.seen_subset (by simp)) hn
          refine ih ?_ base [event] (tail ++ rest') ?_ ?_ ?_
          · exact fun m hm hs => ha m hm fun q => hs (List.mem_append_left _ q)
          · rw [htasks]
            rfl
          · rw [hseen]
            simp [hevent]
          · intro e he
            rcases List.mem_append.1 he with he | he
            · exact htail e he
            · exact hrest e (List.mem_cons_of_mem _ he)

section OneNode

variable {start : ν} {out : List ν} {events : List ω}
variable (h : DepthFirst agenda [] [.enter start] events out)
include h

/-- The start node is the first. -/
theorem head?_eq : out.head? = some start := by
  cases h with
  | pass hn _ => exact absurd hn List.not_mem_nil
  | enter _ sub =>
      obtain ⟨rest, rfl⟩ := sub.seen_isPrefix
      rfl

/-- Exactly the nodes that can be reached are entered. -/
theorem mem_iff_reachable (m : ν) :
    m ∈ out ↔ Relation.ReflTransGen (Leads agenda) start m := by
  constructor
  · intro hm
    obtain ⟨n, hn, path⟩ := h.reached hm List.not_mem_nil
    cases List.mem_singleton.1 hn
    exact path
  · intro path
    induction path with
    | refl => exact h.mem_of_task List.mem_cons_self
    | tail _ hmn ih => exact h.closed ih List.not_mem_nil hmn

/-- A traversal with an agenda that leads on at least as far enters at least the same nodes. -/
theorem subset_of_leads {agenda' : ν → List (Task ν ω)} {out' : List ν} {events' : List ω}
    (h' : DepthFirst agenda' [] [.enter start] events' out')
    (hl : ∀ m ∈ out, ∀ n, Leads agenda m n → Leads agenda' m n) :
    out ⊆ out' := by
  intro n hn
  have path := (h.mem_iff_reachable n).1 hn
  clear hn
  induction path with
  | refl => exact h'.mem_of_task List.mem_cons_self
  | @tail m n path hmn ih =>
      exact h'.closed ih List.not_mem_nil (hl m ((h.mem_iff_reachable m).2 path) n hmn)

theorem reported_iff_of_start (e : ω) :
    e ∈ events ↔ ∃ n ∈ out, Task.report e ∈ agenda n := by
  simp [h.reported_iff e]

/-- If every node is announced, the announcements list the nodes in order. -/
theorem announced {f : ω → Option ν} (ha : ∀ n ∈ out, Announces agenda f n) :
    events.filterMap f = out := by
  refine h.announced_waiting (fun n hn _ => ha n hn) [] [] [.enter start] rfl rfl ?_
  simp

end OneNode

end DepthFirst

/-- Starting with some nodes visited, the nodes of a list are visited one after the other, each
followed by all that it leads to, unless it was visited before; in the end the nodes visited are
`out`, in the order of their first visits. -/
inductive Preorder (next : ν → List ν) : List ν → List ν → List ν → Prop
  | done (seen : List ν) :
      Preorder next seen [] seen
  | again {seen rest out : List ν} {node : ν} :
      node ∈ seen →
      Preorder next seen rest out →
      Preorder next seen (node :: rest) out
  | first {seen mid rest out : List ν} {node : ν} :
      node ∉ seen →
      Preorder next (seen ++ [node]) (next node) mid →
      Preorder next mid rest out →
      Preorder next seen (node :: rest) out

namespace Preorder

variable {next : ν → List ν}

theorem unique {seen nodes out out' : List ν} (h : Preorder next seen nodes out)
    (h' : Preorder next seen nodes out') :
    out = out' := by
  induction h generalizing out' with
  | done seen =>
      cases h'
      rfl
  | again hn _ ih =>
      cases h' with
      | again _ rest' => exact ih rest'
      | first hn' _ _ => exact absurd hn hn'
  | first hn _ _ ihsub ihrest =>
      cases h' with
      | again hn' _ => exact absurd hn' hn
      | first _ sub' rest' =>
          cases ihsub sub'
          exact ihrest rest'

/-- Visiting the nodes of two lists is visiting those of the first and then the others. -/
theorem split {seen front back out : List ν} (h : Preorder next seen (front ++ back) out) :
    ∃ mid, Preorder next seen front mid ∧ Preorder next mid back out := by
  induction front generalizing seen with
  | nil => exact ⟨seen, .done seen, h⟩
  | cons node front ih =>
      cases h with
      | again hn rest =>
          obtain ⟨mid, hfront, hback⟩ := ih rest
          exact ⟨mid, .again hn hfront, hback⟩
      | first hn sub rest =>
          obtain ⟨mid, hfront, hback⟩ := ih rest
          exact ⟨mid, .first hn sub hfront, hback⟩

end Preorder

/-- The node that a task enters. -/
def Task.node? : Task ν ω → Option ν
  | .enter node => some node
  | .report _ => none

/-- A traversal enters nodes in the order of their first visits. -/
theorem DepthFirst.preorder
    {seen out : List ν} {tasks : List (Task ν ω)} {events : List ω}
    (h : DepthFirst agenda seen tasks events out) :
    Preorder (fun n => (agenda n).filterMap Task.node?) seen (tasks.filterMap Task.node?) out := by
  induction h with
  | done seen => exact .done seen
  | report _ _ ih => exact ih
  | pass hn _ ih => exact .again hn ih
  | enter hn _ ih =>
      rw [List.filterMap_append] at ih
      obtain ⟨mid, sub, rest⟩ := ih.split
      exact .first hn sub rest

end DepthFirst
end SchemaSet
