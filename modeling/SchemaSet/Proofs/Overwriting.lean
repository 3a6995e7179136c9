import Mathlib.Data.List.Basic
import Mathlib.Data.List.Induction
import SchemaSet.OrderedMap

/-!
# Maps that are written from a list

A list of pairs may have several pairs with the same key.  Writing a known key keeps its place and
replaces its value.  So the map that is written holds, for each key, the last value at the first
place: `OrderedMap.lastly`.

Main facts:
* `keys_ofList`, `entries_ofList`: what a list of pairs writes;
* `get?_of_perm`: looking up does not depend on the order of a map;
* `size_ofList_eq_iff`: when no pair is lost;
* `filterMap_put`: a value that makes no difference may be replaced.
-/

namespace SchemaSet

section Distinct

variable {α : Type} [BEq α] [LawfulBEq α] {l : List α} {a : α}

theorem eraseDups_snoc_of_mem (h : a ∈ l) : (l ++ [a]).eraseDups = l.eraseDups := by
  rw [List.eraseDups_append]
  simp [List.removeAll, h]

theorem eraseDups_snoc_of_notMem (h : a ∉ l) : (l ++ [a]).eraseDups = l.eraseDups ++ [a] := by
  rw [List.eraseDups_append]
  simp [List.removeAll, h, List.eraseDups_cons]

end Distinct

namespace OrderedMap

variable {α β γ : Type} [DecidableEq α]

/-- The pairs of a list, one for each key: at the place of its first pair, with the value of its
last one. -/
def lastly (es : List (α × β)) : List (α × β) :=
  (es.map Prod.fst).eraseDups.filterMap fun k => es.reverse.find? fun e => e.1 = k

theorem mem_of_mem_lastly {es : List (α × β)} {e : α × β} (h : e ∈ lastly es) : e ∈ es := by
  obtain ⟨k, _, hf⟩ := List.mem_filterMap.1 h
  exact List.mem_reverse.1 (List.mem_of_find?_eq_some hf)

theorem filterMap_find {l : List (α × β)} (h : (l.map Prod.fst).Nodup) :
    ((l.map Prod.fst).filterMap fun k => (find k l).map fun v => (k, v)) = l := by
  induction l with
  | nil => rfl
  | cons e r ih =>
      obtain ⟨hk, hr⟩ := List.nodup_cons.1 h
      have htail : (r.map Prod.fst).filterMap (fun k => (find k (e :: r)).map fun v => (k, v)) =
          (r.map Prod.fst).filterMap fun k => (find k r).map fun v => (k, v) := by
        refine List.filterMap_congr fun k hmem => ?_
        have hne : ¬ e.1 = k := fun q => hk (q ▸ hmem)
        rw [find, if_neg hne]
      rw [List.map_cons, List.filterMap_cons, htail, ih hr]
      simp [find]

/-- A map lists the values of its keys. -/
theorem entries_eq (m : OrderedMap α β) :
    m.entries = m.keys.filterMap fun k => (m.get? k).map fun v => (k, v) :=
  (filterMap_find m.distinct).symm

theorem ofList_snoc (es : List (α × β)) (k : α) (v : β) :
    ofList (es ++ [(k, v)]) = (ofList es).insert k v := by
  simp [ofList, insertAll, List.foldl_append]

/-- Keys stand in the order in which they were first written. -/
theorem keys_ofList (es : List (α × β)) : (ofList es).keys = (es.map Prod.fst).eraseDups := by
  induction es using List.reverseRecOn with
  | nil => rfl
  | append_singleton es e ih =>
      obtain ⟨k, v⟩ := e
      rw [ofList_snoc, keys_insert, ih, List.map_append, List.map_singleton]
      by_cases hk : k ∈ es.map Prod.fst
      · rw [if_pos (List.mem_eraseDups.2 hk), eraseDups_snoc_of_mem hk]
      · rw [if_neg (hk ∘ List.mem_eraseDups.1), eraseDups_snoc_of_notMem hk]

/-- Writing the pairs of a list keeps each key at its first place with its last value. -/
theorem entries_ofList (es : List (α × β)) : (ofList es).entries = lastly es := by
  rw [entries_eq, keys_ofList]
  refine List.filterMap_congr fun k _ => ?_
  have hget : (ofList es).get? k = (es.reverse.find? fun e => e.1 = k).map Prod.snd := by
    rw [ofList, get?_insertAll, get?_empty, Option.or_none]
  rw [hget]
  cases hf : es.reverse.find? fun e => e.1 = k with
  | none => rfl
  | some e =>
      have hk : e.1 = k := by simpa using List.find?_some hf
      rw [← hk]
      rfl

theorem find_of_mem {k : α} {v : β} {l : List (α × β)} (h : (l.map Prod.fst).Nodup)
    (hm : (k, v) ∈ l) : find k l = some v := by
  induction l with
  | nil => exact absurd hm List.not_mem_nil
  | cons e r ih =>
      obtain ⟨hk, hr⟩ := List.nodup_cons.1 h
      rcases List.mem_cons.1 hm with rfl | hm
      · rw [find, if_pos rfl]
      · have hne : ¬ e.1 = k := fun q => hk (q ▸ List.mem_map_of_mem hm)
        rw [find, if_neg hne, ih hr hm]

/-- What is looked up is what is listed. -/
theorem get?_eq_some_iff {m : OrderedMap α β} {k : α} {v : β} :
    m.get? k = some v ↔ (k, v) ∈ m.entries :=
  ⟨mem_entries_of_get?, find_of_mem m.distinct⟩

theorem get?_of_perm {m n : OrderedMap α β} (h : n.entries.Perm m.entries) (k : α) :
    n.get? k = m.get? k := by
  refine Option.ext fun v => ?_
  rw [get?_eq_some_iff, get?_eq_some_iff, h.mem_iff]

theorem put_of_notMem {k : α} {v : β} {l : List (α × β)} (h : k ∉ l.map Prod.fst) :
    put k v l = l ++ [(k, v)] := by
  induction l with
  | nil => rfl
  | cons e r ih =>
      rw [List.map_cons, List.mem_cons, not_or] at h
      rw [put, if_neg (Ne.symm h.1), ih h.2]
      rfl

/-- Pairs with distinct keys are written as they stand. -/
theorem entries_ofList_of_nodup {es : List (α × β)} (h : (es.map Prod.fst).Nodup) :
    (ofList es).entries = es := by
  induction es using List.reverseRecOn with
  | nil => rfl
  | append_singleton es e ih =>
      obtain ⟨k, v⟩ := e
      rw [List.map_append, List.nodup_append] at h
      have hk : k ∉ es.map Prod.fst := fun hmem => h.2.2 k hmem k (by simp) rfl
      rw [ofList_snoc]
      show put k v (ofList es).entries = es ++ [(k, v)]
      rw [ih h.1, put_of_notMem hk]

theorem size_insert (m : OrderedMap α β) (k : α) (v : β) :
    (m.insert k v).size = if k ∈ m.keys then m.size else m.size + 1 := by
  have hsize : ∀ m : OrderedMap α β, m.size = m.keys.length := fun m => (List.length_map _).symm
  rw [hsize, hsize, keys_insert]
  split <;> simp

theorem size_ofList_le (es : List (α × β)) : (ofList es).size ≤ es.length := by
  induction es using List.reverseRecOn with
  | nil => exact Nat.le_refl _
  | append_singleton es e ih =>
      obtain ⟨k, v⟩ := e
      rw [ofList_snoc, size_insert, List.length_append, List.length_singleton]
      split <;> omega

/-- Every pair has a place of its own exactly if no two have one key. -/
theorem size_ofList_eq_iff {es : List (α × β)} :
    (ofList es).size = es.length ↔ (es.map Prod.fst).Nodup := by
  constructor
  · intro h
    induction es using List.reverseRecOn with
    | nil => exact List.nodup_nil
    | append_singleton es e ih =>
        obtain ⟨k, v⟩ := e
        have hle := size_ofList_le es
        rw [ofList_snoc, size_insert, List.length_append, List.length_singleton] at h
        split at h
        · omega
        · rename_i hk
          rw [keys_ofList, List.mem_eraseDups] at hk
          have hes := ih (by omega)
          rw [List.map_append, List.nodup_append]
          refine ⟨hes, by simp, ?_⟩
          rintro a ha b hb rfl
          simp only [List.map_cons, List.map_nil, List.mem_singleton] at hb
          exact hk (hb ▸ ha)
  · intro h
    rw [size, entries_ofList_of_nodup h]

/-- Replacing a value makes no difference to what is made of the pairs, if none is made between the
values under that key. -/
theorem filterMap_put {f : α × β → Option γ} {k : α} {v : β} {l : List (α × β)}
    (hk : k ∈ l.map Prod.fst) (hf : ∀ e ∈ l, e.1 = k → f e = f (k, v)) :
    (put k v l).filterMap f = l.filterMap f := by
  induction l with
  | nil => exact absurd hk List.not_mem_nil
  | cons e r ih =>
      by_cases he : e.1 = k
      · rw [put, if_pos he, List.filterMap_cons, List.filterMap_cons, hf e List.mem_cons_self he]
      · have hr : k ∈ r.map Prod.fst := by
          rw [List.map_cons] at hk
          exact (List.mem_cons.1 hk).resolve_left (Ne.symm he)
        rw [put, if_neg he, List.filterMap_cons, List.filterMap_cons,
          ih hr fun x hx => hf x (List.mem_cons_of_mem _ hx)]

end OrderedMap
end SchemaSet
