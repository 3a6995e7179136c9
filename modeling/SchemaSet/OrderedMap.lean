/-!
# Maps that keep the order of first insertion

Attributes of an element, entries of an index and components of a schema set are looked up by key
and listed in the order in which their keys were first written.  An `OrderedMap α β` is a list of
pairs with distinct keys.

Writing a new key appends it and writing a known key leaves the order alone (`keys_insert`).  A
look-up finds the value written last (`get?_insert`, `get?_insertAll`).
-/

namespace SchemaSet

/-- A finite map that lists its keys in the order in which they were first written. -/
structure OrderedMap (α β : Type) where
  /-- The pairs in the order of first insertion. -/
  entries : List (α × β)
  /-- No key occurs twice. -/
  distinct : (entries.map Prod.fst).Nodup

namespace OrderedMap

variable {α β : Type}

@[ext] theorem ext {m n : OrderedMap α β} (h : m.entries = n.entries) : m = n := by
  cases m; cases n; simp_all

/-- The map without keys. -/
def empty : OrderedMap α β := ⟨[], List.nodup_nil⟩

instance : EmptyCollection (OrderedMap α β) := ⟨empty⟩

instance : Inhabited (OrderedMap α β) := ⟨empty⟩

instance [DecidableEq α] [DecidableEq β] : DecidableEq (OrderedMap α β) := fun m n =>
  decidable_of_iff (m.entries = n.entries) ⟨ext, fun h => h ▸ rfl⟩

/-- The keys in the order of first insertion. -/
def keys (m : OrderedMap α β) : List α := m.entries.map Prod.fst

/-- The values in the order of their keys. -/
def values (m : OrderedMap α β) : List β := m.entries.map Prod.snd

/-- The number of keys. -/
def size (m : OrderedMap α β) : Nat := m.entries.length

/-- Whether there is no key. -/
def isEmpty (m : OrderedMap α β) : Bool := m.entries.isEmpty

section Keys

variable [DecidableEq α]

/-- Writes a value in a list of pairs, at the place of its key or else at the end. -/
def put (k : α) (v : β) : List (α × β) → List (α × β)
  | [] => [(k, v)]
  | e :: r => if e.1 = k then (k, v) :: r else e :: put k v r

/-- The value that a list of pairs holds for a key. -/
def find (k : α) : List (α × β) → Option β
  | [] => none
  | e :: r => if e.1 = k then some e.2 else find k r

theorem map_fst_put (k : α) (v : β) (l : List (α × β)) :
    (put k v l).map Prod.fst =
      if k ∈ l.map Prod.fst then l.map Prod.fst else l.map Prod.fst ++ [k] := by
  induction l with
  | nil => simp [put]
  | cons e r ih =>
      by_cases h : e.1 = k
      · simp [put, h]
      · have h' : ¬ k = e.1 := fun q => h q.symm
        simp only [put, h, if_false, List.map_cons, ih, List.mem_cons, h', false_or]
        split <;> simp

theorem nodup_put (k : α) (v : β) {l : List (α × β)} (h : (l.map Prod.fst).Nodup) :
    ((put k v l).map Prod.fst).Nodup := by
  rw [map_fst_put]
  split
  · exact h
  · rename_i hk
    exact List.nodup_append.2 ⟨h, by simp, fun a ha b hb => by
      rw [List.mem_singleton.1 hb]; exact fun q => hk (q ▸ ha)⟩

theorem find_put_self (k : α) (v : β) (l : List (α × β)) : find k (put k v l) = some v := by
  induction l with
  | nil => simp [put, find]
  | cons e r ih => by_cases h : e.1 = k <;> simp [put, find, h, ih]

theorem find_put_of_ne {k j : α} (v : β) (l : List (α × β)) (h : ¬ k = j) :
    find j (put k v l) = find j l := by
  induction l with
  | nil => simp [put, find, h]
  | cons e r ih =>
      by_cases he : e.1 = k
      · have hj : ¬ e.1 = j := fun q => h (he.symm.trans q)
        simp [put, find, he, h]
      · simp [put, find, he, ih]

theorem find_eq_none_iff (k : α) (l : List (α × β)) :
    find k l = none ↔ k ∉ l.map Prod.fst := by
  induction l with
  | nil => simp [find]
  | cons e r ih =>
      by_cases h : e.1 = k
      · simp [find, h]
      · have h' : ¬ k = e.1 := fun q => h q.symm
        simp only [find, h, if_false, ih, List.map_cons, List.mem_cons, h', false_or]

theorem find_eq_find? (k : α) (l : List (α × β)) :
    find k l = (l.find? fun e => e.1 = k).map Prod.snd := by
  induction l with
  | nil => rfl
  | cons e r ih => by_cases h : e.1 = k <;> simp [find, h, ih]

/-- Writes a value; a known key keeps its place. -/
def insert (m : OrderedMap α β) (k : α) (v : β) : OrderedMap α β :=
  ⟨put k v m.entries, nodup_put k v m.distinct⟩

/-- The value under a key. -/
def get? (m : OrderedMap α β) (k : α) : Option β := find k m.entries

/-- Whether a key has a value. -/
def contains (m : OrderedMap α β) (k : α) : Bool := (m.get? k).isSome

/-- Removes every key that satisfies a condition. -/
def eraseIf (m : OrderedMap α β) (p : α → Bool) : OrderedMap α β :=
  ⟨m.entries.filter (fun e => !p e.1),
    List.Sublist.nodup (List.Sublist.map Prod.fst List.filter_sublist) m.distinct⟩

/-- Writes all pairs of a list in order. -/
def insertAll (m : OrderedMap α β) (es : List (α × β)) : OrderedMap α β :=
  es.foldl (fun m e => m.insert e.1 e.2) m

/-- The map that results from writing all pairs of a list. -/
def ofList (es : List (α × β)) : OrderedMap α β := empty.insertAll es

theorem keys_insert (m : OrderedMap α β) (k : α) (v : β) :
    (m.insert k v).keys = if k ∈ m.keys then m.keys else m.keys ++ [k] :=
  map_fst_put k v m.entries

theorem get?_insert (m : OrderedMap α β) (k j : α) (v : β) :
    (m.insert k v).get? j = if k = j then some v else m.get? j := by
  by_cases h : k = j
  · subst h; simp [insert, get?, find_put_self]
  · simp [insert, get?, h, find_put_of_ne v m.entries h]

theorem get?_empty (k : α) : (empty : OrderedMap α β).get? k = none := rfl

theorem get?_eq_none_iff (m : OrderedMap α β) (k : α) : m.get? k = none ↔ k ∉ m.keys :=
  find_eq_none_iff k m.entries

theorem mem_of_find {k : α} {v : β} {l : List (α × β)} (h : find k l = some v) : (k, v) ∈ l := by
  induction l with
  | nil => cases h
  | cons e r ih =>
      by_cases hk : e.1 = k
      · simp only [find, hk, if_true, Option.some.injEq] at h
        rw [← hk, ← h]
        exact List.mem_cons_self
      · simp only [find, hk, if_false] at h
        exact List.mem_cons_of_mem e (ih h)

theorem mem_entries_of_get? {m : OrderedMap α β} {k : α} {v : β} (h : m.get? k = some v) :
    (k, v) ∈ m.entries :=
  mem_of_find h

/-- The value that the last pair with a key writes. -/
theorem get?_insertAll (es : List (α × β)) (m : OrderedMap α β) (k : α) :
    (m.insertAll es).get? k =
      ((es.reverse.find? (fun e => e.1 = k)).map Prod.snd).or (m.get? k) := by
  induction es generalizing m with
  | nil => simp [insertAll]
  | cons e r ih =>
      have step : m.insertAll (e :: r) = (m.insert e.1 e.2).insertAll r := rfl
      rw [step, ih, get?_insert]
      by_cases h : e.1 = k <;> simp [List.find?_append, h]

/-- In a list of pairs with distinct keys, searching from either end finds the same value. -/
theorem find?_reverse_entries (m : OrderedMap α β) (k : α) :
    (m.entries.reverse.find? (fun e => e.1 = k)).map Prod.snd = m.get? k := by
  obtain ⟨es, hd⟩ := m
  simp only [get?]
  induction es with
  | nil => rfl
  | cons e r ih =>
      simp only [List.map_cons, List.nodup_cons] at hd
      simp only [List.reverse_cons, List.find?_append]
      by_cases h : e.1 = k
      · have hr : r.reverse.find? (fun e => decide (e.1 = k)) = none := by
          rw [List.find?_eq_none]
          intro x hx hk
          refine hd.1 (List.mem_map.2 ⟨x, List.mem_reverse.1 hx, ?_⟩)
          simpa [h] using hk
        simp [hr, h, find]
      · simp [h, find, ih hd.2]

end Keys

end OrderedMap
end SchemaSet
