/-!
# Cutting lists

Paths are cut at slashes, qualified names at a colon and attribute values at white space.  No piece
contains the separator (`not_mem_pieces`), and lists without the separator are the pieces of what
they join to (`pieces_join`).
-/

namespace SchemaSet
namespace Text

variable {α : Type}

/-- The pieces between the elements that satisfy `p`; there is always at least one. -/
def pieces (p : α → Bool) : List α → List (List α)
  | [] => [[]]
  | a :: r =>
      if p a then [] :: pieces p r
      else
        match pieces p r with
        | [] => [[a]]
        | x :: xs => (a :: x) :: xs

/-- The parts before and after the first element that satisfies `p`, if there is one. -/
def cut (p : α → Bool) : List α → Option (List α × List α)
  | [] => none
  | a :: r => if p a then some ([], r) else (cut p r).map fun c => (a :: c.1, c.2)

/-- The lists one after the other with `s` between them. -/
def join (s : α) : List (List α) → List α
  | [] => []
  | [x] => x
  | x :: y :: r => x ++ s :: join s (y :: r)

/-- A list without its last elements that satisfy `p`. -/
def dropEnd (p : α → Bool) (l : List α) : List α := (l.reverse.dropWhile p).reverse

/-- The non-empty pieces between the elements that satisfy `p`. -/
def words (p : α → Bool) (l : List α) : List (List α) := (pieces p l).filter (fun w => !w.isEmpty)

theorem not_mem_pieces (p : α → Bool) {l x : List α} (hx : x ∈ pieces p l) :
    ∀ a ∈ x, p a = false := by
  induction l generalizing x with
  | nil => simp_all [pieces]
  | cons b r ih =>
      simp only [pieces] at hx
      split at hx
      · rcases List.mem_cons.1 hx with rfl | hx
        · simp
        · exact ih hx
      · rename_i hb
        split at hx
        · simp_all
        · rename_i y ys hy
          rcases List.mem_cons.1 hx with rfl | hx
          · intro a ha
            rcases List.mem_cons.1 ha with rfl | ha
            · simpa using hb
            · exact ih (hy ▸ List.mem_cons_self) a ha
          · exact ih (hy ▸ List.mem_cons_of_mem y hx)

theorem pieces_of_none (p : α → Bool) {l : List α} (h : ∀ a ∈ l, p a = false) :
    pieces p l = [l] := by
  induction l with
  | nil => rfl
  | cons a r ih =>
      have hr := ih fun b hb => h b (List.mem_cons_of_mem a hb)
      simp [pieces, h a List.mem_cons_self, hr]

theorem pieces_append_cons (p : α → Bool) {x : List α} (h : ∀ a ∈ x, p a = false) {s : α}
    (hs : p s = true) (r : List α) :
    pieces p (x ++ s :: r) = x :: pieces p r := by
  induction x with
  | nil => simp [pieces, hs]
  | cons a y ih =>
      have hy := ih fun b hb => h b (List.mem_cons_of_mem a hb)
      simp [pieces, h a List.mem_cons_self, hy]

theorem pieces_join [BEq α] [LawfulBEq α] (s : α) {l : List (List α)} (hl : l ≠ [])
    (h : ∀ x ∈ l, s ∉ x) :
    pieces (· == s) (join s l) = l := by
  have none : ∀ x ∈ l, ∀ a ∈ x, (a == s) = false := fun x hx a ha =>
    beq_eq_false_iff_ne.2 fun q => h x hx (q ▸ ha)
  induction l with
  | nil => exact absurd rfl hl
  | cons x r ih =>
      cases r with
      | nil => exact pieces_of_none _ (none x List.mem_cons_self)
      | cons y r =>
          have hr : pieces (· == s) (join s (y :: r)) = y :: r :=
            ih (by simp) (fun z hz => h z (List.mem_cons_of_mem x hz))
              (fun z hz => none z (List.mem_cons_of_mem x hz))
          have hx := pieces_append_cons (· == s) (none x List.mem_cons_self) (beq_self_eq_true s)
            (join s (y :: r))
          rw [hr] at hx
          exact hx

end Text
end SchemaSet
