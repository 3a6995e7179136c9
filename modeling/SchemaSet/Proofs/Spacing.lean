import SchemaSet.Error
import SchemaSet.Proofs.Decoding

/-!
# Character data that stands for white space

`Spacing` says that characters are white space of Unicode, as they stand or by numeric references.
The white space of the markup is part of it: four characters, which core calls white space.

What stands for white space alone is spacing (`spacing_of_readValue`).  In the proof, while a
reference is read, its ampersand and the characters since belong to what is still to be shown to be
spacing.  Conversely, without references all of a spacing is white space (`Spacing.isBlank`).
-/

namespace SchemaSet
namespace Markup

section Spaces

variable {length i : Nat} {pending : Option (Nat × List Char)} {cs ds : List Char}

/-- Characters that stand for white space: white space of Unicode, and numeric references to it. -/
inductive Spacing : List Char → Prop
  | nil : Spacing []
  | blank {c : Char} {r : List Char} :
      Text.isBlank c = true → Spacing r → Spacing (c :: r)
  | reference {digits r : List Char} {n : Nat} :
      readNumber digits = .ok n → Text.isBlank (Char.ofNat n) = true → Spacing r →
      Spacing ('&' :: '#' :: digits ++ ';' :: r)

/-- No character that has a name is white space. -/
theorem numeric_of_isBlank {start stop : Nat} {name : List Char} {c : Char}
    (h : referenced start stop name = .ok c) (hc : Text.isBlank c = true) :
    ∃ digits n, name = '#' :: digits ∧ readNumber digits = .ok n ∧ c = Char.ofNat n := by
  unfold referenced at h
  split at h
  · rename_i digits
    obtain ⟨n, hn, h⟩ := bind_eq_ok_iff.1 h
    split at h
    · cases h
    · split at h
      · cases h
        exact ⟨digits, n, rfl, hn, rfl⟩
      · cases h
  · have hnamed : ∀ p ∈ namedCharacters, Text.isBlank p.2 = false := by decide
    dsimp only at h
    split at h
    · rename_i d hd
      cases h
      obtain ⟨front, back, heq, _⟩ := List.lookup_eq_some_iff.1 hd
      have hno := hnamed (String.ofList name, c) (by rw [heq]; simp)
      rw [hc] at hno
      cases hno
    · cases h

/-- What expands to white space is spacing, together with the part of a reference that is already
read. -/
theorem spacing_of_expandFrom (h : expandFrom length pending i cs = .ok ds)
    (hd : ds.all Text.isBlank = true) :
    Spacing ((pending.elim [] fun p => '&' :: p.2.reverse) ++ cs) := by
  induction cs generalizing pending i ds with
  | nil =>
      cases pending with
      | none => exact .nil
      | some p => cases h
  | cons c r ih =>
      cases pending with
      | none =>
          simp only [expandFrom] at h
          split at h
          · rename_i hc
            subst hc
            exact ih h hd
          · obtain ⟨ds', hrest, rfl⟩ := map_eq_ok_iff.1 h
            rw [List.all_cons, Bool.and_eq_true] at hd
            exact .blank hd.1 (ih hrest hd.2)
      | some p =>
          obtain ⟨start, name⟩ := p
          simp only [expandFrom] at h
          split at h
          · rename_i hc
            subst hc
            split at h
            · rename_i d hreferenced
              obtain ⟨ds', hrest, rfl⟩ := map_eq_ok_iff.1 h
              rw [List.all_cons, Bool.and_eq_true] at hd
              obtain ⟨digits, n, hname, hn, rfl⟩ := numeric_of_isBlank hreferenced hd.1
              have hspacing := Spacing.reference hn hd.1 (ih hrest hd.2)
              rw [Option.elim_some, hname]
              exact hspacing
            · cases h
          · split at h
            · cases h
            · simpa using ih h hd

/-- Octets that stand for white space are spacing. -/
theorem spacing_of_readValue {raw : Bytes} {s : String} (h : readValue raw = .ok s)
    (hs : Text.isAllBlank s = true) : ∃ t, Utf8.decode raw = .ok t ∧ Spacing t.toList := by
  unfold readValue at h
  split at h
  · cases h
  · rename_i t ht
    obtain ⟨ds, hds, rfl⟩ := map_eq_ok_iff.1 (mapError_eq_ok_iff.1 h)
    rw [Text.isAllBlank, String.toList_ofList] at hs
    exact ⟨t, ht, spacing_of_expandFrom hds hs⟩

/-- Spacing without references is white space. -/
theorem Spacing.isBlank (h : Spacing cs) (hno : '&' ∉ cs) : ∀ c ∈ cs, Text.isBlank c = true := by
  induction h with
  | nil => simp
  | blank hc _ ih =>
      intro d hd
      rcases List.mem_cons.1 hd with rfl | hd
      · exact hc
      · exact ih (fun hmem => hno (List.mem_cons_of_mem _ hmem)) d hd
  | reference _ _ _ _ => exact absurd List.mem_cons_self hno

end Spaces

section Blanks

variable {raw : Bytes} {t : String}

theorem isMarkupBlank_iff {b : UInt8} :
    Text.isMarkupBlank b = true ↔ b = 0x20 ∨ b = 0x09 ∨ b = 0x0D ∨ b = 0x0A := by
  simp [Text.isMarkupBlank, or_assoc]

/-- The white space of the markup decodes to itself. -/
theorem decodeFrom_of_isMarkupBlank {i : Nat} (h : raw.all Text.isMarkupBlank = true) :
    Utf8.decodeFrom none i raw = .ok (raw.map fun b => Char.ofNat b.toNat) := by
  induction raw generalizing i with
  | nil => rfl
  | cons b r ih =>
      rw [List.all_cons, Bool.and_eq_true] at h
      have hlead : Utf8.lead b = .whole (Char.ofNat b.toNat) := by
        rcases isMarkupBlank_iff.1 h.1 with rfl | rfl | rfl | rfl <;> rfl
      simp only [Utf8.decodeFrom, hlead, ih h.2]
      rfl

theorem isWhitespace_of_isMarkupBlank (h : raw.all Text.isMarkupBlank = true)
    (ht : Utf8.decode raw = .ok t) : ∀ c ∈ t.toList, c.isWhitespace = true := by
  obtain ⟨cs, hcs, rfl⟩ := map_eq_ok_iff.1 ht
  cases Except.ok.inj ((decodeFrom_of_isMarkupBlank h).symm.trans hcs)
  rw [String.toList_ofList]
  intro c hc
  obtain ⟨b, hb, rfl⟩ := List.mem_map.1 hc
  rcases isMarkupBlank_iff.1 (List.all_eq_true.1 h b hb) with rfl | rfl | rfl | rfl <;> rfl

theorem isMarkupBlank_of_isWhitespace (ht : Utf8.decode raw = .ok t)
    (h : ∀ c ∈ t.toList, c.isWhitespace = true) : raw.all Text.isMarkupBlank = true := by
  rw [Utf8.encode_of_decode ht, List.all_eq_true]
  intro b hb
  obtain ⟨c, hc, hb⟩ := List.mem_flatMap.1 hb
  have hspace := h c hc
  simp only [Char.isWhitespace, Bool.or_eq_true, decide_eq_true_eq] at hspace
  rcases hspace with ((rfl | rfl) | rfl) | rfl <;>
  · rw [List.mem_singleton.1 hb]
    rfl

end Blanks

end Markup
end SchemaSet
