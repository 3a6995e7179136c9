import Mathlib.Data.List.Basic
import SchemaSet.Text.Utf8

/-!
# Each text is written in one way

`Utf8.Due.Begins` is the invariant of the decoder: what was read of a character, followed by octets
that are due, is the encoding of the character that they add up to.  The first octet establishes it,
whatever the length of the character, and each further octet preserves it.

So octets that decode to a text are those that encode it (`encode_of_decode`), and no two octet
strings decode to one text.
-/

namespace SchemaSet

theorem map_eq_ok_iff {ε α β : Type} {x : Except ε α} {f : α → β} {b : β} :
    x.map f = .ok b ↔ ∃ a, x = .ok a ∧ f a = b := by
  cases x <;> simp [Except.map]

namespace Utf8

section Begins

/-- Octets that may follow the second one inside a character. -/
def Trails (tail : Bytes) : Prop := ∀ b ∈ tail, 0x80 ≤ b.toNat ∧ b.toNat ≤ 0xBF

/-- Some octets, followed by what is due, are the encoding of a character. -/
def Due.Begins (d : Due) (front : Bytes) : Prop :=
  ∀ b tail, d.admits b = true → Trails tail → tail.length = d.later →
    String.utf8EncodeChar (Char.ofNat ((b :: tail).foldl Due.next d).bits) = front ++ b :: tail

theorem admits_iff {d : Due} {b : UInt8} :
    d.admits b = true ↔ d.low.toNat ≤ b.toNat ∧ b.toNat ≤ d.high.toNat := by
  rw [Due.admits, Bool.and_eq_true, decide_eq_true_iff, decide_eq_true_iff, UInt8.le_iff_toNat_le,
    UInt8.le_iff_toNat_le]

theorem toNat_ofNat {n : Nat} (h : n.isValidChar) : (Char.ofNat n).val.toNat = n := by
  rw [Char.ofNat, dif_pos h]
  rfl

theorem ofNat_eq {n : Nat} {b : UInt8} (h : n = b.toNat) : UInt8.ofNat n = b := by
  rw [h, UInt8.ofNat_toNat]

theorem encodeChar_two {a b : UInt8} (ha : 0xC2 ≤ a.toNat) (ha' : a.toNat < 0xE0)
    (hb : 0x80 ≤ b.toNat) (hb' : b.toNat ≤ 0xBF) :
    String.utf8EncodeChar (Char.ofNat ((a.toNat - 0xC0) * 64 + (b.toNat - 0x80))) = [a, b] := by
  generalize hn : (a.toNat - 0xC0) * 64 + (b.toNat - 0x80) = n
  have hv : n.isValidChar := .inl (by omega)
  rw [String.utf8EncodeChar, toNat_ofNat hv]
  rw [if_neg (by omega), if_pos (by omega), ofNat_eq (b := a) (by omega),
    ofNat_eq (b := b) (by omega)]

theorem encodeChar_three {a b c : UInt8} (ha : 0xE0 ≤ a.toNat) (ha' : a.toNat < 0xF0)
    (hb : 0x80 ≤ b.toNat) (hb' : b.toNat ≤ 0xBF) (hlow : a.toNat = 0xE0 → 0xA0 ≤ b.toNat)
    (hhigh : a.toNat = 0xED → b.toNat ≤ 0x9F) (hc : 0x80 ≤ c.toNat) (hc' : c.toNat ≤ 0xBF) :
    String.utf8EncodeChar
      (Char.ofNat (((a.toNat - 0xE0) * 64 + (b.toNat - 0x80)) * 64 + (c.toNat - 0x80))) =
        [a, b, c] := by
  generalize hn : ((a.toNat - 0xE0) * 64 + (b.toNat - 0x80)) * 64 + (c.toNat - 0x80) = n
  have hv : n.isValidChar := by
    unfold Nat.isValidChar
    omega
  rw [String.utf8EncodeChar, toNat_ofNat hv]
  rw [if_neg (by omega), if_neg (by omega), if_pos (by omega), ofNat_eq (b := a) (by omega),
    ofNat_eq (b := b) (by omega), ofNat_eq (b := c) (by omega)]

theorem encodeChar_four {a b c e : UInt8} (ha : 0xF0 ≤ a.toNat) (ha' : a.toNat ≤ 0xF4)
    (hb : 0x80 ≤ b.toNat) (hb' : b.toNat ≤ 0xBF) (hlow : a.toNat = 0xF0 → 0x90 ≤ b.toNat)
    (hhigh : a.toNat = 0xF4 → b.toNat ≤ 0x8F) (hc : 0x80 ≤ c.toNat) (hc' : c.toNat ≤ 0xBF)
    (he : 0x80 ≤ e.toNat) (he' : e.toNat ≤ 0xBF) :
    String.utf8EncodeChar
      (Char.ofNat ((((a.toNat - 0xF0) * 64 + (b.toNat - 0x80)) * 64 + (c.toNat - 0x80)) * 64 +
        (e.toNat - 0x80))) = [a, b, c, e] := by
  generalize hn : (((a.toNat - 0xF0) * 64 + (b.toNat - 0x80)) * 64 + (c.toNat - 0x80)) * 64 +
    (e.toNat - 0x80) = n
  have hv : n.isValidChar := by
    unfold Nat.isValidChar
    omega
  rw [String.utf8EncodeChar, toNat_ofNat hv]
  rw [if_neg (by omega), if_neg (by omega), if_neg (by omega), ofNat_eq (b := a) (by omega),
    ofNat_eq (b := b) (by omega), ofNat_eq (b := c) (by omega), ofNat_eq (b := e) (by omega)]

/-- What an octet leaves due that begins a longer character. -/
theorem lead_eq_first {a : UInt8} {d : Due} (h : lead a = .first d) :
    (0xC2 ≤ a.toNat ∧ a.toNat < 0xE0 ∧ d = ⟨0x80, 0xBF, 0, a.toNat - 0xC0, 1⟩) ∨
      (∃ low high, d = ⟨low, high, 1, a.toNat - 0xE0, 1⟩ ∧ 0xE0 ≤ a.toNat ∧ a.toNat < 0xF0 ∧
        0x80 ≤ low.toNat ∧ high.toNat ≤ 0xBF ∧ (a.toNat = 0xE0 → 0xA0 ≤ low.toNat) ∧
        (a.toNat = 0xED → high.toNat ≤ 0x9F)) ∨
      (∃ low high, d = ⟨low, high, 2, a.toNat - 0xF0, 1⟩ ∧ 0xF0 ≤ a.toNat ∧ a.toNat ≤ 0xF4 ∧
        0x80 ≤ low.toNat ∧ high.toNat ≤ 0xBF ∧ (a.toNat = 0xF0 → 0x90 ≤ low.toNat) ∧
        (a.toNat = 0xF4 → high.toNat ≤ 0x8F)) := by
  unfold lead at h
  simp only [UInt8.lt_iff_toNat_lt, ← UInt8.toNat_inj, UInt8.reduceToNat] at h
  split at h
  · cases h
  split at h
  · cases h
  split at h
  · cases h
    exact .inl ⟨by omega, by omega, rfl⟩
  split at h
  · rename_i ha
    cases h
    exact .inr (.inl ⟨0xA0, 0xBF, by rw [ha], by omega, by omega, by decide, by decide,
      fun _ => by decide, fun q => by omega⟩)
  split at h
  · rename_i ha
    cases h
    exact .inr (.inl ⟨0x80, 0x9F, by rw [ha], by omega, by omega, by decide, by decide,
      fun q => by omega, fun _ => by decide⟩)
  split at h
  · cases h
    exact .inr (.inl ⟨0x80, 0xBF, rfl, by omega, by omega, by decide, by decide,
      fun q => by omega, fun q => by omega⟩)
  split at h
  · rename_i ha
    cases h
    exact .inr (.inr ⟨0x90, 0xBF, by rw [ha], by omega, by omega, by decide, by decide,
      fun _ => by decide, fun q => by omega⟩)
  split at h
  · cases h
    exact .inr (.inr ⟨0x80, 0xBF, rfl, by omega, by omega, by decide, by decide,
      fun q => by omega, fun q => by omega⟩)
  split at h
  · rename_i ha
    cases h
    exact .inr (.inr ⟨0x80, 0x8F, by rw [ha], by omega, by omega, by decide, by decide,
      fun q => by omega, fun _ => by decide⟩)
  · cases h

/-- The first octet of a longer character begins it. -/
theorem begins_of_lead {a : UInt8} {d : Due} (h : lead a = .first d) : d.Begins [a] := by
  intro b tail hb htail hlength
  have hb := admits_iff.1 hb
  rcases lead_eq_first h with ⟨ha, ha', rfl⟩ | ⟨low, high, rfl, ha, ha', hl, hh, hl', hh'⟩ |
    ⟨low, high, rfl, ha, ha', hl, hh, hl', hh'⟩
  · cases List.length_eq_zero_iff.1 hlength
    exact encodeChar_two ha ha' hb.1 hb.2
  · obtain ⟨c, rfl⟩ := List.length_eq_one_iff.1 hlength
    have hc := htail c (by simp)
    simp only at hb
    exact encodeChar_three ha ha' (by omega) (by omega) (by omega) (by omega) hc.1 hc.2
  · obtain ⟨c, e, rfl⟩ := List.length_eq_two.1 hlength
    have hc := htail c (by simp)
    have he := htail e (by simp)
    simp only at hb
    exact encodeChar_four ha ha' (by omega) (by omega) (by omega) (by omega) hc.1 hc.2 he.1 he.2

/-- A further octet that is due carries it on. -/
theorem begins_of_next {d : Due} {b : UInt8} {front : Bytes} (h : d.Begins front)
    (hb : d.admits b = true) (hl : d.later ≠ 0) : (d.next b).Begins (front ++ [b]) := by
  intro c tail hc htail hlength
  have hcont : Trails (c :: tail) := by
    intro x hx
    rcases List.mem_cons.1 hx with rfl | hx
    · exact admits_iff.1 hc
    · exact htail x hx
  have hcount : (c :: tail).length = d.later := by
    have hrest : tail.length = d.later - 1 := hlength
    rw [List.length_cons, hrest]
    exact Nat.succ_pred_eq_of_ne_zero hl
  rw [List.append_assoc, List.singleton_append]
  exact h b (c :: tail) hb hcont hcount

theorem lead_eq_whole {a : UInt8} {c : Char} (h : lead a = .whole c) :
    String.utf8EncodeChar c = [a] := by
  unfold lead at h
  split at h
  · rename_i ha
    cases h
    have ha : a.toNat < 0x80 := ha
    have hv : a.toNat.isValidChar := .inl (by omega)
    rw [String.utf8EncodeChar, toNat_ofNat hv, if_pos (by omega), UInt8.ofNat_toNat]
  · repeat' split at h
    all_goals cases h

end Begins

/-- Some octets are what was read of the character that is due, if any. -/
def Reads : Option Due → Bytes → Prop
  | none, front => front = []
  | some d, front => d.Begins front

theorem reads_none : Reads none [] := rfl

theorem reads_some {d : Due} {front : Bytes} (h : d.Begins front) : Reads (some d) front := h

/-- What was read of a character and the octets that are left encode what they decode to. -/
theorem encodeChars_of_decodeFrom {due : Option Due} {i : Nat} {front bs : Bytes} {cs : List Char}
    (hd : Reads due front) (h : decodeFrom due i bs = .ok cs) : front ++ bs = encodeChars cs := by
  induction bs generalizing due i front cs with
  | nil =>
      cases due with
      | none =>
          cases h
          cases hd
          rfl
      | some d => cases h
  | cons b r ih =>
      cases due with
      | none =>
          cases hd
          simp only [decodeFrom] at h
          split at h
          · rename_i c hc
            obtain ⟨cs', hcs, rfl⟩ := map_eq_ok_iff.1 h
            have hrest := ih reads_none hcs
            rw [encodeChars, List.flatMap_cons, lead_eq_whole hc, ← encodeChars, ← hrest]
            rfl
          · rename_i d hc
            exact ih (reads_some (begins_of_lead hc)) h
          · cases h
      | some d =>
          simp only [decodeFrom] at h
          split at h
          · rename_i hb
            split at h
            · rename_i hlater
              obtain ⟨cs', hcs, rfl⟩ := map_eq_ok_iff.1 h
              have hrest := ih reads_none hcs
              have hchar := hd b [] hb (by simp [Trails]) hlater.symm
              rw [encodeChars, List.flatMap_cons, ← encodeChars, ← hrest]
              rw [List.append_cons, ← hchar]
              rfl
            · rename_i hlater
              have hrest := ih (reads_some (begins_of_next hd hb hlater)) h
              rw [← hrest]
              simp
          · cases h

/-- Octets that decode to a text are those that encode it. -/
theorem encode_of_decode {bs : Bytes} {s : String} (h : decode bs = .ok s) : bs = encode s := by
  obtain ⟨cs, hcs, rfl⟩ := map_eq_ok_iff.1 h
  rw [encode, String.toList_ofList]
  exact encodeChars_of_decodeFrom reads_none hcs

theorem decode_injective {bs bs' : Bytes} {s : String} (h : decode bs = .ok s)
    (h' : decode bs' = .ok s) : bs = bs' :=
  (encode_of_decode h).trans (encode_of_decode h').symm

end Utf8
end SchemaSet
