import SchemaSet.Markup.RootScan

/-!
# Documents of one block

A document arrives in blocks, and how it is read may depend on where one block ends.  This module
shows that it does not matter for a document that is no longer than one block.

The invariant is that a cursor is `Cursor.Within` the first block: the octets that are left end
there.  Every octet of it arrived together with all octets before it, so an event is read as if the
document had arrived whole (`nextSection_whole`, `next_whole`).  Scanning a short file is therefore
scanning its content (`scanFile_of_short`).
-/

namespace SchemaSet
namespace Markup

/-- The cursor in the document that arrives whole. -/
def Cursor.whole (c : Cursor) : Cursor := { c with delivery := .whole }

/-- The outcome of the same step in the document that arrives whole. -/
def Next.whole : Next → Next
  | .read o c => .read o c.whole
  | n => n

/-- What is left of a document ends within its first block. -/
structure Cursor.Within (length : Nat) (c : Cursor) : Prop where
  blocks : c.delivery = .blocks length
  ends : c.ahead + c.offset + c.rest.length ≤ length

/-- A step stays within the first block. -/
def Next.Within (length : Nat) : Next → Prop
  | .read _ c => c.Within length
  | _ => True

@[simp] theorem rest_whole (c : Cursor) : c.whole.rest = c.rest := rfl

@[simp] theorem openNames_whole (c : Cursor) : c.whole.openNames = c.openNames := rfl

@[simp] theorem skipBlank_whole (c : Cursor) : c.whole.skipBlank = c.skipBlank.whole := rfl

section Cuts

/-- Where a section is cut depends on the octets before each `>` only. -/
theorem cutSection_congr {closes closes' : Bytes → Bool} {before bs : Bytes}
    (h : ∀ front, front.length < before.length + bs.length → closes front = closes' front) :
    cutSection closes before bs = cutSection closes' before bs := by
  induction bs generalizing before with
  | nil => rfl
  | cons b r ih =>
      have hb : closes before = closes' before := by
        apply h
        simp only [List.length_cons]
        omega
      have hr : cutSection closes (b :: before) r = cutSection closes' (b :: before) r := by
        apply ih
        intro front hf
        apply h
        simp only [List.length_cons] at hf ⊢
        omega
      simp only [cutSection, hb, hr]

theorem length_cutSection {closes : Bytes → Bool} {before bs content rest : Bytes}
    (h : cutSection closes before bs = some (content, rest)) :
    content.length + 1 + rest.length = before.length + bs.length := by
  induction bs generalizing before with
  | nil => cases h
  | cons b r ih =>
      simp only [cutSection] at h
      split at h
      · cases h
        simp only [List.length_reverse, List.length_cons]
        omega
      · have := ih h
        simp only [List.length_cons] at this ⊢
        omega

theorem length_takeWhile_add_dropWhile (p : UInt8 → Bool) (l : Bytes) :
    (l.takeWhile p).length + (l.dropWhile p).length = l.length := by
  rw [← List.length_append, List.takeWhile_append_dropWhile]

theorem length_cutPlain {bs content rest : Bytes} {used : Nat}
    (h : cutPlain bs = (content, rest, used)) : used + rest.length = bs.length := by
  have hsum := length_takeWhile_add_dropWhile (· != octet '>') bs
  have htail := ((bs.dropWhile (· != octet '>')).tail_sublist).length_le
  simp only [cutPlain, Prod.mk.injEq] at h
  obtain ⟨_, rfl, rfl⟩ := h
  omega

theorem length_cutTag {quote : Option UInt8} {bs content rest : Bytes} {ended : Bool}
    (h : cutTag quote bs = (content, rest, ended)) :
    content.length + (if ended then 1 else 0) + rest.length = bs.length := by
  induction bs generalizing quote content with
  | nil =>
      cases h
      rfl
  | cons b r ih =>
      simp only [cutTag] at h
      split at h
      · cases h
        simp only [List.length_nil, List.length_cons, if_true]
        omega
      · obtain ⟨rfl, rfl, rfl⟩ := by simpa only [Prod.mk.injEq] using h
        have hr := ih rfl
        simp only [List.length_cons]
        omega

end Cuts

section Steps

variable {length : Nat} {c : Cursor}

theorem Cursor.Within.move (h : c.Within length) {rest : Bytes} {offset : Nat} {inMarkup : Bool}
    (hl : offset + rest.length ≤ c.offset + c.rest.length) :
    (c.move rest offset inMarkup).Within length where
  blocks := h.blocks
  ends := by
    have := h.ends
    show c.ahead + offset + rest.length ≤ length
    omega

/-- The octets before one of the first block arrived with it. -/
theorem latest_whole (h : c.Within length) {before : Bytes} (hb : before.length < c.rest.length) :
    c.latest before = c.whole.latest before := by
  have hends := h.ends
  show c.delivery.latest _ before = before
  rw [h.blocks]
  exact latest_eq_of_lt (by omega) (by omega)

/-- Within the first block, a section ends where it ends in the whole document. -/
theorem closes_whole (h : c.Within length) (kind : Section) {before : Bytes}
    (hb : before.length < c.rest.length) :
    kind.closes c.latest before = kind.closes c.whole.latest before := by
  cases kind with
  | doctype => simp only [Section.closes, latest_whole h hb]
  | comment => rfl
  | cdata => rfl

/-- Within the first block, a section is read as in the whole document. -/
theorem nextSection_whole (h : c.Within length) :
    nextSection c.whole = (nextSection c).whole := by
  have hcut : ∀ kind : Section,
      cutSection (kind.closes c.whole.latest) [] c.rest =
        cutSection (kind.closes c.latest) [] c.rest := by
    intro kind
    refine cutSection_congr fun front hf => (closes_whole h kind ?_).symm
    have hlength : front.length < 0 + c.rest.length := hf
    omega
  unfold nextSection
  simp only [rest_whole, hcut]
  rcases hr : c.rest with _ | ⟨_, _ | ⟨b, r⟩⟩
  · rfl
  · rfl
  · simp only
    cases Section.ofOctet b with
    | none => rfl
    | some kind =>
        simp only
        cases cutSection (kind.closes c.latest) [] (_ :: b :: r) with
        | none => rfl
        | some p =>
            simp only
            cases kind.contentFault p.1 <;> rfl

theorem nextSection_within (h : c.Within length) : (nextSection c).Within length := by
  unfold nextSection
  split
  · split
    · trivial
    · split
      · trivial
      · rename_i hcut
        have hlength := length_cutSection hcut
        dsimp only
        split
        · trivial
        · refine h.move ?_
          simp only [List.length_nil] at hlength
          omega
  · trivial

theorem nextInstruction_whole : nextInstruction c.whole = (nextInstruction c).whole := by
  simp only [nextInstruction, apply_ite Next.whole]
  rfl

theorem nextInstruction_within (h : c.Within length) : (nextInstruction c).Within length := by
  unfold nextInstruction
  generalize hp : cutPlain c.rest = p
  obtain ⟨content, rest, used⟩ := p
  have hlength := length_cutPlain hp
  dsimp only
  split
  · refine h.move ?_
    omega
  · trivial

theorem nextClose_whole : nextClose c.whole = (nextClose c).whole := by
  simp only [nextClose, rest_whole, openNames_whole]
  cases c.openNames with
  | nil => rfl
  | cons expected outer =>
      simp only [apply_ite Next.whole]
      rfl

theorem nextClose_within (h : c.Within length) : (nextClose c).Within length := by
  unfold nextClose
  generalize hp : cutPlain c.rest = p
  obtain ⟨content, rest, used⟩ := p
  have hlength := length_cutPlain hp
  dsimp only
  split
  · trivial
  · split
    · have hmove : (c.move rest (c.offset + used) false).Within length := by
        refine h.move ?_
        omega
      exact ⟨hmove.blocks, hmove.ends⟩
    · trivial

theorem nextTag_whole : nextTag c.whole = (nextTag c).whole := by
  simp only [nextTag, apply_ite Next.whole]
  rfl

theorem nextTag_within (h : c.Within length) : (nextTag c).Within length := by
  unfold nextTag
  generalize hp : cutTag none c.rest = p
  obtain ⟨content, rest, ended⟩ := p
  have hlength := length_cutTag hp
  have hmove : (c.move rest (if ended then c.offset + content.length + 1 else c.offset)
      false).Within length := by
    refine h.move ?_
    cases ended with
    | false =>
        simp only [Bool.false_eq_true, if_false] at hlength ⊢
        omega
    | true =>
        simp only [if_true] at hlength ⊢
        omega
  dsimp only
  split
  · exact hmove
  · exact ⟨hmove.blocks, hmove.ends⟩

theorem nextMarkup_whole (h : c.Within length) :
    nextMarkup c.whole = (nextMarkup c).whole := by
  unfold nextMarkup
  simp only [rest_whole]
  rw [nextSection_whole h, nextInstruction_whole, nextClose_whole, nextTag_whole]
  cases c.rest with
  | nil => rfl
  | cons b r => simp only [apply_ite Next.whole]

theorem nextMarkup_within (h : c.Within length) : (nextMarkup c).Within length := by
  unfold nextMarkup
  split
  · trivial
  · split
    · exact nextSection_within h
    · split
      · exact nextInstruction_within h
      · split
        · exact nextClose_within h
        · exact nextTag_within h

theorem nextText_within (h : c.Within length) : (nextText c).Within length := by
  have hsum := length_takeWhile_add_dropWhile (· != octet '<') c.rest
  have htail := ((c.rest.dropWhile (· != octet '<')).tail_sublist).length_le
  refine h.move ?_
  omega

theorem skipBlank_within (h : c.Within length) : c.skipBlank.Within length where
  blocks := h.blocks
  ends := by
    have hends := h.ends
    have hsum := length_takeWhile_add_dropWhile Text.isMarkupBlank c.rest
    show c.ahead + (c.offset + (c.rest.takeWhile Text.isMarkupBlank).length) +
      (c.rest.dropWhile Text.isMarkupBlank).length ≤ length
    omega

/-- The cursor after the `<` that it stands at. -/
theorem within_after {b : UInt8} {r : Bytes} (h : c.Within length) (hr : c.rest = b :: r) :
    Cursor.Within length { c with rest := r, offset := c.offset + 1 } where
  blocks := h.blocks
  ends := by
    have hends := h.ends
    rw [hr, List.length_cons] at hends
    show c.ahead + (c.offset + 1) + r.length ≤ length
    omega

/-- Within the first block, an event is read as in the whole document. -/
theorem next_whole (h : c.Within length) : next c.whole = (next c).whole := by
  unfold next
  by_cases hm : c.inMarkup = true
  · have hm' : c.whole.inMarkup = true := hm
    rw [if_pos hm, if_pos hm']
    exact nextMarkup_whole h
  · have hm' : ¬ c.whole.inMarkup = true := hm
    rw [if_neg hm, if_neg hm']
    have hs := skipBlank_within h
    simp only [skipBlank_whole, rest_whole]
    cases hr : c.skipBlank.rest with
    | nil => rfl
    | cons b r =>
        simp only [apply_ite Next.whole]
        rw [← nextMarkup_whole (within_after hs hr)]
        rfl

/-- No step leaves the first block. -/
theorem next_within (h : c.Within length) : (next c).Within length := by
  unfold next
  split
  · exact nextMarkup_within h
  · have hs := skipBlank_within h
    dsimp only
    split
    · trivial
    · rename_i hr
      split
      · exact nextMarkup_within (within_after hs hr)
      · exact nextText_within hs

end Steps

section Runs

variable {length : Nat}

theorem eventsFrom_whole (n : Nat) {c : Cursor} (h : c.Within length) :
    eventsFrom n c.whole = eventsFrom n c := by
  induction n generalizing c with
  | zero => rfl
  | succ n ih =>
      have hwithin := next_within h
      rw [eventsFrom, eventsFrom, next_whole h]
      cases hn : next c with
      | finished => rfl
      | broken b => rfl
      | read o d =>
          rw [hn] at hwithin
          simp only [Next.whole, ih hwithin]

theorem within_ofOctets {bs : Bytes} (h : bs.length ≤ length) :
    (Cursor.ofOctets (.blocks length) bs).Within length where
  blocks := rfl
  ends := by
    have hahead : (if byteOrderMark.isPrefixOf bs then byteOrderMark.length else 0) ≤
        bs.length := by
      split
      · rename_i hp
        exact (List.isPrefixOf_iff_prefix.1 hp).length_le
      · exact Nat.zero_le _
    simp only [Cursor.ofOctets, List.length_drop]
    omega

/-- A document no longer than a block is read as if it had arrived whole. -/
theorem events_of_short {bs : Bytes} (h : bs.length ≤ length) :
    events (.blocks length) bs = events .whole bs :=
  (eventsFrom_whole _ (within_ofOctets h)).symm

/-- Scanning a file no longer than a block is scanning its content. -/
theorem scanFile_of_short {bs : Bytes} (h : bs.length ≤ RootScan.blockLength) :
    RootScan.scanFile bs = RootScan.scan bs := by
  unfold RootScan.scanFile RootScan.scan RootScan.scanDelivered
  rw [events_of_short h]

end Runs
end Markup
end SchemaSet
