import SchemaSet.Journal
import SchemaSet.Text.Blank
import SchemaSet.Text.Utf8

/-!
# Markup events

A cursor over the octets of a document alternates between character data and markup.  Each step
reads one piece of either kind and yields an event; comments, processing instructions, declarations
and CDATA sections are passed over, tags are cut from their surroundings, and an end tag has to
repeat the name of the start tag that is still open.

`events` is the journal of a whole document: the events with the number of octets read, and how the
reading ended.  Both readers of documents start from it.  A document arrives whole or in blocks,
which tells in a document type declaration: its `<` and `>` are balanced within the block that has
arrived last.  In the first block, all octets count (`latest_eq_of_lt`).

Every event uses up octets (`next_lt`), so that reading ends, and the bound on the number of events
is never reached (`eventsFrom_eq`).
-/

namespace SchemaSet
namespace Markup

/-- The octet of an ASCII character. -/
def octet (c : Char) : UInt8 := UInt8.ofNat c.toNat

/-- The inside of a start tag or an empty tag, cut after the name. -/
structure Tag where
  name : Bytes
  /-- What follows the name, without the slash of an empty tag. -/
  rest : Bytes
deriving DecidableEq, Repr

/-- The tag with some content: its name ends at the first white space. -/
def Tag.ofContent (content : Bytes) : Tag :=
  ⟨content.takeWhile (fun b => !Text.isMarkupBlank b),
    content.dropWhile (fun b => !Text.isMarkupBlank b)⟩

/-- A piece of a document. -/
inductive Event
  | start (tag : Tag)
  /-- A tag that is start and end in one. -/
  | empty (tag : Tag)
  /-- The end tag of the innermost open element. -/
  | close
  /-- Character data, without white space around it. -/
  | text (raw : Bytes)
  | cdata
  | comment
  /-- A processing instruction or the declaration of the document. -/
  | instruction
  /-- A document type declaration. -/
  | doctype
deriving DecidableEq, Repr

/-- An event and where it ends. -/
structure Occurrence where
  event : Event
  /-- The number of octets up to its end; for character data, up to one before it. -/
  position : Nat
deriving DecidableEq, Repr

/-- What an exclamation mark begins. -/
inductive Section
  | cdata
  | comment
  /-- A document type declaration. -/
  | doctype
deriving DecidableEq, Repr

/-- Why no event can be read. -/
inductive BreakCause
  /-- An exclamation mark is followed by an octet that begins nothing. -/
  | strayMark (octet : UInt8)
  | endAfterMark
  /-- A section does not end or does not begin as it should. -/
  | endInSection (kind : Section)
  /-- A processing instruction does not end as it should. -/
  | endInInstruction
  /-- A document type declaration is empty. -/
  | emptyDoctype
  /-- An end tag does not close the innermost open element. -/
  | mismatch (expected found : String)
deriving DecidableEq, Repr

def BreakCause.message : BreakCause → String
  | .strayMark b =>
      "Only Comment (\x60--\x60), CDATA (\x60[CDATA[\x60) and DOCTYPE (\x60DOCTYPE\x60) nodes " ++
        "can start with a '!', but symbol \x60" ++ String.ofList [Char.ofNat b.toNat] ++
        "\x60 found"
  | .endAfterMark => "Unexpected EOF during reading Bang"
  | .endInSection .cdata => "Unexpected EOF during reading CData"
  | .endInSection .comment => "Unexpected EOF during reading Comment"
  | .endInSection .doctype => "Unexpected EOF during reading DOCTYPE"
  | .endInInstruction => "Unexpected EOF during reading XmlDecl"
  | .emptyDoctype => "DOCTYPE declaration must not be empty"
  | .mismatch e f => "Expecting </" ++ e ++ "> found </" ++ f ++ ">"

/-- The place and the cause of a failure to read an event. -/
structure Break where
  /-- The number of octets read. -/
  position : Nat
  cause : BreakCause
deriving DecidableEq, Repr

/-- How the octets of a document arrive. -/
inductive Delivery
  /-- All at once. -/
  | whole
  | blocks (length : Nat)
deriving DecidableEq, Repr

/-- The octets of the block that holds the octet at a place, among those before it, last
first. -/
def Delivery.latest : Delivery → (place : Nat) → Bytes → Bytes
  | .whole, _, before => before
  | .blocks length, place, before => before.take (place % length)

theorem latest_eq_of_lt {length place : Nat} {before : Bytes} (hp : place < length)
    (hb : before.length ≤ place) : (Delivery.blocks length).latest place before = before := by
  simp [Delivery.latest, Nat.mod_eq_of_lt hp, List.take_of_length_le hb]

/-- Where the reading of a document stands. -/
structure Cursor where
  /-- How the octets arrive. -/
  delivery : Delivery
  /-- The number of octets ahead of those that are counted. -/
  ahead : Nat
  /-- The octets that are left. -/
  rest : Bytes
  /-- The number of octets read. -/
  offset : Nat
  /-- The names of the open elements, innermost first. -/
  openNames : List Bytes
  /-- Whether a `<` has been read and markup follows. -/
  inMarkup : Bool
deriving DecidableEq, Repr

/-- The outcome of one step. -/
inductive Next
  /-- The document has ended. -/
  | finished
  /-- No event can be read. -/
  | broken (b : Break)
  /-- An event, and where the reading stands after it. -/
  | read (o : Occurrence) (c : Cursor)
deriving DecidableEq, Repr

/-- Cuts octets at the first `>` that `closes` accepts, given the octets before it, last
first. -/
def cutSection (closes : Bytes → Bool) (before : Bytes) : Bytes → Option (Bytes × Bytes)
  | [] => none
  | b :: r =>
      if b == octet '>' && closes before then some (before.reverse, r)
      else cutSection closes (b :: before) r

/-- Whether a `>` ends a section, given the octets since its `<`, last first; `latest` gives those
of them that arrived with it. -/
def Section.closes (latest : Bytes → Bytes) : Section → Bytes → Bool
  | .comment, before => [octet '-', octet '-'].isPrefixOf before && 5 ≤ before.length
  | .cdata, before => [octet ']', octet ']'].isPrefixOf before
  | .doctype, before => (latest before).count (octet '<') == (latest before).count (octet '>')

/-- The octets, of those since the cursor, that arrived with the octet after them. -/
def Cursor.latest (c : Cursor) (before : Bytes) : Bytes :=
  c.delivery.latest (c.ahead + c.offset + before.length) before

/-- The upper-case form of an ASCII letter. -/
def upper (b : UInt8) : UInt8 := if 0x61 ≤ b && b ≤ 0x7A then b - 0x20 else b

/-- How the content of a section begins, in upper case. -/
def Section.opening : Section → Bytes
  | .comment => "!--".toList.map octet
  | .cdata => "![CDATA[".toList.map octet
  | .doctype => "!DOCTYPE".toList.map octet

def Section.event : Section → Event
  | .comment => .comment
  | .cdata => .cdata
  | .doctype => .doctype

/-- The section that an octet after an exclamation mark begins. -/
def Section.ofOctet (b : UInt8) : Option Section :=
  if b == octet '[' then some .cdata
  else if b == octet '-' then some .comment
  else if b == octet 'D' || b == octet 'd' then some .doctype
  else none

/-- What is wrong with the content of a section. -/
def Section.contentFault (kind : Section) (content : Bytes) : Option BreakCause :=
  if kind.opening.isPrefixOf (content.map upper) then
    match kind with
    | .doctype =>
        if (content.drop kind.opening.length).all Text.isMarkupBlank then some .emptyDoctype
        else none
    | _ => none
  else some (.endInSection kind)

/-- The cursor with the octets that are left and the number of octets read; `inMarkup` tells
whether a `<` has been read. -/
def Cursor.move (c : Cursor) (rest : Bytes) (offset : Nat) (inMarkup : Bool) : Cursor :=
  { c with rest, offset, inMarkup }

@[simp] theorem rest_move (c : Cursor) (rest : Bytes) (offset : Nat) (inMarkup : Bool) :
    (c.move rest offset inMarkup).rest = rest := rfl

/-- Reads a section; `c` stands at its exclamation mark. -/
def nextSection (c : Cursor) : Next :=
  match c.rest with
  | _ :: b :: _ =>
      match Section.ofOctet b with
      | none => .broken ⟨c.offset, .strayMark b⟩
      | some kind =>
          match cutSection (kind.closes c.latest) [] c.rest with
          | none => .broken ⟨c.offset, .endInSection kind⟩
          | some (content, rest) =>
              let offset := c.offset + content.length + 1
              match kind.contentFault content with
              | some cause => .broken ⟨offset, cause⟩
              | none => .read ⟨kind.event, offset⟩ (c.move rest offset false)
  | _ => .broken ⟨c.offset, .endAfterMark⟩

/-- The octets up to the first `>` or the end, what is left, and the number of octets used. -/
def cutPlain (bs : Bytes) : Bytes × Bytes × Nat :=
  let content := bs.takeWhile (· != octet '>')
  let rest := bs.dropWhile (· != octet '>')
  (content, rest.tail, content.length + rest.length - rest.tail.length)

/-- Reads a processing instruction; `c` stands at its question mark. -/
def nextInstruction (c : Cursor) : Next :=
  let (content, rest, used) := cutPlain c.rest
  let offset := c.offset + used
  if 2 < content.length && content.getLast? == some (octet '?') then
    .read ⟨.instruction, offset⟩ (c.move rest offset false)
  else .broken ⟨offset - content.length, .endInInstruction⟩

/-- The name of an end tag: white space after it does not count, unless there is nothing else. -/
def closingName (raw : Bytes) : Bytes :=
  if raw.all Text.isMarkupBlank then raw else Text.dropEnd Text.isMarkupBlank raw

/-- A name as a text; octets that are no text show as nothing. -/
def shownName (name : Bytes) : String :=
  match Utf8.decode name with
  | .ok s => s
  | .error _ => ""

/-- Reads an end tag; `c` stands at its slash. -/
def nextClose (c : Cursor) : Next :=
  let (content, rest, used) := cutPlain c.rest
  let offset := c.offset + used
  let name := closingName content.tail
  match c.openNames with
  | [] => .broken ⟨offset - content.length, .mismatch "" (shownName content.tail)⟩
  | expected :: outer =>
      if name = expected then
        .read ⟨.close, offset⟩ { c.move rest offset false with openNames := outer }
      else .broken ⟨offset - content.length, .mismatch (shownName expected) (shownName name)⟩

/-- The octets up to the first `>` outside quotes or the end, what is left, and whether there
was a `>`; `quote` is the quote that is open. -/
def cutTag (quote : Option UInt8) : Bytes → Bytes × Bytes × Bool
  | [] => ([], [], false)
  | b :: r =>
      if quote.isNone && b == octet '>' then ([], r, true)
      else
        let quote' :=
          match quote with
          | some q => if b == q then none else quote
          | none => if b == octet '"' || b == octet '\'' then some b else none
        let (content, rest, ended) := cutTag quote' r
        (b :: content, rest, ended)

/-- Reads a start tag or an empty tag; `c` stands at its name.  The octets of a tag that the
document cuts short are not counted. -/
def nextTag (c : Cursor) : Next :=
  let (content, rest, ended) := cutTag none c.rest
  let offset := if ended then c.offset + content.length + 1 else c.offset
  if content.getLast? == some (octet '/') then
    .read ⟨.empty (Tag.ofContent content.dropLast), offset⟩ (c.move rest offset false)
  else
    let tag := Tag.ofContent content
    .read ⟨.start tag, offset⟩
      { c.move rest offset false with openNames := tag.name :: c.openNames }

/-- Reads the markup after a `<`. -/
def nextMarkup (c : Cursor) : Next :=
  match c.rest with
  | [] => .finished
  | b :: _ =>
      if b == octet '!' then nextSection c
      else if b == octet '?' then nextInstruction c
      else if b == octet '/' then nextClose c
      else nextTag c

/-- Reads character data, which begins with something other than white space and `<`. -/
def nextText (c : Cursor) : Next :=
  let raw := c.rest.takeWhile (· != octet '<')
  let rest := c.rest.dropWhile (· != octet '<')
  let offset := c.offset + raw.length + rest.length - rest.tail.length
  .read ⟨.text (Text.dropEnd Text.isMarkupBlank raw), offset - 1⟩ (c.move rest.tail offset true)

/-- The cursor after white space. -/
def Cursor.skipBlank (c : Cursor) : Cursor :=
  { c with
    rest := c.rest.dropWhile Text.isMarkupBlank
    offset := c.offset + (c.rest.takeWhile Text.isMarkupBlank).length }

/-- Reads one event. -/
def next (c : Cursor) : Next :=
  if c.inMarkup then nextMarkup c
  else
    let d := c.skipBlank
    match d.rest with
    | [] => .finished
    | b :: r =>
        if b == octet '<' then nextMarkup { d with rest := r, offset := d.offset + 1 }
        else nextText d

section Progress

theorem cutSection_lt {closes : Bytes → Bool} {before bs content rest : Bytes}
    (h : cutSection closes before bs = some (content, rest)) : rest.length < bs.length := by
  induction bs generalizing before with
  | nil => simp [cutSection] at h
  | cons b r ih =>
      simp only [cutSection] at h
      split at h
      · simp only [Option.some.injEq, Prod.mk.injEq] at h
        simp [← h.2]
      · have := ih h
        simp only [List.length_cons]; omega

theorem length_tail_dropWhile_le (p : UInt8 → Bool) (l : Bytes) :
    ((l.dropWhile p).tail).length ≤ l.length :=
  Nat.le_trans ((l.dropWhile p).tail_sublist).length_le (List.dropWhile_sublist p).length_le

theorem cutPlain_lt {b : UInt8} {r : Bytes} (hb : b ≠ octet '>') :
    (cutPlain (b :: r)).2.1.length < (b :: r).length := by
  have h := length_tail_dropWhile_le (· != octet '>') r
  simp only [cutPlain, List.dropWhile_cons, bne_iff_ne, ne_eq, hb, not_false_eq_true, if_true,
    List.length_cons]
  omega

theorem cutTag_le (quote : Option UInt8) (bs : Bytes) :
    (cutTag quote bs).2.1.length ≤ bs.length := by
  induction bs generalizing quote with
  | nil => simp [cutTag]
  | cons b r ih =>
      simp only [cutTag]
      split
      · simp
      · exact Nat.le_trans (ih _) (by simp)

theorem cutTag_lt (quote : Option UInt8) (b : UInt8) (r : Bytes) :
    (cutTag quote (b :: r)).2.1.length < (b :: r).length := by
  simp only [cutTag]
  split
  · simp
  · exact Nat.lt_succ_of_le (cutTag_le _ r)

theorem nextMarkup_lt {c d : Cursor} {o : Occurrence} (h : nextMarkup c = .read o d) :
    d.rest.length < c.rest.length := by
  unfold nextMarkup at h
  split at h
  · exact absurd h (by simp)
  · rename_i b r hr
    split at h
    · unfold nextSection at h
      split at h
      · split at h
        · exact absurd h (by simp)
        · split at h
          · exact absurd h (by simp)
          · rename_i hcut
            dsimp only at h
            split at h
            · exact absurd h (by simp)
            · simp only [Next.read.injEq] at h
              rw [← h.2]
              exact cutSection_lt hcut
      · exact absurd h (by simp)
    · split at h
      · rename_i hq
        have hb : b ≠ octet '>' := by rw [eq_of_beq hq]; decide
        unfold nextInstruction at h
        dsimp only at h
        split at h
        · simp only [Next.read.injEq] at h
          rw [← h.2, hr]
          exact cutPlain_lt hb
        · exact absurd h (by simp)
      · split at h
        · rename_i hq
          have hb : b ≠ octet '>' := by rw [eq_of_beq hq]; decide
          unfold nextClose at h
          dsimp only at h
          split at h
          · exact absurd h (by simp)
          · split at h
            · simp only [Next.read.injEq] at h
              rw [← h.2, hr]
              exact cutPlain_lt hb
            · exact absurd h (by simp)
        · unfold nextTag at h
          dsimp only at h
          split at h <;>
          · simp only [Next.read.injEq] at h
            rw [← h.2, hr]
            exact cutTag_lt none b r

theorem nextText_lt {c d : Cursor} {o : Occurrence} {b : UInt8} {r : Bytes}
    (hr : c.rest = b :: r) (hb : b ≠ octet '<') (h : nextText c = .read o d) :
    d.rest.length < c.rest.length := by
  simp only [nextText, Next.read.injEq] at h
  rw [← h.2, hr]
  have hl := length_tail_dropWhile_le (· != octet '<') r
  simp only [rest_move, List.dropWhile_cons, bne_iff_ne, ne_eq, hb, not_false_eq_true, if_true,
    List.length_cons]
  omega

/-- Every event uses up octets. -/
theorem next_lt {c d : Cursor} {o : Occurrence} (h : next c = .read o d) :
    d.rest.length < c.rest.length := by
  unfold next at h
  split at h
  · exact nextMarkup_lt h
  · have hs : c.skipBlank.rest.length ≤ c.rest.length := (List.dropWhile_sublist _).length_le
    dsimp only at h
    split at h
    · exact absurd h (by simp)
    · rename_i b r hr
      split at h
      · have := nextMarkup_lt h
        rw [hr] at hs
        simp only [List.length_cons] at hs
        simp only at this
        omega
      · rename_i hb
        exact Nat.lt_of_lt_of_le (nextText_lt hr (by simpa using hb) h) hs

end Progress

/-- At most `n` events from a cursor on. -/
def eventsFrom : (n : Nat) → Cursor → Journal Occurrence Break Unit
  | 0, _ => .done ()
  | n + 1, c =>
      match next c with
      | .finished => .done ()
      | .broken b => .fail b
      | .read o d => (Journal.note o).bind fun _ => eventsFrom n d

/-- Once the bound exceeds the number of octets that are left, it does not matter. -/
theorem eventsFrom_eq {m n : Nat} {c : Cursor} (hm : c.rest.length < m) (hn : c.rest.length < n) :
    eventsFrom m c = eventsFrom n c := by
  induction m generalizing n c with
  | zero => omega
  | succ m ih =>
      cases n with
      | zero => omega
      | succ n =>
          simp only [eventsFrom]
          cases h : next c with
          | finished => rfl
          | broken b => rfl
          | read o d =>
              have hd := next_lt h
              have : eventsFrom m d = eventsFrom n d := ih (by omega) (by omega)
              simp only [this]

/-- The octets of a byte order mark. -/
def byteOrderMark : Bytes := [0xEF, 0xBB, 0xBF]

/-- The cursor at the start of a document, after a byte order mark. -/
def Cursor.ofOctets (delivery : Delivery) (bs : Bytes) : Cursor :=
  let ahead := if byteOrderMark.isPrefixOf bs then byteOrderMark.length else 0
  ⟨delivery, ahead, bs.drop ahead, 0, [], false⟩

/-- The events of a document, and how its reading ended. -/
def events (delivery : Delivery) (bs : Bytes) : Journal Occurrence Break Unit :=
  eventsFrom (bs.length + 1) (Cursor.ofOctets delivery bs)

end Markup
end SchemaSet
