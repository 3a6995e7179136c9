import Mathlib.Data.List.TakeWhile
import SchemaSet.Proofs.Addition
import SchemaSet.Proofs.Decoding
import SchemaSet.Url.FilePath

/-!
# Reading back the URL of a path

`writtenName` is the segment that stands for the name of a directory entry in a `file` URL, and
`writtenNames` is the path of the URL, from the top of the file system on.  `Plain` says which
characters are in a segment.

The set of octets that a name may not show covers all that the reading of URLs treats in its own
way: controls and spaces, which are dropped, the ends of segments, of the path and of the authority,
the percent sign, and what the path of a URL may not show.  Dots and drives remain.  A segment means
dots only for a name of dots, and a drive is written anew only in the first place, which the empty
segment before the path holds.

Main facts:
* `decodeOctets_writtenName`: a segment is percent-decoded to the name that it stands for;
* `encodeChars_of_plain`: a segment is not encoded a second time;
* `walkSegments_of_undotted`: segments without dots are kept in order;
* `parse_writtenNames`: the segments that are read are those that are written;
* `toPath_of_route`: the names are read back, with a slash after them if they end in a drive;
* `same_closeDrive`: this slash makes no difference to the components of a path.
-/

namespace SchemaSet
namespace Url

section Names

variable {name : Bytes} {cs : List Char} {c : Char}

/-- Characters that a segment shows as they are: printable ASCII without delimiters. -/
structure Plain (c : Char) : Prop where
  above : 0x20 < c.toNat
  below : c.toNat < 0x7F
  shown : pathSet (octetOf c) = false
  inside : isSeparator true c = false
  within : endsPath c = false

instance (c : Char) : Decidable (Plain c) :=
  decidable_of_iff (0x20 < c.toNat ∧ c.toNat < 0x7F ∧ pathSet (octetOf c) = false ∧
      isSeparator true c = false ∧ endsPath c = false)
    ⟨fun ⟨h₁, h₂, h₃, h₄, h₅⟩ => ⟨h₁, h₂, h₃, h₄, h₅⟩,
      fun h => ⟨h.above, h.below, h.shown, h.inside, h.within⟩⟩

/-- The segment of a URL that stands for a name. -/
def writtenName (name : Bytes) : List Char := encodeOctets entrySet name

/-- The path of the URL that stands for some names. -/
def writtenNames (names : List Bytes) : List Char := names.flatMap fun n => '/' :: writtenName n

theorem plain_upperDigit : ∀ n < 16, Plain (upperDigit n) := by decide

/-- An octet that a name may show is a plain character. -/
theorem plain_of_entrySet {b : UInt8} (h : entrySet b = false) : Plain (Char.ofNat b.toNat) := by
  have hall : ∀ n < 256, entrySet (UInt8.ofNat n) = false → Plain (Char.ofNat n) := by
    decide +kernel
  refine hall b.toNat b.toNat_lt ?_
  rwa [UInt8.ofNat_toNat]

/-- The written form of an octet is plain. -/
theorem plain_of_mem_encodeOctet (b : UInt8) : ∀ c ∈ encodeOctet entrySet b, Plain c := by
  unfold encodeOctet
  split
  · have hb : b.toNat < 256 := b.toNat_lt
    have hpercent : Plain '%' := by decide
    have hhigh : Plain (upperDigit (b.toNat / 16)) := plain_upperDigit _ (by omega)
    have hlow : Plain (upperDigit (b.toNat % 16)) := plain_upperDigit _ (by omega)
    simp [hpercent, hhigh, hlow]
  · rename_i hshown
    have hplain := plain_of_entrySet (Bool.not_eq_true _ ▸ hshown)
    simp [hplain]

theorem plain_of_mem_writtenName (h : c ∈ writtenName name) : Plain c := by
  obtain ⟨b, _, hc⟩ := List.mem_flatMap.1 h
  exact plain_of_mem_encodeOctet b c hc

theorem encodeChars_ascii (h : ∀ c ∈ cs, c.toNat < 0x80) :
    Utf8.encodeChars cs = cs.map octetOf := by
  induction cs with
  | nil => rfl
  | cons c r ih =>
      have hc : String.utf8EncodeChar c = [octetOf c] := by
        have hlow : c.val.toNat ≤ 0x7F := Nat.le_of_lt_succ (h c List.mem_cons_self)
        rw [String.utf8EncodeChar, if_pos hlow]
        rfl
      rw [Utf8.encodeChars, List.flatMap_cons, hc, ← Utf8.encodeChars,
        ih fun x hx => h x (List.mem_cons_of_mem _ hx)]
      rfl

theorem encodeChars_writtenName (name : Bytes) :
    Utf8.encodeChars (writtenName name) = (writtenName name).map octetOf :=
  encodeChars_ascii fun _ hc => Nat.lt_succ_of_lt (plain_of_mem_writtenName hc).below

theorem decodeOctets_cons {b : UInt8} (hb : b ≠ 0x25) (r : Bytes) :
    decodeOctets (b :: r) = b :: decodeOctets r := by
  match r with
  | [] => rfl
  | [_] => rfl
  | _ :: _ :: _ => simp [decodeOctets, hb]

/-- The written form of an octet is read back, whatever follows. -/
theorem decodeOctets_encodeOctet_append (b : UInt8) (r : Bytes) :
    decodeOctets ((encodeOctet entrySet b).map octetOf ++ r) = b :: decodeOctets r := by
  unfold encodeOctet
  split
  · exact decodeOctets_encodeOctet b r
  · rename_i hshown
    have hvalid : b.toNat.isValidChar := .inl (Nat.lt_trans b.toNat_lt (by decide))
    have hself : octetOf (Char.ofNat b.toNat) = b := Utf8.ofNat_eq (Utf8.toNat_ofNat hvalid)
    have hb : b ≠ 0x25 := by
      rintro rfl
      exact hshown (by decide)
    rw [List.map_cons, List.map_nil, hself]
    exact decodeOctets_cons hb r

/-- A segment is percent-decoded to the name that it stands for. -/
theorem decodeOctets_writtenName (name : Bytes) :
    decodeOctets (Utf8.encodeChars (writtenName name)) = name := by
  rw [encodeChars_writtenName]
  induction name with
  | nil => rfl
  | cons b r ih =>
      rw [writtenName, encodeOctets, List.flatMap_cons, List.map_append,
        decodeOctets_encodeOctet_append]
      exact congrArg (b :: ·) ih

/-- Plain characters are not encoded in the path of a URL. -/
theorem encodeChars_of_plain (h : ∀ c ∈ cs, Plain c) :
    encodeChars pathSet cs = String.ofList cs := by
  have hself : ∀ c ∈ cs, encodeOctet pathSet (octetOf c) = [c] := by
    intro c hc
    have hlow : c.toNat < 256 := Nat.lt_trans (h c hc).below (by decide)
    rw [encodeOctet, if_neg (by simp [(h c hc).shown]), octetOf, UInt8.toNat_ofNat_of_lt' hlow,
      Char.ofNat_toNat]
  rw [encodeChars, encodeChars_ascii fun c hc => Nat.lt_succ_of_lt (h c hc).below, encodeOctets,
    List.flatMap_map, List.flatMap_congr hself, List.flatMap_singleton']

end Names

section Dots

variable {name : Bytes} {s : String}

/-- A segment that names the directory itself or the one above is decoded to dots. -/
theorem decodeOctets_of_isDot (h : isDot s = true) : decodeOctets (Utf8.encode s) = [Path.dot] := by
  have hall : ∀ s ∈ [".", "%2e", "%2E"], decodeOctets (Utf8.encode s) = [Path.dot] := by decide
  exact hall s (List.contains_iff_mem.1 h)

theorem decodeOctets_of_isDoubleDot (h : isDoubleDot s = true) :
    decodeOctets (Utf8.encode s) = [Path.dot, Path.dot] := by
  have hall : ∀ s ∈ ["..", ".%2e", ".%2E", "%2e.", "%2E.", "%2e%2e", "%2e%2E", "%2E%2e", "%2E%2E"],
      decodeOctets (Utf8.encode s) = [Path.dot, Path.dot] := by
    decide
  exact hall s (List.contains_iff_mem.1 h)

/-- A segment that is kept. -/
def Undotted (s : String) : Prop := isDot s = false ∧ isDoubleDot s = false

/-- Only names of dots have segments that mean dots. -/
theorem undotted_writtenName (h : FileSystem.Spellable name) :
    Undotted (String.ofList (writtenName name)) := by
  have hdecoded : decodeOctets (Utf8.encode (String.ofList (writtenName name))) = name := by
    rw [Utf8.encode, String.toList_ofList, decodeOctets_writtenName]
  constructor
  · by_contra hdot
    rw [Bool.not_eq_false] at hdot
    rw [decodeOctets_of_isDot hdot] at hdecoded
    subst hdecoded
    exact absurd h.1 (by decide)
  · by_contra hdots
    rw [Bool.not_eq_false] at hdots
    rw [decodeOctets_of_isDoubleDot hdots] at hdecoded
    subst hdecoded
    exact absurd h.1 (by decide)

variable {style : PathStyle} {names segments : List String}

/-- After the first place, a drive is kept as it is written. -/
theorem keep_of_ne_nil (hn : names ≠ []) (s : String) : keep style names s = names ++ [s] := by
  unfold keep
  split
  · rw [if_neg (by simp [hn])]
  · rfl

/-- Segments without dots are kept in order, after the first place. -/
theorem walkSegments_of_undotted (hn : names ≠ []) (h : ∀ s ∈ segments, Undotted s) :
    walkSegments style names segments = names ++ segments := by
  induction segments generalizing names with
  | nil => simp [walkSegments]
  | cons s r ih =>
      obtain ⟨hdot, hdots⟩ := h s List.mem_cons_self
      cases r with
      | nil =>
          rw [walkSegments, pushLast, if_neg (by simp [hdots]), if_neg (by simp [hdot]),
            keep_of_ne_nil hn]
      | cons t r =>
          have hinner : pushInner style names s = names ++ [s] := by
            rw [pushInner, if_neg (by simp [hdots]), if_neg (by simp [hdot]), keep_of_ne_nil hn]
          rw [walkSegments_append_slash, hinner,
            ih (by simp) fun x hx => h x (List.mem_cons_of_mem _ hx), List.append_assoc]
          rfl

end Dots

section Reading

variable {names : List Bytes} {cs : List Char}

/-- A path is cut where its segments are written one after the other. -/
theorem pieces_segments {p : Char → Bool} (hp : p '/' = true) {first : List Char}
    {others : List (List Char)} (hfirst : ∀ c ∈ first, p c = false)
    (hothers : ∀ w ∈ others, ∀ c ∈ w, p c = false) :
    Text.pieces p (first ++ others.flatMap ('/' :: ·)) = first :: others := by
  induction others generalizing first with
  | nil => simpa using Text.pieces_of_none p hfirst
  | cons w r ih =>
      rw [List.flatMap_cons, List.cons_append, Text.pieces_append_cons p hfirst hp,
        ih (hothers w List.mem_cons_self) fun x hx => hothers x (List.mem_cons_of_mem _ hx)]

/-- The segments of a written path are those of its names, after an empty one. -/
theorem readSegments_writtenNames (h : ∀ n ∈ names, FileSystem.Spellable n) :
    readSegments ⟨true, true⟩ [] (writtenNames names) =
      "" :: names.map fun n => String.ofList (writtenName n) := by
  have hpieces : Text.pieces (isSeparator true) (writtenNames names) =
      [] :: names.map writtenName := by
    have hinside : ∀ w ∈ names.map writtenName, ∀ c ∈ w, isSeparator true c = false := by
      intro w hw c hc
      obtain ⟨n, _, rfl⟩ := List.mem_map.1 hw
      exact (plain_of_mem_writtenName hc).inside
    have hcut := pieces_segments (by decide) (List.forall_mem_nil _) hinside
    rwa [List.nil_append, List.flatMap_map] at hcut
  have hencoded : (names.map writtenName).map (encodeChars pathSet) =
      names.map fun n => String.ofList (writtenName n) := by
    rw [List.map_map]
    exact List.map_congr_left fun n _ =>
      encodeChars_of_plain fun _ hc => plain_of_mem_writtenName hc
  rw [readSegments, hpieces, List.map_cons, hencoded]
  cases names with
  | nil => rfl
  | cons n r =>
      have hfirst : pushInner ⟨true, true⟩ [] (encodeChars pathSet []) = [""] := by decide
      have hkept : ∀ s ∈ (n :: r).map fun n => String.ofList (writtenName n), Undotted s := by
        intro s hs
        obtain ⟨m, hm, rfl⟩ := List.mem_map.1 hs
        exact undotted_writtenName (h m hm)
      rw [List.map_cons] at hkept ⊢
      rw [walkSegments_append_slash, hfirst, walkSegments_of_undotted (by simp) hkept]
      rfl

/-- Where nothing is dropped, all characters count. -/
theorem clean_of_above (h : ∀ c ∈ cs, 0x20 < c.toNat) : clean (String.ofList cs) = cs := by
  have hedge : ∀ c ∈ cs, isEdge c = false := fun c hc => by simpa [isEdge] using h c hc
  have hdropped : ∀ c ∈ cs, isDropped c = false := by
    intro c hc
    by_contra hd
    have hlow := h c hc
    simp only [isDropped, Bool.not_eq_false, Bool.or_eq_true, beq_iff_eq] at hd
    rcases hd with (rfl | rfl) | rfl <;> exact absurd hlow (by decide)
  have hstart : ∀ l : List Char, (∀ c ∈ l, isEdge c = false) → l.dropWhile isEdge = l := by
    intro l hl
    cases l with
    | nil => rfl
    | cons c r => exact List.dropWhile_cons_of_neg (by simp [hl c List.mem_cons_self])
  rw [clean, String.toList_ofList, hstart cs hedge, Text.dropEnd,
    hstart cs.reverse fun c hc => hedge c (List.mem_reverse.1 hc), List.reverse_reverse]
  exact List.filter_eq_self.2 fun c hc => by simp [hdropped c hc]

theorem mem_writtenNames {c : Char} (h : c ∈ writtenNames names) : c = '/' ∨ Plain c := by
  obtain ⟨n, _, hc⟩ := List.mem_flatMap.1 h
  rcases List.mem_cons.1 hc with rfl | hc
  · exact .inl rfl
  · exact .inr (plain_of_mem_writtenName hc)

/-- A text with the scheme of files and an empty host is read as a path alone. -/
theorem parse_of_file {path : List Char} (hpath : path.head? = some '/')
    (h : ∀ c ∈ path, c = '/' ∨ Plain c) :
    parse (String.ofList ("file://".toList ++ path)) = .ok (fileUrl "" path) := by
  have hscheme : "file://".toList.all (fun c => 0x20 < c.toNat) = true := by decide
  have habove : ∀ c ∈ "file://".toList ++ path, 0x20 < c.toNat := by
    refine List.forall_mem_append.2
      ⟨fun c hc => of_decide_eq_true (List.all_eq_true.1 hscheme c hc), fun c hc => ?_⟩
    rcases h c hc with rfl | hc
    · decide
    · exact hc.above
  cases path with
  | nil => cases hpath
  | cons c r =>
      cases hpath
      have hclean := clean_of_above habove
      unfold parse read
      simp only [hclean]
      rfl

theorem writtenName_ne_empty {name : Bytes} (h : FileSystem.Spellable name) :
    (String.ofList (writtenName name)).isEmpty = false := by
  by_contra hempty
  rw [Bool.not_eq_false, String.isEmpty_iff] at hempty
  have hdecoded := decodeOctets_writtenName name
  rw [← String.toList_ofList (l := writtenName name), hempty] at hdecoded
  exact Path.ne_nil_of_spellable h hdecoded.symm

/-- The segments that are read are those that are written. -/
theorem parse_writtenNames (hn : names ≠ []) (h : ∀ n ∈ names, FileSystem.Spellable n) :
    parse (String.ofList ("file://".toList ++ writtenNames names)) =
      .ok ⟨"file", "", none, some "", none,
        .segments (names.map fun n => String.ofList (writtenName n)), none, none⟩ := by
  have hpath : ∀ c ∈ writtenNames names, (!endsPath c) = true := by
    intro c hc
    rcases mem_writtenNames hc with rfl | hc
    · rfl
    · simp [hc.within]
  have hread := readSegments_writtenNames h
  cases names with
  | nil => exact absurd rfl hn
  | cons n r =>
      have hkept : ("" :: (n :: r).map fun n => String.ofList (writtenName n)).dropWhile
          String.isEmpty = (n :: r).map fun n => String.ofList (writtenName n) := by
        rw [List.map_cons, List.dropWhile_cons_of_pos rfl,
          List.dropWhile_cons_of_neg (by simp [writtenName_ne_empty (h n List.mem_cons_self)])]
      rw [parse_of_file rfl fun c hc => mem_writtenNames hc]
      simp only [fileUrl, List.takeWhile_eq_self_iff.2 hpath, List.dropWhile_eq_nil_iff.2 hpath,
        hread, hkept, ite_self]
      rfl

end Reading

section Paths

variable {names : List Bytes}

/-- A path with a slash after it if it ends in a drive. -/
def closeDrive (p : Path) : Path :=
  ⟨if endsInDrive p.octets then p.octets ++ [Path.slash] else p.octets⟩

theorem octets_ofNames (hn : names ≠ []) :
    (Path.ofNames names).octets = names.flatMap (Path.slash :: ·) := by
  induction names with
  | nil => exact absurd rfl hn
  | cons x r ih =>
      cases r with
      | nil => simp [Path.ofNames, Text.join]
      | cons y r =>
          rw [List.flatMap_cons, ← ih (List.cons_ne_nil y r)]
          rfl

/-- The components of the path that spells some names, of which some may be void. -/
theorem components_ofNames (h : ∀ n ∈ names, Path.slash ∉ n) :
    (Path.ofNames names).components =
      .root :: (names.filter fun n => !Path.isVoid n).map Path.Component.ofPiece := by
  by_cases hn : names = []
  · subst hn
    rfl
  · rw [Path.components, Path.lead, FileSystem.pieces_ofNames hn h, FileSystem.isAbsolute_ofNames]
    rfl

/-- A name that can be spelled is a component by itself. -/
theorem component_of_spellable {name : Bytes} (h : FileSystem.Spellable name) :
    Path.isVoid name = false ∧ Path.Component.ofPiece name = .name name := by
  have hmove := h.1
  unfold FileSystem.Move.ofPiece at hmove
  split at hmove
  · cases hmove
  · rename_i hvoid
    split at hmove
    · cases hmove
    · rename_i hdots
      exact ⟨by simpa using hvoid, by rw [Path.Component.ofPiece, if_neg hdots]⟩

theorem components_of_spellable (h : ∀ n ∈ names, FileSystem.Spellable n) :
    (Path.ofNames names).components = .root :: names.map .name := by
  have hkept : (names.filter fun n => !Path.isVoid n) = names :=
    List.filter_eq_self.2 fun n hmem => by simp [(component_of_spellable (h n hmem)).1]
  rw [components_ofNames fun n hmem => (h n hmem).2, hkept]
  exact congrArg _ (List.map_congr_left fun n hmem => (component_of_spellable (h n hmem)).2)

/-- The URL of a path is written segment by segment. -/
theorem ofPath_ofNames (hn : names ≠ []) (h : ∀ n ∈ names, FileSystem.Spellable n) :
    ofPath (Path.ofNames names) =
      some (String.ofList ("file://".toList ++ writtenNames names)) := by
  have hwritten : writeComponents (names.map .name) = writtenNames names := by
    rw [writeComponents, List.flatMap_map]
    rfl
  have hsome : (names.map Path.Component.name).isEmpty = false := by simp [hn]
  rw [ofPath, if_pos (FileSystem.isAbsolute_ofNames names), components_of_spellable h,
    List.tail_cons, String.ofList_append, String.ofList_toList]
  simp only [hsome, hwritten]
  rfl

/-- The path of a URL is read back, with a slash after it if it ends in a drive. -/
theorem toPath_of_route {u : Url} (hn : names ≠ []) (hhost : u.host = some "")
    (hroute : u.route = .segments (names.map fun n => String.ofList (writtenName n))) :
    u.toPath = some (closeDrive (Path.ofNames names)) := by
  have hdecoded : (names.map fun n => String.ofList (writtenName n)).flatMap
      (fun n => Path.slash :: decodeOctets (Utf8.encode n)) = (Path.ofNames names).octets := by
    rw [octets_ofNames hn, List.flatMap_map]
    refine List.flatMap_congr fun n _ => ?_
    rw [Utf8.encode, String.toList_ofList, decodeOctets_writtenName]
  rw [toPath, hhost, hroute]
  simp only [hdecoded]
  rfl

/-- The slash after a drive makes no difference to the components of a path. -/
theorem same_closeDrive (h : ∀ n ∈ names, FileSystem.Spellable n) :
    (closeDrive (Path.ofNames names)).components = (Path.ofNames names).components := by
  by_cases hn : names = []
  · subst hn
    rfl
  · by_cases hdrive : endsInDrive (Path.ofNames names).octets = true
    · -- the slash is that before one more name, which is void
      have hclosed : closeDrive (Path.ofNames names) = Path.ofNames (names ++ [[]]) := by
        have hjoin := congrArg (Path.slash :: ·) (Path.join_snoc hn [])
        rw [closeDrive, if_pos hdrive]
        exact congrArg Path.mk hjoin.symm
      have hslash : ∀ n ∈ names ++ [[]], Path.slash ∉ n := by
        refine List.forall_mem_append.2 ⟨fun n hmem => (h n hmem).2, ?_⟩
        simp
      rw [hclosed, components_ofNames hslash, components_ofNames fun n hmem => (h n hmem).2,
        List.filter_append]
      simp [Path.isVoid]
    · rw [closeDrive, if_neg hdrive]

end Paths

end Url
end SchemaSet
