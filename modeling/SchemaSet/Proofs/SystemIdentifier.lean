import SchemaSet.Proofs.Compiled
import SchemaSet.Proofs.FileUrl
import SchemaSet.Proofs.Obstruction
import SchemaSet.Proofs.Termination

/-!
# What a system identifier tells

A path is `Path.Straight` if it spells names that stand for themselves: it is absolute and has no
void pieces and no double dots.  Canonicalizing results in such paths only.  Straight paths with
equal components are equal.  So although a path that ends in a drive is read back with one more
slash (`parse_systemId`), its identifier belongs to no other path (`systemId_inj`).

Whatever a compilation asks for after the entry document is asked for by a document that can be
reached; this is the invariant `Grounded`, for a compilation that may end in an error
(`compile_grounded`).

The main theorem `systemId_tells` says that an identifier tells its path, and that the base of a
request tells which document asks.
-/

namespace SchemaSet

/-- Absolute paths without empty pieces, dots and double dots, and without a slash at the end. -/
def Path.Straight (p : Path) : Prop :=
  ∃ names, (∀ n ∈ names, FileSystem.Spellable n) ∧ p = Path.ofNames names

section Paths

variable {p q : Path}

/-- Canonicalizing results in straight paths. -/
theorem straight_of_canonicalize {fs : FileSystem} (h : fs.canonicalize q = .ok p) :
    p.Straight := by
  obtain ⟨place, hplace, rfl⟩ := FileSystem.canonicalize_ofNames h
  exact ⟨place.names, (FileSystem.canonicalPlace_settled hplace).spellable, rfl⟩

theorem parse_eq_path {text : String} {u : Url} (hu : Url.parse text = .ok u)
    (hscheme : u.scheme = "file") (hpath : u.toPath = some p) :
    Location.parse text = .ok (.path p) := by
  simp [Location.parse, hu, hscheme, hpath]

/-- The identifier of a path is read back, with a slash after it if it ends in a drive. -/
theorem parse_systemId (hp : p.Straight) :
    Location.parse (Location.path p).systemId = .ok (.path (Url.closeDrive p)) := by
  obtain ⟨names, hspellable, rfl⟩ := hp
  by_cases hn : names = []
  · subst hn
    have hread : (Location.parse (Location.path (Path.ofNames [])).systemId).toOption =
        some (.path (Url.closeDrive (Path.ofNames []))) := by
      decide +kernel
    exact toOption_eq_some_iff.1 hread
  · have hwritten : (Location.path (Path.ofNames names)).systemId =
        String.ofList ("file://".toList ++ Url.writtenNames names) := by
      rw [Location.systemId, Url.ofPath_ofNames hn hspellable, Option.getD_some]
    rw [hwritten]
    exact parse_eq_path (Url.parse_writtenNames hn hspellable) rfl (Url.toPath_of_route hn rfl rfl)

theorem same_closeDrive_of_straight (hp : p.Straight) : (Url.closeDrive p).same p = true := by
  obtain ⟨names, hspellable, rfl⟩ := hp
  rw [Path.same, Url.same_closeDrive hspellable, beq_self_eq_true]

/-- Straight paths are told apart by their components. -/
theorem eq_of_components (hp : p.Straight) (hq : q.Straight) (h : p.components = q.components) :
    p = q := by
  obtain ⟨names, hspellable, rfl⟩ := hp
  obtain ⟨others, hspellable', rfl⟩ := hq
  rw [Url.components_of_spellable hspellable, Url.components_of_spellable hspellable'] at h
  have hnames : names = others :=
    List.map_injective_iff.2 (fun _ _ => Path.Component.name.inj) (List.cons.inj h).2
  rw [hnames]

/-- Straight paths with one identifier are equal. -/
theorem systemId_inj (hp : p.Straight) (hq : q.Straight)
    (h : (Location.path p).systemId = (Location.path q).systemId) : p = q := by
  have hread := parse_systemId hp
  rw [h, parse_systemId hq] at hread
  have hclosed : Url.closeDrive q = Url.closeDrive p := Location.path.inj (Except.ok.inj hread)
  have hsame := same_closeDrive_of_straight hp
  rw [← hclosed] at hsame
  exact eq_of_components hp hq (eq_of_beq (Path.same_trans (Path.same_symm hsame)
    (same_closeDrive_of_straight hq)))

end Paths

namespace Setting

variable {s : Setting} {entry : Path} {n : SchemaNode}

/-- The base of a request is the identifier of the document that asks. -/
theorem Refers.base {r : Request} (h : s.Refers entry n r) :
    r.base = some (Location.path n.path).systemId := by
  obtain ⟨_, _, _, _, _, _, _, rfl⟩ := h
  rfl

theorem Refers.straight {r : Request} (h : s.Refers entry n r) : n.path.Straight := by
  obtain ⟨_, _, _, _, hn, _, _, _⟩ := h
  obtain ⟨_, hcanonical⟩ := hn.reachable.canonical
  exact straight_of_canonicalize hcanonical

/-- What is noted after the entry document comes from documents that can be reached, however
the compilation ends. -/
theorem compile_grounded (s : Setting) (entry : Path) :
    ∃ steps, (s.compile entry).notes =
        .asked (entryRequest entry) (s.resolver (entryRequest entry)) :: steps ∧
      ∀ step ∈ steps, s.Grounded entry step := by
  have hlift : ∀ {α : Type} (x : Except Error α), (liftM x : Journal Step Error α).Satisfies
      (s.Grounded entry) (fun _ => True) (fun a => x = .ok a) :=
    fun _ => Journal.satisfies_lift fun _ _ => trivial
  refine ⟨_, rfl, Journal.Satisfies.notes (E := fun _ => True) (V := fun _ => True) ?_⟩
  refine (hlift _).bind fun start _ hstart => ?_
  have hsteps := (traverse_sound (canonicalize_of_canonical hstart)).notes
  have hassemble : (assemble s.options.limits ∅ (s.traverse start).notes).Satisfies
      (s.Grounded entry) (fun _ => True) (fun _ => True) :=
    ⟨fun step hstep => hsteps step ((notes_assemble_isPrefix _ _ _).subset hstep),
      fun _ _ => trivial, fun _ _ => trivial⟩
  refine hassemble.bind fun table _ _ => ?_
  refine (hlift _).bind fun _ _ _ => (hlift _).bind fun _ _ _ => ?_
  exact .after trivial (Journal.satisfies_pure trivial)

/-- What is asked for after the entry document is asked for by a document that can be reached. -/
theorem requests_refer (s : Setting) (entry : Path) :
    ∃ asked, requestsOf (s.compile entry).notes =
        (entryRequest entry, s.resolver (entryRequest entry)) :: asked ∧
      ∀ x ∈ asked, ∃ n, s.Refers entry n x.1 := by
  obtain ⟨steps, hnotes, hgrounded⟩ := compile_grounded s entry
  have hasked : requestsOf (s.compile entry).notes =
      (entryRequest entry, s.resolver (entryRequest entry)) :: requestsOf steps := by
    rw [hnotes, requestsOf, List.filterMap_cons_some (by rfl), requestsOf]
  refine ⟨requestsOf steps, hasked, fun x hx => ?_⟩
  obtain ⟨step, hstep, hx⟩ := List.mem_filterMap.1 hx
  have hground := hgrounded step hstep
  cases step with
  | asked r answer =>
      cases hx
      exact hground
  | _ => cases hx

/-- An identifier tells its path, and the base of a request which document asks.  The identifier
of a canonical path is read as this path, with a slash after it if it ends in a drive, which makes
no difference to its components. -/
theorem systemId_tells (s : Setting) (entry : Path) {p : Path} (hp : p.Straight) :
    Location.parse (Location.path p).systemId = .ok (.path (Url.closeDrive p)) ∧
      (Url.closeDrive p).same p = true ∧
      (∀ q : Path, q.Straight → (Location.path q).systemId = (Location.path p).systemId → q = p) ∧
      ∃ asked, requestsOf (s.compile entry).notes =
          (entryRequest entry, s.resolver (entryRequest entry)) :: asked ∧
        ∀ x ∈ asked, (∃ n, s.Refers entry n x.1) ∧ ∀ n, s.Refers entry n x.1 →
          n.path.Straight ∧ (x.1.base = some (Location.path p).systemId ↔ n.path = p) := by
  obtain ⟨asked, hasked, hrefer⟩ := requests_refer s entry
  refine ⟨parse_systemId hp, same_closeDrive_of_straight hp, fun q hq h => systemId_inj hq hp h,
    asked, hasked, fun x hx => ⟨hrefer x hx, fun n hn => ⟨hn.straight, ?_⟩⟩⟩
  rw [hn.base, Option.some_inj]
  constructor
  · exact systemId_inj hn.straight hp
  · rintro rfl
    rfl

/-- A path whose name needs an encoding almost everywhere. -/
def strangePath : Path := topPath "100% #?|\\é c:."

/-- A document with a strange name that includes another one. -/
def strange : Setting where
  files := topFiles
    [("100% #?|\\é c:.",
        schemaOctets "targetNamespace='urn:m'" ["<include schemaLocation='part'/>"]),
      ("part", schemaOctets "" [])]
  resolver := Resolution.miss
  options := .standard

theorem strange_systemId_tells :
    strange.files.canonicalize strangePath = .ok strangePath ∧
      (requestsOf (strange.compile strangePath).notes).length = 2 ∧
      Location.parse (Location.path strangePath).systemId = .ok (.path strangePath) ∧
      (Url.closeDrive strangePath).same strangePath = true ∧
      (∀ q : Path, q.Straight →
        (Location.path q).systemId = (Location.path strangePath).systemId → q = strangePath) ∧
      ∃ asked, requestsOf (strange.compile strangePath).notes =
          (entryRequest strangePath, strange.resolver (entryRequest strangePath)) :: asked ∧
        ∀ x ∈ asked, (∃ n, strange.Refers strangePath n x.1) ∧
          ∀ n, strange.Refers strangePath n x.1 → n.path.Straight ∧
            (x.1.base = some (Location.path strangePath).systemId ↔ n.path = strangePath) := by
  have hcanonical : (strange.files.canonicalize strangePath).toOption = some strangePath := by
    decide +kernel
  have hcanonical := toOption_eq_some_iff.1 hcanonical
  have hcount : (requestsOf (strange.compile strangePath).notes).length = 2 := by decide +kernel
  exact ⟨hcanonical, hcount,
    systemId_tells strange strangePath (straight_of_canonicalize hcanonical)⟩

/-- A path that ends in a drive is not read back as it is spelled. -/
theorem drive_not_read_back :
    (topFiles [("a:", [])]).canonicalize (topPath "a:") = .ok (topPath "a:") ∧
      ∃ q, Location.parse (Location.path (topPath "a:")).systemId = .ok (.path q) ∧
        q = Path.ofString "/a:/" ∧ q ≠ topPath "a:" := by
  have hcanonical : ((topFiles [("a:", [])]).canonicalize (topPath "a:")).toOption =
      some (topPath "a:") := by
    decide +kernel
  have hcanonical := toOption_eq_some_iff.1 hcanonical
  exact ⟨hcanonical, Url.closeDrive (topPath "a:"),
    parse_systemId (straight_of_canonicalize hcanonical), by decide, by decide⟩

end Setting
end SchemaSet
