import Mathlib.Data.Option.Basic
import SchemaSet.Proofs.Agenda

/-!
# Settings whose files hold something else

Two file systems have the same directories and links, and files in the same places.
`FileSystem.Revises R fs fs'` says that the content of each file of `fs` and the content of the file
of `fs'` under the same names are related by `R`, which may depend on the names.

A path has the same canonical path in both (`Revises.canonicalize_eq`), and a file that is found in
one is found in the other, with a related content (`Revises.exists_content`).  What an item of a
document brings up does not depend on the contents of files (`itemTasks_on`, `locatable_on_iff`).
-/

namespace SchemaSet

/-- Two entries of the same kind; the contents of files are related by `R`. -/
inductive Node.Revises (R : Bytes → Bytes → Prop) : Node → Node → Prop
  | file {content content' : Bytes} :
      R content content' → Revises R (.file content) (.file content')
  | directory :
      Revises R .directory .directory
  | link (target : Path) :
      Revises R (.link target) (.link target)

namespace FileSystem

/-- Two file systems with entries of the same kinds under the same names; the contents of files are
related by `R`. -/
structure Revises (R : List Bytes → Bytes → Bytes → Prop) (fs fs' : FileSystem) : Prop where
  /-- The working directory is the same. -/
  workingDirectory : fs'.workingDirectory = fs.workingDirectory
  /-- So are the entries, apart from the contents of files. -/
  nodes : ∀ names,
    Option.Rel (Node.Revises (R names)) (fs.nodes.get? names) (fs'.nodes.get? names)

/-- Two walks that end at the same names or in the same fault. -/
inductive Meets (R : List Bytes → Bytes → Bytes → Prop) :
    Except Fault Place → Except Fault Place → Prop
  | error (f : Fault) :
      Meets R (.error f) (.error f)
  | ok {names : List Bytes} {node node' : Node} :
      Node.Revises (R names) node node' → Meets R (.ok ⟨names, node⟩) (.ok ⟨names, node'⟩)

/-- File systems made of the same names in the same order, with related entries. -/
theorem revises_ofList {R : List Bytes → Bytes → Bytes → Prop} {workingDirectory : List Bytes}
    {entries entries' : List (List Bytes × Node)}
    (h : List.Forall₂ (fun e e' => e'.1 = e.1 ∧ Node.Revises (R e.1) e.2 e'.2) entries entries') :
    Revises R ⟨.ofList entries, workingDirectory⟩ ⟨.ofList entries', workingDirectory⟩ where
  workingDirectory := rfl
  nodes := by
    intro names
    show Option.Rel _ ((OrderedMap.ofList entries).get? names)
      ((OrderedMap.ofList entries').get? names)
    rw [OrderedMap.ofList, OrderedMap.ofList, OrderedMap.get?_insertAll, OrderedMap.get?_insertAll,
      OrderedMap.get?_empty, Option.or_none, Option.or_none]
    -- the last entry with a key counts
    have hreverse := List.rel_reverse h
    generalize entries.reverse = last at hreverse
    generalize entries'.reverse = last' at hreverse
    induction hreverse with
    | nil => exact .none
    | @cons e e' l l' he _ ih =>
        obtain ⟨hkey, hnode⟩ := he
        by_cases hn : e.1 = names
        · rw [List.find?_cons_of_pos (by simpa using hn),
            List.find?_cons_of_pos (by simpa using hkey.trans hn)]
          exact .some (hn ▸ hnode)
        · rw [List.find?_cons_of_neg (by simpa using hn),
            List.find?_cons_of_neg (by simpa [hkey] using hn)]
          exact ih

section Walks

variable {R : List Bytes → Bytes → Bytes → Prop} {fs fs' : FileSystem}

theorem Revises.node? (h : fs.Revises R fs') (names : List Bytes) :
    Option.Rel (Node.Revises (R names)) (fs.node? names) (fs'.node? names) := by
  unfold FileSystem.node?
  split
  · exact .some .directory
  · exact h.nodes names

/-- One move leads to the same names in both file systems, and so do the moves after it. -/
theorem walkFrom_meets (h : fs.Revises R fs') {fits : List Bytes → Bool}
    {follow follow' : List Bytes → List Move → Except Fault Place}
    (hf : ∀ names ms, Meets R (follow names ms) (follow' names ms))
    {names : List Bytes} {node node' : Node} (hn : Node.Revises (R names) node node')
    (ms : List Move) :
    Meets R (fs.walkFrom fits follow names node ms) (fs'.walkFrom fits follow' names node' ms) := by
  induction ms generalizing names node node' with
  | nil => exact .ok hn
  | cons m rest ih =>
      cases hn with
      | file _ => exact .error _
      | link _ => exact .error _
      | directory =>
          cases m with
          | stay => exact ih .directory
          | up => exact ih .directory
          | down name =>
              simp only [walkFrom]
              split
              · exact .error _
              · have hnode := h.node? (names ++ [name])
                generalize fs.node? (names ++ [name]) = found at hnode ⊢
                generalize fs'.node? (names ++ [name]) = found' at hnode ⊢
                cases hnode with
                | none => exact .error _
                | some hnext =>
                    cases hnext with
                    | link target => exact hf _ _
                    | directory => exact ih .directory
                    | file hr => exact ih (.file hr)

theorem walk_meets (h : fs.Revises R fs') (fits : List Bytes → Bool) (links : Nat)
    (names : List Bytes) (ms : List Move) :
    Meets R (fs.walk fits links names ms) (fs'.walk fits links names ms) := by
  induction links generalizing names ms with
  | zero => exact walkFrom_meets h (fun _ _ => .error _) .directory ms
  | succ links ih => exact walkFrom_meets h ih .directory ms

theorem walkPath_meets (h : fs.Revises R fs') (fits : List Bytes → Bool) (p : Path) :
    Meets R (fs.walkPath fits p) (fs'.walkPath fits p) := by
  unfold walkPath absolute
  rw [h.workingDirectory]
  split
  · exact .error _
  · split
    · exact .error _
    · exact walk_meets h fits linkBudget [] _

theorem locate_meets (h : fs.Revises R fs') (p : Path) : Meets R (fs.locate p) (fs'.locate p) := by
  unfold locate
  split
  · exact .error _
  · exact walkPath_meets h _ p

/-- The canonical path of a path does not depend on what the files hold. -/
theorem Revises.canonicalize_eq (h : fs.Revises R fs') (p : Path) :
    fs'.canonicalize p = fs.canonicalize p := by
  have hplace : Meets R (fs.canonicalPlace p) (fs'.canonicalPlace p) := walkPath_meets h isShort p
  unfold canonicalize
  generalize fs.canonicalPlace p = found at hplace
  generalize fs'.canonicalPlace p = found' at hplace
  cases hplace <;> rfl

/-- A file that is found in one file system is found in the other. -/
theorem Revises.exists_content (h : fs.Revises R fs') {p : Path} {names : List Bytes}
    {content : Bytes} (hl : fs.locate p = .ok ⟨names, .file content⟩) :
    ∃ content', R names content content' ∧ fs'.entry p = .ok (.file content') := by
  have hplace := locate_meets h p
  rw [hl] at hplace
  generalize hl' : fs'.locate p = found' at hplace
  cases hplace with
  | ok hnode =>
      cases hnode with
      | file hr => exact ⟨_, hr, by rw [entry, hl']; rfl⟩

end Walks

end FileSystem

namespace Markup

/-- The root of a document, if it can be read. -/
def rootOf (content : Bytes) : Element := (readDocument content).toOption.getD default

theorem readDocument_rootOf {content : Bytes} (h : (readDocument content).toOption.isSome = true) :
    readDocument content = .ok (rootOf content) := by
  obtain ⟨root, hroot⟩ := Option.isSome_iff_exists.1 h
  rw [← toOption_eq_some_iff, rootOf, hroot]
  rfl

end Markup

namespace Setting

/-- The setting with other files. -/
def on (s : Setting) (files : FileSystem) : Setting := { s with files := files }

section On

variable {s : Setting} {files : FileSystem}
variable (hc : ∀ p, files.canonicalize p = s.files.canonicalize p)
include hc

theorem find_on (base : Path) (uri location : Option String) :
    (s.on files).find base uri location = s.find base uri location := by
  cases location with
  | none => simp only [find, canonical, locateWritten, on, hc]; rfl
  | some l => simp only [find, canonical, locateWritten, locateHint, on, hc]; rfl

theorem findable_on_iff (base : Path) (uri location : Option String) :
    (s.on files).Findable base uri location ↔ s.Findable base uri location := by
  rw [Findable, Findable, find_on hc]

theorem found?_on (base : Path) (uri location : Option String) :
    (s.on files).found? base uri location = s.found? base uri location := by
  have hhinted : (s.on files).hinted? base = s.hinted? base := by
    funext l
    simp only [hinted?, on, hc]
  unfold found?
  rw [hhinted]
  simp only [on, hc]

/-- What an item brings up does not depend on what the files hold. -/
theorem itemTasks_on (n : SchemaNode) (i : Schema.Item) :
    (s.on files).itemTasks n i = s.itemTasks n i := by
  have hinclude : ∀ location, (s.on files).includeTasks n location = s.includeTasks n location := by
    intro location
    cases location with
    | none => rfl
    | some l => simp only [includeTasks, askTask, found?_on hc]; rfl
  cases i with
  | importing uri location =>
      simp only [itemTasks, importTasks, askTask, recordOf, found?_on hc]
      rfl
  | including location => exact hinclude location
  | redefining location ds => simp only [itemTasks, hinclude]
  | declaring d => rfl

theorem locatable_on_iff (n : SchemaNode) (i : Schema.Item) :
    (s.on files).Locatable n i ↔ s.Locatable n i := by
  have hoptions : (s.on files).options = s.options := rfl
  cases i <;> simp only [Locatable, findable_on_iff hc, found?_on hc, hoptions]

end On

/-- A schema can be read where a file of a bounded size holds a text that is a document with a
schema as its root. -/
theorem readRoot_eq_ok_iff {s : Setting} {p : Path} {root : Markup.Element} :
    s.readRoot p = .ok root ↔
      ∃ content text, s.files.entry p = .ok (.file content) ∧
        content.length ≤ s.options.limits.maxDocumentSize ∧ Utf8.decode content = .ok text ∧
          Markup.readDocument content = .ok root ∧ Schema.isSchema root = true := by
  constructor
  · intro h
    obtain ⟨octets, hload, hread⟩ := bind_eq_ok_iff.1 h
    obtain ⟨root', hdocument, hschema⟩ := bind_eq_ok_iff.1 hread
    obtain ⟨octets', hoctets, hdecode⟩ := bind_eq_ok_iff.1 hload
    split at hschema
    · rename_i his
      cases Except.ok.inj hschema
      split at hdecode
      · cases hdecode
      · rename_i text htext
        cases Except.ok.inj hdecode
        exact ⟨octets, text, s.files.entry_of_readPath hoctets,
          FileSystem.readPath_length_le hoctets, htext, mapError_eq_ok_iff.1 hdocument, his⟩
    · cases hschema
  · rintro ⟨content, text, hentry, hsize, htext, hdocument, his⟩
    have hcheck := (Limits.check_ok_iff s.options.limits .documentSize content.length).2 hsize
    have hread : s.files.readPath s.options.limits p = .ok content := by
      simp only [FileSystem.readPath, hentry, Except.bind, FileSystem.content]
      exact bind_eq_ok_iff.2 ⟨(), mapError_eq_ok_iff.2 hcheck, rfl⟩
    refine bind_eq_ok_iff.2 ⟨content, bind_eq_ok_iff.2 ⟨content, hread, by rw [htext]⟩, ?_⟩
    exact bind_eq_ok_iff.2 ⟨root, mapError_eq_ok_iff.2 hdocument, by rw [if_pos his]; rfl⟩

end Setting
end SchemaSet
