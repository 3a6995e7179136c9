import SchemaSet.Location

/-!
# Loading documents

A document is loaded from a location.  A local one is read if its size is within the limits; a
remote one is refused, because a schema set is a local snapshot.  What is read is the content of a
file (`entry_of_readPath`, `entry_of_openPath`) and within the limits (`readPath_length_le`).
-/

namespace SchemaSet
namespace FileSystem

/-- Opens a file, minding its size.  A directory can be opened, but not read; the inner fault
is what reading meets.  The size that a system reports for a directory is not checked here, which
is seen only when the size of documents is limited to less than that. -/
def openPath (fs : FileSystem) (limits : Limits) (p : Path) :
    Except Error (Except Fault Bytes) :=
  match fs.entry p with
  | .error f => .error (.resource (.opening p f))
  | .ok node =>
      match content node with
      | .error f => .ok (.error f)
      | .ok octets => do
          (limits.check .documentSize octets.length).mapError .limit
          return .ok octets

/-- The content of a file within the limits.  As in `openPath`, the size that a system reports for
a directory is not checked before reading it fails. -/
def readPath (fs : FileSystem) (limits : Limits) (p : Path) : Except Error Bytes :=
  match (fs.entry p).bind content with
  | .error f => .error (.resource (.reading p f))
  | .ok octets => do
      (limits.check .documentSize octets.length).mapError .limit
      return octets

def loadOctets (fs : FileSystem) (limits : Limits) : Location → Except Error Bytes
  | .path p => fs.readPath limits p
  | .url u => .error (.resource (.remote u))
  | .memory s => do
      (limits.check .documentSize s.utf8ByteSize).mapError .limit
      return Utf8.encode s

/-- The octets at a location, if they are those of a text. -/
def loadEncoded (fs : FileSystem) (limits : Limits) (l : Location) : Except Error Bytes := do
  let octets ← fs.loadOctets limits l
  match Utf8.decode octets with
  | .error f => .error (.markup (.notText l.display f))
  | .ok _ => .ok octets

def loadText (fs : FileSystem) (limits : Limits) (l : Location) : Except Error String := do
  let octets ← fs.loadOctets limits l
  (Utf8.decode octets).mapError fun f => .markup (.notText l.display f)

/-- What is read from a path is the content of the file there. -/
theorem entry_of_readPath {fs : FileSystem} {limits : Limits} {p : Path} {bs : Bytes}
    (h : fs.readPath limits p = .ok bs) : fs.entry p = .ok (.file bs) := by
  unfold readPath at h
  cases he : fs.entry p with
  | error f => simp [he, Except.bind] at h
  | ok node =>
      cases node with
      | file octets =>
          simp only [he, Except.bind, content] at h
          obtain ⟨_, _, hb⟩ := bind_eq_ok_iff.1 h
          cases Except.ok.inj hb
          rfl
      | directory => simp [he, Except.bind, content] at h
      | link target => simp [he, Except.bind, content] at h

/-- What is opened and can be read at a path is the content of the file there. -/
theorem entry_of_openPath {fs : FileSystem} {limits : Limits} {p : Path} {bs : Bytes}
    (h : fs.openPath limits p = .ok (.ok bs)) : fs.entry p = .ok (.file bs) := by
  unfold openPath at h
  cases he : fs.entry p with
  | error f => simp [he] at h
  | ok node =>
      simp only [he] at h
      cases node with
      | file octets =>
          simp only [content] at h
          obtain ⟨_, _, hb⟩ := bind_eq_ok_iff.1 h
          cases hb
          rfl
      | directory => cases h
      | link target => cases h

/-- A file that can be read can be opened. -/
theorem openPath_of_readPath {fs : FileSystem} {limits : Limits} {p : Path} {bs : Bytes}
    (h : fs.readPath limits p = .ok bs) : fs.openPath limits p = .ok (.ok bs) := by
  have hentry := entry_of_readPath h
  unfold readPath at h
  simp only [hentry, Except.bind, content] at h
  obtain ⟨_, hcheck, _⟩ := bind_eq_ok_iff.1 h
  simp only [openPath, hentry, content]
  exact bind_eq_ok_iff.2 ⟨_, hcheck, rfl⟩

theorem readPath_length_le {fs : FileSystem} {limits : Limits} {p : Path} {bs : Bytes}
    (h : fs.readPath limits p = .ok bs) : bs.length ≤ limits.maxDocumentSize := by
  unfold readPath at h
  split at h
  · exact absurd h (by simp)
  · obtain ⟨_, hc, hb⟩ := bind_eq_ok_iff.1 h
    cases Except.ok.inj hb
    exact (Limits.check_ok_iff limits .documentSize _).1 (mapError_eq_ok_iff.1 hc)

end FileSystem
end SchemaSet
