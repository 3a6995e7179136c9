import SchemaSet.Error
import SchemaSet.Journal
import SchemaSet.Notice

/-!
# Claims on keys

A document or an identifier claims a key for a path.  The first claim of a key makes an entry.  A
later claim with the same path changes nothing; one with another path is settled by the policy.
Under every policy a first claim is entered (`claim_new`) and a repeated one is passed over
(`claim_same`).
-/

namespace SchemaSet

/-- Where an entry comes from. -/
inductive Origin
  /-- The root of a document in the directory. -/
  | document
  /-- A catalog, or an identifier given by the caller. -/
  | catalog
deriving DecidableEq, Repr

def Origin.name : Origin → String
  | .document => "document"
  | .catalog => "catalog"

/-- What is known under a key. -/
structure IndexEntry where
  path : Path
  /-- Where the entry comes from. -/
  origin : Origin
deriving DecidableEq, Repr

/-- The entries of an index by key. -/
abbrev Entries := OrderedMap String IndexEntry

/-- A claim of a key. -/
structure Claim where
  key : String
  path : Path
  /-- Where the claim comes from. -/
  origin : Origin
deriving DecidableEq, Repr

/-- What becomes of a key that is claimed for two paths. -/
inductive DuplicatePolicy
  /-- The first claim stands. -/
  | firstWins
  /-- The last claim stands. -/
  | lastWins
  /-- No claim stands. -/
  | reject
deriving DecidableEq, Repr

namespace DuplicatePolicy

instance : Inhabited DuplicatePolicy := ⟨.firstWins⟩

def name : DuplicatePolicy → String
  | .firstWins => "FirstWins"
  | .lastWins => "LastWins"
  | .reject => "Reject"

def words : List (String × DuplicatePolicy) :=
  [("first", .firstWins), ("first-wins", .firstWins), ("last", .lastWins),
    ("last-wins", .lastWins), ("reject", .reject), ("error", .reject)]

/-- The lower-case form of a text; characters beyond ASCII stay. -/
def lower (s : String) : String := String.ofList (s.toList.map Url.lowerAscii)

/-- The policy for a word of either case, or what is wrong with the word. -/
def parse (s : String) : Except String DuplicatePolicy :=
  match words.lookup (lower s) with
  | some p => .ok p
  | none =>
      .error ("Unknown duplicate policy: " ++ lower s ++ ". Use: first, last, reject")

end DuplicatePolicy

namespace Entries

/-- The entries after one more claim. -/
def claim (policy : DuplicatePolicy) (entries : Entries) (c : Claim) :
    Journal Notice Error Entries :=
  match entries.get? c.key with
  | none => .done (entries.insert c.key ⟨c.path, c.origin⟩)
  | some old =>
      if old.path.same c.path then .done entries
      else
        match policy with
        | .firstWins => do
            Journal.note (.duplicateIgnored c.key old.path c.path)
            return entries
        | .lastWins => do
            Journal.note (.duplicateReplaced c.key old.path c.path)
            return entries.insert c.key ⟨c.path, c.origin⟩
        | .reject => .fail (.duplicateNamespace c.key old.path c.path)

/-- The entries after all claims of a list. -/
def claimAll (policy : DuplicatePolicy) : Entries → List Claim → Journal Notice Error Entries
  | entries, [] => .done entries
  | entries, c :: r => do
      let entries ← claim policy entries c
      claimAll policy entries r

theorem claim_new (policy : DuplicatePolicy) (entries : Entries) (c : Claim)
    (h : entries.get? c.key = none) :
    claim policy entries c = .done (entries.insert c.key ⟨c.path, c.origin⟩) := by
  simp [claim, h]

theorem claim_same (policy : DuplicatePolicy) (entries : Entries) (c : Claim) (old : IndexEntry)
    (h : entries.get? c.key = some old) (hp : old.path.same c.path = true) :
    claim policy entries c = .done entries := by
  simp [claim, h, hp]

end Entries
end SchemaSet
