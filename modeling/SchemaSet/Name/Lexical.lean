import SchemaSet.Text.Blank

/-!
# Lexical names

The texts of `name`, `type`, `ref` and `base` attributes are validated.  An unqualified name is a
name start character followed by name characters, all of the basic plane.  A qualified name is one
unqualified name or two with a colon between them.  Validation succeeds exactly on names
(`validate_ok_iff`, `validateQualified_ok_iff`).
-/

namespace SchemaSet
namespace Name

/-- The characters that may begin a name. -/
def startRanges : List (Nat × Nat) :=
  [(0x41, 0x5A), (0x5F, 0x5F), (0x61, 0x7A), (0xC0, 0xD6), (0xD8, 0xF6), (0xF8, 0x2FF),
    (0x370, 0x37D), (0x37F, 0x1FFF), (0x200C, 0x200D), (0x2070, 0x218F), (0x2C00, 0x2FEF),
    (0x3001, 0xD7FF), (0xF900, 0xFDCF), (0xFDF0, 0xFFFD)]

/-- The characters that may stand in a name but not begin it. -/
def laterRanges : List (Nat × Nat) :=
  [(0x2D, 0x2E), (0x30, 0x39), (0xB7, 0xB7), (0x300, 0x36F), (0x203F, 0x2040)]

/-- Whether a character may begin a name. -/
def isStart (c : Char) : Bool := Text.inRanges startRanges c.toNat

/-- Whether a character may stand in a name. -/
def isLater (c : Char) : Bool := isStart c || Text.inRanges laterRanges c.toNat

/-- Whether some characters are an unqualified name. -/
def isUnqualifiedChars : List Char → Bool
  | [] => false
  | c :: r => isStart c && r.all isLater

/-- Whether a text is an unqualified name. -/
def isUnqualified (s : String) : Bool := isUnqualifiedChars s.toList

/-- The parts of a text before and after its first colon, if it has one. -/
def splitColon (s : String) : Option (String × String) :=
  (Text.cut (· == ':') s.toList).map fun p => (String.ofList p.1, String.ofList p.2)

/-- Whether a text is a qualified name. -/
def isQualified (s : String) : Bool :=
  match Text.cut (· == ':') s.toList with
  | some (before, after) => isUnqualifiedChars before && isUnqualifiedChars after
  | none => isUnqualified s

/-- Why a text is refused as a name. -/
inductive Fault
  | notUnqualified (text : String)
  | notQualified (text : String)
  /-- A reason in the words of the caller. -/
  | stated (text : String)
deriving DecidableEq, Repr

def Fault.message : Fault → String
  | .notUnqualified s => "Invalid NCName: '" ++ s ++ "'"
  | .notQualified s => "Invalid QName: '" ++ s ++ "'"
  | .stated s => s

/-- Accepts an unqualified name. -/
def validate (s : String) : Except Fault Unit :=
  if isUnqualified s then .ok () else .error (.notUnqualified s)

/-- Accepts a qualified name. -/
def validateQualified (s : String) : Except Fault Unit :=
  if isQualified s then .ok () else .error (.notQualified s)

theorem validate_ok_iff (s : String) : validate s = .ok () ↔ isUnqualified s = true := by
  unfold validate
  split <;> simp_all

theorem validateQualified_ok_iff (s : String) :
    validateQualified s = .ok () ↔ isQualified s = true := by
  unfold validateQualified
  split <;> simp_all

end Name
end SchemaSet
