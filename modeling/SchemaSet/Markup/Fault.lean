import SchemaSet.Markup.Attribute
import SchemaSet.Markup.Entity
import SchemaSet.Name.Scope

/-!
# What can be wrong with a document

Every way in which reading a document fails is a constructor of `Fault`, and `Fault.message` is its
wording.
-/

namespace SchemaSet
namespace Markup

/-- Why a document is refused. -/
inductive Fault
  /-- No event can be read. -/
  | broken (b : Break)
  /-- An attribute cannot be read. -/
  | attribute (fault : AttributeFault)
  /-- The key of an attribute is no text. -/
  | attributeName (fault : Utf8.Fault)
  | attributeValue (fault : ValueFault)
  | elementName (fault : Utf8.Fault)
  | unboundElement (name : String) (unbound : Scope.Unbound)
  | unboundAttribute (name : String) (unbound : Scope.Unbound)
  /-- Character data stands for no text. -/
  | text (fault : ValueFault)
  /-- Character data outside the root element. -/
  | textOutsideRoot (position : Nat)
  /-- Character data before the root element. -/
  | textBeforeRoot (position : Nat)
  /-- A second element at the top. -/
  | secondRoot (position : Nat)
  /-- The document ends inside an element. -/
  | openElement (name : QName)
  /-- The document has no element. -/
  | noRoot
  | notText (document : String) (fault : Utf8.Fault)
  /-- A reason in the words of the caller. -/
  | stated (text : String)
deriving DecidableEq, Repr

/-- The heading of faults in names. -/
def namespaceHeading : String := "namespace error: "

def Fault.message : Fault → String
  | .broken b => "Error parsing XML at position " ++ toString b.position ++ ": " ++ b.cause.message
  | .attribute f => "Failed to parse attribute: " ++ f.message
  | .attributeName f => "Invalid attribute name: " ++ f.message
  | .attributeValue f => "Failed to unescape attribute value: " ++ f.message
  | .elementName f => "Invalid element name: " ++ f.message
  | .unboundElement n u => "Element '" ++ n ++ "': " ++ namespaceHeading ++ u.message
  | .unboundAttribute n u => "Attribute '" ++ n ++ "': " ++ namespaceHeading ++ u.message
  | .text f => "Failed to unescape text: " ++ f.message
  | .textOutsideRoot n => "Text outside of the root element at position " ++ toString n
  | .textBeforeRoot n => "Text before the root element at position " ++ toString n
  | .secondRoot n => "Second root element at position " ++ toString n
  | .openElement q => "Unexpected end of document inside element '" ++ q.display ++ "'"
  | .noRoot => "Document has no root element"
  | .notText d f => "Document '" ++ d ++ "' is not valid UTF-8: " ++ f.message
  | .stated s => s

end Markup
end SchemaSet
