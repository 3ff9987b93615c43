import Callpoint.Schema.FieldType
import Callpoint.Schema.TagText

/-!
# Fields

What is known of one field of a described type: its name, its type and its tags.  Four tags have a
meaning: `json` for the name on the wire, `validate` for the rules, `description` and `example` for
the documentation.
-/

namespace Callpoint

/-- **One field of a described type.** -/
structure Field where
  name : String
  type : FieldType
  tags : Assoc String := []
deriving Repr, Inhabited

namespace Field

/-- The value of a tag. -/
def tag? (f : Field) (key : String) : Option String := f.tags.get? key

/-- The field with a tag set. -/
def withTag (f : Field) (key value : String) : Field := { f with tags := f.tags.set key value }

/-- The field with the tags that a tag text sets. -/
def withTagText (f : Field) (text : String) : Field :=
  { f with tags := f.tags.setAll (TagText.parse text) }

/-- The key of the tag that holds the name on the wire. -/
def wireKey : String := "json"

/-- The key of the tag that holds the rules. -/
def rulesKey : String := "validate"

/-- The key of the tag that holds the description. -/
def descriptionKey : String := "description"

/-- The key of the tag that holds the example. -/
def exampleKey : String := "example"

end Field

end Callpoint
