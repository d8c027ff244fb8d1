import TemplateProjection.Path
import TemplateProjection.Value.Literal

/-!
# Notices

What is dropped or left unread without an error is noted: by the adapter, for raw shapes that it does not know, and by
the projection, for nodes that give no text.
-/

namespace TemplateProjection

/-- The stage of work that a notice comes from. -/
inductive Stage
  | adapting
  | projecting
  deriving DecidableEq, Repr

/-- A literal of a word, or of null where there is none. -/
def wordLiteral : Option String → String
  | some w => Text.quote w
  | none => Value.literal .null

inductive Notice
  /-- A list whose first item names no kind of shape; `opening` holds that item at most. -/
  | unknownKind (opening : Value) (path : Path)
  /-- A language construct of no known type. -/
  | unknownConstruct (word : Option String) (path : Path)
  /-- A markup shape of no known type. -/
  | unknownMarkup (word : Option String) (path : Path)
  /-- An attribute's dynamic value that ends before its code. -/
  | valueWithoutCode (name : String) (path : Path)
  /-- A node that no rule projects. -/
  | skippedNode (typeName : String)
  /-- A construct whose kind no rule projects. -/
  | skippedConstruct (word : String)
  /-- A text block that is no markup element's content. -/
  | skippedText

namespace Notice

def stage : Notice → Stage
  | unknownKind _ _ | unknownConstruct _ _ | unknownMarkup _ _ | valueWithoutCode _ _ => .adapting
  | skippedNode _ | skippedConstruct _ | skippedText => .projecting

def message : Notice → String
  | unknownKind opening path => "Unrecognized node kind " ++ opening.literal ++ " at " ++ path.text
  | unknownConstruct word path => "Unrecognized slim construct " ++ wordLiteral word ++ " at " ++ path.text
  | unknownMarkup word path => "Unrecognized html node " ++ wordLiteral word ++ " at " ++ path.text
  | valueWithoutCode name path =>
    "Dynamic value of " ++ Text.quote name ++ " at " ++ path.text ++ " has no code; counting 0 columns"
  | skippedNode typeName => "Skipping unrecognized node: " ++ typeName
  | skippedConstruct word => "Skipping construct of unknown kind: " ++ Text.quote word
  | skippedText => "Skipping text block outside markup content"

end Notice

end TemplateProjection
