import TemplateProjection.Run
import TemplateProjection.Raw.Adapt
import TemplateProjection.Text.Blank
import TemplateProjection.Width

/-!
# Projection

A tree is projected to the text of its code. Each node stands at a level of nesting, and at the root or below it:

* a container gives the text of its children, at its own place;
* a line break gives a newline;
* a statement (control, output or interpolation) gives the indentation of its level and its code, then its body one
  level in;
* an embedded block gives its body: flush left if it stands at the root, else one level in;
* a markup element gives the indentation of its level, the padding of its head, and its content at its own level. An
  output or interpolation without a body that is its content stays on the line, behind one more indentation, and ends it
  with a newline. A text block that is its content gives its children;
* everything else gives nothing and is noted.

The functions follow the structure of values and nodes, so a projection ends on every tree.
-/

namespace TemplateProjection

/-- The code that a construct shows, without the blanks around it. -/
def shownCode (kind : KindWord ConstructKind) (fragment body : Value) : Except Error String :=
  match fragment, kind with
  | .str s, _ => .ok (Text.strip s)
  | _, .known k => .error (.ofCause (.missingFragment k) (.node (.construct kind fragment body)))
  | _, .unknown _ => .error (.access (.noField (Value.str "").typeName "name"))

/-- The line of a statement, without its body. -/
def statementHead (o : Options) (kind : KindWord ConstructKind) (fragment body : Value) (level : Int) :
    Run String := do
  let indentation ← Run.indentation o level
  let code ← .ofExcept (shownCode kind fragment body)
  pure (indentation ++ code)

/-- The blank that stands in for an element's place and head. -/
def markupHead (o : Options) (head : Value) (level : Int) : Run String := do
  let indentation ← Run.indentation o level
  let padding ← .ofExcept (head.padding o)
  pure (indentation ++ padding)

/-- An output or interpolation on the line of a markup head. -/
def inlineConstruct (o : Options) (kind : KindWord ConstructKind) (fragment body : Value) (level : Int) :
    Run String := do
  let line ← statementHead o kind fragment body level
  pure (line ++ "\n")

/-- The level of an embedded block's body. -/
def embeddedLevel (level : Int) (isRoot : Bool) : Int := if isRoot then 0 else level + 1

/-- A node that gives no text. -/
def skip (n : Notice) : Run (Option String) := do
  Run.note n
  pure none

mutual

/-- The text of a sequence of siblings, which may be given as a single node. -/
def Value.project (o : Options) : Value → (level : Int) → (isRoot : Bool) → Run String
  | .list items, level, isRoot => Value.projectAll o items level isRoot
  | .tuple items, level, isRoot => Value.projectAll o items level isRoot
  | .node n, level, isRoot => do
    let text ← n.project o level isRoot
    pure (text.getD "")
  | .dict entries, level, isRoot => Value.projectKeys o entries level isRoot
  | .collection _ items, level, isRoot => Value.projectAll o items level isRoot
  | .str _, _, _ => pure ""
  | v, _, _ => .fail (.access (.notIterable v.typeName))

/-- The texts of all entries in turn; those that are no nodes are ignored. -/
def Value.projectAll (o : Options) : List Value → (level : Int) → (isRoot : Bool) → Run String
  | [], _, _ => pure ""
  | .node n :: rest, level, isRoot => do
    let text ← n.project o level isRoot
    let others ← Value.projectAll o rest level isRoot
    pure (text.getD "" ++ others)
  | _ :: rest, level, isRoot => Value.projectAll o rest level isRoot

/-- The texts of all keys in turn; those that are no nodes are ignored. -/
def Value.projectKeys (o : Options) : List (Value × Value) → (level : Int) → (isRoot : Bool) → Run String
  | [], _, _ => pure ""
  | (.node n, _) :: rest, level, isRoot => do
    let text ← n.project o level isRoot
    let others ← Value.projectKeys o rest level isRoot
    pure (text.getD "" ++ others)
  | _ :: rest, level, isRoot => Value.projectKeys o rest level isRoot

/-- The content of a markup element. -/
def Value.projectContent (o : Options) : Value → (level : Int) → Run String
  | .node (.construct (.unknown _) _ _), _ => .fail (.access (.noField (Value.str "").typeName "is_inline"))
  | .node (.construct (.known kind) fragment body), level =>
    if kind.isInline && body.isNull then inlineConstruct o (.known kind) fragment body level
    else do
      let text ← (Node.construct (.known kind) fragment body).project o level false
      pure (text.getD "")
  | .node (.textBlock children), level => children.project o level false
  | .node n, level => do
    let text ← n.project o level false
    pure (text.getD "")
  | _, _ => pure ""

/-- The text of one node, or none. -/
def Node.project (o : Options) : Node → (level : Int) → (isRoot : Bool) → Run (Option String)
  | .multi children, level, isRoot => do
    let text ← children.project o level isRoot
    pure (some text)
  | .lineBreak, _, _ => pure (some "\n")
  | .textBlock _, _, _ => skip .skippedText
  | .construct (.unknown word) _ _, _, _ => skip (.skippedConstruct word)
  | .construct (.known .embedded) _ body, level, isRoot => do
    let text ← if body.isNull then pure "" else body.project o (embeddedLevel level isRoot) false
    pure (some text)
  | .construct (.known kind) fragment body, level, _ => do
    let line ← statementHead o (.known kind) fragment body level
    let nested ← if body.isNull then pure "" else body.project o (level + 1) false
    pure (some (line ++ nested))
  | .markup head content, level, _ => do
    let blank ← markupHead o head level
    let text ← content.projectContent o level
    pure (some (blank ++ text))
  | .bare, _, _ => skip (.skippedNode Node.bare.typeName)
  | .unrecognized raw, _, _ => skip (.skippedNode (Node.unrecognized raw).typeName)

end

end TemplateProjection
