import TemplateProjection.Projection

/-!
# Sessions

A session is a sequence of commands with one memo of indentations. A command that fails does not end it: the next one
goes on with the memo as the failure left it.

`Run.fresh` is a single request: a run on an empty memo, of which the result and the log count.
-/

namespace TemplateProjection

/-- Raw data as a node, and the node's text. -/
def Value.projectRaw (o : Options) (raw : Value) (level : Int) (isRoot : Bool) : Run String := do
  let n ← .ofLogged (raw.adapt o.lenientAttributes .root)
  (Value.node n).project o level isRoot

inductive Command
  /-- Project a sequence of siblings. -/
  | project (tree : Value) (level : Int) (isRoot : Bool)
  /-- Adapt raw data and project the node. -/
  | projectRaw (raw : Value) (level : Int) (isRoot : Bool)
  /-- Project one node, and tell no text from an empty one. -/
  | projectNode (node : Value) (level : Int) (isRoot : Bool)
  /-- Project a markup element, given by its head and content. -/
  | markup (head content : Value) (level : Int)
  /-- The padding of a head. -/
  | padding (head : Value)
  | indentation (level : Int)
  | clear

/-- A value as a single node; one that is no node is skipped. -/
def Value.projectNode (o : Options) : Value → (level : Int) → (isRoot : Bool) → Run (Option String)
  | .node n, level, isRoot => n.project o level isRoot
  | v, _, _ => skip (.skippedNode v.typeName)

namespace Command

def run (o : Options) : Command → Run (Option String)
  | project tree level isRoot => some <$> tree.project o level isRoot
  | projectRaw raw level isRoot => some <$> raw.projectRaw o level isRoot
  | projectNode node level isRoot => node.projectNode o level isRoot
  | markup head content level => (Node.markup head content).project o level false
  | padding head => some <$> Run.ofExcept (head.padding o)
  | indentation level => some <$> Run.indentation o level
  | clear => do
    Run.clearMemo
    pure none

end Command

/-- The outcomes of the commands in turn, the first on the memo `m`. -/
def runSession (o : Options) : List Command → (m : Memo) → List (Outcome (Option String))
  | [], _ => []
  | c :: rest, m =>
    let out := (c.run o).run m
    out :: runSession o rest out.memo

/-- What a run gives on an empty memo. -/
def Run.fresh {α : Type} (x : Run α) : Logged α :=
  let out := x.run .empty
  ⟨out.result, out.log⟩

end TemplateProjection
