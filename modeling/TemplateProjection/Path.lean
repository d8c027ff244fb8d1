/-!
# Paths

A path leads from a named root down a raw tree by the index of each step; it is written as the name with the indices in
brackets.
-/

namespace TemplateProjection

structure Path where
  /-- The name of the place where the path starts. -/
  base : String
  /-- The index taken at each step, from the root down. -/
  steps : List Int
  deriving DecidableEq, Repr

namespace Path

/-- The path of a whole document. -/
def root : Path := ⟨"root", []⟩

/-- The path that is only a name. -/
def ofText (base : String) : Path := ⟨base, []⟩

/-- One step further. -/
def child (p : Path) (i : Int) : Path := ⟨p.base, p.steps ++ [i]⟩

@[simp]
theorem child_base (p : Path) (i : Int) : (p.child i).base = p.base := rfl

@[simp]
theorem child_steps (p : Path) (i : Int) : (p.child i).steps = p.steps ++ [i] := rfl

/-- The index of one step in brackets. -/
def stepText (i : Int) : String := "[" ++ toString i ++ "]"

def text (p : Path) : String := p.base ++ String.join (p.steps.map stepText)

end Path

end TemplateProjection
