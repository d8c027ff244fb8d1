/-!
# Kinds

The kinds of language construct and of attribute value, each with the word that names it in a tree and the label that
texts show. A kind field may hold a word that names no kind; such a field is kept as it is.
-/

namespace TemplateProjection

/-- What a language construct does with its code. -/
inductive ConstructKind
  /-- A block of code that carries its own indentation. -/
  | embedded
  /-- Code inside a text. -/
  | interpolation
  /-- A statement. -/
  | control
  /-- An expression whose value is shown. -/
  | output
  deriving DecidableEq, Repr

namespace ConstructKind

def all : List ConstructKind := [embedded, interpolation, control, output]

/-- The word that names the kind in a tree. -/
def word : ConstructKind → String
  | embedded => "embedded"
  | interpolation => "interpolate"
  | control => "control"
  | output => "output"

/-- The label of the kind in texts. -/
def label : ConstructKind → String
  | embedded => "EMBEDDED_BLOCK"
  | interpolation => "INTERPOLATION"
  | control => "CONTROL"
  | output => "OUTPUT"

/-- Output and interpolation may stand on the line of a markup head. -/
def isInline : ConstructKind → Bool
  | output | interpolation => true
  | embedded | control => false

def ofWord? (w : String) : Option ConstructKind := all.find? fun k => k.word = w

theorem ofWord?_word (k : ConstructKind) : ofWord? k.word = some k := by cases k <;> decide

end ConstructKind

/-- How an attribute value is written in a template. -/
inductive ValueKind
  /-- A literal text. -/
  | static
  /-- Code. -/
  | dynamic
  deriving DecidableEq, Repr

namespace ValueKind

def all : List ValueKind := [static, dynamic]

/-- The word that names the kind in a tree. -/
def word : ValueKind → String
  | static => "static"
  | dynamic => "dynamic"

/-- The label of the kind in texts. -/
def label : ValueKind → String
  | static => "STATIC"
  | dynamic => "DYNAMIC"

def ofWord? (w : String) : Option ValueKind := all.find? fun k => k.word = w

theorem ofWord?_word (k : ValueKind) : ofWord? k.word = some k := by cases k <;> decide

end ValueKind

/-- The content of a kind field. -/
inductive KindWord (κ : Type) where
  | known (kind : κ)
  | unknown (word : String)
  deriving DecidableEq, Repr

/-- A word read with the given reader of kinds. -/
def KindWord.ofWord {κ : Type} (read? : String → Option κ) (w : String) : KindWord κ :=
  match read? w with
  | some k => .known k
  | none => .unknown w

end TemplateProjection
