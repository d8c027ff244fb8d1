import TemplateProjection.Error.Code
import TemplateProjection.Path
import TemplateProjection.Value.Summary

/-!
# Errors

An error is the failure of a rule of this library, with a cause, the path it was met at and the value at fault; or a
value that was asked for something its type does not offer; or a value that names no member of an enumeration.

`Cause.line` words the cause. `Failure.message` adds a line for the path and one for the value, each only if there is
one, and `Failure.compact` puts the code in front.
-/

namespace TemplateProjection

/-! ## Faults of access -/

/-- What a value was asked for in vain. -/
inductive AccessFault
  | notIterable (typeName : String)
  | noLength (typeName : String)
  | noField (typeName field : String)
  deriving DecidableEq, Repr

def AccessFault.message : AccessFault → String
  | notIterable typeName => "'" ++ typeName ++ "' object is not iterable"
  | noLength typeName => "object of type '" ++ typeName ++ "' has no len()"
  | noField typeName field => "'" ++ typeName ++ "' object has no attribute '" ++ field ++ "'"

/-! ## Causes -/

/-- The families of failures: each is a special case of the one before. -/
inductive FailureFamily
  | projection
  | structural
  | paddingMismatch
  deriving DecidableEq, Repr

/-- The code of a failure that is given none of its own. -/
def FailureFamily.code? : FailureFamily → Option ErrorCode
  | projection => none
  | structural => some .malformedNode
  | paddingMismatch => some .paddingMismatch

/-- Why a rule of this library failed. -/
inductive Cause
  /-- A visited place holds neither a list nor a tuple. -/
  | notAList
  /-- A shape named `node` ends before the field `what`. -/
  | missingField (node what : String) (index : Nat)
  /-- The field `what` must be a text. -/
  | notText (what typeName : String)
  /-- An entry of an attribute list is no attribute shape. -/
  | notAnAttribute
  /-- An attribute's value is no list, or an empty one. -/
  | valueNotAList
  /-- An attribute's value ends before its text. -/
  | missingValueText (name : String) (index : Nat)
  /-- The text of an attribute's value is no text. -/
  | valueNotText (name typeName : String)
  /-- A construct that shows its code has none. -/
  | missingFragment (kind : ConstructKind)
  /-- An entry of a head's attributes cannot be measured. -/
  | malformedAttribute (fault : AccessFault)
  /-- A head's width is not the reported one. -/
  | widthMismatch (computed : Int) (expected : Value)
  /-- No indentation has this level. -/
  | negativeLevel (level : Int)
  | indentWidthNotInt (typeName : String)
  | negativeIndentWidth (width : Int)
  /-- A failure in a caller's own words, with the caller's choice of a code. -/
  | reported (family : FailureFamily) (code : Option ErrorCode) (line : String)

namespace Cause

def family : Cause → FailureFamily
  | notAList | missingField _ _ _ | notText _ _ | notAnAttribute | valueNotAList | missingValueText _ _
  | valueNotText _ _ | missingFragment _ | malformedAttribute _ => .structural
  | widthMismatch _ _ => .paddingMismatch
  | negativeLevel _ | indentWidthNotInt _ | negativeIndentWidth _ => .projection
  | reported family _ _ => family

def code? : Cause → Option ErrorCode
  | negativeLevel _ | indentWidthNotInt _ | negativeIndentWidth _ => some .invalidIndent
  | reported family code _ => code <|> family.code?
  | c => c.family.code?

/-- The cause in words, on one line. -/
def line : Cause → String
  | notAList => "Expected a list node"
  | missingField node what index => "'" ++ node ++ "' node has no " ++ what ++ " at index " ++ toString index
  | notText what typeName => what ++ " must be a string, got " ++ typeName
  | notAnAttribute => "Expected an 'attr' node"
  | valueNotAList => "Attribute value must be a list node"
  | missingValueText name index =>
    "Attribute " ++ Text.quote name ++ " value has no field at index " ++ toString index
  | valueNotText name typeName =>
    "Attribute " ++ Text.quote name ++ " value text must be a string, got " ++ typeName
  | missingFragment kind => kind.label ++ " construct has no code fragment"
  | malformedAttribute fault => "Malformed attribute in attribute list: " ++ fault.message
  | widthMismatch computed expected =>
    "Attribute padding is " ++ toString computed ++ " columns but the source spans " ++ expected.text
  | negativeLevel level => "indent level must be >= 0, got " ++ toString level
  | indentWidthNotInt typeName => "indent_width must be an int, got " ++ typeName
  | negativeIndentWidth width => "indent_width must be >= 0, got " ++ toString width
  | reported _ _ line => line

end Cause

/-! ## Failures -/

/-- A cause with the place and the value at fault. -/
structure Failure where
  cause : Cause
  path? : Option Path := none
  /-- The value at fault; null stands for none. -/
  node : Value := .null

namespace Failure

/-- The line for a path; a path without text has none. -/
def pathLine? (p : Option Path) : Option String :=
  p.bind fun p => if p.text = "" then none else some ("  at: " ++ p.text)

/-- The line for a value; null has none. -/
def nodeLine? (v : Value) : Option String := if v.isNull then none else some ("  node: " ++ v.summary)

/-- The lines of the message. -/
def lines (f : Failure) : List String := f.cause.line :: ((pathLine? f.path?).toList ++ (nodeLine? f.node).toList)

def message (f : Failure) : String := String.intercalate "\n" f.lines

/-- The message with its code in front, unless it starts with it or has none. -/
def compact (f : Failure) : String :=
  match f.cause.code? with
  | none => f.message
  | some code =>
    if code.text.toList.isPrefixOf f.message.toList then f.message else code.text ++ ": " ++ f.message

end Failure

/-! ## Errors -/

inductive Error
  | failure (f : Failure)
  | access (fault : AccessFault)
  /-- The value names no member of the enumeration of that type. -/
  | notAMember (value : Value) (typeName : String)

def Error.message : Error → String
  | failure f => f.message
  | access fault => fault.message
  | notAMember value typeName => value.literal ++ " is not a valid " ++ typeName

/-- A failure without a path. -/
def Error.ofCause (cause : Cause) (node : Value := .null) : Error := .failure ⟨cause, none, node⟩

/-- A failure met at a path. -/
def Error.atPath (path : Path) (cause : Cause) (node : Value) : Error := .failure ⟨cause, some path, node⟩

/-- The code that a value names. -/
def ErrorCode.ofValue (v : Value) : Except Error ErrorCode :=
  match v.word?.bind ofText? with
  | some c => .ok c
  | none => .error (.notAMember v "ErrorCode")

/-- The kind of construct that a value names. -/
def ConstructKind.ofValue (v : Value) : Except Error ConstructKind :=
  match v.word?.bind ofWord? with
  | some k => .ok k
  | none => .error (.notAMember v "ConstructKind")

end TemplateProjection
