/-!
# Error codes

The codes that an error can be searched by. A code's text names its category and a number.
-/

namespace TemplateProjection

inductive ErrorCode
  /-- A shape of a known kind lacks a field, or has one of the wrong type. -/
  | malformedNode
  /-- A head's width differs from the one that a parser reports. -/
  | paddingMismatch
  /-- A level or a width of indentation is not usable. -/
  | invalidIndent
  deriving DecidableEq, Repr

namespace ErrorCode

def all : List ErrorCode := [malformedNode, paddingMismatch, invalidIndent]

def text : ErrorCode → String
  | malformedNode => "SX-STR-001"
  | paddingMismatch => "SX-STR-002"
  | invalidIndent => "SX-CFG-001"

def label : ErrorCode → String
  | malformedNode => "MALFORMED_NODE"
  | paddingMismatch => "PADDING_MISMATCH"
  | invalidIndent => "INVALID_INDENT"

def category : ErrorCode → String
  | malformedNode | paddingMismatch => "structure"
  | invalidIndent => "config"

def ofText? (s : String) : Option ErrorCode := all.find? fun c => c.text = s

theorem ofText?_text (c : ErrorCode) : ofText? c.text = some c := by cases c <;> decide

end ErrorCode

end TemplateProjection
