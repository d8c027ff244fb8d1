import TemplateProjection.Value.Basic
import TemplateProjection.Decimal.Layout
import TemplateProjection.Text.Quoted

/-!
# Literals

Every value has a literal: constants by name, numbers in decimal, texts quoted, containers in brackets, nodes as the
name of their type with their fields. A tuple of one item carries a comma behind it. An object of another type writes
its own.

An interpreter may refuse to write out an integer of thousands of digits, or a value nested too deep. Such limits are
left out: an integer has its literal here, however many digits it takes.
-/

namespace TemplateProjection

/-- The items of a container, a comma and a space between them. -/
def commaSeparated (items : List String) : String := String.intercalate ", " items

def listLiteral (items : List String) : String := "[" ++ commaSeparated items ++ "]"

def tupleLiteral : List String → String
  | [item] => "(" ++ item ++ ",)"
  | items => "(" ++ commaSeparated items ++ ")"

def dictLiteral (pairs : List String) : String := "\x7b" ++ commaSeparated pairs ++ "\x7d"

/-- Braces with items between them; without items the name of the type says it alone. -/
def setLiteral : List String → String
  | [] => "set()"
  | items => "\x7b" ++ commaSeparated items ++ "\x7d"

def frozensetLiteral : List String → String
  | [] => "frozenset()"
  | items => "frozenset(\x7b" ++ commaSeparated items ++ "\x7d)"

def dequeLiteral (bound? : Option Nat) (items : List String) : String :=
  "deque([" ++ commaSeparated items ++ "]" ++
    (match bound? with
      | some n => ", maxlen=" ++ toString n
      | none => "") ++ ")"

/-- What stands in front of an array's items. -/
def ArrayCode.opening (c : ArrayCode) : String := "array('" ++ String.singleton c.char ++ "'"

def arrayLiteral (c : ArrayCode) : List String → String
  | [] => c.opening ++ ")"
  | items => c.opening ++ ", [" ++ commaSeparated items ++ "])"

/-- The array of the characters of a text. -/
def textArrayLiteral (c : ArrayCode) (text : String) : String := c.opening ++ ", " ++ Text.quote text ++ ")"

def pairLiteral (key value : String) : String := key ++ ": " ++ value

/-- A type's name with named fields. -/
def recordLiteral (type : String) (fields : List (String × String)) : String :=
  type ++ "(" ++ commaSeparated (fields.map fun f => f.1 ++ "=" ++ f.2) ++ ")"

/-- A member of an enumeration with its label and its word. -/
def memberLiteral (type label word : String) : String := "<" ++ type ++ "." ++ label ++ ": " ++ Text.quote word ++ ">"

def ConstructKind.literal (k : ConstructKind) : String := memberLiteral "ConstructKind" k.label k.word

def ValueKind.literal (k : ValueKind) : String := memberLiteral "ValueKind" k.label k.word

/-- A kind by its own literal, any other word as a quoted text. -/
def KindWord.literal {κ : Type} (kindLiteral : κ → String) : KindWord κ → String
  | known k => kindLiteral k
  | unknown w => Text.quote w

mutual

def Value.literal : Value → String
  | .null => "None"
  | .bool true => "True"
  | .bool false => "False"
  | .int n => toString n
  | .float x => Decimal.write x
  | .str s => Text.quote s
  | .list items => listLiteral (Value.literals items)
  | .tuple items => tupleLiteral (Value.literals items)
  | .dict entries => dictLiteral (Value.pairLiterals entries)
  | .collection .set items => setLiteral (Value.literals items)
  | .collection .frozenset items => frozensetLiteral (Value.literals items)
  | .collection (.deque bound?) items => dequeLiteral bound? (Value.literals items)
  | .collection (.array code) items =>
    if code.isText && !items.isEmpty then textArrayLiteral code (String.join (items.filterMap Value.word?))
    else arrayLiteral code (Value.literals items)
  | .object o => o.literal
  | .node n => n.literal
  | .tagHead name => recordLiteral "TagDescriptor" [("name", name.literal)]
  | .attrsHead attributes sourceWidth =>
    recordLiteral "AttributeListDescriptor"
      [("attributes", attributes.literal), ("source_width", sourceWidth.literal)]
  | .attr name kind text =>
    recordLiteral "Attribute"
      [("name", name.literal), ("value_kind", kind.literal ValueKind.literal), ("value_text", text.literal)]

def Value.literals : List Value → List String
  | [] => []
  | v :: rest => v.literal :: Value.literals rest

def Value.pairLiterals : List (Value × Value) → List String
  | [] => []
  | (k, v) :: rest => pairLiteral k.literal v.literal :: Value.pairLiterals rest

def Node.literal : Node → String
  | .bare => recordLiteral "Node" []
  | .multi children => recordLiteral "Multi" [("children", children.literal)]
  | .lineBreak => recordLiteral "LineBreak" []
  | .textBlock children => recordLiteral "TextBlock" [("children", children.literal)]
  | .unrecognized raw => recordLiteral "Unrecognized" [("raw", raw.literal)]
  | .construct kind fragment body =>
    recordLiteral "LanguageConstruct"
      [("kind", kind.literal ConstructKind.literal), ("fragment", fragment.literal), ("body", body.literal)]
  | .markup head content =>
    recordLiteral "MarkupElement" [("descriptor", head.literal), ("content", content.literal)]

end

/-- A text as itself, an object of another type as it writes itself, any other value by its literal. -/
def Value.text : Value → String
  | .str s => s
  | .object o => o.text
  | v => v.literal

end TemplateProjection
