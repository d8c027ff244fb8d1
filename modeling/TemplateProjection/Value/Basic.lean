import TemplateProjection.Kind

/-!
# Values and nodes

A template parser hands over untyped data: scalars, lists, tuples, dictionaries and other collections. A projection
works on nodes, and the fields of a node may hold any value, since a caller may build nodes by hand. Hence values and
nodes are one mutual inductive type: a list may hold nodes, and a node's field may hold a list.

`Value.typeName` names the type of a value in texts; `length?`, `elements?`, `name?` and `text?` say what a value offers
to one who counts it, goes through it or asks it for a field.
-/

namespace TemplateProjection

/-! ## Collections and objects -/

/-- The letter that says what an array holds. -/
structure ArrayCode where
  char : Char
  isCode : char ∈ "bBuhHiIlLqQfd".toList
  deriving DecidableEq

/-- An array of characters. -/
def ArrayCode.isText (c : ArrayCode) : Bool := c.char == 'u'

/-- What a collection is, apart from lists, tuples and dictionaries. -/
inductive CollectionKind
  | set
  | frozenset
  /-- A queue with two ends, with the largest number of items that it takes, if there is one. -/
  | deque (bound? : Option Nat)
  | array (code : ArrayCode)
  deriving DecidableEq

namespace CollectionKind

def typeName : CollectionKind → String
  | set => "set"
  | frozenset => "frozenset"
  | deque _ => "deque"
  | array _ => "array"

/-- Whether the order of the items does not count. -/
def isSet : CollectionKind → Bool
  | set | frozenset => true
  | deque _ | array _ => false

end CollectionKind

/-- An object of any other type. It is known by the name of its type and by what it writes for itself; it is equal to
itself only and cannot be counted, gone through, compared or asked for a name. Left out are objects that fail to write
themselves, and types that extend one of the types of `Value` or bear the name of one. -/
structure Foreign where
  /-- Which object it is. -/
  identity : Nat
  typeName : String
  /-- What it writes where a literal is asked for. -/
  literal : String
  /-- What it writes where a text is asked for. -/
  text : String
  deriving DecidableEq

/-! ## Values -/

mutual

/-- Raw data, and whatever may stand in a node's field. -/
inductive Value
  | null
  | bool (b : Bool)
  | int (n : Int)
  | float (x : Float)
  | str (s : String)
  | list (items : List Value)
  | tuple (items : List Value)
  /-- The pairs of a dictionary in order of insertion. -/
  | dict (entries : List (Value × Value))
  /-- Any other collection, its items in the order in which it is gone through. -/
  | collection (kind : CollectionKind) (items : List Value)
  | object (o : Foreign)
  | node (n : Node)
  /-- The head of an element that consists of a tag name. -/
  | tagHead (name : Value)
  /-- The head of an element that consists of attributes, with the width that a parser reports for it, if any. -/
  | attrsHead (attributes sourceWidth : Value)
  | attr (name : Value) (kind : KindWord ValueKind) (text : Value)

/-- A node of a template tree. -/
inductive Node
  /-- A node that is nothing else. -/
  | bare
  /-- A container that stands for its children. -/
  | multi (children : Value)
  | lineBreak
  /-- Literal text; only its place as a markup element's content gives it a meaning. -/
  | textBlock (children : Value)
  /-- A raw shape that no rule knows, kept as it came. -/
  | unrecognized (raw : Value)
  /-- A piece of code, with the nodes nested in it or null. -/
  | construct (kind : KindWord ConstructKind) (fragment body : Value)
  /-- An element: its head and its content or null. -/
  | markup (head content : Value)

end

instance : Inhabited Value := ⟨.null⟩

instance : Inhabited Node := ⟨.bare⟩

/-- The name of a node's type in texts. -/
def Node.typeName : Node → String
  | .bare => "Node"
  | .multi _ => "Multi"
  | .lineBreak => "LineBreak"
  | .textBlock _ => "TextBlock"
  | .unrecognized _ => "Unrecognized"
  | .construct _ _ _ => "LanguageConstruct"
  | .markup _ _ => "MarkupElement"

namespace Value

/-- The name of a value's type in texts. -/
def typeName : Value → String
  | null => "NoneType"
  | bool _ => "bool"
  | int _ => "int"
  | float _ => "float"
  | str _ => "str"
  | list _ => "list"
  | tuple _ => "tuple"
  | dict _ => "dict"
  | collection kind _ => kind.typeName
  | object o => o.typeName
  | node n => n.typeName
  | tagHead _ => "TagDescriptor"
  | attrsHead _ _ => "AttributeListDescriptor"
  | attr _ _ _ => "Attribute"

def isNull : Value → Bool
  | null => true
  | _ => false

/-- The text of a value that is one. -/
def word? : Value → Option String
  | str s => some s
  | _ => none

/-- The items of a list or a tuple. -/
def items? : Value → Option (List Value)
  | list items | tuple items => some items
  | _ => none

def isList (v : Value) : Bool := v.items?.isSome

/-- The list or tuple of the first item at most; any other value is left alone. -/
def opening : Value → Value
  | list items => list (items.take 1)
  | tuple items => tuple (items.take 1)
  | v => v

/-- What a value that can be counted counts: characters, items or pairs. -/
def length? : Value → Option Nat
  | str s => some s.length
  | list items | tuple items | collection _ items => some items.length
  | dict entries => some entries.length
  | _ => none

/-- What a value that can be gone through gives in turn: characters, items or keys. -/
def elements? : Value → Option (List Value)
  | str s => some (s.toList.map fun c => str (String.singleton c))
  | list items | tuple items | collection _ items => some items
  | dict entries => some (entries.map Prod.fst)
  | _ => none

/-- The name that a tag or an attribute carries. -/
def name? : Value → Option Value
  | tagHead name => some name
  | attr name _ _ => some name
  | _ => none

/-- The value text that an attribute carries. -/
def text? : Value → Option Value
  | attr _ _ text => some text
  | _ => none

end Value

end TemplateProjection
