import TemplateProjection.Value.Basic
import TemplateProjection.Decimal.Binary

/-!
# Equality of values

Numbers are equal when they are the same point of the line, whatever their types: `true`, `1` and `1.0` are equal, and
what is not a number equals nothing. A list never equals a tuple. Dictionaries are equal when each key of one is found
in the other with an equal value, in any order, and sets when each item of one is found in the other, frozen or not. A
deque's bound and an array's code do not count. Nodes are equal when they are of one type with equal fields.

`Value.dictOf` builds a dictionary from pairs: a repeated key keeps its first place and takes the last value.
-/

namespace TemplateProjection

/-- The place of a numeric value on the line; no other value has one. -/
def Value.point? : Value → Option Decimal.Point
  | .bool b => some (.ofInt b.toInt)
  | .int n => some (.ofInt n)
  | .float x => (Decimal.Number.ofFloat x).point?
  | _ => none

/-- Both values are numbers and stand at the same point. -/
def Value.samePoint (a b : Value) : Bool :=
  match a.point?, b.point? with
  | some p, some q => p == q
  | _, _ => false

mutual

def Value.eq : Value → Value → Bool
  | .null, .null => true
  | .str s, .str t => s == t
  | .list xs, .list ys => Value.eqAll xs ys
  | .tuple xs, .tuple ys => Value.eqAll xs ys
  | .dict xs, .dict ys => xs.length == ys.length && Value.foundIn xs ys
  | .collection k xs, .collection l ys =>
    if k.isSet && l.isSet then xs.length == ys.length && Value.allIn xs ys
    else k.typeName == l.typeName && Value.eqAll xs ys
  | .object o, .object p => o == p
  | .node m, .node n => m.eq n
  | .tagHead a, .tagHead b => a.eq b
  | .attrsHead a w, .attrsHead b v => a.eq b && w.eq v
  | .attr a k t, .attr b l u => a.eq b && k == l && t.eq u
  | a, b => a.samePoint b
termination_by structural a => a

/-- Item by item, and as many. -/
def Value.eqAll : List Value → List Value → Bool
  | [], [] => true
  | x :: xs, y :: ys => x.eq y && Value.eqAll xs ys
  | _, _ => false
termination_by structural xs => xs

/-- Each item has an equal one. -/
def Value.allIn : List Value → List Value → Bool
  | [], _ => true
  | x :: xs, ys => ys.any (fun y => x.eq y) && Value.allIn xs ys
termination_by structural xs => xs

/-- Each pair has a partner: the first with an equal key, and its value is equal too. -/
def Value.foundIn : List (Value × Value) → List (Value × Value) → Bool
  | [], _ => true
  | (k, v) :: rest, ys =>
    (match ys.find? fun e => k.eq e.1 with
      | some e => v.eq e.2
      | none => false) && Value.foundIn rest ys
termination_by structural xs => xs

def Node.eq : Node → Node → Bool
  | .bare, .bare => true
  | .multi a, .multi b => a.eq b
  | .lineBreak, .lineBreak => true
  | .textBlock a, .textBlock b => a.eq b
  | .unrecognized a, .unrecognized b => a.eq b
  | .construct k f b, .construct l g c => k == l && f.eq g && b.eq c
  | .markup h c, .markup i d => h.eq i && c.eq d
  | _, _ => false
termination_by structural m => m

end

/-! ## Dictionaries -/

/-- The pairs with one more: it takes the place of the first pair with an equal key, else the last place. -/
def Value.insertPair : List (Value × Value) → Value → Value → List (Value × Value)
  | [], k, v => [(k, v)]
  | e :: rest, k, v => if e.1.eq k then (e.1, v) :: rest else e :: Value.insertPair rest k v

/-- The dictionary of the pairs, inserted in turn. -/
def Value.dictOf (pairs : List (Value × Value)) : Value :=
  .dict (pairs.foldl (fun entries e => Value.insertPair entries e.1 e.2) [])

end TemplateProjection
