import TemplateProjection.Value.Literal
import TemplateProjection.Value.Order

/-!
# Summaries

A summary is a literal of bounded length, for messages. Containers are opened three levels deep and show their first
items; long texts and numbers lose their middle; anything else is cut like a text. Three dots stand for what is left
out.

As for literals, the limits of an interpreter are left out: a summary cuts an integer of any number of digits.
-/

namespace TemplateProjection

namespace Summary

/-- How deep containers are opened. -/
def levels : Nat := 3

/-- How many items of a list, a tuple, a set or a deque are shown. -/
def itemLimit : Nat := 6

/-- How many items of an array are shown. -/
def arrayLimit : Nat := 5

/-- How many pairs of a dictionary are shown. -/
def pairLimit : Nat := 4

/-- The longest literal of a text or of an integer that is left whole. -/
def textLimit : Nat := 40

/-- The longest literal of any other value that is left whole. -/
def otherLimit : Nat := 30

def dots : String := "..."

/-- How many characters are kept in front of the dots. -/
def headLength (limit : Nat) : Nat := (limit - dots.length) / 2

/-- How many characters are kept behind the dots. -/
def tailLength (limit : Nat) : Nat := limit - dots.length - headLength limit

/-- The first and the last characters of a text, dots between them. -/
def joinEnds (limit : Nat) (s : String) : String :=
  String.ofList (s.toList.take (headLength limit)) ++ dots ++
    String.ofList (s.toList.drop (s.length - tailLength limit))

/-- A text without its middle, if it is longer than the limit. -/
def cut (limit : Nat) (s : String) : String := if limit < s.length then joinEnds limit s else s

/-- The last `n` characters of a text that has so many. On a shorter one the count goes on from its end, so that as many
characters as it is short of `n` are taken, or all if it has no more. -/
def lastChars (n : Nat) (cs : List Char) : List Char :=
  if n ≤ cs.length then cs.drop (cs.length - n) else cs.drop (2 * cs.length - n)

/-- The literal of a text, shortened before it is quoted. -/
def ofText (s : String) : String :=
  let cs := s.toList
  let start := Text.quote (String.ofList (cs.take textLimit))
  if textLimit < start.length then
    joinEnds textLimit
      (Text.quote (String.ofList (cs.take (headLength textLimit) ++ lastChars (tailLength textLimit) cs)))
  else start

/-- The first items, each by its summary, and dots if there are more. -/
def firstItems {α : Type} (limit : Nat) (summarize : α → String) (items : List α) : List String :=
  (items.take limit).map summarize ++ if limit < items.length then [dots] else []

/-- What is shown of a container that is not opened. -/
def closed {α : Type} (items : List α) : List String := if items.isEmpty then [] else [dots]

/-- The brackets of a tuple that is not opened. -/
def closedTuple {α : Type} (items : List α) : String := "(" ++ commaSeparated (closed items) ++ ")"

/-- The items in order, or as they are given if some cannot be compared. -/
def sorted {α : Type} (lt? : α → α → Option Bool) (items : List α) : List α := (sort? lt? items).getD items

/-- The pairs in the order of their keys. -/
def sortPairs (entries : List (Value × Value)) : List (Value × Value) := sorted (fun a b => a.1.lt? b.1) entries

/-- The items of a collection as they are shown: those of a set in order. -/
def sortItems (kind : CollectionKind) (items : List Value) : List Value :=
  if kind.isSet then sorted Value.lt? items else items

/-- How many items of a collection are shown. -/
def collectionLimit : CollectionKind → Nat
  | .array _ => arrayLimit
  | _ => itemLimit

/-- The brackets of a collection with what they show. A deque's bound is left out. -/
def collectionLiteral : CollectionKind → List String → String
  | .set, items => setLiteral items
  | .frozenset, items => frozensetLiteral items
  | .deque _, items => dequeLiteral none items
  | .array code, items => arrayLiteral code items

/-- The summary of a value inside which containers are opened `levels` deep. -/
def ofValue : (levels : Nat) → Value → String
  | _, .str s => ofText s
  | _, .int n => cut textLimit (toString n)
  | 0, .list items => listLiteral (closed items)
  | 0, .tuple items => closedTuple items
  | 0, .dict entries => dictLiteral (closed entries)
  | 0, .collection kind items => collectionLiteral kind (closed items)
  | n + 1, .list items => listLiteral (firstItems itemLimit (ofValue n) items)
  | n + 1, .tuple items => tupleLiteral (firstItems itemLimit (ofValue n) items)
  | n + 1, .dict entries =>
    dictLiteral (firstItems pairLimit (fun e => pairLiteral (ofValue n e.1) (ofValue n e.2)) (sortPairs entries))
  | n + 1, .collection kind items =>
    collectionLiteral kind (firstItems (collectionLimit kind) (ofValue n) (sortItems kind items))
  | _, v => cut otherLimit v.literal

end Summary

/-- The summary that messages show. -/
def Value.summary (v : Value) : String := Summary.ofValue Summary.levels v

end TemplateProjection
