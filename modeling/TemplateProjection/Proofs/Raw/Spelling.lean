import TemplateProjection.Proofs.Projection.Heads
import TemplateProjection.Proofs.Raw.Related

/-!
# Spellings of raw data

The same raw data may be spelled differently: a list may be given as a tuple (`Value.Retyped`), and a tag may carry one
colon in front (`Value.SameTag`). A strict reader makes the same of any two spellings, and so does a lenient one unless
the text of an attribute's value holds a list, since it counts such a text by its written form. An error may name the
type that it finds where a text should be, and this name is then the one thing that differs (`spelling_is_free`).
-/

namespace TemplateProjection

/-! ## Lists and tuples -/

mutual

/-- Some lists are tuples instead, or the other way round, at any depth. -/
inductive Value.Retyped : Value → Value → Prop
  | same (v : Value) : Value.Retyped v v
  | lists {v w : Value} {xs ys : List Value} : v.items? = some xs → w.items? = some ys → AllRetyped xs ys →
      Value.Retyped v w
  | dict {xs ys : List (Value × Value)} : EntriesRetyped xs ys → Value.Retyped (.dict xs) (.dict ys)
  | collection {kind : CollectionKind} {xs ys : List Value} : AllRetyped xs ys →
      Value.Retyped (.collection kind xs) (.collection kind ys)

/-- The same, item by item. -/
inductive AllRetyped : List Value → List Value → Prop
  | nil : AllRetyped [] []
  | cons {v w : Value} {xs ys : List Value} : v.Retyped w → AllRetyped xs ys → AllRetyped (v :: xs) (w :: ys)

/-- The same, in the values of a dictionary; no key is a list. -/
inductive EntriesRetyped : List (Value × Value) → List (Value × Value) → Prop
  | nil : EntriesRetyped [] []
  | cons {v w : Value} {xs ys : List (Value × Value)} (key : Value) : v.Retyped w → EntriesRetyped xs ys →
      EntriesRetyped ((key, v) :: xs) ((key, w) :: ys)

end

mutual

/-- The value is a list or a tuple, or a dictionary or another collection that holds one. -/
def Value.holdsList : Value → Bool
  | .list _ | .tuple _ => true
  | .dict entries => Value.anyHoldsList entries
  | .collection _ items => Value.anyItemHoldsList items
  | _ => false

def Value.anyItemHoldsList : List Value → Bool
  | [] => false
  | v :: rest => v.holdsList || Value.anyItemHoldsList rest

def Value.anyHoldsList : List (Value × Value) → Bool
  | [] => false
  | (_, v) :: rest => v.holdsList || Value.anyHoldsList rest

end

theorem AllRetyped.forall₂ : ∀ {xs ys : List Value}, AllRetyped xs ys → List.Forall₂ Value.Retyped xs ys
  | [], [], _ => .nil
  | _ :: _, _ :: _, .cons h hrest => .cons h hrest.forall₂

namespace Value.Retyped

variable {v w : Value}

theorem items (h : v.Retyped w) : Option.Rel (List.Forall₂ Retyped) v.items? w.items? := by
  cases h with
  | same =>
    cases v.items? with
    | none => exact .none
    | some xs => exact .some (List.forall₂_same.2 fun x _ => .same x)
  | lists hv hw h =>
    rw [hv, hw]
    exact .some h.forall₂
  | dict | collection => exact .none

theorem isNull (h : v.Retyped w) : w.isNull = v.isNull := by
  cases h with
  | same => rfl
  | lists hv hw => rw [isNull_of_isList (isList_of_items hv), isNull_of_isList (isList_of_items hw)]
  | dict | collection => rfl

theorem symbol? (h : v.Retyped w) : w.symbol? = v.symbol? := by
  cases h with
  | same => rfl
  | lists hv hw => rw [symbol?_of_isList (isList_of_items hv), symbol?_of_isList (isList_of_items hw)]
  | dict | collection => rfl

/-- A text is no list. -/
theorem eq_of_str {a b : String} (h : (str a).Retyped (str b)) : a = b := by
  cases h with
  | same => rfl
  | lists hv => cases hv

end Value.Retyped

mutual

/-- What holds no list is not retyped. -/
theorem Value.Retyped.eq_of_holdsList {v w : Value} (h : v.Retyped w) (hv : v.holdsList = false) : w = v := by
  cases h with
  | same => rfl
  | lists hitems =>
    cases v with
    | list | tuple => cases hv
    | _ => cases hitems
  | dict h => exact congrArg Value.dict (h.eq_of_holdsList hv)
  | @collection kind _ _ h => exact congrArg (Value.collection kind) (h.eq_of_holdsList hv)

theorem AllRetyped.eq_of_holdsList {xs ys : List Value} (h : AllRetyped xs ys)
    (hxs : Value.anyItemHoldsList xs = false) : ys = xs := by
  cases h with
  | nil => rfl
  | cons h hrest =>
    rw [Value.anyItemHoldsList, Bool.or_eq_false_iff] at hxs
    rw [h.eq_of_holdsList hxs.1, hrest.eq_of_holdsList hxs.2]

theorem EntriesRetyped.eq_of_holdsList {xs ys : List (Value × Value)} (h : EntriesRetyped xs ys)
    (hxs : Value.anyHoldsList xs = false) : ys = xs := by
  cases h with
  | nil => rfl
  | cons key h hrest =>
    rw [Value.anyHoldsList, Bool.or_eq_false_iff] at hxs
    rw [h.eq_of_holdsList hxs.1, hrest.eq_of_holdsList hxs.2]

end

/-! ## Tags -/

/-- The tag is retyped, or has a colon in front in one spelling and none in the other. -/
inductive Value.SameTag : Value → Value → Prop
  | retyped {v w : Value} : v.Retyped w → Value.SameTag v w
  | colon {tag : String} : tag.toList.head? ≠ some ':' → Value.SameTag (.str tag) (.str (":" ++ tag))
  | plain {tag : String} : tag.toList.head? ≠ some ':' → Value.SameTag (.str (":" ++ tag)) (.str tag)

theorem symbol?_plain {tag : String} (h : tag.toList.head? ≠ some ':') : (Value.str tag).symbol? = some tag := by
  have hdrop : dropColon tag.toList = tag.toList := by
    unfold dropColon
    split
    · rename_i cs hcs
      rw [hcs] at h
      exact absurd rfl h
    · rfl
  show some (String.ofList (dropColon tag.toList)) = some tag
  rw [hdrop, String.ofList_toList]

theorem symbol?_colon (tag : String) : (Value.str (":" ++ tag)).symbol? = some tag := by
  show some (String.ofList (dropColon (":" ++ tag).toList)) = some tag
  rw [String.toList_append]
  show some (String.ofList tag.toList) = some tag
  rw [String.ofList_toList]

theorem Value.SameTag.symbol? {v w : Value} (h : v.SameTag w) : w.symbol? = v.symbol? := by
  cases h with
  | retyped h => exact h.symbol?
  | colon h => rw [symbol?_colon, symbol?_plain h]
  | plain h => rw [symbol?_colon, symbol?_plain h]

/-! ## Errors -/

/-- The causes differ in nothing but the name of the type that they end with, `list` or `tuple`. -/
structure Cause.SameButListType (c c' : Cause) : Prop where
  family : c'.family = c.family
  code : c'.code? = c.code?
  line : c'.line = c.line ∨ ∃ front, ∃ type ∈ ["list", "tuple"], ∃ type' ∈ ["list", "tuple"],
    c.line = front ++ type ∧ c'.line = front ++ type'

theorem Cause.SameButListType.refl (c : Cause) : c.SameButListType c := ⟨rfl, rfl, .inl rfl⟩

theorem Value.typeName_of_isList {v : Value} (h : v.isList = true) : v.typeName ∈ ["list", "tuple"] := by
  cases v with
  | list => exact List.mem_cons_self
  | tuple => exact List.mem_cons_of_mem _ List.mem_cons_self
  | _ => cases h

/-- A text, or a value of which an error names the type. -/
theorem Value.Retyped.sameText {v w : Value} (h : v.Retyped w) {cause : String → Cause} (front : String)
    (hline : ∀ type, (cause type).line = front ++ type)
    (hcode : ∀ type, (cause type).family = .structural ∧ (cause type).code? = some .malformedNode) :
    SameText Cause.SameButListType cause cause v w := by
  cases h with
  | same => exact .refl Cause.SameButListType.refl cause v
  | @lists _ _ xs ys hv hw =>
    have hword : ∀ {u : Value} {zs : List Value}, u.items? = some zs → u.word? = none := by
      intro u zs hu
      cases u <;> first | rfl | cases hu
    refine .other (hword hv) (hword hw) ⟨?_, ?_, .inr ⟨front, v.typeName, ?_, w.typeName, ?_, hline _, hline _⟩⟩
    · rw [(hcode _).1, (hcode _).1]
    · rw [(hcode _).2, (hcode _).2]
    · exact typeName_of_isList (isList_of_items hv)
    · exact typeName_of_isList (isList_of_items hw)
  | dict | collection => exact .other rfl rfl (.refl _)

/-! ## Data -/

/-- Lists may be tuples, and tags may carry a colon. Texts that a lenient reader counts by their written form hold no
list. -/
def RawDifferences.spelling (lenient : Bool) : RawDifferences where
  tag := Value.SameTag
  text _ := Value.Retyped
  name := Value.Retyped
  valueText v w := v.Retyped w ∧ (lenient = true → v.holdsList = false)

theorem notText_retyped {v w : Value} (h : v.Retyped w) (what : String) :
    SameText Cause.SameButListType (.notText what) (.notText what) v w :=
  h.sameText (what ++ " must be a string, got ") (fun _ => rfl) fun _ => ⟨rfl, rfl⟩

theorem valueNotText_retyped {v w : Value} (h : v.Retyped w) (name : String) :
    SameText Cause.SameButListType (.valueNotText name) (.valueNotText name) v w :=
  h.sameText ("Attribute " ++ Text.quote name ++ " value text must be a string, got ") (fun _ => rfl)
    fun _ => ⟨rfl, rfl⟩

theorem RawDifferences.spelling_readsTags (lenient : Bool) :
    (spelling lenient).ReadsTags Cause.SameButListType where
  tag := Value.SameTag.symbol?
  cause := .refl

theorem RawDifferences.spelling_readsAttributes (lenient : Bool) :
    (spelling lenient).ReadsAttributes lenient Cause.SameButListType Eq where
  toReadsTags := spelling_readsTags lenient
  name what h := notText_retyped h what
  noText index hname := by
    obtain rfl := hname.eq_of_str
    exact .refl _
  valueText _ hname htext := by
    obtain rfl := hname.eq_of_str
    exact valueNotText_retyped htext.1 _
  entry kind hstrict hname htext := by
    obtain rfl := hname.eq_of_str
    obtain ⟨hretyped, hlist⟩ := htext
    cases lenient with
    | true => rw [hretyped.eq_of_holdsList (hlist rfl)]
    | false =>
      obtain ⟨s, t, rfl, rfl⟩ := hstrict rfl
      rw [hretyped.eq_of_str]
  noCode hname := by
    obtain rfl := hname.eq_of_str
    rfl

theorem RawDifferences.spelling_readAs (lenient : Bool) :
    (spelling lenient).ReadAs lenient Cause.SameButListType {} where
  toReadsTags := spelling_readsTags lenient
  text what h := notText_retyped h what
  fragment _ h := congrArg Value.str h.eq_of_str
  noFragment := rfl
  tagName h := congrArg (fun name => Value.tagHead (.str name)) h.eq_of_str
  attributes p h := sameHead_of_attributes (spelling_readsAttributes lenient) (fun _ => rfl) h p

theorem RawDifferences.spelling_allow : (spelling false).Allow Value.Retyped where
  items h := h.items
  isNull h := h.isNull
  tag := .retyped
  text _ h := h
  name h := h
  valueText h := ⟨h, nofun⟩
  attributes _ := trivial

/-- Lists may be tuples anywhere, if the reader is strict. -/
theorem Value.Retyped.rawSameBut {v w : Value} (h : v.Retyped w) : v.RawSameBut (.spelling false) w :=
  RawDifferences.spelling_allow.sameBut h

/-- **How raw data are spelled does not matter.** Adapting two spellings of the same data gives nodes that are the same
but for what they keep unrecognized; or both fail, at one path and with one code, and the messages say the same but for
the name of a list's type. Requests give the same text, or fail so. -/
theorem spelling_is_free {raw raw' : Value} {lenient : Bool} (h : raw.RawSameBut (.spelling lenient) raw') :
    (∀ p : Path, (raw.adapt lenient p).Related (Error.Corresponds Cause.SameButListType) (Node.SameBut {})
      (raw'.adapt lenient p)) ∧
    ∀ (o : Options) (level : Int) (isRoot : Bool) (m : Memo), o.lenientAttributes = lenient →
      RelatedResults (Error.Corresponds Cause.SameButListType) Eq ((raw.projectRaw o level isRoot).run m).result
        ((raw'.projectRaw o level isRoot).run m).result := by
  constructor
  · intro p
    exact h.adapt (RawDifferences.spelling_readAs lenient) p
  · rintro o level isRoot m rfl
    exact h.projectRaw level isRoot m (RawDifferences.spelling_readAs _) (Differences.none_unseen o)

/-- A tuple of tuples with colons in front of tags, for a list of lists without: both are read leniently. Where a strict
reader looks for a code, a list stands in one spelling and a tuple in the other, and either error names its type. -/
theorem spelling_is_free_page :
    let o : Options := { lenientAttributes := true }
    let page := Value.list [.str "multi", .list [.str "slim", .str "control", .str "if a", .list [.str "newline"]],
      .list [.str "html", .str "attrs", .list [.str "html", .str "attr", .str "id", .list [.str "static", .str ":i"]]]]
    let other := Value.tuple [.str ":multi",
      .tuple [.str "slim", .str ":control", .str "if a", .list [.str ":newline"]],
      .tuple [.str ":html", .str "attrs",
        .tuple [.str "html", .str ":attr", .str "id", .tuple [.str ":static", .str ":i"]]]]
    let broken (code : Value) := Value.list [.str "slim", .str "control", code]
    page.RawSameBut (.spelling true) other ∧ (broken (.list [])).Retyped (broken (.tuple [])) ∧
      RelatedResults (Error.Corresponds Cause.SameButListType) Eq ((page.projectRaw o 0 true).run .empty).result
        ((other.projectRaw o 0 true).run .empty).result ∧
      ((other.projectRaw o 0 true).run .empty).result = .ok "if a\n     " ∧
      ((broken (.list [])).adapt false .root).Related (Error.Corresponds Cause.SameButListType) (Node.SameBut {})
        ((broken (.tuple [])).adapt false .root) := by
  intro o page other broken
  have hcolon : ∀ tag : String, tag.toList.head? ≠ some ':' → Value.SameTag (.str tag) (.str (":" ++ tag)) :=
    fun _ => .colon
  have hsame : ∀ tag : Value, tag.SameTag tag := fun tag => .retyped (.same tag)
  have hcontrol : (Value.list [.str "slim", .str "control", .str "if a", .list [.str "newline"]]).RawSameBut
      (.spelling true) (.tuple [.str "slim", .str ":control", .str "if a", .list [.str ":newline"]]) := by
    have hbody : (Value.list [.str "newline"]).RawSameBut (.spelling true) (.list [.str ":newline"]) :=
      .known (s := .newline) rfl rfl rfl ⟨.some (hcolon "newline" (by decide)), nofun⟩ nofun nofun nofun
    refine .single (s := .control) rfl rfl rfl rfl rfl rfl
      ⟨.some (hsame _), fun _ => .some (hcolon "control" (by decide))⟩ ?_ (.nested rfl rfl hbody)
    rintro r ⟨⟩
    exact .some fun _ => .same _
  have hentry : AttributeSameBut (.spelling true)
      (.list [.str "html", .str "attr", .str "id", .list [.str "static", .str ":i"]])
      (.tuple [.str "html", .str ":attr", .str "id", .tuple [.str ":static", .str ":i"]]) :=
    .tagged rfl rfl (.some (hcolon "attr" (by decide))) (.some (.same _))
      (.some (.value rfl rfl (hcolon "static" (by decide)) (.some ⟨.same _, fun _ => rfl⟩)))
  have hpage : page.RawSameBut (.spelling true) other := by
    refine .siblings (s := .multi) rfl rfl rfl rfl ⟨.some (hcolon "multi" (by decide)), nofun⟩ ?_
    rintro (_ | _ | i)
    · exact .nested rfl rfl hcontrol
    · refine .nested rfl rfl (.known (s := .attrs) rfl rfl rfl
        ⟨.some (hcolon "html" (by decide)), fun _ => .some (hsame _)⟩ nofun (fun _ => ⟨.cons hentry .nil, trivial⟩) ?_)
      rintro n i ⟨⟩ ⟨⟩
    · exact .passedOver nofun nofun
  have hbroken : (broken (.list [])).Retyped (broken (.tuple [])) :=
    .lists rfl rfl (.cons (.same _) (.cons (.same _) (.cons (.lists rfl rfl .nil) .nil)))
  exact ⟨hpage, hbroken, (spelling_is_free hpage).2 o 0 true .empty rfl, rfl,
    (spelling_is_free hbroken.rawSameBut).1 .root⟩

end TemplateProjection
