import TemplateProjection.Proofs.Projection.Total
import TemplateProjection.Proofs.Raw.Image

/-!
# Documents of several items

A document that lists its items gives the texts of those that are lists, one behind the other, and each is the text of
the item as a document of its own. If such an item fails then the document fails as the first of them does, at a path
that goes through the index of the item (`document_concat`). So a list of items within a list of items may be replaced
by what it lists.
-/

namespace TemplateProjection

open Run

/-- The text of raw data that are a whole document, or their error. -/
def Value.document (o : Options) (raw : Value) : Except Error String := (raw.projectRaw o 0 true).fresh.result

/-- A document that lists its items. -/
def documentOf (items : List Value) : Value := .list (.str "multi" :: items)

variable {o : Options}

/-! ## Raw data as a document -/

theorem Value.document_ok_iff {raw : Value} {t : String} : raw.document o = .ok t ↔
    ∃ n, (raw.adapt o.lenientAttributes .root).result = .ok n ∧ ((Value.node n).project o 0 true).Returns t := by
  show (raw.projectRaw o 0 true).Returns t ↔ _
  rw [projectRaw, returns_bind (ofLogged_transparent _) fun n => (Value.node n).project_transparent 0 true]
  rfl

theorem Value.document_error_iff {raw : Value} {e : Error} :
    raw.document o = .error e ↔ (raw.adapt o.lenientAttributes .root).result = .error e :=
  projectRaw_error_iff

/-- Raw data that are adapted at one path are adapted to the same node at every path. -/
theorem Value.adaptsTo_of_ok {lenient : Bool} {raw : Value} {p : Path} {n : Node}
    (h : (raw.adapt lenient p).result = .ok n) : raw.AdaptsTo lenient n := by
  rcases raw.adaptsTo_or_failsBy lenient with ⟨m, hm⟩ | ⟨d, hd⟩
  · have hmn : m = n := Except.ok.inj ((hm p).symm.trans h)
    exact hmn ▸ hm
  · have herror := hd.result p
    rw [h] at herror
    cases herror

/-- A single node is projected to its own text. -/
theorem Value.project_node_returns {n : Node} {level : Nat} {isRoot : Bool} {t : String} :
    ((Value.node n).project o level isRoot).Returns t ↔
      ∃ text, (n.project o level isRoot).Returns text ∧ t = text.getD "" := by
  show ((·.getD "") <$> n.project o level isRoot).Returns t ↔ _
  exact returns_map (n.projectsTransparently.inSequence level isRoot)

/-! ## Items -/

/-- The documents of the items that are lists, each by itself. -/
def itemDocuments (o : Options) (items : List Value) : List (Except Error String) :=
  (items.filter Value.isList).map (Value.document o)

theorem itemDocuments_append (xs ys : List Value) :
    itemDocuments o (xs ++ ys) = itemDocuments o xs ++ itemDocuments o ys := by
  unfold itemDocuments
  rw [List.filter_append, List.map_append]

theorem itemDocuments_cons_list {v : Value} (h : v.isList = true) (rest : List Value) :
    itemDocuments o (v :: rest) = v.document o :: itemDocuments o rest := by
  unfold itemDocuments
  rw [List.filter_cons_of_pos h, List.map_cons]

theorem itemDocuments_cons_other {v : Value} (h : ¬v.isList = true) (rest : List Value) :
    itemDocuments o (v :: rest) = itemDocuments o rest := by
  unfold itemDocuments
  rw [List.filter_cons_of_neg h]

/-- Adapted siblings are documents of their own, and in a row they have the texts of these in a row. -/
theorem siblings_documents {items : List Value} {p : Path} {start : Int} {nodes : List Node}
    (h : (adaptSiblings o.lenientAttributes items p start).result = .ok nodes) :
    ∃ texts, itemDocuments o items = texts.map .ok ∧ (projectNodes o 0 true nodes).Returns (String.join texts) := by
  induction items generalizing start nodes with
  | nil =>
    obtain rfl := Except.ok.inj h
    exact ⟨[], rfl, projectNodes_returns_nil.2 rfl⟩
  | cons v rest ih =>
    by_cases hlist : v.isList = true
    · rw [adaptSiblings_cons_list hlist] at h
      obtain ⟨n, hn, h⟩ := Logged.bind_result_ok.1 h
      obtain ⟨ns, hns, h⟩ := Logged.bind_result_ok.1 h
      obtain rfl := Except.ok.inj h
      obtain ⟨texts, htexts, hrest⟩ := ih hns
      have hroot := Value.adaptsTo_of_ok hn .root
      obtain ⟨text, htext⟩ := adapted_project_returns hroot 0 true
      have hdocument : v.document o = .ok text := Value.document_ok_iff.2 ⟨n, hroot, htext⟩
      obtain ⟨t, ht, rfl⟩ := Value.project_node_returns.1 htext
      refine ⟨t.getD "" :: texts, ?_, ?_⟩
      · rw [itemDocuments_cons_list hlist, hdocument, htexts, List.map_cons]
      · rw [String.join_cons]
        exact projectNodes_returns_cons.2 ⟨t, _, ht, hrest, rfl⟩
    · rw [adaptSiblings_cons_other hlist] at h
      rw [itemDocuments_cons_other hlist]
      exact ih h

theorem documentOf_of_siblings {items : List Value} {nodes : List Node}
    (h : SiblingsAdaptTo o.lenientAttributes items nodes) :
    ∃ texts, itemDocuments o items = texts.map .ok ∧ (documentOf items).document o = .ok (String.join texts) := by
  obtain ⟨texts, htexts, hjoin⟩ := siblings_documents (h .root 1)
  have hadapt : ((documentOf items).adapt o.lenientAttributes .root).result = .ok (.multi (childTuple nodes)) := by
    rw [documentOf, adapt_multi]
    exact Logged.bind_result_ok.2 ⟨nodes, h .root 1, rfl⟩
  have hchildren : ((childTuple nodes).project o 0 true).Returns (String.join texts) := by
    refine Value.project_returns.2 ⟨rfl, ?_⟩
    rw [childTuple_nodes]
    exact hjoin
  have hnode := Node.multi_returns.2 ⟨String.join texts, hchildren, rfl⟩
  have hproject := Value.project_node_returns.2 ⟨_, hnode, rfl⟩
  exact ⟨texts, htexts, Value.document_ok_iff.2 ⟨_, hadapt, hproject⟩⟩

/-- If adapting the items fails then the document fails by the fault of the same item. -/
theorem documentOf_of_failing {items : List Value} {j : Nat} {d : Fault}
    (h : SiblingsFailBy o.lenientAttributes items j d) :
    (documentOf items).document o = .error (.failure (d.failure (Path.root.child (j + 1 : Nat)))) := by
  have hindex : (1 : Int) + j = (j + 1 : Nat) := by omega
  have hsiblings := h.result .root 1
  rw [hindex] at hsiblings
  rw [Value.document_error_iff, documentOf, adapt_multi, Logged.bind_error hsiblings]

/-- A document of items gives a text exactly if each list among them does, and then it is their texts in a row. -/
theorem documentOf_ok_iff {items : List Value} {t : String} : (documentOf items).document o = .ok t ↔
    ∃ texts, itemDocuments o items = texts.map .ok ∧ t = String.join texts := by
  rcases siblings_adaptTo_or_failBy o.lenientAttributes items with ⟨nodes, hnodes⟩ | ⟨j, d, hd⟩
  · obtain ⟨texts, htexts, hdocument⟩ := documentOf_of_siblings hnodes
    rw [hdocument]
    constructor
    · intro h
      exact ⟨texts, htexts, (Except.ok.inj h).symm⟩
    · rintro ⟨texts', htexts', rfl⟩
      have hsame : texts = texts' := (List.map_inj_right fun _ _ => Except.ok.inj).1 (htexts.symm.trans htexts')
      rw [hsame]
  · obtain ⟨v, hv, hlist, hfails⟩ := hd.item
    have hitem : v.document o = .error (.failure (d.failure .root)) := Value.document_error_iff.2 (hfails.result .root)
    rw [documentOf_of_failing hd]
    constructor
    · nofun
    · rintro ⟨texts, htexts, -⟩
      -- The failing item is one of the items that are lists, so it would have a text.
      have hmem : v.document o ∈ itemDocuments o items :=
        List.mem_map_of_mem (List.mem_filter.2 ⟨List.mem_of_getElem? hv, hlist⟩)
      rw [htexts] at hmem
      obtain ⟨t, -, ht⟩ := List.mem_map.1 hmem
      rw [hitem] at ht
      cases ht

/-! ## Documents -/

/-- Item `k` is the first list among the items that fails as a document of its own. -/
structure FirstFailingItem (o : Options) (items : List Value) (k : Nat) (f : Failure) : Prop where
  item : ∃ v, items[k]? = some v ∧ v.isList = true ∧ v.document o = .error (.failure f)
  before : ∀ i < k, ∀ v, items[i]? = some v → v.isList = true → ∃ t, v.document o = .ok t

/-- The failure `f'` is `f` seen from the document whose item `k` fails by `f`: the failure of a malformed node, for the
same cause and by the same value, at a path that has the index of the item behind the root. -/
structure Failure.SeenFromDocument (f : Failure) (k : Nat) (f' : Failure) : Prop where
  malformed : f.IsMalformedNode
  cause : f'.cause = f.cause
  node : f'.node = f.node
  path : ∃ suffix, f.path?.map Path.text = some ("root" ++ suffix) ∧
    f'.path?.map Path.text = some ("root" ++ Path.bracketed (k + 1) ++ suffix)

theorem SiblingsFailBy.firstFailingItem {items : List Value} {j : Nat} {d : Fault}
    (h : SiblingsFailBy o.lenientAttributes items j d) : FirstFailingItem o items j (d.failure .root) where
  item := by
    obtain ⟨v, hv, hlist, hfails⟩ := h.item
    exact ⟨v, hv, hlist, Value.document_error_iff.2 (hfails.result .root)⟩
  before := by
    intro i hi v hv hlist
    obtain ⟨n, hn⟩ := h.before i hi v hv hlist
    obtain ⟨text, htext⟩ := adapted_project_returns (hn .root) 0 true
    exact ⟨text, Value.document_ok_iff.2 ⟨n, hn .root, htext⟩⟩

theorem Fault.seenFromDocument {v : Value} {d : Fault} (h : v.document o = .error (.failure (d.failure .root)))
    (k : Nat) : (d.failure .root).SeenFromDocument k (d.failure (Path.root.child (k + 1 : Nat))) where
  malformed := by
    obtain ⟨f, hf, hfirst⟩ := adapt_error_iff.1 (Value.document_error_iff.1 h)
    exact Error.failure.inj hf ▸ hfirst.isMalformedNode
  cause := rfl
  node := rfl
  path := ⟨String.join (d.steps.map Path.bracketed), d.text_failure .root, d.text_failure_child .root _⟩

/-- In a document of items, items that are listed by one of them are items like the others. -/
theorem documentOf_nested_ok_iff {before inner after : List Value} {t : String} :
    (documentOf (before ++ documentOf inner :: after)).document o = .ok t ↔
      (documentOf (before ++ inner ++ after)).document o = .ok t := by
  have hnested : itemDocuments o (before ++ documentOf inner :: after) =
      itemDocuments o before ++ (documentOf inner).document o :: itemDocuments o after := by
    rw [itemDocuments_append, itemDocuments_cons_list rfl]
  have hspliced : itemDocuments o (before ++ inner ++ after) =
      itemDocuments o before ++ itemDocuments o inner ++ itemDocuments o after := by
    rw [itemDocuments_append, itemDocuments_append]
  rw [documentOf_ok_iff, documentOf_ok_iff, hnested, hspliced]
  constructor
  · rintro ⟨texts, htexts, rfl⟩
    obtain ⟨front, rest, rfl, hfront, hrest⟩ := List.append_eq_map_iff.1 htexts
    obtain ⟨text, back, rfl, htext, hback⟩ := List.map_eq_cons_iff.1 hrest
    obtain ⟨middle, hmiddle, rfl⟩ := documentOf_ok_iff.1 htext.symm
    refine ⟨front ++ middle ++ back, ?_, ?_⟩
    · rw [List.map_append, List.map_append, hfront, hmiddle, hback]
    · simp only [String.join_append, String.join_cons, String.append_assoc]
  · rintro ⟨texts, htexts, rfl⟩
    obtain ⟨rest, back, rfl, hrest, hback⟩ := List.append_eq_map_iff.1 htexts
    obtain ⟨front, middle, rfl, hfront, hmiddle⟩ := List.append_eq_map_iff.1 hrest.symm
    have hinner : (documentOf inner).document o = .ok (String.join middle) :=
      documentOf_ok_iff.2 ⟨middle, hmiddle.symm, rfl⟩
    refine ⟨front ++ String.join middle :: back, ?_, ?_⟩
    · rw [List.map_append, List.map_cons, hfront, hinner, hback]
    · simp only [String.join_append, String.join_cons, String.append_assoc]

/-- **A document is its items, one behind the other.** Each item is a document of its own, and those that are no lists
count nothing. If all the others have texts then the document has these texts in a row, and else it fails as the first
of them that fails, at a path through the index of that item. Listed items may stand in place of the item that lists
them. -/
theorem document_concat (o : Options) :
    (∀ items : List Value,
      (∃ texts, itemDocuments o items = texts.map .ok ∧ (documentOf items).document o = .ok (String.join texts)) ∨
        ∃ k f f', FirstFailingItem o items k f ∧ f.SeenFromDocument k f' ∧
          (documentOf items).document o = .error (.failure f')) ∧
      ∀ (before inner after : List Value) (text : String),
        (documentOf (before ++ documentOf inner :: after)).document o = .ok text ↔
          (documentOf (before ++ inner ++ after)).document o = .ok text := by
  refine ⟨fun items => ?_, fun _ _ _ _ => documentOf_nested_ok_iff⟩
  rcases siblings_adaptTo_or_failBy o.lenientAttributes items with ⟨nodes, hnodes⟩ | ⟨j, d, hd⟩
  · exact .inl (documentOf_of_siblings hnodes)
  · have hfirst := hd.firstFailingItem
    obtain ⟨v, -, -, hv⟩ := hfirst.item
    exact .inr ⟨j, _, _, hfirst, Fault.seenFromDocument hv j, documentOf_of_failing hd⟩

end TemplateProjection
