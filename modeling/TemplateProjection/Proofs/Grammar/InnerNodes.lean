import TemplateProjection.Proofs.Grammar.Notices
import TemplateProjection.Proofs.Raw.Related
import TemplateProjection.Proofs.Raw.WellFormed

/-!
# Inner nodes

A list of a shape may hold one value for a node of its own: the body of a construct, or the content of a tag
(`Place.HoldsInner`). A body that is neither null nor a list is refused, wherever it stands. The nodes of an adapted
tree, in order, stand for the visited places that are read as nodes, one for each (`Place.AdaptsTo.inOrder`); so every
body that is not null, and every content that is a list, stands as one node of the tree, directly in the node of the
list that holds it (`inner_values_represented`). A content that is no list is passed over, as if there were none: the
tree keeps nothing of it, and nothing is noted (`tag_content_lost`).
-/

namespace TemplateProjection

/-! ## Inner values -/

/-- The index of a construct's body, or of a tag's content. -/
def Shape.innerIndex? : Shape → Option Nat
  | control | interpolate | embedded => some 3
  | output | tag => some 4
  | multi | newline | text | attrs => none

/-- The place is read as a list of the shape that holds a value other than null for its body or its content. -/
structure Place.HoldsInner (pl : Place) (s : Shape) (i : Nat) (x : Value) : Prop where
  role : pl.role = .node
  shape : ∃ items, pl.raw.items? = some items ∧ Shape.read items = .known s ∧ items[i]? = some x
  index : s.innerIndex? = some i
  present : x.isNull = false

/-- Bodies are visited unless null, contents only if they are lists. -/
theorem Shape.nesting?_of_innerIndex? {s : Shape} {i : Nat} (h : s.innerIndex? = some i) :
    s.nesting? = some ⟨.node, i, false, if s = tag then Value.isList else fun v => !v.isNull⟩ := by
  cases s <;> cases h <;> rfl

/-- Of a nesting of one item, that item is a place if it is admitted. -/
theorem Nesting.places_single {n : Nesting} (hopen : n.isOpen = false) {items : List Value} {x : Value}
    (hx : items[n.start]? = some x) (p : Path) :
    n.places items p = if n.admits x then [⟨n.role, x, p.child n.start⟩] else [] := by
  have hwindow : n.window items = [x] := by
    rw [window, hopen, List.take_one, List.head?_drop, hx]
    rfl
  rw [places, hwindow]
  by_cases h : n.admits x = true
  · simp [h]
  · simp [h]

namespace Place.HoldsInner

variable {pl : Place} {s : Shape} {i : Nat} {x : Value}

theorem nested_eq (h : pl.HoldsInner s i x) :
    pl.nested = if (if s = .tag then x.isList else !x.isNull) then [⟨.node, x, pl.path.child i⟩] else [] := by
  obtain ⟨items, hitems, hread, hx⟩ := h.shape
  have hnested : pl.nested = s.places items pl.path := by
    rw [nested, h.role]
    simp only [Value.places, hitems, hread]
  rw [hnested, Shape.places, Shape.nesting?_of_innerIndex? h.index]
  refine (Nesting.places_single rfl hx pl.path).trans ?_
  split <;> rfl

/-- A body, or a content that is a list, is the one place nested in the list that holds it. -/
theorem nested_visited (h : pl.HoldsInner s i x) (hvisited : s = .tag → x.isList = true) :
    pl.nested = [⟨.node, x, pl.path.child i⟩] := by
  rw [h.nested_eq]
  split
  · rw [if_pos (hvisited ‹_›)]
  · rw [h.present]
    rfl

/-- A content that is no list is passed over. -/
theorem nested_passedOver (h : pl.HoldsInner .tag i x) (hlist : x.isList = false) : pl.nested = [] := by
  rw [h.nested_eq, if_pos rfl, hlist]
  rfl

end Place.HoldsInner

/-! ## Refused bodies -/

/-- A body that is no list is a violation, wherever it stands. -/
theorem Place.HoldsInner.refused {raw : Value} {p : Path} {pl : Place} {s : Shape} {i : Nat} {x : Value}
    (h : pl.HoldsInner s i x) (hpl : pl ∈ Place.inOrder ⟨.node, raw, p⟩) (hs : s ≠ .tag) (hlist : x.isList = false)
    (lenient : Bool) :
    ∃ f, Failure.IsMalformedNode f ∧ (raw.adapt lenient p).result = .error (.failure f) := by
  have hnested : ⟨.node, x, pl.path.child i⟩ ∈ pl.nested := by
    rw [h.nested_visited fun hs' => absurd hs' hs]
    exact List.mem_cons_self
  have hitems : x.items? = none := by simpa [Value.isList] using hlist
  have hviolation : Place.violation? lenient ⟨.node, x, pl.path.child i⟩ = some ⟨.notAList, pl.path.child i, x⟩ := by
    show x.nodeViolation? (pl.path.child i) = _
    rw [Value.nodeViolation?, hitems]
  exact adapt_refuses (mem_inOrder_of_nested hpl hnested) hviolation

/-! ## Nodes of a tree -/

/-- The nodes that stand directly in a node: its children, its body or its content. -/
def Node.parts : Node → List Node
  | .multi children | .textBlock children => children.nodes
  | .construct _ _ body => body.nodes
  | .markup _ content => content.nodes
  | .bare | .lineBreak | .unrecognized _ => []

theorem Node.sizeOf_lt_of_mem_parts {n m : Node} (h : m ∈ n.parts) : sizeOf m < sizeOf n := by
  cases n with
  | multi v | textBlock v | construct _ _ v | markup _ v =>
    have := Value.sizeOf_lt_of_mem_nodes (v := v) h
    simp only [multi.sizeOf_spec, textBlock.sizeOf_spec, construct.sizeOf_spec, markup.sizeOf_spec]
    omega
  | _ => exact absurd h List.not_mem_nil

/-- A node and all below it, in order. -/
def Node.inOrder (n : Node) : List Node :=
  n :: n.parts.attach.flatMap fun m => inOrder m.1
termination_by sizeOf n
decreasing_by exact sizeOf_lt_of_mem_parts m.2

theorem Node.inOrder_eq (n : Node) : n.inOrder = n :: n.parts.flatMap inOrder := by
  rw [inOrder, List.flatMap_subtype fun _ _ => rfl, List.unattach_attach]

/-- The node is what the place is adapted to. -/
def Place.AdaptsTo (lenient : Bool) (pl : Place) (n : Node) : Prop := (pl.raw.adapt lenient pl.path).result = .ok n

/-- The places that are read as nodes. -/
def nodePlaces (places : List Place) : List Place := places.filter fun q => q.role = .node

theorem nodePlaces_cons_node {q : Place} (h : q.role = .node) (rest : List Place) :
    nodePlaces (q :: rest) = q :: nodePlaces rest := List.filter_cons_of_pos (by simp [h])

theorem nodePlaces_cons_attr {q : Place} (h : q.role = .attr) (rest : List Place) :
    nodePlaces (q :: rest) = nodePlaces rest := List.filter_cons_of_neg (by simp [h])

/-- Nothing below an attribute is read as a node. -/
theorem nodePlaces_inOrder_of_attr {q : Place} (h : q.role = .attr) : nodePlaces q.inOrder = [] := by
  rw [Place.inOrder_eq, Place.nested_of_attr h, nodePlaces_cons_attr h]
  rfl

/-- Below places, only those that are read as nodes lead to such. -/
theorem nodePlaces_flatMap_inOrder (qs : List Place) :
    nodePlaces (qs.flatMap Place.inOrder) = (nodePlaces qs).flatMap fun q => nodePlaces q.inOrder := by
  induction qs with
  | nil => rfl
  | cons q rest ih =>
    have hsplit : nodePlaces ((q :: rest).flatMap Place.inOrder) =
        nodePlaces q.inOrder ++ nodePlaces (rest.flatMap Place.inOrder) := List.filter_append _ _
    rw [hsplit, ih]
    cases hrole : q.role with
    | node => rw [nodePlaces_cons_node hrole, List.flatMap_cons]
    | attr => rw [nodePlaces_cons_attr hrole, nodePlaces_inOrder_of_attr hrole, List.nil_append]

/-! ## One node for each place -/

section Parts

variable {lenient : Bool} {places : List Place} {fields : List Field} {i : Nat}

theorem siblings_adaptTo (hfields : fields = places.map (Place.field lenient)) {nodes : List Node}
    (h : (siblings fields).result = .ok nodes) :
    List.Forall₂ (Place.AdaptsTo lenient) (admitted Value.isList places) nodes := by
  subst hfields
  induction places generalizing nodes with
  | nil =>
    obtain rfl := Except.ok.inj h
    exact .nil
  | cons q rest ih =>
    rw [List.map_cons] at h
    by_cases hlist : q.raw.isList = true
    · rw [siblings_cons_list hlist] at h
      obtain ⟨n, hn, h⟩ := Logged.bind_result_ok.1 h
      obtain ⟨ns, hns, h⟩ := Logged.bind_result_ok.1 h
      obtain rfl := Except.ok.inj h
      rw [admitted_cons_pos hlist]
      exact .cons hn (ih hns)
    · rw [siblings_cons_other hlist] at h
      rw [admitted_cons_neg hlist]
      exact ih h

/-- A body or a content is the node that its place is adapted to, or null if there is none. -/
theorem inner_adaptsTo {inner : Logged Value} {make : Node → Value} {admits : Value → Bool}
    (hmake : ∀ n, (make n).nodes = [n])
    (visited : ∀ {f : Field}, fields[i]? = some f → admits f.raw = true → inner = f.node >>= fun n => pure (make n))
    (passedOver : (∀ f, fields[i]? = some f → admits f.raw = false) → inner = pure .null)
    (hfields : (fields.drop i).take 1 = places.map (Place.field lenient)) {v : Value} (h : inner.result = .ok v) :
    List.Forall₂ (Place.AdaptsTo lenient) (admitted admits places) v.nodes := by
  have nothing : (∀ f, fields[i]? = some f → admits f.raw = false) → v.nodes = [] := by
    intro hnone
    rw [passedOver hnone] at h
    obtain rfl := Except.ok.inj h
    rfl
  rcases getElem?_of_window hfields with ⟨rfl, hi⟩ | ⟨q, rfl, hi⟩
  · rw [nothing (by simp [hi])]
    exact .nil
  · by_cases hadmits : admits q.raw = true
    · rw [visited hi hadmits] at h
      obtain ⟨n, hn, h⟩ := Logged.bind_result_ok.1 h
      obtain rfl := Except.ok.inj h
      rw [admitted_cons_pos hadmits, hmake]
      exact .cons hn .nil
    · rw [admitted_cons_neg hadmits, nothing (by simpa [hi, Place.field] using hadmits)]
      exact .nil

end Parts

section Shapes

variable {lenient : Bool}

/-- The places nested in a shape by a nesting of nodes are the candidates that it admits. -/
theorem Shape.nodePlaces_of_nesting? {s : Shape} {n : Nesting} (hs : s.nesting? = some n) (hrole : n.role = .node)
    (items : List Value) (p : Path) : nodePlaces (s.places items p) = admitted n.admits (n.candidates items p) := by
  have hplaces : s.places items p = admitted n.admits (n.candidates items p) := by
    rw [Shape.places, hs]
    exact n.places_eq_admitted hrole items p
  rw [hplaces, nodePlaces, List.filter_eq_self]
  intro q hq
  obtain ⟨x, -, rfl⟩ := List.mem_map.1 (List.mem_filter.1 hq).1
  rfl

/-- A node is made of what is read first and of what is nested. -/
theorem headed_result {α : Type} {r : Except Error α} {nested : Logged Value} {make : α → Value → Node} {n : Node}
    (h : (Logged.ofExcept r >>= fun a => nested >>= fun v => pure (make a v)).result = .ok n) :
    ∃ a v, nested.result = .ok v ∧ n = make a v := by
  obtain ⟨a, -, h⟩ := Logged.bind_result_ok.1 h
  obtain ⟨v, hv, h⟩ := Logged.bind_result_ok.1 h
  exact ⟨a, v, hv, (Except.ok.inj h).symm⟩

/-- A list of a known shape is adapted to a node with one node in it for each place nested in the list. -/
theorem adaptShape_parts {v : Visit} {s : Shape} {n : Node}
    (h : (adaptShape lenient v (Value.adaptFields lenient v.items v.path 0) s).result = .ok n) :
    List.Forall₂ (Place.AdaptsTo lenient) (nodePlaces (s.places v.items v.path)) n.parts := by
  have hnodes : ∀ nesting : Nesting, s.nesting? = some nesting → nesting.role = .node →
      nodePlaces (s.places v.items v.path) = admitted nesting.admits (nesting.candidates v.items v.path) ∧
        nesting.window (Value.adaptFields lenient v.items v.path 0) =
          (nesting.candidates v.items v.path).map (Place.field lenient) := fun nesting hs hrole =>
    ⟨Shape.nodePlaces_of_nesting? hs hrole v.items v.path, nesting.window_fields v.items v.path⟩
  cases s with
  | newline =>
    obtain rfl := Except.ok.inj h
    exact .nil
  | multi | text =>
    obtain ⟨hplaces, hfields⟩ := hnodes _ rfl rfl
    obtain ⟨nodes, hsiblings, h⟩ := Logged.bind_result_ok.1 h
    obtain rfl := Except.ok.inj h
    rw [hplaces, Node.parts, childTuple_nodes]
    exact siblings_adaptTo hfields hsiblings
  | control | interpolate | output | embedded =>
    obtain ⟨hplaces, hfields⟩ := hnodes _ rfl rfl
    obtain ⟨_, inner, hinner, rfl⟩ := headed_result h
    rw [hplaces]
    exact inner_adaptsTo (fun m => childTuple_nodes [m]) body_visited body_passedOver hfields hinner
  | tag =>
    obtain ⟨hplaces, hfields⟩ := hnodes _ rfl rfl
    obtain ⟨_, inner, hinner, rfl⟩ := headed_result h
    rw [hplaces]
    exact inner_adaptsTo (fun _ => rfl) content_visited content_passedOver hfields hinner
  | attrs =>
    obtain ⟨_, -, h⟩ := Logged.bind_result_ok.1 h
    obtain rfl := Except.ok.inj h
    have hplaces : nodePlaces (Shape.attrs.places v.items v.path) = [] := by
      refine List.filter_eq_nil_iff.2 fun q hq => ?_
      obtain ⟨x, -, rfl⟩ := List.mem_map.1 hq
      nofun
    rw [hplaces]
    exact .nil

end Shapes

/-! ## Trees -/

section Trees

variable {lenient : Bool}

/-- A place is adapted to a node with one node in it for each place nested in the place that is read as a node. -/
theorem Place.AdaptsTo.parts {pl : Place} {n : Node} (hrole : pl.role = .node) (h : pl.AdaptsTo lenient n) :
    List.Forall₂ (Place.AdaptsTo lenient) (nodePlaces pl.nested) n.parts := by
  obtain ⟨role, raw, p⟩ := pl
  obtain rfl : role = .node := hrole
  have h : (raw.adapt lenient p).result = .ok n := h
  show List.Forall₂ _ (nodePlaces (raw.places p)) n.parts
  unfold Value.places
  cases hitems : raw.items? with
  | none =>
    rw [Value.adapt_of_not_list lenient p hitems] at h
    cases h
  | some items =>
    rw [Value.adapt_of_items lenient p hitems] at h
    rcases Shape.read_cases items with ⟨s, hs⟩ | hunknown
    · rw [assemble_known hs] at h
      simp only [hs]
      exact adaptShape_parts h
    · rw [assemble_unknown hunknown] at h
      obtain rfl := Except.ok.inj h
      dsimp only
      split
      · rename_i s hs
        exact absurd hs (hunknown s)
      · exact .nil

/-- **The nodes of an adapted tree stand for the places that are read as nodes**, one for each and in order. -/
theorem Place.AdaptsTo.inOrder {pl : Place} {n : Node} (hrole : pl.role = .node) (h : pl.AdaptsTo lenient n) :
    List.Forall₂ (Place.AdaptsTo lenient) (nodePlaces pl.inOrder) n.inOrder := by
  -- The induction is on the size of the raw data: what is nested in a place is smaller.
  have below : ∀ q m, (q ∈ nodePlaces pl.nested ∧ q.AdaptsTo lenient m) →
      List.Forall₂ (Place.AdaptsTo lenient) (nodePlaces q.inOrder) m.inOrder := by
    rintro q m ⟨hq, hm⟩
    obtain ⟨hq, hnode⟩ := List.mem_filter.1 hq
    have := sizeOf_lt_of_mem_nested hq
    exact AdaptsTo.inOrder (of_decide_eq_true hnode) hm
  have hparts := (List.forall₂_and_left _ _).2 ⟨fun q hq => hq, h.parts hrole⟩
  rw [inOrder_eq, nodePlaces_cons_node hrole, nodePlaces_flatMap_inOrder, Node.inOrder_eq]
  exact .cons h (List.rel_flatMap hparts below)
termination_by sizeOf pl.raw

theorem forall₂_mem_left {α β : Type} {R : α → β → Prop} {l : List α} {m : List β} (h : List.Forall₂ R l m) {a : α}
    (ha : a ∈ l) : ∃ b ∈ m, R a b := by
  induction h with
  | nil => exact absurd ha List.not_mem_nil
  | cons hb _ ih =>
    rcases List.mem_cons.1 ha with rfl | ha
    · exact ⟨_, List.mem_cons_self, hb⟩
    · obtain ⟨b, hm, hb⟩ := ih ha
      exact ⟨b, List.mem_cons_of_mem _ hm, hb⟩

/-- A visited inner value is adapted to the one node that stands directly in the node of its list. -/
theorem Place.HoldsInner.parts_eq {pl : Place} {s : Shape} {i : Nat} {x : Value} {a : Node} (h : pl.HoldsInner s i x)
    (hvisited : s = .tag → x.isList = true) (ha : pl.AdaptsTo lenient a) :
    ∃ m, a.parts = [m] ∧ Place.AdaptsTo lenient ⟨.node, x, pl.path.child i⟩ m := by
  have hparts := ha.parts h.role
  rw [h.nested_visited hvisited, nodePlaces_cons_node rfl] at hparts
  obtain ⟨m, rest, hm, hrest, hcons⟩ := List.forall₂_cons_left_iff.1 hparts
  obtain rfl := List.forall₂_nil_left_iff.1 hrest
  exact ⟨m, hcons, hm⟩

/-- The node of a tag whose content is no list is empty. -/
theorem Place.HoldsInner.parts_eq_nil {pl : Place} {i : Nat} {x : Value} {a : Node} (h : pl.HoldsInner .tag i x)
    (hlist : x.isList = false) (ha : pl.AdaptsTo lenient a) : a.parts = [] := by
  have hparts := ha.parts h.role
  rw [h.nested_passedOver hlist] at hparts
  exact List.forall₂_nil_left_iff.1 hparts

end Trees

/-! ## The law of inner values -/

/-- **Bodies are represented or refused.** In strict and in lenient mode, raw data are refused as malformed if anywhere
in them a list of a shape has a body that is neither null nor a list. If they are adapted, then the nodes of the tree,
in order, stand for the places that are read as nodes, one for each, and every place has a path of its own. So every
body that is not null, and every content of a tag that is a list, is one of these places, and its node is the one that
stands in the node of the list that holds it. Only a content that is no list is not represented: the node of its tag is
empty. -/
theorem inner_values_represented (lenient : Bool) (raw : Value) (p : Path) :
    (∀ pl ∈ Place.inOrder ⟨.node, raw, p⟩, ∀ s i x, pl.HoldsInner s i x → s ≠ .tag → x.isList = false →
      ∃ f, Failure.IsMalformedNode f ∧ (raw.adapt lenient p).result = .error (.failure f)) ∧
    ∀ n, (raw.adapt lenient p).result = .ok n →
      List.Forall₂ (Place.AdaptsTo lenient) (nodePlaces (Place.inOrder ⟨.node, raw, p⟩)) n.inOrder ∧
      ((Place.inOrder ⟨.node, raw, p⟩).map Place.path).Nodup ∧
      ∀ pl ∈ Place.inOrder ⟨.node, raw, p⟩, ∀ s i x, pl.HoldsInner s i x →
        ∃ a ∈ n.inOrder, pl.AdaptsTo lenient a ∧
          (x.isList = true → ⟨.node, x, pl.path.child i⟩ ∈ Place.inOrder ⟨.node, raw, p⟩ ∧
            ∃ m, a.parts = [m] ∧ Place.AdaptsTo lenient ⟨.node, x, pl.path.child i⟩ m) ∧
          (x.isList = false → s = .tag ∧ a.parts = []) := by
  refine ⟨fun pl hpl s i x h hs hlist => h.refused hpl hs hlist lenient, fun n hn => ?_⟩
  have hnodes : List.Forall₂ (Place.AdaptsTo lenient) (nodePlaces (Place.inOrder ⟨.node, raw, p⟩)) n.inOrder :=
    Place.AdaptsTo.inOrder rfl hn
  refine ⟨hnodes, Place.paths_nodup _, fun pl hpl s i x h => ?_⟩
  have hplace : pl ∈ nodePlaces (Place.inOrder ⟨.node, raw, p⟩) :=
    List.mem_filter.2 ⟨hpl, decide_eq_true h.role⟩
  obtain ⟨a, hmem, ha⟩ := forall₂_mem_left hnodes hplace
  refine ⟨a, hmem, ha, fun hlist => ⟨?_, h.parts_eq (fun _ => hlist) ha⟩, fun hlist => ?_⟩
  · refine Place.mem_inOrder_of_nested hpl ?_
    rw [h.nested_visited fun _ => hlist]
    exact List.mem_cons_self
  · by_cases hs : s = .tag
    · subst hs
      exact ⟨rfl, h.parts_eq_nil hlist ha⟩
    · obtain ⟨f, -, hf⟩ := h.refused hpl hs hlist lenient
      rw [hn] at hf
      cases hf

/-- In the text of a cell an output has a body, which stands as a node in the node of the output, four steps down. A
control in a text, whose body is a number, is refused. -/
theorem inner_values_represented_cell :
    let line := Value.list [.str "newline"]
    let output := Value.tuple [.str "slim", .str ":output", .bool true, .str "x", line]
    let text (inner : Value) := Value.list [.str "slim", .str "text", .str "inline", inner]
    let cell := Value.list [.str "html", .str "tag", .str "td", .null, text output]
    let page := Value.list [.str "multi", cell]
    let control := Value.list [.str "slim", .str "control", .str "if a", .int 7]
    (∃ n, (page.adapt false .root).result = .ok n ∧
      ∃ a ∈ n.inOrder, ∃ m, a.parts = [m] ∧ Place.AdaptsTo false ⟨.node, line, ⟨"root", [1, 4, 3, 4]⟩⟩ m) ∧
    (Place.mk .node control ⟨"root", [3]⟩).HoldsInner .control 3 (.int 7) ∧
    ∃ f, Failure.IsMalformedNode f ∧ ((text control).adapt true .root).result = .error (.failure f) := by
  intro line output text cell page control
  have hpage : ∃ n, (page.adapt false .root).result = .ok n := ⟨_, rfl⟩
  obtain ⟨n, hn⟩ := hpage
  have hplace : Place.mk .node output ⟨"root", [1, 4, 3]⟩ ∈ Place.inOrder ⟨.node, page, .root⟩ := by
    have hcell : Place.mk .node cell ⟨"root", [1]⟩ ∈ Place.inOrder ⟨.node, page, .root⟩ :=
      Place.mem_inOrder_of_nested (Place.self_mem_inOrder _) List.mem_cons_self
    have htext : Place.mk .node (text output) ⟨"root", [1, 4]⟩ ∈ Place.inOrder ⟨.node, page, .root⟩ :=
      Place.mem_inOrder_of_nested hcell List.mem_cons_self
    exact Place.mem_inOrder_of_nested htext List.mem_cons_self
  have hbody : (Place.mk .node output ⟨"root", [1, 4, 3]⟩).HoldsInner .output 4 line :=
    ⟨rfl, ⟨_, rfl, rfl, rfl⟩, rfl, rfl⟩
  have hnumber : (Place.mk .node control ⟨"root", [3]⟩).HoldsInner .control 3 (.int 7) :=
    ⟨rfl, ⟨_, rfl, rfl, rfl⟩, rfl, rfl⟩
  have hcontrol : Place.mk .node control ⟨"root", [3]⟩ ∈ Place.inOrder ⟨.node, text control, .root⟩ :=
    Place.mem_inOrder_of_nested (Place.self_mem_inOrder _) List.mem_cons_self
  obtain ⟨a, hmem, -, hlist, -⟩ := ((inner_values_represented false page .root).2 n hn).2.2 _ hplace _ _ _ hbody
  obtain ⟨-, m, hparts, hm⟩ := hlist rfl
  exact ⟨⟨n, hn, a, hmem, m, hparts, hm⟩, hnumber,
    (inner_values_represented true (text control) .root).1 _ hcontrol _ _ _ hnumber nofun rfl⟩

/-- A tag with a text for its content, where a body would be refused: in either mode the tag is adapted as if it had no
content, and nothing is noted. -/
theorem tag_content_lost :
    let raw := Value.list [.str "html", .str "tag", .str "p", .list [.str "html", .str "attrs"], .str "text"]
    let lost : Logged Node := ⟨.ok (.markup (.tagHead (.str "p")) .null), []⟩
    raw.adapt false .root = lost ∧ raw.adapt true .root = lost ∧
      ¬∀ pl ∈ Place.inOrder ⟨.node, raw, .root⟩, ∀ s i x, pl.HoldsInner s i x → x.isList = false →
        ∃ f, Failure.IsMalformedNode f ∧ (raw.adapt false .root).result = .error (.failure f) := by
  intro raw lost
  refine ⟨rfl, rfl, fun h => ?_⟩
  obtain ⟨f, -, hf⟩ := h _ (Place.self_mem_inOrder _) .tag 4 (.str "text") ⟨rfl, ⟨_, rfl, rfl, rfl⟩, rfl, rfl⟩ rfl
  cases hf

end TemplateProjection
