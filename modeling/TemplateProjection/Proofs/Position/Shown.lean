import TemplateProjection.Proofs.Position.Law

/-!
# Everything but code is spaces

What a tree shows is found without levels, widths and positions: the codes and the line ends of the nodes that count, in
the order of the document (`Value.shown`). A text block counts only as the content of a markup element, and nothing
counts inside a node that is not recognized. Without its spaces, a projected text is what its tree shows, without
spaces (`project_withoutSpaces`). So indentation and the width of heads, whatever they are, only ever add spaces.
-/

namespace TemplateProjection

/-! ## What a tree shows -/

/-- A code fragment without the blanks around it; what is no text is no code. -/
def Value.code : Value → List String
  | .str s => [Text.strip s]
  | _ => []

mutual

/-- The codes and line ends of a sequence, in the order of the document. -/
def Value.shown : Value → List String
  | .list items => Value.shownAll items
  | .tuple items => Value.shownAll items
  | .collection _ items => Value.shownAll items
  | .dict entries => Value.shownKeys entries
  | .node n => n.shown
  | _ => []

def Value.shownAll : List Value → List String
  | [] => []
  | .node n :: rest => n.shown ++ Value.shownAll rest
  | _ :: rest => Value.shownAll rest

def Value.shownKeys : List (Value × Value) → List String
  | [] => []
  | (.node n, _) :: rest => n.shown ++ Value.shownKeys rest
  | _ :: rest => Value.shownKeys rest

/-- The content of a markup element. -/
def Value.shownContent : Value → List String
  | .node (.construct (.known kind) fragment body) =>
    if kind.isInline && body.isNull then fragment.code ++ ["\n"]
    else (Node.construct (.known kind) fragment body).shown
  | .node (.textBlock children) => children.shown
  | .node n => n.shown
  | _ => []

def Node.shown : Node → List String
  | .multi children => children.shown
  | .lineBreak => ["\n"]
  | .construct (.known .embedded) _ body => body.shown
  | .construct (.known _) fragment body => fragment.code ++ body.shown
  | .markup _ content => content.shownContent
  | _ => []

end

theorem Value.shownAll_nodes : ∀ items : List Value,
    Value.shownAll items = (items.filterMap Value.node?).flatMap Node.shown
  | [] => rfl
  | v :: rest => by
    have hrest := Value.shownAll_nodes rest
    cases v with
    | node n => exact congrArg (n.shown ++ ·) hrest
    | _ => exact hrest

theorem Value.shownKeys_eq : ∀ entries : List (Value × Value),
    Value.shownKeys entries = Value.shownAll (entries.map Prod.fst)
  | [] => rfl
  | (key, _) :: rest => by
    have hrest := Value.shownKeys_eq rest
    cases key with
    | node n => exact congrArg (n.shown ++ ·) hrest
    | _ => exact hrest

/-- Only the nodes of a sequence show anything. -/
theorem Value.shown_nodes (v : Value) : v.shown = v.nodes.flatMap Node.shown := by
  cases v with
  | list items | tuple items | collection _ items => exact Value.shownAll_nodes items
  | dict entries => exact (Value.shownKeys_eq entries).trans (Value.shownAll_nodes _)
  | node n => exact (List.flatMap_singleton Node.shown n).symm
  | _ => rfl

theorem Node.shown_statement {kind : ConstructKind} (h : kind ≠ .embedded) (fragment body : Value) :
    (Node.construct (.known kind) fragment body).shown = fragment.code ++ body.shown := by
  cases kind with
  | embedded => exact absurd rfl h
  | _ => rfl

theorem Value.shownContent_inPlace {n : Node} (h : n.inPlace = true) : (Value.node n).shownContent = n.shown := by
  cases n with
  | textBlock children => cases h
  | construct kind fragment body =>
    cases kind with
    | unknown word => rfl
    | known kind =>
      rw [Node.inPlace, Bool.not_eq_true'] at h
      unfold Value.shownContent
      rw [h]
      rfl
  | _ => rfl

/-! ## A walk places what is shown -/

namespace Walk

/-- The texts of the placed pieces. -/
def placed (w : Walk) : List String := w.pieces.map Piece.text

theorem placed_lineEnd (w : Walk) : w.lineEnd.placed = w.placed ++ ["\n"] := List.map_append

theorem placed_code (w : Walk) (fragment : Value) : (w.code fragment).placed = w.placed ++ fragment.code := by
  cases fragment with
  | str s => exact List.map_append
  | _ => exact (List.append_nil _).symm

end Walk

variable {o : Options}

/-- A walk through the node, in a sequence or as a content, places what the node shows. -/
structure Node.PlacesShown (o : Options) (n : Node) : Prop where
  inSequence : ∀ (level : Nat) (isRoot : Bool) (w : Walk), (n.walk o level isRoot w).placed = w.placed ++ n.shown
  asContent : ∀ (level : Nat) (w : Walk),
    ((Value.node n).walkContent o level w).placed = w.placed ++ (Value.node n).shownContent

theorem Node.PlacesShown.of_inPlace {n : Node} (h : n.inPlace = true)
    (hn : ∀ (level : Nat) (isRoot : Bool) (w : Walk), (n.walk o level isRoot w).placed = w.placed ++ n.shown) :
    n.PlacesShown o := by
  refine ⟨hn, fun level w => ?_⟩
  rw [Value.walkContent_inPlace h, Value.shownContent_inPlace h]
  exact hn level false w

theorem walkNodes_placed (level : Nat) (isRoot : Bool) : ∀ (nodes : List Node) (w : Walk),
    (∀ n ∈ nodes, n.PlacesShown o) →
      (walkNodes o level isRoot nodes w).placed = w.placed ++ nodes.flatMap Node.shown
  | [], w, _ => (List.append_nil _).symm
  | n :: rest, w, h => by
    have hbelow : ∀ m ∈ rest, m.PlacesShown o := fun m hm => h m (List.mem_cons_of_mem n hm)
    have hrest := walkNodes_placed level isRoot rest (n.walk o level isRoot w) hbelow
    rw [(h n List.mem_cons_self).inSequence level isRoot w, List.append_assoc] at hrest
    exact hrest

theorem Value.walk_placed {v : Value} (h : ∀ n ∈ v.nodes, n.PlacesShown o) (level : Nat) (isRoot : Bool) (w : Walk) :
    (v.walk o level isRoot w).placed = w.placed ++ v.shown := by
  rw [Value.walk_nodes, Value.shown_nodes]
  exact walkNodes_placed level isRoot v.nodes w h

theorem Node.statement_placesShown {kind : ConstructKind} (hkind : kind ≠ .embedded) (fragment body : Value)
    (h : ∀ n ∈ body.nodes, n.PlacesShown o) : (Node.construct (.known kind) fragment body).PlacesShown o := by
  have hwalk : ∀ (level : Nat) (isRoot : Bool) (w : Walk),
      ((Node.construct (.known kind) fragment body).walk o level isRoot w).placed =
        w.placed ++ (Node.construct (.known kind) fragment body).shown := by
    intro level isRoot w
    rw [Node.walk_statement o level isRoot hkind, Node.shown_statement hkind, Value.walk_placed h, Walk.placed_code,
      List.append_assoc]
    rfl
  refine ⟨hwalk, fun level w => ?_⟩
  rcases Node.content_cases (.construct (.known kind) fragment body) with
    hplace | ⟨_, hn⟩ | ⟨k, f, hk, hn⟩ | ⟨_, _, _, hn⟩
  · exact (PlacesShown.of_inPlace hplace hwalk).asContent level w
  · cases hn
  · cases hn
    unfold Value.walkContent Value.shownContent
    rw [hk]
    show (((w.indent o level).code fragment).lineEnd).placed = w.placed ++ (fragment.code ++ ["\n"])
    rw [Walk.placed_lineEnd, Walk.placed_code, List.append_assoc]
    rfl
  · cases hn

theorem Node.markup_placesShown (head content : Value) (h : ∀ n, content = .node n → n.PlacesShown o) :
    (Node.markup head content).PlacesShown o := by
  refine .of_inPlace rfl fun level isRoot w => ?_
  cases hc : content.node? with
  | none => cases content <;> first | exact (List.append_nil _).symm | cases hc
  | some n =>
    obtain rfl := Value.node?_eq_some.1 hc
    exact (h n rfl).asContent level _

theorem Node.placesShown : ∀ n : Node, n.PlacesShown o :=
  TreeInduction.holds {
    bare := .of_inPlace rfl fun _ _ _ => (List.append_nil _).symm
    lineBreak := .of_inPlace rfl fun _ _ w => w.placed_lineEnd
    unrecognized := fun _ => .of_inPlace rfl fun _ _ _ => (List.append_nil _).symm
    multi := fun _ h => .of_inPlace rfl fun level isRoot w => Value.walk_placed h level isRoot w
    textBlock := fun _ h => ⟨fun _ _ _ => (List.append_nil _).symm, fun level w => Value.walk_placed h level false w⟩
    unknown := fun _ _ _ => ⟨fun _ _ _ => (List.append_nil _).symm, fun _ _ => (List.append_nil _).symm⟩
    embedded := fun _ _ h => .of_inPlace rfl fun _ _ w => Value.walk_placed h _ false w
    statement := fun _ fragment body hkind h => Node.statement_placesShown hkind fragment body h
    markup := fun head content h => Node.markup_placesShown head content h }

/-! ## Texts without spaces -/

/-- The characters of a text that are no spaces. -/
def withoutSpaces (s : String) : List Char := s.toList.filter (· ≠ ' ')

/-- A text that is laid out by pieces is, without spaces, the pieces without spaces. -/
theorem LaidOut.withoutSpaces {c : Cursor} {ps : List Piece} {cs : List Char} (h : LaidOut c ps cs) :
    cs.filter (· ≠ ' ') = (ps.map Piece.text).flatMap TemplateProjection.withoutSpaces := by
  induction h with
  | nil c => rfl
  | space _ ih => exact ih
  | piece _ ih =>
    rw [List.filter_append, ih]
    rfl

/-- What a projected text is without spaces does not depend on how it was projected. -/
theorem withoutSpaces_of_returns {tree : Value} {level : Nat} {isRoot : Bool} {text : String}
    (h : (tree.project o level isRoot).Returns text) : withoutSpaces text = tree.shown.flatMap withoutSpaces := by
  have hwrites := Value.walk_writes (fun n _ => n.writesItsWalk) h {}
  obtain ⟨ps, hps, hlaid, -⟩ := hwrites.laidOut
  have hplaced := Value.walk_placed (fun n _ => n.placesShown) level isRoot {} (v := tree) (o := o)
  have hshown : ps.map Piece.text = tree.shown := by
    rw [Walk.placed, hps] at hplaced
    exact hplaced
  rw [← hshown]
  exact hlaid.withoutSpaces

/-- **Everything but code is spaces.** If a tree is projected to a text at a level that is not negative, the text
without its spaces is what the tree shows, without spaces. So texts of one tree agree but for spaces, whatever the
options, the levels and the places that they were projected with. -/
theorem project_withoutSpaces {tree : Value} {level : Nat} {isRoot : Bool} {text : String}
    (h : (tree.project o level isRoot).fresh.result = .ok text) :
    withoutSpaces text = tree.shown.flatMap withoutSpaces ∧
      ∀ (o' : Options) (level' : Nat) (isRoot' : Bool) (text' : String),
        (tree.project o' level' isRoot').fresh.result = .ok text' → withoutSpaces text' = withoutSpaces text :=
  ⟨withoutSpaces_of_returns h, fun _ _ _ _ h' => (withoutSpaces_of_returns h').trans (withoutSpaces_of_returns h).symm⟩

/-- The text block in the sequence is passed over and the one in the cell is not; the cell's output ends its line. -/
theorem project_withoutSpaces_cell :
    let output := Node.construct (.known .output) (.str " x ") .null
    let cell (content : Node) := Value.node (.markup (.tagHead (.str "td")) (.node content))
    let loop := Node.construct (.known .control) (.str "for a\n in  b")
      (.tuple [.node .lineBreak, cell output, cell (.textBlock (.tuple [.node output]))])
    let tree := Value.tuple [.node (.textBlock (.tuple [.node .lineBreak])), .node loop]
    let shown := "fora\ninb\nx\nx".toList
    tree.shown = ["for a\n in  b", "\n", "x", "\n", "x"] ∧
      (∃ text, (tree.project {} 2 false).fresh.result = .ok text ∧ withoutSpaces text = shown) ∧
      ∃ text, (tree.project { indentWidth := 3 } 0 true).fresh.result = .ok text ∧ withoutSpaces text = shown := by
  intro output cell loop tree shown
  have hshown : tree.shown = ["for a\n in  b", "\n", "x", "\n", "x"] := by rfl
  obtain ⟨text, htext⟩ : ∃ text, (tree.project {} 2 false).fresh.result = .ok text := ⟨_, rfl⟩
  obtain ⟨text', htext'⟩ : ∃ text, (tree.project { indentWidth := 3 } 0 true).fresh.result = .ok text := ⟨_, rfl⟩
  obtain ⟨hspaces, hagree⟩ := project_withoutSpaces htext
  rw [hshown] at hspaces
  have hspaces : withoutSpaces text = shown := hspaces.trans (by decide)
  exact ⟨hshown, ⟨text, htext, hspaces⟩, text', htext', (hagree _ 0 true text' htext').trans hspaces⟩

end TemplateProjection
