import TemplateProjection.Proofs.Projection.Clauses
import TemplateProjection.Session

/-!
# What the root decides

Only embedded blocks ask whether they stand at the root, and only containers pass it on. With its containers opened, a
sequence at the root is a row of entries (`Value.rootEntries`): an embedded block among them gives its body flush left,
and every other entry gives what it gives below the root (`project_root`).
-/

namespace TemplateProjection

/-! ## Entries -/

mutual

/-- The nodes of a sequence with its containers opened, and the containers in these, wherever one can be gone
through. -/
def Value.rootEntries : Value → List Node
  | .list items => Value.rootEntriesAll items
  | .tuple items => Value.rootEntriesAll items
  | .collection _ items => Value.rootEntriesAll items
  | .dict entries => Value.rootEntriesKeys entries
  | .node n => n.rootEntries
  | _ => []

def Value.rootEntriesAll : List Value → List Node
  | [] => []
  | .node n :: rest => n.rootEntries ++ Value.rootEntriesAll rest
  | _ :: rest => Value.rootEntriesAll rest

def Value.rootEntriesKeys : List (Value × Value) → List Node
  | [] => []
  | (.node n, _) :: rest => n.rootEntries ++ Value.rootEntriesKeys rest
  | _ :: rest => Value.rootEntriesKeys rest

/-- A container is opened; every other node is an entry itself. -/
def Node.rootEntries : Node → List Node
  | .multi children => if children.isSequence then children.rootEntries else [.multi children]
  | n => [n]

end

def Node.isEmbedded : Node → Bool
  | .construct (.known .embedded) _ _ => true
  | _ => false

/-- What an entry gives at the root: an embedded block gives its body flush left, if it has one, and any other node what
it gives below the root. -/
def Node.projectEntry (o : Options) (level : Int) (e : Node) : Run String :=
  match e with
  | .construct (.known .embedded) fragment body =>
    if body.isNull then (·.getD "") <$> (Node.construct (.known .embedded) fragment body).project o level false
    else body.project o 0 false
  | e => (·.getD "") <$> e.project o level false

/-- The texts of entries in turn. -/
def projectEntries (o : Options) (level : Int) : List Node → Run String
  | [] => pure ""
  | e :: rest => do
    let text ← e.projectEntry o level
    let others ← projectEntries o level rest
    pure (text ++ others)

variable {o : Options}

/-! ## Opened containers -/

theorem Value.rootEntriesAll_nodes (items : List Value) :
    Value.rootEntriesAll items = (items.filterMap Value.node?).flatMap Node.rootEntries := by
  induction items with
  | nil => rfl
  | cons v rest ih =>
    cases v with
    | node n => exact congrArg (n.rootEntries ++ ·) ih
    | _ => exact ih

theorem Value.rootEntriesKeys_eq (entries : List (Value × Value)) :
    Value.rootEntriesKeys entries = Value.rootEntriesAll (entries.map Prod.fst) := by
  induction entries with
  | nil => rfl
  | cons e rest ih =>
    obtain ⟨key, v⟩ := e
    cases key with
    | node n => exact congrArg (n.rootEntries ++ ·) ih
    | _ => exact ih

theorem Value.rootEntries_nodes (v : Value) : v.rootEntries = v.nodes.flatMap Node.rootEntries := by
  cases v with
  | list items | tuple items | collection _ items => exact Value.rootEntriesAll_nodes items
  | dict entries => exact (Value.rootEntriesKeys_eq entries).trans (Value.rootEntriesAll_nodes _)
  | node n => exact (List.flatMap_singleton Node.rootEntries n).symm
  | _ => rfl

section Opened

variable (level : Int) (isRoot : Bool)

theorem projectNodes_singleton (n : Node) :
    projectNodes o level isRoot [n] = (·.getD "") <$> n.project o level isRoot := by
  simp only [projectNodes, pure_bind, String.append_empty, map_eq_pure_bind]

theorem projectNodes_flatMap_rootEntries {nodes : List Node}
    (h : ∀ n ∈ nodes, projectNodes o level isRoot n.rootEntries = projectNodes o level isRoot [n]) :
    projectNodes o level isRoot (nodes.flatMap Node.rootEntries) = projectNodes o level isRoot nodes := by
  induction nodes with
  | nil => rfl
  | cons n rest ih =>
    rw [List.flatMap_cons, projectNodes_append, h n List.mem_cons_self, ih fun m hm => h m (List.mem_cons_of_mem n hm),
      ← projectNodes_append]
    rfl

/-- A container does what its entries do, at the root and below it. -/
theorem Node.projectNodes_rootEntries (n : Node) :
    projectNodes o level isRoot n.rootEntries = projectNodes o level isRoot [n] := by
  have hinduction : TreeInduction fun n =>
      projectNodes o level isRoot n.rootEntries = projectNodes o level isRoot [n] := {
    bare := rfl
    lineBreak := rfl
    unrecognized := fun _ => rfl
    multi := fun children ih => by
      rw [Node.rootEntries]
      split
      · rename_i h
        rw [Value.rootEntries_nodes, projectNodes_flatMap_rootEntries level isRoot ih,
          ← Value.project_sequence o level isRoot h, projectNodes_singleton]
        show _ = (·.getD "") <$> (some <$> children.project o level isRoot)
        rw [Functor.map_map]
        exact (id_map _).symm
      · rfl
    textBlock := fun _ _ => rfl
    unknown := fun _ _ _ => rfl
    embedded := fun _ _ _ => rfl
    statement := fun _ _ _ _ _ => rfl
    markup := fun _ _ _ => rfl }
  exact hinduction.holds n

theorem Value.project_rootEntries {v : Value} (h : v.isSequence = true) :
    v.project o level isRoot = projectNodes o level isRoot v.rootEntries := by
  rw [Value.project_sequence o level isRoot h, Value.rootEntries_nodes,
    projectNodes_flatMap_rootEntries level isRoot fun n _ => n.projectNodes_rootEntries level isRoot]

end Opened

/-! ## Entries at the root -/

/-- A container that is an entry is one that cannot be gone through. -/
def Node.IsOpened (e : Node) : Prop := ∀ children, e = .multi children → children.isSequence = false

theorem Node.isOpened_of_mem_rootEntries (n : Node) : ∀ e ∈ n.rootEntries, e.IsOpened := by
  have itself : ∀ m : Node, (∀ children, m ≠ .multi children) → ∀ e ∈ [m], e.IsOpened := by
    intro m hm e he children hchildren
    rw [List.mem_singleton.1 he] at hchildren
    exact absurd hchildren (hm children)
  have hinduction : TreeInduction fun n => ∀ e ∈ n.rootEntries, e.IsOpened := {
    bare := itself _ nofun
    lineBreak := itself _ nofun
    unrecognized := fun _ => itself _ nofun
    multi := fun children ih e he => by
      rw [Node.rootEntries] at he
      split at he
      · rw [Value.rootEntries_nodes] at he
        obtain ⟨m, hm, he⟩ := List.mem_flatMap.1 he
        exact ih m hm e he
      · rename_i h
        obtain rfl := List.mem_singleton.1 he
        intro _ hchildren
        obtain rfl := Node.multi.inj hchildren
        exact Bool.eq_false_iff.2 h
    textBlock := fun _ _ => itself _ nofun
    unknown := fun _ _ _ => itself _ nofun
    embedded := fun _ _ _ => itself _ nofun
    statement := fun _ _ _ _ _ => itself _ nofun
    markup := fun _ _ _ => itself _ nofun }
  exact hinduction.holds n

theorem Value.isOpened_of_mem_rootEntries {v : Value} {e : Node} (h : e ∈ v.rootEntries) : e.IsOpened := by
  rw [Value.rootEntries_nodes] at h
  obtain ⟨n, -, he⟩ := List.mem_flatMap.1 h
  exact n.isOpened_of_mem_rootEntries e he

/-- Of the opened entries, only embedded blocks ask whether they stand at the root. -/
theorem Node.project_isRoot {e : Node} (hopened : e.IsOpened) (h : e.isEmbedded = false) (level : Int) :
    e.project o level true = e.project o level false := by
  cases e with
  | multi children =>
    have hclosed := hopened children rfl
    show some <$> children.project o level true = some <$> children.project o level false
    rw [Value.project_not_sequence o level true hclosed, Value.project_not_sequence o level false hclosed]
  | construct kind fragment body =>
    cases kind with
    | unknown word => rfl
    | known kind =>
      cases kind with
      | embedded => cases h
      | _ => rfl
  | _ => rfl

theorem Node.projectEntry_of_not_embedded {e : Node} (h : e.isEmbedded = false) (level : Int) :
    e.projectEntry o level = (·.getD "") <$> e.project o level false := by
  unfold Node.projectEntry
  split
  · cases h
  · rfl

/-- An embedded block at the root gives its body flush left, whatever the level. -/
theorem Node.project_embedded_root (fragment body : Value) (level : Int) :
    (Node.construct (.known .embedded) fragment body).project o level true = some <$> body.projectBody o 0 :=
  Node.project_embedded o level true fragment body

theorem Node.isEmbedded_eq_true {e : Node} :
    e.isEmbedded = true ↔ ∃ fragment body, e = .construct (.known .embedded) fragment body := by
  constructor
  · intro h
    unfold Node.isEmbedded at h
    split at h
    · exact ⟨_, _, rfl⟩
    · cases h
  · rintro ⟨fragment, body, rfl⟩
    rfl

theorem Node.project_entry {e : Node} (hopened : e.IsOpened) (level : Int) :
    (·.getD "") <$> e.project o level true = e.projectEntry o level := by
  cases h : e.isEmbedded with
  | false => rw [Node.projectEntry_of_not_embedded h, Node.project_isRoot hopened h]
  | true =>
    obtain ⟨fragment, body, rfl⟩ := Node.isEmbedded_eq_true.1 h
    rw [Node.project_embedded_root, Functor.map_map, Node.projectEntry]
    show id <$> body.projectBody o 0 = _
    rw [id_map, Value.projectBody]
    split
    · -- Without a body, the block gives no text at any place.
      rename_i hnull
      rw [Node.project_embedded, Value.projectBody, if_pos hnull, map_pure, map_pure]
      rfl
    · rfl

theorem projectNodes_entries {es : List Node} (h : ∀ e ∈ es, e.IsOpened) (level : Int) :
    projectNodes o level true es = projectEntries o level es := by
  induction es with
  | nil => rfl
  | cons e rest ih =>
    rw [projectEntries, ← Node.project_entry (h e List.mem_cons_self), ← ih fun d hd => h d (List.mem_cons_of_mem e hd),
      bind_map_left]
    rfl

theorem projectNodes_isRoot {es : List Node} (hopened : ∀ e ∈ es, e.IsOpened) (h : ∀ e ∈ es, e.isEmbedded = false)
    (level : Int) : projectNodes o level true es = projectNodes o level false es := by
  induction es with
  | nil => rfl
  | cons e rest ih =>
    rw [projectNodes, projectNodes, Node.project_isRoot (hopened e List.mem_cons_self) (h e List.mem_cons_self),
      ih (fun d hd => hopened d (List.mem_cons_of_mem e hd)) fun d hd => h d (List.mem_cons_of_mem e hd)]

/-- **The root reaches embedded blocks through containers only.** At the root, and at whatever level, a sequence does
what its entries do in turn, with all containers opened that can be gone through: an embedded block gives its body flush
left, and every other entry what it gives below the root. So it does not matter to an embedded block at the root which
level it stands at, and a sequence without one among its entries does the same at the root and below it, whatever blocks
are nested deeper. -/
theorem project_root (o : Options) (level : Int) :
    (∀ tree : Value, tree.isSequence = true →
      tree.project o level true = projectEntries o level tree.rootEntries ∧ ∀ e ∈ tree.rootEntries, e.IsOpened) ∧
    (∀ e : Node, e.isEmbedded = true → ∀ other : Int, e.project o level true = e.project o other true) ∧
    ∀ tree : Value, tree.isSequence = true → (∀ e ∈ tree.rootEntries, e.isEmbedded = false) →
      tree.project o level true = tree.project o level false := by
  refine ⟨fun tree h => ?_, fun e he other => ?_, fun tree h hembedded => ?_⟩
  · have hopened : ∀ e ∈ tree.rootEntries, e.IsOpened := fun e he => Value.isOpened_of_mem_rootEntries he
    rw [Value.project_rootEntries level true h]
    exact ⟨projectNodes_entries hopened level, hopened⟩
  · obtain ⟨fragment, body, rfl⟩ := Node.isEmbedded_eq_true.1 he
    rw [Node.project_embedded_root, Node.project_embedded_root]
  · rw [Value.project_rootEntries level true h, Value.project_rootEntries level false h]
    exact projectNodes_isRoot (fun e he => Value.isOpened_of_mem_rootEntries he) hembedded level

/-- In a container at the root, an embedded block stands flush left, also below level 0; the same block as the content
of a cell is nested one level in, at the root and below it. -/
theorem project_root_block :
    let block := Node.construct (.known .embedded) .null
      (.tuple [.node (.construct (.known .control) (.str "x") .null), .node .lineBreak])
    let cell := Node.markup (.tagHead (.str "td")) (.node block)
    let page := Value.list [.node (.multi (.tuple [.node block, .str "junk", .node (.multi (.tuple []))])), .node cell]
    let row := Value.tuple [.node (.multi (.list [.node cell]))]
    page.rootEntries = [block, cell] ∧ page.project {} 1 true = projectEntries {} 1 [block, cell] ∧
      (page.project {} 1 true).fresh.result = .ok "x\n        x\n" ∧
      block.project {} (-2) true = block.project {} 5 true ∧ row.rootEntries = [cell] ∧
      row.project {} 1 true = row.project {} 1 false := by
  intro block cell page row
  have hpage : page.rootEntries = [block, cell] := rfl
  have hrow : row.rootEntries = [cell] := rfl
  have hentries := ((project_root {} 1).1 page rfl).1
  have hlevel := (project_root {} (-2)).2.1 block rfl 5
  have hbelow := (project_root {} 1).2.2 row rfl fun e he => by
    rw [hrow] at he
    rw [List.mem_singleton.1 he]
    rfl
  rw [hpage] at hentries
  exact ⟨hpage, hentries, rfl, hlevel, hrow, hbelow⟩

end TemplateProjection
