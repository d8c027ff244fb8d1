import TemplateProjection.Proofs.Projection.Heads
import TemplateProjection.Proofs.Raw.Related

/-!
# What a reader does not look at

Two trees of raw data may be the same wherever a reader looks: in their tags, in the texts that shapes require, in the
names and the texts of attributes, and in what is nested. All else may differ, at any depth: it is not read, and leaves
no trace in the node, in the text or in an error (`unread_has_no_effect`).
-/

namespace TemplateProjection

/-- Where a reader looks, nothing differs. -/
def RawDifferences.unread : RawDifferences := {}

/-! ## Equal parts -/

theorem RawDifferences.unread_readsTags : unread.ReadsTags Eq where
  tag h := congrArg Value.symbol? h.symm
  cause _ := rfl

theorem RawDifferences.unread_readsAttributes (lenient : Bool) : unread.ReadsAttributes lenient Eq Eq where
  toReadsTags := unread_readsTags
  name _ h := h ▸ .refl (fun _ => rfl) _ _
  noText index h := by
    obtain rfl := Value.str.inj h
    rfl
  valueText _ hname htext := by
    obtain rfl := Value.str.inj hname
    exact htext ▸ .refl (fun _ => rfl) _ _
  entry kind _ hname htext := by
    obtain rfl := Value.str.inj hname
    rw [htext]
  noCode hname := by
    obtain rfl := Value.str.inj hname
    rfl

theorem RawDifferences.unread_readAs (lenient : Bool) : unread.ReadAs lenient Eq {} where
  toReadsTags := unread_readsTags
  text _ h := h ▸ .refl (fun _ => rfl) _ _
  fragment _ h := h
  noFragment := rfl
  tagName h := congrArg Value.tagHead h
  attributes p h := sameHead_of_attributes (unread_readsAttributes lenient) (fun _ => rfl) h p

/-! ## Trees -/

/-- **What a reader does not look at has no effect.** Raw data that are the same where a reader looks are adapted to
nodes that are the same but for what they keep unrecognized, in strict and in lenient mode and at every path; or both
fail, with one cause and at one path. Requests on them give the same text, or fail alike. -/
theorem unread_has_no_effect {raw raw' : Value} (h : raw.RawSameBut .unread raw') :
    (∀ (lenient : Bool) (p : Path), (raw.adapt lenient p).Related (fun e e' => e.withoutNode = e'.withoutNode)
      (Node.SameBut {}) (raw'.adapt lenient p)) ∧
    ∀ (o : Options) (level : Int) (isRoot : Bool) (m : Memo),
      AlikeResults ((raw.projectRaw o level isRoot).run m).result ((raw'.projectRaw o level isRoot).run m).result := by
  constructor
  · intro lenient p
    have hadapt := h.adapt (RawDifferences.unread_readAs lenient) p
    exact RelatedResults.mono hadapt (fun _ _ he => he.withoutNode_eq) fun _ _ hn => hn
  · intro o level isRoot m
    exact alikeResults_iff.2 (h.projectRaw level isRoot m (RawDifferences.unread_readAs _) (Differences.none_unseen o))

/-- In a container, an entry that is no list differs, and so do the attributes of a cell, the escape flag of its output,
the type of a text and what stands behind a line break in it, the first item of an attribute and what stands in front of
its code, and all of a list whose tag names nothing; items come behind the last one that is read. -/
theorem unread_has_no_effect_page :
    let page (junk attributes : Value) (output type lineBreak entry value unknown : List Value) :=
      Value.list [.str "multi", junk,
        .list [.str "html", .str "tag", .str "td", attributes, .list (.str "slim" :: .str "output" :: output)],
        .list (.str "slim" :: .str "text" :: type ++ [.list (.str "newline" :: lineBreak)]),
        .list [.str "html", .str "attrs", .list (entry ++ [.str "id", .list value])], .list unknown]
    let raw := page (.str "junk") (.list [.str "html", .str "attrs", .int 5]) [.bool true, .str "x"] [.str "inline"] []
      [.str "html", .str "attr"] [.str "dynamic", .int 1, .int 2, .str "i"] [.str "comment", .str "c"]
    let other := page .null .null [.null, .str "x", .null, .int 7] [.int 1] [.list []] [.null, .str "attr"]
      [.str "dynamic", .null, .null, .str "i", .null] []
    raw.RawSameBut .unread other ∧
      AlikeResults ((raw.projectRaw {} 0 true).run .empty).result ((other.projectRaw {} 0 true).run .empty).result ∧
      ((other.projectRaw {} 0 true).run .empty).result = .ok "  x\n    " := by
  intro page raw other
  have houtput : (Value.list [.str "slim", .str "output", .bool true, .str "x"]).RawSameBut .unread
      (.list [.str "slim", .str "output", .null, .str "x", .null, .int 7]) := by
    refine .single (s := .output) rfl rfl rfl rfl rfl rfl ⟨.some rfl, fun _ => .some rfl⟩ ?_ ?_
    · rintro r ⟨⟩
      exact .some fun _ => rfl
    · exact .passedOver nofun (by rintro _ ⟨⟩; rfl)
  have hlineBreak : (Value.list [.str "newline"]).RawSameBut .unread (.list [.str "newline", .list []]) :=
    .known (s := .newline) rfl rfl rfl ⟨.some rfl, nofun⟩ nofun nofun nofun
  have hunknown : NoShape [.str "comment", .str "c"] := .kind (by decide)
  have hpage : raw.RawSameBut .unread other := by
    refine .siblings (s := .multi) rfl rfl rfl rfl ⟨.some rfl, nofun⟩ ?_
    rintro (_ | _ | _ | _ | _ | i)
    · exact .passedOver (by rintro _ ⟨⟩; rfl) (by rintro _ ⟨⟩; rfl)
    · refine .nested rfl rfl ?_
      refine .single (s := .tag) rfl rfl rfl rfl rfl rfl ⟨.some rfl, fun _ => .some rfl⟩ ?_ (.nested rfl rfl houtput)
      rintro r ⟨⟩
      exact .some fun _ => rfl
    · refine .nested rfl rfl (.siblings (s := .text) rfl rfl rfl rfl ⟨.some rfl, fun _ => .some rfl⟩ ?_)
      rintro (_ | _ | i)
      · exact .passedOver (by rintro _ ⟨⟩; rfl) (by rintro _ ⟨⟩; rfl)
      · exact .nested rfl rfl hlineBreak
      · exact .passedOver nofun nofun
    · refine .nested rfl rfl ?_
      refine .known (s := .attrs) rfl rfl rfl ⟨.some rfl, fun _ => .some rfl⟩ nofun (fun _ => ⟨?_, trivial⟩) ?_
      · exact .cons (.tagged rfl rfl (.some rfl) (.some rfl) (.some (.value rfl rfl rfl (.some rfl)))) .nil
      · rintro n i ⟨⟩ ⟨⟩
    · exact .nested rfl rfl (.unrecognized rfl rfl hunknown (.inr .empty))
    · exact .passedOver nofun nofun
  exact ⟨hpage, (unread_has_no_effect hpage).2 {} 0 true .empty, rfl⟩

end TemplateProjection
