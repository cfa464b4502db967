import SlideDeck.Proofs.Markup.Surroundings
import SlideDeck.Proofs.Script.Attaching
import SlideDeck.Proofs.Script.Splicing
import SlideDeck.Proofs.Store.Below

/-! What is written of the running texts that scripts put into containers. -/

namespace SlideDeck

namespace Store

variable {s : Store} {c m : NodeId} {draft : Draft}

lemma tree?_of_leaf (h : s.children m = []) : s.tree? m = some (.node m (s.node m) []) := by
  rw [tree?, treeWithin, h]
  rfl

lemma tree?_link_create (hc : c < s.size) (hleaf : draft.listing? = none) :
    ((s.create draft).1.link c s.size .last).children c = s.children c ++ [s.size] ∧
      ∃ root, root.content = draft.content (s.size + 1) ∧
        ((s.create draft).1.link c s.size .last).tree? s.size = some (.node s.size root []) := by
  have hlt := Nat.lt_trans hc (size_lt_size_create s draft)
  have hchildren (n : NodeId) : ((s.create draft).1.link c s.size .last).children n =
      if n = c then s.children c ++ [s.size] else s.children n := by
    rw [children_link _ _ _ hlt, children_create, children_create]
    simp [hleaf, Place.insert]
  refine ⟨by rw [hchildren, if_pos rfl], _, ?_, tree?_of_leaf ?_⟩
  · rw [node_link, node_create_size]
  · rw [hchildren, if_neg (Nat.ne_of_gt hc), children, node_of_size_le _ _ le_rfl]

end Store

lemma Layout.render_leaf_text (base step source : String) (id : NodeId) {root : Node}
    (h : root.content = .text source) :
    render base step (Tree.pieces (.node id root [])) = base ++ translate source := by
  rw [Tree.pieces, node, h, render_cons, render_nil, Piece.render_line_zero, String.append_empty]

namespace Script

/-- A running text becomes the last child of its container. What is written of it after an indentation, also among
what is written of a node above, is the translation of the text alone between the item or the overlay command
around it: nothing that the text begins or ends with is read together with what stands there. -/
theorem running_text_is_translated_alone {s : Session} (hs : s.Reachable) {on : String} {e : Entity} {c : NodeId}
    (hon : s.lookup on = .ok e) (hc : s.containerFor e .appendText = .ok c) (body : String) (slide? : Option Int)
    (result? : Option String) :
    let m := s.store.size
    let step := Step.build (.child on (.appendText body slide?)) result?
    let t := (step.run s).1
    let line := runningLine (s.store.kind c) body slide?
    (step.run s).2.fault? = none ∧ t.store.children c = s.store.children c ++ [m] ∧
      ∃ tree, t.store.tree? m = some tree ∧
        (∀ base indent, Layout.render base indent tree.pieces = base ++ line) ∧
        ∀ r, t.store.Climbs m r → ¬ t.store.Cyclic r → ¬ t.store.HoldsForeign r →
          ∃ x : Cut, ∀ indent, (t.write (.node r) indent).outcome = .ok (.value (.text
            (Layout.render "" indent x.before ++ (x.indent indent ++ line) ++
              Layout.render "" indent x.after))) := by
  intro m step t line
  have happend : ∀ kind, Method.appendText.isOf kind = true → kind.isContainer = true := fun _ h => h
  have hcontainer := hs.wellFormed.containerFor (hs.wellFormed.lookup hon) happend hc
  obtain ⟨source, hdraft, hline⟩ := Draft.exists_source (s.store.kind c) body slide?
  have hstart : (Construction.child on (.appendText body slide?)).start s = _ := child_start hon hc
  have hrun := build_run result? hstart (Store.parent?_create_size _)
  have hstore : t.store = (s.store.create (.text source)).1.link c m .last := by
    rw [← hdraft]
    exact (congrArg (fun answer => answer.1.store) hrun).trans (Session.store_conclude _ _ _)
  have hleaf : (Draft.text source).listing? = none := rfl
  obtain ⟨hchildren, root, hcontent, htree⟩ := Store.tree?_link_create hcontainer.lt_size hleaf
  rw [← hstore] at hchildren htree
  have hrender (base indent : String) :
      Layout.render base indent (Tree.pieces (.node m root [])) = base ++ line := by
    rw [Layout.render_leaf_text base indent source m hcontent, hline]
  refine ⟨congrArg (fun answer => answer.2.fault?) hrun, hchildren, _, htree, hrender, fun r hmr hr htexts => ?_⟩
  have hwell := (hs.run step).wellFormed.store
  obtain ⟨host, hhost⟩ := Store.exists_tree hwell hr
  obtain ⟨u, x, hu, hfills⟩ := Store.exists_fills hwell hhost hmr
  obtain rfl := Option.some.inj (htree.symm.trans hu)
  refine ⟨x, fun indent => ?_⟩
  rw [Session.write_tree hwell hhost htexts, hfills.render_eq, hrender]

theorem running_text_is_translated_alone_of_item :
    let script : List Step := [.act (.make (.frame none)) (some "f"), .build (.child "f" .itemize) (some "l")]
    let s := (runAll script {}).1
    let t := ((Step.build (.child "l" (.appendText "|/x...." (some (-2)))) none).run s).1
    let line := "\\item<only@2> |/x\\ldots\x7b\x7d.\n"
    t.store.children 1 = [2] ∧
      (∃ tree, t.store.tree? 2 = some tree ∧
        ∀ base indent, Layout.render base indent tree.pieces = base ++ line) ∧
      ∃ x : Cut, ∀ indent, (t.write (.node 0) indent).outcome = .ok (.value (.text
        (Layout.render "" indent x.before ++ (x.indent indent ++ line) ++ Layout.render "" indent x.after))) := by
  intro script s t line
  have hs : s.Reachable := reachable_runAll script
  have hline : runningLine (s.store.kind 1) "|/x...." (some (-2)) = line := by decide
  have hon : s.lookup "l" = .ok (.node 1) := rfl
  have hc : s.containerFor (.node 1) .appendText = .ok 1 := rfl
  obtain ⟨-, hchildren, tree, htree, hrender, habove⟩ :=
    running_text_is_translated_alone hs hon hc "|/x...." (some (-2)) none
  rw [hline] at hrender
  have hlist : t.store.Climbs 1 0 := .of_parent? (by decide)
  have hitem : t.store.Climbs 2 0 := .head (show t.store.parent? 2 = some 1 by decide) hlist
  obtain ⟨x, hwrite⟩ := habove 0 hitem (Store.not_cyclic_of_free (by decide)) (Store.not_holdsForeign (by decide) 0)
  rw [hline] at hwrite
  exact ⟨hchildren, ⟨tree, htree, hrender⟩, x, hwrite⟩

end Script

end SlideDeck
