import SlideDeck.Proofs.Script.Interchange
import SlideDeck.Proofs.Script.Splicing
import SlideDeck.Proofs.Store.Exchange

/-! What a slide qualifier changes in the texts that scripts see, at the node itself and at each node above. -/

namespace SlideDeck

lemma Node.halts_of_numbered {n : Node} {slides? : Option Int} {hasStep : Bool}
    (h : { n with slides? := slides?.map .int }.halts hasStep = true) : n.halts hasStep = true := by
  have hnumber : (slides?.map Slides.int).any Slides.isText = false := by cases slides? <;> rfl
  rw [Node.halts] at h ⊢
  simp only [hnumber, Bool.and_false, Bool.or_false, Bool.or_eq_true] at h ⊢
  exact h.imp_left .inl

lemma Node.isWritable_of_numbered {n : Node} {slides? : Option Int} {hasStep : Bool} (h : n.isWritable hasStep = true) :
    { n with slides? := slides?.map .int }.isWritable hasStep = true := by
  have hn : ¬ n.halts hasStep = true := by
    intro hhalts
    simp [Node.isWritable, Node.halt?, hhalts] at h
  have hnumbered : ¬ { n with slides? := slides?.map .int }.halts hasStep = true := mt Node.halts_of_numbered hn
  rw [Node.isWritable, Node.halt?, if_neg hn] at h
  rw [Node.isWritable, Node.halt?, if_neg hnumbered]
  exact h

/-- A number as qualifier has the right type. -/
lemma Store.HoldsForeign.of_qualify {s : Store} {m r : NodeId} {slides? : Option Int}
    (h : (s.qualify m slides?).HoldsForeign r) : s.HoldsForeign r := by
  obtain ⟨n, hn, hforeign⟩ := h
  refine ⟨n, sameShape_qualify.climbs_iff.mp hn, ?_⟩
  rw [qualify, node_modify] at hforeign
  split at hforeign
  · refine Bool.eq_false_of_not_eq_true fun hwritable => ?_
    rw [Node.isWritable_of_numbered hwritable] at hforeign
    cases hforeign
  · exact hforeign

namespace Script

namespace Session

def qualify (s : Session) (n : NodeId) (slides? : Option Int) : Session := s.withStore (s.store.qualify n slides?)

end Session

variable {s : Session} {m : NodeId} {on : String}

lemma run_addSlideQualifier (hon : s.lookup on = .ok (.node m)) (n : Int) :
    (Action.change on (.addSlideQualifier n)).run s =
      { session := s.qualify m (some n), outcome := .ok (.node m) } := by
  rw [Action.run, hon]
  rfl

lemma run_assign_slides (hon : s.lookup on = .ok (.node m)) :
    (Action.assign on "slides" .null).run s = { session := s.qualify m none, outcome := .ok .nothing } := by
  have hstore : (s.store.modify m fun _ => { s.store.node m with slides? := none }) = s.store.qualify m none :=
    Store.modify_congr rfl
  rw [Action.run, hon, Session.qualify, ← hstore]
  rfl

/-- Let a node be qualified by slides, or its qualifier be taken away. What is written of the node changes as its
content says, after each indentation; and what is written around it, of a node above that is not its own
ancestor, is the same in both cases, however qualified the nodes between are. -/
theorem slide_qualifier_wraps {s : Session} (hs : s.Reachable) {m r : NodeId} (hm : m < s.store.size)
    (hmr : s.store.Climbs m r) (hr : ¬ s.store.Cyclic r) (n : Int) :
    (∀ on, s.lookup on = .ok (.node m) →
      (Action.change on (.addSlideQualifier n)).run s =
        { session := s.qualify m (some n), outcome := .ok (.node m) } ∧
      (Action.assign on "slides" .null).run s = { session := s.qualify m none, outcome := .ok .nothing }) ∧
    ∃ (t : Tree) (x : Cut), s.store.tree? m = some t ∧
      (∀ slides?, (s.qualify m slides?).store.tree? m = some (t.qualify slides?)) ∧
      ∀ step : String,
        (s.store.node m).content.Qualifies n step
          (fun base => Layout.render base step (t.qualify none).pieces)
          (fun base => Layout.render base step (t.qualify (some n)).pieces) ∧
        ∀ slides?,
          let q := s.qualify m slides?
          (q.store.HoldsForeign r → s.store.HoldsForeign r) ∧
          (¬ q.store.HoldsForeign r → (q.write (.node r) step).outcome =
            .ok (.value (.text (Layout.render "" step x.before ++
              Layout.render (x.indent step) step (t.qualify slides?).pieces ++
              Layout.render "" step x.after)))) ∧
          (q.store.HoldsForeign r → (q.write (.node r) step).FailsOn q.store r) := by
  have hwell := hs.wellFormed.store
  obtain ⟨t, x, ht, hcut⟩ := Store.exists_cut_qualify hwell hm hmr hr
  refine ⟨fun on hon => ⟨run_addSlideQualifier hon n, run_assign_slides hon⟩, t, x, ht,
    fun slides? => (hcut slides?).1, fun step => ⟨?_, fun slides? => ?_⟩⟩
  · obtain ⟨rfl, hmatches⟩ := Store.matches_of_tree? ht
    rw [← hmatches.root_eq]
    exact t.qualifies n step
  · obtain ⟨-, host, hhost, hfills⟩ := hcut slides?
    have hwell' : (s.store.qualify m slides?).WellFormed := Store.sameShape_qualify.wellFormed hwell
    refine ⟨Store.HoldsForeign.of_qualify, fun htexts => ?_, fun hforeign => ?_⟩
    · rw [← hfills.render_eq]
      exact Session.write_tree (s := s.qualify m slides?) hwell' hhost htexts step
    · exact Session.write_foreign (s := s.qualify m slides?) hwell' hhost hforeign step

theorem slide_qualifier_wraps_of_list :
    let script : List Step := [.act (.make (.frame none)) (some "f"),
      .build (.child "f" (.block "b")) (some "b"), .build (.child "b" .itemize) (some "l"),
      .act (.change "f" (.addSlideQualifier 2)) none]
    let s := (runAll script {}).1
    let q := ((Action.change "l" (.addSlideQualifier (-3))).run s).session
    let u := ((Action.assign "l" "slides" .null).run s).session
    ∃ (before base after : String) (list : String → String),
      (u.write (.node 0) "  ").outcome = .ok (.value (.text (before ++ list base ++ after))) ∧
      (q.write (.node 0) "  ").outcome = .ok (.value (.text
        (before ++ Layout.overlaid (-3) base (list (base ++ "  ")) "" ++ after))) := by
  intro script s q u
  have hs : s.Reachable := reachable_runAll script
  have hblock : s.store.Climbs 1 0 := .of_parent? (by decide)
  have hclimbs : s.store.Climbs 2 0 := .head (show s.store.parent? 2 = some 1 by decide) hblock
  have hroot : ¬ s.store.Cyclic 0 := Store.not_cyclic_of_free (by decide)
  have htexts : ¬ (s.qualify 2 none).store.HoldsForeign 0 := Store.not_holdsForeign (by decide) 0
  have htexts' : ¬ (s.qualify 2 (some (-3))).store.HoldsForeign 0 := Store.not_holdsForeign (by decide) 0
  have hcontent : (s.store.node 2).content = .environment .itemize "itemize" {} := by decide
  obtain ⟨hrun, t, x, -, -, htext⟩ := slide_qualifier_wraps hs (by decide) hclimbs hroot (-3)
  obtain ⟨hqualified, hplain⟩ := hrun "l" rfl
  obtain ⟨hwraps, hwrite⟩ := htext "  "
  rw [hcontent] at hwraps
  let list (base : String) : String := Layout.render base "  " (t.qualify none).pieces
  have hinner : Layout.render (x.indent "  ") "  " (t.qualify (some (-3))).pieces =
      Layout.overlaid (-3) (x.indent "  ") (list (x.indent "  " ++ "  ")) "" := hwraps (x.indent "  ")
  refine ⟨Layout.render "" "  " x.before, x.indent "  ", Layout.render "" "  " x.after, list, ?_, ?_⟩
  · rw [show u = s.qualify 2 none from congrArg Effect.session hplain]
    exact (hwrite none).2.1 htexts
  · rw [show q = s.qualify 2 (some (-3)) from congrArg Effect.session hqualified, ← hinner]
    exact (hwrite (some (-3))).2.1 htexts'

end Script

end SlideDeck
