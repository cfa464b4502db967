import SlideDeck.Proofs.ReadingBack
import SlideDeck.Proofs.Script.RunningText

/-! What was given to a container to be shown on slides can be read back from the text that is stored for it. -/

namespace SlideDeck.Script

/-- From `s` to `t`, the container has got a new last child with this text. -/
structure AppendsText (s t : Session) (c : NodeId) (source : String) : Prop where
  children : t.store.children c = s.store.children c ++ [s.store.size]
  content : (t.store.node s.store.size).content = .text source

variable {s : Session} {on : String} {e : Entity} {c : NodeId}

lemma store_child_run (builder : Builder) (hon : s.lookup on = .ok e)
    (hc : s.containerFor e builder.method = .ok c) (result? : Option String) :
    ((Step.build (.child on builder) result?).run s).1.store =
      (s.store.create (builder.draft (s.store.kind c))).1.link c s.store.size .last := by
  rw [build_run result? (child_start hon hc) (Store.parent?_create_size _)]
  exact Session.store_conclude _ _ _

lemma appendsText_run (hs : s.Reachable) (hon : s.lookup on = .ok e) (hc : s.containerFor e .appendText = .ok c)
    (body : String) (slide? : Option Int) (result? : Option String) :
    ∃ source, Draft.textIn (s.store.kind c) body slide? = .text source ∧
      AppendsText s ((Step.build (.child on (.appendText body slide?)) result?).run s).1 c source := by
  have happend : ∀ kind, Method.appendText.isOf kind = true → kind.isContainer = true := fun _ h => h
  have hcontainer := hs.wellFormed.containerFor (hs.wellFormed.lookup hon) happend hc
  obtain ⟨source, hdraft, -⟩ := Draft.exists_source (s.store.kind c) body slide?
  have hstore := store_child_run (.appendText body slide?) hon hc result?
  rw [Builder.draft, hdraft] at hstore
  have hleaf : (Draft.text source).listing? = none := rfl
  refine ⟨source, hdraft, ?_, ?_⟩
  · rw [hstore]
    exact (Store.tree?_link_create hcontainer.lt_size hleaf).1
  · rw [hstore, Store.node_link, Store.node_create_size]
    rfl

/-- Different slides have different specifications. In a list of items the stored text determines the text and the
slide that were given, if any, and in other containers if a slide was given, wherever two such texts are stored. -/
theorem running_text_can_be_read_back :
    Function.Injective Overlay.command ∧ Function.Injective Overlay.range ∧
    ∀ (s s' : Session) (on on' : String) (e e' : Entity) (c c' : NodeId), s.Reachable → s'.Reachable →
      s.lookup on = .ok e → s.containerFor e .appendText = .ok c →
      s'.lookup on' = .ok e' → s'.containerFor e' .appendText = .ok c' →
      ∀ (body body' : String) (slide? slide?' : Option Int) (result? result?' : Option String),
        let t := ((Step.build (.child on (.appendText body slide?)) result?).run s).1
        let t' := ((Step.build (.child on' (.appendText body' slide?')) result?').run s').1
        ∃ source source', AppendsText s t c source ∧ AppendsText s' t' c' source' ∧
          (s.store.kind c = .itemize → s'.store.kind c' = .itemize →
            (source = source' ↔ body = body' ∧ slide? = slide?')) ∧
          (s.store.kind c ≠ .itemize → s'.store.kind c' ≠ .itemize → slide?.isSome → slide?'.isSome →
            (source = source' ↔ body = body' ∧ slide? = slide?')) := by
  refine ⟨Overlay.command_injective, Overlay.range_injective, fun s s' on on' e e' c c' hs hs' hon hc hon' hc' body
    body' slide? slide?' result? result?' => ?_⟩
  obtain ⟨source, hdraft, happends⟩ := appendsText_run hs hon hc body slide? result?
  obtain ⟨source', hdraft', happends'⟩ := appendsText_run hs' hon' hc' body' slide?' result?'
  have hsame : source = source' ↔ Draft.textIn (s.store.kind c) body slide? =
      Draft.textIn (s'.store.kind c') body' slide?' := by
    rw [hdraft, hdraft', Draft.text.injEq]
  refine ⟨source, source', happends, happends', fun hkind hkind' => ?_, fun hkind hkind' hslide hslide' => ?_⟩
  · rw [hsame, hkind, hkind', Draft.textIn_itemize_inj]
  · obtain ⟨m, rfl⟩ := Option.isSome_iff_exists.mp hslide
    obtain ⟨n, rfl⟩ := Option.isSome_iff_exists.mp hslide'
    rw [hsame, Draft.textIn_overlay_inj hkind hkind', Option.some.injEq]

theorem running_text_can_be_read_back_of_items :
    let script : List Step := [.act (.make (.frame none)) (some "f"), .build (.child "f" .itemize) (some "l")]
    let s := (runAll script {}).1
    let after (on body : String) (slide? : Option Int) :=
      ((Step.build (.child on (.appendText body slide?)) none).run s).1
    (∃ source source', AppendsText s (after "l" "<3-> a" none) 1 source ∧
      AppendsText s (after "l" "a" (some 3)) 1 source' ∧ source ≠ source') ∧
    ∃ source source', AppendsText s (after "f" "a" (some 2)) 0 source ∧
      AppendsText s (after "f" "a" (some (-2))) 0 source' ∧ source ≠ source' := by
  intro script s after
  have hs : s.Reachable := reachable_runAll script
  have hlist : s.containerFor (.node 1) .appendText = .ok 1 := rfl
  have hframe : s.containerFor (.node 0) .appendText = .ok 0 := rfl
  obtain ⟨source, source', h, h', hitems, -⟩ := running_text_can_be_read_back.2.2 s s "l" "l" (.node 1) (.node 1) 1 1
    hs hs rfl hlist rfl hlist "<3-> a" "a" none (some 3) none none
  obtain ⟨framed, framed', hf, hf', -, hframed⟩ := running_text_can_be_read_back.2.2 s s "f" "f" (.node 0) (.node 0) 0 0
    hs hs rfl hframe rfl hframe "a" "a" (some 2) (some (-2)) none none
  have hkind : s.store.kind 1 = .itemize := by decide
  have hother : s.store.kind 0 ≠ .itemize := by decide
  refine ⟨⟨source, source', h, h', fun hsame => ?_⟩, framed, framed', hf, hf', fun hsame => ?_⟩
  · simpa using (hitems hkind hkind).mp hsame
  · simpa using (hframed hother hother rfl rfl).mp hsame

end SlideDeck.Script
