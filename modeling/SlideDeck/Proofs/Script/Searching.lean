import SlideDeck.Proofs.Script.Ownership
import SlideDeck.Proofs.Store.DepthFirst
import SlideDeck.Script.Look

/-! What a search below a node answers along scripts, also where the node is its own ancestor. -/

namespace SlideDeck.Script

namespace Session

variable {s : Session} {kind : Kind} {c : NodeId}

lemma has_of_has? {found : Bool} (h : s.store.has? kind c = some found) :
    s.has (.node c) kind.label = .ok (.atom (.bool found)) := by
  simp [has, Entity.node, h]

lemma has_of_endless (h : s.store.has? kind c = none) : s.has (.node c) kind.label = .error .unending := by
  simp [has, Entity.node, h]

end Session

/-- A search below a node that is not its own ancestor says whether some node below has the kind. Below a node
that is its own ancestor the walk comes back to the node: the search says yes if the walk meets a node of the
kind no later than that, and does not end otherwise. -/
theorem search_is_exact {s : Session} (hs : s.Reachable) (c : NodeId) (kind : Kind) :
    (¬ s.store.Cyclic c → ∃ found, s.has (.node c) kind.label = .ok (.atom (.bool found)) ∧
      (found = true ↔ s.store.HoldsBelow kind c)) ∧
    (s.store.Cyclic c → (∃ i, s.store.meets? (s.store.children c) i = some c) ∧
      (s.store.MeetsByReturn kind c → s.has (.node c) kind.label = .ok (.atom (.bool true))) ∧
      (¬ s.store.MeetsByReturn kind c → s.has (.node c) kind.label = .error .unending)) := by
  have hwell := hs.wellFormed.store
  refine ⟨fun hc => ?_, fun hc => ⟨hc.exists_return hwell, fun hmeets => ?_, fun hmisses => ?_⟩⟩
  · obtain ⟨t, ht⟩ := Store.exists_tree hwell hc
    refine ⟨t.holds kind, Session.has_of_has? (Store.has?_of_tree? kind ht), ?_⟩
    rw [← Store.has?_eq_true_iff kind hwell ht, Store.has?_of_tree? kind ht, Option.some_inj]
  · exact Session.has_of_has? (Store.has?_eq_some_true_iff.mpr ((hc.meetsByReturn_iff hwell).mp hmeets))
  · apply Session.has_of_endless
    rcases hfound : s.store.has? kind c with _ | _ | _
    · rfl
    · exact absurd hfound (hc.has?_ne_some_false hwell)
    · exact absurd ((hc.meetsByReturn_iff hwell).mpr (Store.has?_eq_some_true_iff.mp hfound)) hmisses

theorem search_is_exact_of_frame_in_itself :
    let script : List Step := [.act (.make (.frame none)) (some "f"),
      .build (.child "f" .itemize) none, .build (.adopt "f" "f" .last) none]
    let s := (runAll script {}).1
    (∃ found, s.has (.node 1) "frame" = .ok (.atom (.bool found)) ∧
      (found = true ↔ s.store.HoldsBelow .frame 1)) ∧
    (∃ i, s.store.meets? (s.store.children 0) i = some 0) ∧
      s.has (.node 0) "itemize" = .ok (.atom (.bool true)) ∧
      s.has (.node 0) "frame" = .ok (.atom (.bool true)) ∧ s.has (.node 0) "code" = .error .unending := by
  intro script s
  have hs : s.Reachable := reachable_runAll script
  have hlist : ¬ s.store.Cyclic 1 := by
    rw [← Store.tree?_eq_none_iff hs.wellFormed.store]
    exact Option.isSome_iff_ne_none.mp (by decide)
  have hframe : s.store.Cyclic 0 := ⟨0, by decide, .refl⟩
  obtain ⟨hreturn, hhit, -⟩ := (search_is_exact hs 0 .itemize).2 hframe
  have hself : s.store.MeetsByReturn .frame 0 := ⟨1, 0, by decide, by decide, by decide⟩
  have hcode : ¬ s.store.MeetsByReturn .code 0 := by
    rintro ⟨i, m, hi, hkind, hbefore⟩
    have hle : i ≤ 1 := Nat.le_of_not_lt fun hlt => hbefore 1 hlt (by decide)
    have hkinds : ∀ i ≤ 1, (s.store.meets? (s.store.children 0) i).map s.store.kind ≠ some .code := by decide
    exact hkinds i hle (by rw [hi, Option.map_some, hkind])
  exact ⟨(search_is_exact hs 1 .frame).1 hlist, hreturn, hhit ⟨0, 1, by decide, by decide, by decide⟩,
    ((search_is_exact hs 0 .frame).2 hframe).2.1 hself, ((search_is_exact hs 0 .code).2 hframe).2.2 hcode⟩

end SlideDeck.Script
