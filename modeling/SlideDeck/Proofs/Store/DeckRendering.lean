import SlideDeck.Proofs.Store.DeckEdits
import SlideDeck.Proofs.Store.Rendering

/-! What writing a presentation comes to: it fails where one of its parts does. -/

namespace SlideDeck

namespace Rendering

variable {first second : Rendering} {cause : Obstacle}

lemma followedBy_ok_iff : (∃ text, (first.followedBy second).outcome = .ok text) ↔
    (∃ text, first.outcome = .ok text) ∧ ∃ text, second.outcome = .ok text := by
  rw [followedBy]
  cases hfirst : first.outcome with
  | error cause => simp [hfirst]
  | ok text => cases hsecond : second.outcome <;> simp [Except.map]

lemma followedBy_error_iff : (first.followedBy second).outcome = .error cause ↔
    first.outcome = .error cause ∨ (∃ text, first.outcome = .ok text) ∧ second.outcome = .error cause := by
  rw [followedBy]
  cases hfirst : first.outcome with
  | error cause => simp [hfirst]
  | ok text => cases hsecond : second.outcome <;> simp [Except.map]

end Rendering

namespace Deck

def roots (d : Deck) : List NodeId := [d.preamble, d.header, d.document]

variable {d : Deck} {s : Store} {settings : LooseSettings}

lemma codeRendering_error {cause : Obstacle}
    (h : (d.codeRendering s settings).outcome = .error cause) :
    cause = .unending ∧ s.tree? d.document = none := by
  rw [codeRendering] at h
  cases hhas : s.has? .code d.document with
  | none =>
    simp only [hhas] at h
    refine ⟨(Except.error.inj h).symm, ?_⟩
    cases ht : s.tree? d.document with
    | none => rfl
    | some t => simp [Store.has?_of_tree? .code ht] at hhas
  | some found =>
    cases found with
    | false => simp [hhas, Rendering.ofText] at h
    | true => simp [hhas] at h

lemma codeRendering_ok (h : s.tree? d.document ≠ none) :
    ∃ text, (d.codeRendering s settings).outcome = .ok text := by
  cases houtcome : (d.codeRendering s settings).outcome with
  | ok text => exact ⟨text, rfl⟩
  | error cause => exact (h (codeRendering_error houtcome).2).elim

lemma rendering_error {cause : Obstacle} (hs : s.WellFormed)
    (h : (d.rendering s settings).outcome = .error cause) :
    (∃ n ∈ d.roots, (s.rendering settings.step? n).outcome = .error cause) ∨
      cause = .unending ∧ s.Cyclic d.document := by
  rcases Rendering.followedBy_error_iff.mp h with h | ⟨-, h⟩
  · exact .inl ⟨d.preamble, by simp [roots], h⟩
  rcases Rendering.followedBy_error_iff.mp h with h | ⟨-, h⟩
  · obtain ⟨hcause, hnone⟩ := codeRendering_error h
    exact .inr ⟨hcause, (Store.tree?_eq_none_iff hs).mp hnone⟩
  rcases Rendering.followedBy_error_iff.mp h with h | ⟨-, h⟩
  · exact .inl ⟨d.header, by simp [roots], h⟩
  rcases Rendering.followedBy_error_iff.mp h with h | ⟨-, h⟩
  · simp [Rendering.ofText] at h
  · exact .inl ⟨d.document, by simp [roots], h⟩

lemma document_unwritten (hd : d.Within s) :
    ¬ ∃ text, (s.rendering none d.document).outcome = .ok text := by
  rintro ⟨text, h⟩
  have hkind : (s.node d.document).kind = .environment := hd.document.kind_eq
  have hhalt : (s.node d.document).halt? false = some .foreign := by
    simp [Node.halt?, Node.halts, hkind, Kind.deepens]
  cases hsketch : s.sketch false (s.size + 1) d.document with
  | error cause => simp [Store.rendering, hsketch, Except.bind] at h
  | ok pieces? =>
    rw [Store.sketch, Store.sketchAround, hhalt] at hsketch
    cases hcode : s.codeBelow d.document <;> simp [hcode, Except.bind] at hsketch

lemma rendering_ok_iff (hs : s.WellFormed) (hd : d.Within s) :
    (∃ text, (d.rendering s settings).outcome = .ok text) ↔
      settings.step?.isSome ∧ ∀ n ∈ d.roots, ¬ s.Cyclic n ∧ ¬ s.HoldsForeign n := by
  rw [rendering, Rendering.followedBy_ok_iff, Rendering.followedBy_ok_iff,
    Rendering.followedBy_ok_iff, Rendering.followedBy_ok_iff]
  cases hstep : settings.step? with
  | none =>
    have hdocument := document_unwritten hd
    simp [hdocument]
  | some step =>
    simp only [Store.rendering_ok_iff hs, roots, List.forall_mem_cons]
    have hcode : ¬ s.Cyclic d.document → ∃ text, (d.codeRendering s settings).outcome = .ok text :=
      fun h => codeRendering_ok fun hnone => h ((Store.tree?_eq_none_iff hs).mp hnone)
    simp only [Rendering.ofText]
    constructor
    · rintro ⟨hpreamble, -, hheader, -, hdocument⟩
      exact ⟨rfl, hpreamble, hheader, hdocument, by simp⟩
    · rintro ⟨-, hpreamble, hheader, hdocument, -⟩
      exact ⟨hpreamble, hcode hdocument.1, hheader, ⟨"\n", rfl⟩, hdocument⟩

lemma exists_obstructs (hs : s.WellFormed) {cause : Obstacle} (h : (d.rendering s settings).outcome = .error cause)
    (hstep : settings.step?.isSome = true ∨ cause ≠ .foreign) : ∃ n ∈ d.roots, s.Obstructs n cause := by
  rcases rendering_error hs h with ⟨n, hn, hfails⟩ | ⟨rfl, hdocument⟩
  · exact ⟨n, hn, Store.obstructs_of_rendering hs hfails hstep⟩
  · exact ⟨d.document, by simp [roots], .unending hdocument⟩

end Deck

end SlideDeck
