import SlideDeck.Proofs.Store.Below
import SlideDeck.Proofs.Store.DeckRendering

/-! The text of a presentation, put together from the texts of its parts. -/

namespace SlideDeck

def LooseSettings.listingLine (settings : LooseSettings) : String :=
  "\\usepackage" ++ braced listingName ++ trailing settings.comment? ++ "\n"

lemma Rendering.followedBy_outcome (first second : Rendering) : (first.followedBy second).outcome = do
    let text ← first.outcome
    let rest ← second.outcome
    return text ++ rest := by
  rw [followedBy]
  cases hfirst : first.outcome with
  | error cause => simp only [hfirst, bind, Except.bind]
  | ok text => cases second.outcome <;> rfl

namespace Deck

structure Consists (d : Deck) (s : Store) (preamble header document : Tree) : Prop where
  preamble : s.tree? d.preamble = some preamble
  header : s.tree? d.header = some header
  document : s.tree? d.document = some document

variable {d : Deck} {s : Store} {settings : LooseSettings}

lemma Consists.rendering_error_iff (hs : s.WellFormed) {preamble header document : Tree}
    (h : d.Consists s preamble header document) {cause : Obstacle} : (d.rendering s settings).outcome = .error cause ↔
      preamble.write settings.step? = .error cause ∨ (∃ text, preamble.write settings.step? = .ok text) ∧
        (header.write settings.step? = .error cause ∨ (∃ text, header.write settings.step? = .ok text) ∧
          document.write settings.step? = .error cause) := by
  have hcode : ∃ text, (d.codeRendering s settings).outcome = .ok text :=
    codeRendering_ok (by rw [h.document]; exact nofun)
  have hcode' : (d.codeRendering s settings).outcome ≠ .error cause := by
    obtain ⟨text, htext⟩ := hcode
    rw [htext]
    exact nofun
  simp only [rendering, Rendering.followedBy_error_iff, Store.rendering_of_tree? hs _ h.preamble,
    Store.rendering_of_tree? hs _ h.header, Store.rendering_of_tree? hs _ h.document]
  simp [hcode, hcode', Rendering.ofText]

lemma exists_consists (hs : s.WellFormed) (h : ∀ n ∈ d.roots, ¬ s.Cyclic n) :
    ∃ preamble header document, d.Consists s preamble header document := by
  obtain ⟨preamble, hpreamble⟩ := Store.exists_tree hs (h d.preamble (by simp [roots]))
  obtain ⟨header, hheader⟩ := Store.exists_tree hs (h d.header (by simp [roots]))
  obtain ⟨document, hdocument⟩ := Store.exists_tree hs (h d.document (by simp [roots]))
  exact ⟨preamble, header, document, hpreamble, hheader, hdocument⟩

lemma codeHeader_render (step : String) :
    (codeHeader settings.comment?).render step = settings.listingLine := by
  simp [codeHeader, Tree.render, Tree.pieces, Forest.pieces, Layout.node, Layout.command,
    Layout.commandText, Layout.render, Piece.render, LooseSettings.listingLine, bracketed, String.append_assoc]

open scoped Classical in
/-- What is written between preamble and header: the line for listings exactly if there is code below the
document. -/
noncomputable def package (d : Deck) (s : Store) (settings : LooseSettings) : String :=
  if s.HoldsBelow .code d.document then settings.listingLine else ""

lemma package_of_holdsBelow (h : s.HoldsBelow .code d.document) :
    d.package s settings = settings.listingLine := if_pos h

lemma package_of_not_holdsBelow (h : ¬ s.HoldsBelow .code d.document) : d.package s settings = "" :=
  if_neg h

lemma codeRendering_outcome (hs : s.WellFormed) (h : ¬ s.Cyclic d.document) :
    (d.codeRendering s settings).outcome = .ok (d.package s settings) := by
  obtain ⟨t, ht⟩ := Store.exists_tree hs h
  have hfound := Store.has?_eq_true_iff .code hs ht
  rw [codeRendering, package, ← hfound, Store.has?_of_tree? .code ht]
  cases t.holds .code with
  | false => simp [Rendering.ofText]
  | true => simp [codeHeader_render]

lemma rendering_outcome (hs : s.WellFormed) (h : ¬ s.Cyclic d.document) :
    (d.rendering s settings).outcome = do
      let preamble ← (s.rendering settings.step? d.preamble).outcome
      let header ← (s.rendering settings.step? d.header).outcome
      let document ← (s.rendering settings.step? d.document).outcome
      return preamble ++ d.package s settings ++ header ++ "\n" ++ document := by
  simp only [rendering, Rendering.followedBy_outcome, codeRendering_outcome hs h, Rendering.ofText]
  cases (s.rendering settings.step? d.preamble).outcome with
  | error cause => rfl
  | ok preamble =>
    cases (s.rendering settings.step? d.header).outcome with
    | error cause => rfl
    | ok header =>
      cases (s.rendering settings.step? d.document).outcome with
      | error cause => rfl
      | ok document => simp [bind, Except.bind, pure, Except.pure, String.append_assoc]

lemma rendering_text (hs : s.WellFormed) {preamble header document : Tree}
    (hd : d.Consists s preamble header document) (htexts : ∀ n ∈ d.roots, ¬ s.HoldsForeign n)
    {indent : String} (hindent : settings.step? = some indent) : (d.rendering s settings).outcome =
      .ok (preamble.render indent ++ d.package s settings ++ header.render indent ++ "\n" ++
        document.render indent) := by
  have hacyclic : ¬ s.Cyclic d.document := by
    rw [← Store.tree?_eq_none_iff hs, hd.document]
    simp
  rw [rendering_outcome hs hacyclic, hindent,
    Store.rendering_text hs hd.preamble (htexts d.preamble (by simp [roots])),
    Store.rendering_text hs hd.header (htexts d.header (by simp [roots])),
    Store.rendering_text hs hd.document (htexts d.document (by simp [roots]))]
  rfl

lemma text_of_rendering (hs : s.WellFormed) (hw : d.Within s) {text : String}
    (h : (d.rendering s settings).outcome = .ok text) :
    ∃ indent preamble header document, settings.step? = some indent ∧
      d.Consists s preamble header document ∧ text = preamble.render indent ++ d.package s settings ++
        header.render indent ++ "\n" ++ document.render indent := by
  obtain ⟨hstep, hroots⟩ := (rendering_ok_iff hs hw).mp ⟨text, h⟩
  obtain ⟨indent, hindent⟩ := Option.isSome_iff_exists.mp hstep
  obtain ⟨preamble, header, document, hd⟩ := exists_consists hs fun n hn => (hroots n hn).1
  rw [rendering_text hs hd (fun n hn => (hroots n hn).2) hindent] at h
  exact ⟨indent, preamble, header, document, hindent, hd, (Except.ok.inj h).symm⟩

end Deck

end SlideDeck
