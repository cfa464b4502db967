import SlideDeck.Proofs.Store.DeckText
import SlideDeck.Proofs.Store.LineBreaks

/-! Raw texts in an environment: they are written as they are, whatever stands around the environment. -/

namespace SlideDeck

namespace Layout

def environmentText (base name : String) (a : Arguments) (body : String) : String :=
  base ++ beginLine name a.options a ++ body ++ base ++ "\\end" ++ braced name ++ "\n"

/-- An environment with a body that is not indented. Qualified by slides it stands one step deeper inside an overlay
command. -/
def verbatimText (base step : String) (slides? : Option Slides) (name : String) (a : Arguments) (body : String) : String :=
  match slides? with
  | none => environmentText base name a body
  | some n => base ++ n.command ++ "\x7b\n" ++ environmentText (base ++ step) name a body ++ base ++ "\x7d\n"

variable {base step name : String} {a : Arguments} {root : Node} {texts : List String}

lemma deepen_flush (texts : List String) : deepen (texts.map Piece.flush) = texts.map Piece.flush := by
  rw [deepen, List.map_map]
  rfl

lemma render_flush (texts : List String) : render base step (texts.map Piece.flush) = String.join texts := by
  rw [render, List.map_map]
  exact congrArg String.join (List.map_id' texts)

lemma render_plainEnvironment (options : List String) : render base step (plainEnvironment name options a
    (texts.map Piece.flush)) = base ++ beginLine name options a ++ String.join texts ++ base ++
      "\\end" ++ braced name ++ "\n" := by
  rw [plainEnvironment, deepen_flush, List.cons_append, render_cons, render_append, render_flush, render_cons,
    render_nil, Piece.render_line_zero, Piece.render_line_zero, beginLine]
  simp only [String.append_assoc, String.append_empty]

lemma render_verbatim (hroot : root.content = .environment .plain name a) (holdsCode : Bool) :
    render base step (node root holdsCode (texts.map Piece.flush)) =
      verbatimText base step root.slides? name a (String.join texts) := by
  have hnode : node root holdsCode (texts.map Piece.flush) =
      environment root.slides? name a.options a (texts.map Piece.flush) := by
    rw [node, hroot]
    rfl
  rw [hnode]
  cases root.slides? with
  | none => exact render_plainEnvironment a.options
  | some n =>
    simp only [environment, verbatimText, List.cons_append, render_cons, render_append, render_deepen,
      render_plainEnvironment, render_nil, Piece.render_line_zero, environmentText, String.append_assoc,
      String.append_empty]

end Layout

variable {s : Store} {texts : List String}

lemma Forest.pieces_raw {f : Forest} (hf : ∀ t ∈ f, t.Matches s)
    (hraw : f.map (fun t => (s.node t.id).content) = texts.map Content.raw) :
    Forest.pieces f = texts.map Piece.flush := by
  induction f generalizing texts with
  | nil => rw [Forest.pieces, List.map_eq_nil_iff.mp hraw.symm, List.map_nil]
  | cons t rest ih =>
    obtain ⟨text, texts, rfl, htext, htexts⟩ := List.map_eq_cons_iff.mp hraw.symm
    obtain ⟨ht, hrest⟩ := List.forall_mem_cons.mp hf
    have hpieces : t.pieces = [.flush text] := by
      cases ht with
      | node n children hids hbelow =>
        rw [Tree.pieces, Layout.node]
        simp only [Tree.id] at htext
        rw [← htext]
    rw [Forest.pieces, hpieces, ih hrest htexts.symm, List.map_cons, List.singleton_append]

lemma Store.Shows.verbatim {m n : NodeId} {step name before shown after : String} {a : Arguments}
    (hroot : (s.node m).content = .environment .plain name a)
    (hraw : (s.children m).map (fun c => (s.node c).content) = texts.map Content.raw)
    (h : s.Shows step n m before shown after) : ∃ depth, shown =
      Layout.verbatimText (String.join (List.replicate depth step)) step (s.node m).slides? name a
        (String.join texts) := by
  obtain ⟨t, u, x, -, hu, -, -, rfl, -⟩ := h
  obtain ⟨rfl, hmatches⟩ := matches_of_tree? hu
  refine ⟨x.depth, ?_⟩
  cases hmatches with
  | node m children hids hbelow =>
    have hpieces := Forest.pieces_raw hbelow (by rw [← hraw, Tree.id, ← hids, List.map_map]; rfl)
    rw [Tree.pieces, hpieces]
    exact Layout.render_verbatim hroot _

lemma Store.exists_verbatim {m n : NodeId} {name : String} {a : Arguments} {t : Tree} (hs : s.WellFormed)
    (ht : s.tree? n = some t) (hm : s.Climbs m n) (hroot : (s.node m).content = .environment .plain name a)
    (hraw : (s.children m).map (fun c => (s.node c).content) = texts.map Content.raw) (step : String) :
    ∃ before depth after,
      let shown := Layout.verbatimText (String.join (List.replicate depth step)) step (s.node m).slides? name a
        (String.join texts)
      s.Shows step n m before shown after ∧ t.render step = before ++ shown ++ after := by
  obtain ⟨before, shown, after, hshows, htext⟩ := exists_shows hs ht hm step
  obtain ⟨depth, rfl⟩ := hshows.verbatim hroot hraw
  exact ⟨before, depth, after, hshows, htext⟩

lemma Deck.Consists.exists_part {d : Deck} {preamble header document : Tree} {r : NodeId}
    (h : d.Consists s preamble header document) (hr : r ∈ d.roots) (settings : LooseSettings) (step : String) :
    ∃ tree front back, s.tree? r = some tree ∧
      preamble.render step ++ d.package s settings ++ header.render step ++ "\n" ++ document.render step =
        front ++ tree.render step ++ back := by
  simp only [roots, List.mem_cons, List.not_mem_nil, or_false] at hr
  obtain ⟨hpreamble, hheader, hdocument⟩ := h
  rcases hr with rfl | rfl | rfl
  · exact ⟨preamble, "", _, hpreamble, by simp only [String.empty_append, String.append_assoc]; rfl⟩
  · exact ⟨header, preamble.render step ++ d.package s settings, "\n" ++ document.render step, hheader,
      by simp only [String.append_assoc]⟩
  · exact ⟨document, _, "", hdocument, by rw [String.append_empty]⟩

end SlideDeck
