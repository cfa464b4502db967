import SlideDeck.Proofs.Markup.Dots
import SlideDeck.Proofs.Markup.Pairing

/-! What each rule of the light markup does to a text, and which texts no rule changes. -/

namespace SlideDeck

namespace Markup

/-- A text has one reading at a delimiter, and in its pairs the marks become the font command. A run of
dots becomes ellipses and the dots that are left over. -/
theorem rules_substitute (text : List Char) :
    (∀ d : Delimiter, ∃ p, d.Reads text p ∧ (∀ q, d.Reads text q → q = p) ∧ d.apply text = p.fill d.wrap) ∧
      ellipses text = (runs text).flatMap writeRun ∧
      translate (String.ofList text) =
        String.ofList (monospace.apply (italic.apply (ellipses text))) := by
  refine ⟨fun d => ?_, ellipses_eq text, ?_⟩
  · obtain ⟨p, hp⟩ := Delimiter.exists_reads (d := d) text
    exact ⟨p, hp, fun q hq => hq.unique hp, hp.apply_eq⟩
  · rw [translate, String.toList_ofList, translateChars]

example : translate "/a/ |b| ..." = "\\textit\x7ba\x7d \\texttt\x7bb\x7d \\ldots\x7b\x7d" := by decide +kernel

namespace Delimiter

variable {d : Delimiter} {text : List Char} {p : Pairing}

lemma Reads.length_apply (h : d.Reads text p) :
    (d.apply text).length = text.length + d.command.length * p.pairs.length := by
  rw [h.apply_eq, ← h.text_eq]
  refine Pairing.measure_fill (fun _ _ => List.length_append) fun pair _ => ?_
  simp only [wrap, enclose, List.length_append, List.length_cons, List.length_nil]
  omega

lemma apply_of_not_holdsPair (h : ¬ d.HoldsPair text) : d.apply text = text :=
  (reads_of_not_holdsPair h).apply_eq

lemma Reads.pairs_eq_nil_iff (h : d.Reads text p) : p.pairs.length = 0 ↔ ¬ d.HoldsPair text := by
  rw [h.holdsPair_iff, not_not, List.length_eq_zero_iff]

end Delimiter

lemma translateChars_of_untouched {text : List Char} (hdots : triples text = 0)
    (hitalic : ¬ italic.HoldsPair text) (hmonospace : ¬ monospace.HoldsPair text) :
    translateChars text = text := by
  rw [translateChars, ellipses_of_triples hdots, Delimiter.apply_of_not_holdsPair hitalic,
    Delimiter.apply_of_not_holdsPair hmonospace]

lemma length_translateChars {text : List Char} {p q : Pairing} (hp : italic.Reads (ellipses text) p)
    (hq : monospace.Reads (italic.apply (ellipses text)) q) :
    (translateChars text).length =
      text.length + 5 * triples text + 7 * (p.pairs.length + q.pairs.length) := by
  have hitalic : italic.command.length = 7 := rfl
  have hmonospace : monospace.command.length = 7 := rfl
  rw [translateChars, hq.length_apply, hp.length_apply, length_ellipses, hitalic, hmonospace]
  omega

lemma translateChars_eq_self_iff {text : List Char} :
    translateChars text = text ↔
      triples text = 0 ∧ ¬ italic.HoldsPair text ∧ ¬ monospace.HoldsPair text := by
  refine ⟨fun h => ?_, fun h => translateChars_of_untouched h.1 h.2.1 h.2.2⟩
  obtain ⟨p, hp⟩ := italic.exists_reads (ellipses text)
  obtain ⟨q, hq⟩ := monospace.exists_reads (italic.apply (ellipses text))
  have hlength := length_translateChars hp hq
  rw [h] at hlength
  have hdots : triples text = 0 := by omega
  have hitalic := hp.pairs_eq_nil_iff.mp (by omega)
  have hmonospace := hq.pairs_eq_nil_iff.mp (by omega)
  rw [Delimiter.apply_of_not_holdsPair hitalic] at hmonospace
  rw [ellipses_of_triples hdots] at hitalic hmonospace
  exact ⟨hdots, hitalic, hmonospace⟩

end Markup

open Markup

/-- A text is left as it is exactly if no rule finds anything in it, and otherwise it gets longer by a
fixed number of characters for each replacement. -/
theorem texts_left_alone (text : String) :
    (translate text = text ↔
      ¬ "...".toList <:+: text.toList ∧ ¬ italic.HoldsPair text.toList ∧
        ¬ monospace.HoldsPair text.toList) ∧
      ∃ p q, italic.Reads (ellipses text.toList) p ∧
        monospace.Reads (italic.apply (ellipses text.toList)) q ∧
        (translate text).length =
          text.length + 5 * triples text.toList + 7 * (p.pairs.length + q.pairs.length) := by
  constructor
  · rw [translate, String.ext_iff, String.toList_ofList, translateChars_eq_self_iff, triples_eq_zero_iff]
  · obtain ⟨p, hp⟩ := italic.exists_reads (ellipses text.toList)
    obtain ⟨q, hq⟩ := monospace.exists_reads (italic.apply (ellipses text.toList))
    refine ⟨p, q, hp, hq, ?_⟩
    rw [translate, String.length_ofList, length_translateChars hp hq, String.length_toList]

end SlideDeck
