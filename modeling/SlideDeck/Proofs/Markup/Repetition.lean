import SlideDeck.Proofs.Markup.Order
import SlideDeck.Proofs.Markup.Rules

/-! Translation of a translated text. The marks that a first translation leaves stand in the gaps between
its pairs, and those of two gaps make a new pair. -/

namespace SlideDeck

namespace Markup

namespace Delimiter

variable {d e : Delimiter} {c : Char} {text left right : List Char} {p : Pairing}

/-- Of any two gaps at most one holds marks. -/
def LeavesTogether (d : Delimiter) (p : Pairing) : Prop :=
  p.gaps.Pairwise fun gap later => d.mark ∉ gap ∨ d.mark ∉ later

lemma mem_fill_iff {write : List Char → List Char} (hwrite : ∀ pair ∈ p.pairs, c ∉ write pair.2) :
    c ∈ p.fill write ↔ ∃ gap ∈ p.gaps, c ∈ gap := by
  obtain ⟨pairs, last⟩ := p
  induction pairs with
  | nil => simp [Pairing.fill, Pairing.gaps]
  | cons pair pairs ih =>
    obtain ⟨hbody, hrest⟩ := List.forall_mem_cons.mp hwrite
    obtain ⟨gap, body⟩ := pair
    rw [Pairing.fill_pair, Pairing.gaps_pair, List.mem_append, List.mem_append, ih hrest, or_iff_left hbody,
      List.exists_mem_cons_iff]

lemma holdsPair_of_split (hc : c ≠ d.mark) (hleft : d.mark ∈ left) (hright : d.mark ∈ right) :
    d.HoldsPair (left ++ c :: right) := by
  induction left with
  | nil => simp at hleft
  | cons first left ih =>
    by_cases hmark : d.mark ∈ left
    · exact (ih hmark).mono (List.suffix_cons first _).isInfix
    · obtain rfl : d.mark = first := (List.mem_cons.mp hleft).resolve_right hmark
      obtain ⟨before, after, rfl, hbefore⟩ := List.eq_append_cons_of_mem hright
      refine ⟨left ++ c :: before, ⟨by simp, by simp [hmark, hbefore, hc.symm]⟩, [], after, ?_⟩
      simp [enclose]

lemma HoldsPair.of_append (hleft : d.mark ∉ left) (h : d.HoldsPair (left ++ right)) : d.HoldsPair right := by
  induction left with
  | nil => exact h
  | cons c left ih =>
    have hc : c ≠ d.mark := (List.ne_of_not_mem_cons hleft).symm
    exact ih (List.not_mem_of_not_mem_cons hleft) (h.of_cons fun heq => absurd heq hc)

lemma not_holdsPair_of_gap {gap : List Char}
    (hgap : (gap ++ [d.mark]).IsChain fun c next => c = d.mark → next = d.mark) (hright : d.mark ∉ right) :
    ¬ d.HoldsPair (gap ++ right) := by
  induction gap with
  | nil => exact not_holdsPair_of_not_mem hright
  | cons c gap ih =>
    obtain ⟨hnext, hgap⟩ := List.isChain_cons.mp hgap
    intro h
    refine ih hgap (h.of_cons fun hc hhead => ?_)
    cases gap with
    | nil => exact hright
    | cons next gap => exact absurd (by simpa using hnext next rfl hc) hhead

lemma Reads.not_mem_wrap (h : d.Reads text p) (hown : d.mark ∉ d.wrap []) :
    ∀ pair ∈ p.pairs, d.mark ∉ d.wrap pair.2 := by
  intro pair hpair
  have hbody := (h.bodies pair hpair).2
  simp_all [wrap]

lemma holdsPair_wrap_iff {gap body rest : List Char} (hmem : d.mark ∈ gap)
    (hgap : (gap ++ [d.mark]).IsChain fun c next => c = d.mark → next = d.mark)
    (hbody : d.mark ∉ d.wrap body) : d.HoldsPair (gap ++ d.wrap body ++ rest) ↔ d.mark ∈ rest := by
  constructor
  · intro hpair
    by_contra hrest
    rw [List.append_assoc] at hpair
    exact not_holdsPair_of_gap hgap (by simp [hbody, hrest]) hpair
  · intro hrest
    obtain ⟨first, more, hwrap⟩ : ∃ first more, d.wrap body = first :: more :=
      List.exists_cons_of_ne_nil (by simp [wrap])
    rw [hwrap] at hbody ⊢
    simpa using holdsPair_of_split (List.ne_of_not_mem_cons hbody).symm hmem (List.mem_append_right more hrest)

lemma Reads.holdsPair_fill_iff (h : d.Reads text p) (hown : d.mark ∉ d.wrap []) :
    d.HoldsPair (p.fill d.wrap) ↔ ¬ d.LeavesTogether p := by
  obtain ⟨pairs, last⟩ := p
  induction pairs generalizing text with
  | nil =>
    have htogether : d.LeavesTogether ⟨[], last⟩ := List.pairwise_singleton _ _
    exact iff_of_false h.last (not_not_intro htogether)
  | cons pair pairs ih =>
    obtain ⟨gap, body⟩ := pair
    have hrest : d.Reads _ ⟨pairs, last⟩ :=
      ⟨rfl, (List.forall_mem_cons.mp h.bodies).2, (List.forall_mem_cons.mp h.gaps).2, h.last⟩
    have hbody := (List.forall_mem_cons.mp (h.not_mem_wrap hown)).1
    rw [Pairing.fill_pair, LeavesTogether, Pairing.gaps_pair, List.pairwise_cons]
    by_cases hgap : d.mark ∈ gap
    · rw [holdsPair_wrap_iff hgap (List.forall_mem_cons.mp h.gaps).1 hbody,
        mem_fill_iff (hrest.not_mem_wrap hown)]
      constructor
      · rintro ⟨later, hlater, hmem⟩ ⟨hnone, -⟩
        exact (hnone later hlater).elim (absurd hgap) (absurd hmem)
      · intro happart
        by_contra! hnone
        exact happart ⟨fun later hlater => .inr (hnone later hlater),
          List.pairwise_of_forall_mem_list fun first hfirst _ _ => .inl (hnone first hfirst)⟩
    · have hleft : d.mark ∉ gap ++ d.wrap body := by simp [hgap, hbody]
      have hiff : d.HoldsPair (gap ++ d.wrap body ++ Pairing.fill d.wrap ⟨pairs, last⟩) ↔
          d.HoldsPair (Pairing.fill d.wrap ⟨pairs, last⟩) :=
        ⟨HoldsPair.of_append hleft, fun hpair => hpair.mono (List.suffix_append _ _).isInfix⟩
      rw [hiff, ih hrest]
      simp [LeavesTogether, hgap]

lemma not_holdsPair_apply_iff (hown : d.mark ∉ d.wrap []) :
    ¬ d.HoldsPair (d.apply text) ↔ ∀ p, d.Reads text p → d.LeavesTogether p := by
  obtain ⟨p, hp⟩ := d.exists_reads text
  rw [hp.apply_eq, hp.holdsPair_fill_iff hown, not_not]
  exact ⟨fun h q hq => hp.unique hq ▸ h, fun h => h p hp⟩

lemma count_apply (hc : d.Foreign c) (text : List Char) : (d.apply text).count c = text.count c := by
  obtain ⟨p, h⟩ := d.exists_reads text
  obtain ⟨hmark, hcommand, hopen, hclose⟩ :
      c ≠ d.mark ∧ c ∉ d.command ∧ c ≠ '\x7b' ∧ c ≠ '\x7d' := by
    simpa [Foreign, wrap] using hc
  have hbody : ∀ body, (d.wrap body).count c = (d.enclose body).count c + 0 := by
    intro body
    simp [wrap, enclose, List.count_eq_zero_of_not_mem hcommand, hmark.symm, hopen.symm, hclose.symm]
  rw [h.apply_eq, ← h.text_eq, Pairing.measure_fill (fun _ _ => List.count_append) fun pair _ => hbody pair.2,
    Nat.zero_mul, Nat.add_zero]

lemma Reads.count_mark (h : d.Reads text p) (hown : d.mark ∉ d.wrap []) :
    text.count d.mark = (d.apply text).count d.mark + 2 * p.pairs.length := by
  rw [h.apply_eq, ← h.text_eq]
  refine Pairing.measure_fill (fun _ _ => List.count_append) fun pair hpair => ?_
  have hbody := (h.bodies pair hpair).2
  have hwrap := h.not_mem_wrap hown pair hpair
  rw [List.count_eq_zero_of_not_mem hwrap]
  simp [enclose, List.count_eq_zero_of_not_mem hbody]

lemma holdsPair_iff_count (hown : d.mark ∉ d.wrap []) :
    d.HoldsPair text ↔ (d.apply text).count d.mark ≠ text.count d.mark := by
  obtain ⟨p, h⟩ := d.exists_reads text
  have hcount := h.count_mark hown
  have hpairs := h.pairs_eq_nil_iff
  rw [iff_not_comm, ← hpairs]
  omega

lemma holdsPair_pass {pass : List Char → List Char} (hown : d.mark ∉ d.wrap [])
    (hcommute : Function.Commute pass d.apply) (hcount : ∀ text, (pass text).count d.mark = text.count d.mark) :
    d.HoldsPair (pass text) ↔ d.HoldsPair text := by
  rw [holdsPair_iff_count hown, holdsPair_iff_count hown, ← hcommute text, hcount, hcount]

end Delimiter

variable {d : Delimiter} {text : List Char}

lemma not_mem_wrap_nil (hd : d ∈ [italic, monospace]) : d.mark ∉ d.wrap [] := by
  revert d
  decide

lemma count_mark_ellipses (hd : d ∈ [italic, monospace]) (text : List Char) :
    (ellipses text).count d.mark = text.count d.mark := by
  have hmark : d.mark ≠ '.' ∧ d.mark ∉ ellipsis := by
    revert d
    decide
  exact count_ellipses hmark.1 hmark.2 text

lemma holdsPair_translateChars (hd : d ∈ [italic, monospace]) :
    d.HoldsPair (translateChars text) ↔ d.HoldsPair (d.apply text) := by
  have hdots : d.HoldsPair (ellipses (d.apply text)) ↔ d.HoldsPair (d.apply text) :=
    Delimiter.holdsPair_pass (not_mem_wrap_nil hd) (ellipses_commute_apply hd) (count_mark_ellipses hd)
  rw [← hdots]
  simp only [List.mem_cons, List.not_mem_nil, or_false] at hd
  rcases hd with rfl | rfl
  · rw [translateChars, ← ellipses_commute_apply (by simp) text]
    exact Delimiter.holdsPair_pass (by decide) italic_commute_monospace.symm
      (Delimiter.count_apply (by decide))
  · rw [translateChars, ← italic_commute_monospace, ← ellipses_commute_apply (by simp) text]
    exact Delimiter.holdsPair_pass (by decide) italic_commute_monospace (Delimiter.count_apply (by decide))

lemma triples_translateChars (text : List Char) : triples (translateChars text) = 0 := by
  have horder : ([italic.apply, monospace.apply] ++ [ellipses]).Perm passes := List.perm_append_comm
  have hellipses : ellipses (translateChars text) = translateChars text := by
    rw [← foldl_passes horder]
    exact ellipses_ellipses _
  have hlength := length_ellipses (translateChars text)
  rw [hellipses] at hlength
  omega

end Markup

open Markup

/-- A second translation changes nothing exactly if, for each delimiter, all the marks that the first one
leaves stand in one gap between its pairs. -/
theorem translate_translate_eq_iff (text : String) :
    translate (translate text) = translate text ↔
      ∀ d ∈ [italic, monospace], ∀ p, d.Reads text.toList p → d.LeavesTogether p := by
  have hleft : ∀ d ∈ [italic, monospace], ¬ d.HoldsPair (translateChars text.toList) ↔
      ∀ p, d.Reads text.toList p → d.LeavesTogether p := fun d hd => by
    rw [holdsPair_translateChars hd, Delimiter.not_holdsPair_apply_iff (not_mem_wrap_nil hd)]
  rw [translate, translate, String.toList_ofList, String.ext_iff, String.toList_ofList, String.toList_ofList,
    translateChars_eq_self_iff, and_iff_right (triples_translateChars _), hleft italic (by simp),
    hleft monospace (by simp)]
  simp

theorem translate_translate_of_doubled_marks :
    translate "//a//" = "/\\textit\x7ba\x7d/" ∧
      translate "/\\textit\x7ba\x7d/" = "\\textit\x7b\\textit\x7ba\x7d\x7d" ∧
      translate (translate "//a//") ≠ translate "//a//" := by
  decide

end SlideDeck
