import Mathlib.Data.List.SplitBy
import Mathlib.Data.List.Infix
import SlideDeck.Markup

/-! Runs of dots. The longest runs of dots are rewritten each on its own, and all else is kept. -/

namespace SlideDeck.Markup

def runs (text : List Char) : List (List Char) := text.splitBy fun c next => (c == '.') == (next == '.')

def writeDots (k : ℕ) : List Char :=
  (List.replicate (k / 3) ellipsis).flatten ++ List.replicate (k % 3) '.'

def writeRun (run : List Char) : List Char := if '.' ∈ run then writeDots run.length else run

def triples : List Char → ℕ
  | '.' :: '.' :: '.' :: rest => triples rest + 1
  | _ :: rest => triples rest
  | [] => 0

variable {text left right : List Char}

lemma ellipses_append (hcut : ¬ (left.getLast? = some '.' ∧ right.head? = some '.')) :
    ellipses (left ++ right) = ellipses left ++ ellipses right := by
  induction left using ellipses.induct with
  | case1 rest ih =>
    have hrest : ¬ (rest.getLast? = some '.' ∧ right.head? = some '.') := by
      rintro ⟨hlast, hhead⟩
      cases rest <;> simp_all
    simp only [List.cons_append, ellipses, ih hrest, List.append_assoc]
  | case2 c rest hdots ih =>
    have hrest : ¬ (rest.getLast? = some '.' ∧ right.head? = some '.') := by
      rintro ⟨hlast, hhead⟩
      cases rest <;> simp_all
    rw [List.cons_append, ellipses, ellipses, ih hrest, List.cons_append]
    · exact hdots
    · -- three dots across the cut would have one of them before it and one behind it
      rintro more rfl hmore
      rcases rest with _ | ⟨second, _ | ⟨third, rest⟩⟩ <;> simp_all
  | case3 => simp [ellipses]

lemma ellipses_of_not_mem (h : '.' ∉ text) : ellipses text = text := by
  induction text with
  | nil => rfl
  | cons c rest ih =>
    have hc : c ≠ '.' := (List.ne_of_not_mem_cons h).symm
    rw [ellipses, ih (List.not_mem_of_not_mem_cons h)]
    exact fun _ hdot => absurd hdot hc

lemma ellipses_replicate : ∀ k, ellipses (List.replicate k '.') = writeDots k
  | 0 | 1 | 2 => rfl
  | k + 3 => by
    have hdiv : (k + 3) / 3 = k / 3 + 1 := by omega
    have hmod : (k + 3) % 3 = k % 3 := by omega
    simp only [List.replicate_succ, ellipses, ellipses_replicate k, writeDots, hdiv, hmod,
      List.flatten_cons, List.append_assoc]

lemma eq_dot_of_mem {run : List Char} (hrun : run.IsChain fun c next => (c == '.') == (next == '.'))
    (hdot : '.' ∈ run) : ∀ c ∈ run, c = '.' := by
  have htrans : IsTrans Char fun c next => (c == '.') == (next == '.') :=
    ⟨fun _ _ _ hfirst hsecond => by rw [beq_iff_eq] at *; exact hfirst.trans hsecond⟩
  have hsymm : Std.Symm fun c next : Char => ((c == '.') == (next == '.')) = true :=
    ⟨fun _ _ h => by rw [beq_iff_eq] at *; exact h.symm⟩
  have hsame := List.Pairwise.forall_of_forall (by simp) (List.isChain_iff_pairwise.mp hrun)
  exact fun c hc => by simpa using hsame hc hdot

lemma ellipses_run {run : List Char} (hrun : run ∈ runs text) : ellipses run = writeRun run := by
  rw [writeRun]
  split_ifs with hdot
  · have hall := eq_dot_of_mem (List.isChain_of_mem_splitBy hrun) hdot
    conv_lhs => rw [List.eq_replicate_length.mpr hall]
    exact ellipses_replicate run.length
  · exact ellipses_of_not_mem hdot

lemma ellipses_flatten {parts : List (List Char)} (h : parts.IsChain fun part next =>
    next ≠ [] ∧ ¬ (part.getLast? = some '.' ∧ next.head? = some '.')) :
    ellipses parts.flatten = parts.flatMap ellipses := by
  induction parts with
  | nil => rfl
  | cons part parts ih =>
    obtain ⟨hnext, hparts⟩ := List.isChain_cons.mp h
    have hcut : ¬ (part.getLast? = some '.' ∧ parts.flatten.head? = some '.') := by
      rcases parts with _ | ⟨next, parts⟩
      · simp
      · obtain ⟨hne, hcut⟩ := hnext next rfl
        simpa [List.head?_append_of_ne_nil _ hne] using hcut
    rw [List.flatten_cons, ellipses_append hcut, ih hparts, List.flatMap_cons]

lemma ellipses_eq (text : List Char) : ellipses text = (runs text).flatMap writeRun := by
  have hapart : (runs text).IsChain fun part next =>
      next ≠ [] ∧ ¬ (part.getLast? = some '.' ∧ next.head? = some '.') := by
    refine (List.isChain_getLast_head_splitBy _ text).imp ?_
    rintro part next ⟨hpart, hne, hdiffer⟩
    refine ⟨hne, ?_⟩
    rintro ⟨hlast, hhead⟩
    rw [List.getLast?_eq_some_getLast hpart, Option.some_inj] at hlast
    rw [List.head?_eq_some_head hne, Option.some_inj] at hhead
    simp [hlast, hhead] at hdiffer
  calc ellipses text = ellipses (runs text).flatten := by rw [runs, List.flatten_splitBy]
    _ = (runs text).flatMap ellipses := ellipses_flatten hapart
    _ = (runs text).flatMap writeRun := List.flatMap_congr fun run hrun => ellipses_run hrun

lemma length_ellipses (text : List Char) : (ellipses text).length = text.length + 5 * triples text := by
  induction text using ellipses.induct with
  | case1 rest ih =>
    have hlength : ellipsis.length = 8 := rfl
    simp only [ellipses, triples, List.length_append, List.length_cons, hlength, ih]
    omega
  | case2 c rest hdots ih =>
    rw [ellipses, triples, List.length_cons, List.length_cons, ih]
    · omega
    · exact hdots
    · exact hdots
  | case3 => rfl

lemma triples_eq_zero_iff : triples text = 0 ↔ ¬ "...".toList <:+: text := by
  induction text using triples.induct with
  | case1 rest ih =>
    have hhere : "...".toList <:+: '.' :: '.' :: '.' :: rest := ⟨[], rest, rfl⟩
    exact iff_of_false (by simp [triples]) (not_not_intro hhere)
  | case2 c rest hdots ih =>
    have hstart : ¬ "...".toList <+: c :: rest := by
      rintro ⟨more, hmore⟩
      obtain ⟨rfl, rfl⟩ := List.cons.inj hmore
      exact hdots more rfl rfl
    rw [triples, ih, List.infix_cons_iff, not_or, and_iff_right hstart]
    exact hdots
  | case3 => simp [triples]

lemma ellipses_of_triples (h : triples text = 0) : ellipses text = text := by
  induction text using ellipses.induct with
  | case1 rest ih => simp [triples] at h
  | case2 c rest hdots ih =>
    rw [triples] at h
    · rw [ellipses, ih h]
      exact hdots
    · exact hdots
  | case3 => rfl

lemma count_ellipses {c : Char} (hdot : c ≠ '.') (hc : c ∉ ellipsis) (text : List Char) :
    (ellipses text).count c = text.count c := by
  induction text using ellipses.induct with
  | case1 rest ih => simp [ellipses, ih, List.count_eq_zero_of_not_mem hc, hdot.symm]
  | case2 first rest hdots ih =>
    rw [ellipses, List.count_cons, List.count_cons, ih]
    exact hdots
  | case3 => rfl

lemma eq_dot_of_ellipses_eq {out : List Char} (h : ellipses text = '.' :: out) :
    ∃ rest, text = '.' :: rest ∧ ellipses rest = out := by
  induction text using ellipses.induct with
  | case1 rest ih =>
    have hhead : (ellipses ('.' :: '.' :: '.' :: rest)).head? = some '\\' := rfl
    simp [h] at hhead
  | case2 c rest hdots ih =>
    rw [ellipses] at h
    · obtain ⟨rfl, hout⟩ := List.cons.inj h
      exact ⟨rest, rfl, hout⟩
    · exact hdots
  | case3 => simp [ellipses] at h

lemma ellipses_ellipses (text : List Char) : ellipses (ellipses text) = ellipses text := by
  induction text using ellipses.induct with
  | case1 rest ih =>
    have hlast : ellipsis.getLast? = some '\x7d' := rfl
    rw [ellipses, ellipses_append (by simp [hlast]), ih, ellipses_of_not_mem (by decide)]
  | case2 c rest hdots ih =>
    rw [ellipses, ellipses, ih]
    · -- dots at the start of what a text becomes were there before
      rintro more rfl hmore
      obtain ⟨second, rfl, hsecond⟩ := eq_dot_of_ellipses_eq hmore
      obtain ⟨third, rfl, -⟩ := eq_dot_of_ellipses_eq hsecond
      exact hdots third rfl rfl
    · exact hdots
  | case3 => rfl

end SlideDeck.Markup
