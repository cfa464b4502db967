import Mathlib.Data.List.Perm.Basic
import SlideDeck.Proofs.Markup
import SlideDeck.Proofs.Markup.Dots

/-! The order of the rules. A rule is read as a walk that writes something for each mark at once, after a
look at what is behind it. What another rule writes changes nothing in what such a look finds, so that any
two rules commute. -/

namespace SlideDeck.Markup

namespace Delimiter

variable (d : Delimiter)

def Opens (rest : List Char) : Prop := rest.head? ≠ some d.mark ∧ d.mark ∈ rest

instance (rest : List Char) : Decidable (d.Opens rest) := inferInstanceAs (Decidable (_ ∧ _))

def turn (inside : Bool) (rest : List Char) : List Char × Bool :=
  if inside then (['\x7d'], false)
  else if d.Opens rest then (d.command ++ ['\x7b'], true)
  else ([d.mark], false)

def walk (d : Delimiter) : Bool → List Char → List Char
  | _, [] => []
  | inside, c :: rest =>
    if c = d.mark then (d.turn inside rest).1 ++ d.walk (d.turn inside rest).2 rest
    else c :: d.walk inside rest

def Foreign (c : Char) : Prop := c ∉ d.mark :: d.wrap []

instance (c : Char) : Decidable (d.Foreign c) := inferInstanceAs (Decidable (¬ _))

variable {d} {e : Delimiter} {c : Char} {inside : Bool} {text left : List Char}

lemma walk_mark (inside : Bool) (rest : List Char) :
    d.walk inside (d.mark :: rest) = (d.turn inside rest).1 ++ d.walk (d.turn inside rest).2 rest := by
  rw [walk, if_pos rfl]

lemma walk_cons (hc : c ≠ d.mark) (inside : Bool) (rest : List Char) :
    d.walk inside (c :: rest) = c :: d.walk inside rest := by
  rw [walk, if_neg hc]

lemma walk_append (hleft : d.mark ∉ left) (inside : Bool) (right : List Char) :
    d.walk inside (left ++ right) = left ++ d.walk inside right := by
  induction left with
  | nil => rfl
  | cons c left ih =>
    have hc : c ≠ d.mark := (List.ne_of_not_mem_cons hleft).symm
    rw [List.cons_append, walk_cons hc, ih (List.not_mem_of_not_mem_cons hleft), List.cons_append]

lemma walk_of_not_mem (h : d.mark ∉ text) (inside : Bool) : d.walk inside text = text := by
  simpa [walk] using walk_append h inside []

lemma turn_lone {rest : List Char} (h : ¬ d.Opens rest) : d.turn false rest = ([d.mark], false) := by
  simp [turn, h]

lemma Scans.eq_walk {out : List Char} (h : d.Scans text out) : out = d.walk false text := by
  induction h with
  | nil => rfl
  | @unclosed body hbody =>
    have hlone : ¬ d.Opens body := fun h => hbody h.2
    rw [walk_mark, turn_lone hlone, walk_of_not_mem hbody]
    rfl
  | @keep c text _ hnext _ ih =>
    by_cases hc : c = d.mark
    · subst hc
      have hlone : ¬ d.Opens text := fun h => h.1 (hnext rfl)
      rw [walk_mark, turn_lone hlone, ← ih]
      rfl
    · rw [walk_cons hc, ← ih]
  | @pair body text _ hne hbody _ ih =>
    have hopens : d.Opens (body ++ d.mark :: text) := by
      refine ⟨?_, by simp⟩
      obtain ⟨first, more, rfl⟩ := List.exists_cons_of_ne_nil hne
      simpa using (List.ne_of_not_mem_cons hbody).symm
    have hturn : d.turn false (body ++ d.mark :: text) = (d.command ++ ['\x7b'], true) := by
      simp [turn, hopens]
    rw [List.append_assoc, List.cons_append, List.singleton_append, walk_mark, hturn, walk_append hbody, walk_mark,
      ih]
    simp [wrap, turn]

lemma apply_eq_walk (text : List Char) : d.apply text = d.walk false text :=
  (d.scans_apply text).eq_walk

/-! What a walk leaves as it was. -/

lemma Foreign.ne_mark (hc : d.Foreign c) : c ≠ d.mark := List.ne_of_not_mem_cons hc

lemma Foreign.not_mem_turn (hc : d.Foreign c) (inside : Bool) (rest : List Char) :
    c ∉ (d.turn inside rest).1 := by
  rw [Foreign, wrap] at hc
  rw [turn]
  split_ifs <;> simp_all

lemma turn_ne_nil (inside : Bool) (rest : List Char) : (d.turn inside rest).1 ≠ [] := by
  rw [turn]
  split_ifs <;> simp

lemma mem_walk (hc : d.Foreign c) : c ∈ d.walk inside text ↔ c ∈ text := by
  induction text generalizing inside with
  | nil => rfl
  | cons first rest ih =>
    by_cases hfirst : first = d.mark
    · subst hfirst
      rw [walk_mark, List.mem_append, List.mem_cons, ih, or_iff_right (hc.not_mem_turn _ _),
        or_iff_right hc.ne_mark]
    · rw [walk_cons hfirst, List.mem_cons, List.mem_cons, ih]

lemma eq_cons_of_walk_eq {out : List Char} (hc : d.Foreign c) (h : d.walk inside text = c :: out) :
    ∃ rest, text = c :: rest ∧ d.walk inside rest = out := by
  cases text with
  | nil => simp [walk] at h
  | cons first rest =>
    by_cases hfirst : first = d.mark
    · subst hfirst
      obtain ⟨written, more, hwritten⟩ := List.exists_cons_of_ne_nil (d.turn_ne_nil inside rest)
      rw [walk_mark, hwritten, List.cons_append] at h
      exact absurd (by simp [hwritten, (List.cons.inj h).1]) (hc.not_mem_turn inside rest)
    · rw [walk_cons hfirst] at h
      obtain ⟨rfl, hout⟩ := List.cons.inj h
      exact ⟨rest, rfl, hout⟩

lemma head?_walk (hc : d.Foreign c) : (d.walk inside text).head? = some c ↔ text.head? = some c := by
  constructor
  · intro h
    obtain ⟨out, hout⟩ := List.head?_eq_some_iff.mp h
    obtain ⟨rest, rfl, -⟩ := eq_cons_of_walk_eq hc hout
    rfl
  · intro h
    obtain ⟨rest, rfl⟩ := List.head?_eq_some_iff.mp h
    rw [walk_cons hc.ne_mark]
    rfl

lemma opens_walk (he : d.Foreign e.mark) : e.Opens (d.walk inside text) ↔ e.Opens text := by
  rw [Opens, Opens, ne_eq, head?_walk he, mem_walk he]

lemma turn_congr {rest rest' : List Char} (h : d.Opens rest ↔ d.Opens rest') (inside : Bool) :
    d.turn inside rest = d.turn inside rest' := by
  simp only [turn, h]

lemma walk_walk (hd : e.Foreign d.mark) (he : d.Foreign e.mark) (i j : Bool) (text : List Char) :
    d.walk i (e.walk j text) = e.walk j (d.walk i text) := by
  induction text generalizing i j with
  | nil => rfl
  | cons c rest ih =>
    by_cases hcd : c = d.mark
    · subst hcd
      rw [walk_cons hd.ne_mark, walk_mark, walk_mark, turn_congr (opens_walk hd), walk_append (he.not_mem_turn _ _), ih]
    · by_cases hce : c = e.mark
      · subst hce
        rw [walk_cons he.ne_mark, walk_mark, walk_mark, turn_congr (opens_walk he),
          walk_append (hd.not_mem_turn _ _), ih]
      · rw [walk_cons hce, walk_cons hcd, walk_cons hcd, walk_cons hce, ih]

end Delimiter

variable {d : Delimiter} {c : Char} {text : List Char}

lemma mem_ellipses (hdot : c ≠ '.') (hc : c ∉ ellipsis) : c ∈ ellipses text ↔ c ∈ text := by
  rw [← List.count_pos_iff, ← List.count_pos_iff, count_ellipses hdot hc]

lemma head?_ellipses (hdot : c ≠ '.') (hc : c ∉ ellipsis) :
    (ellipses text).head? = some c ↔ text.head? = some c := by
  induction text using ellipses.induct with
  | case1 rest ih =>
    have hslash : c ≠ '\\' := fun h => hc (h ▸ by decide)
    have hhead : (ellipses ('.' :: '.' :: '.' :: rest)).head? = some '\\' := rfl
    rw [hhead]
    simp [hslash.symm, hdot.symm]
  | case2 first rest hdots ih =>
    rw [ellipses]
    · rfl
    · exact hdots
  | case3 => rfl

lemma opens_ellipses (hdot : d.Foreign '.') (hmark : d.mark ∉ ellipsis) :
    d.Opens (ellipses text) ↔ d.Opens text := by
  have hne := hdot.ne_mark.symm
  rw [Delimiter.Opens, Delimiter.Opens, ne_eq, head?_ellipses hne hmark, mem_ellipses hne hmark]

lemma ellipses_walk (hdot : d.Foreign '.') (hmark : d.mark ∉ ellipsis) (inside : Bool) (text : List Char) :
    ellipses (d.walk inside text) = d.walk inside (ellipses text) := by
  induction text using ellipses.induct generalizing inside with
  | case1 rest ih =>
    have hkeep := fun rest => Delimiter.walk_cons hdot.ne_mark inside rest
    rw [hkeep, hkeep, hkeep, ellipses, ellipses, ih, Delimiter.walk_append hmark]
  | case2 c rest hdots ih =>
    rw [ellipses]
    · by_cases hc : c = d.mark
      · subst hc
        have hwritten := hdot.not_mem_turn inside rest
        have hcut : ¬ ((d.turn inside rest).1.getLast? = some '.' ∧
            (d.walk (d.turn inside rest).2 rest).head? = some '.') :=
          fun h => hwritten (List.mem_of_getLast? h.1)
        rw [Delimiter.walk_mark, Delimiter.walk_mark, Delimiter.turn_congr (opens_ellipses hdot hmark),
          ellipses_append hcut, ellipses_of_not_mem hwritten, ih]
      · rw [Delimiter.walk_cons hc, Delimiter.walk_cons hc, ellipses, ih]
        -- dots in a row that are written were in a row before
        rintro more rfl hmore
        obtain ⟨second, rfl, hsecond⟩ := Delimiter.eq_cons_of_walk_eq hdot hmore
        obtain ⟨third, rfl, -⟩ := Delimiter.eq_cons_of_walk_eq hdot hsecond
        exact hdots third rfl rfl
    · exact hdots
  | case3 => rfl

def passes : List (List Char → List Char) := [ellipses, italic.apply, monospace.apply]

lemma italic_commute_monospace : Function.Commute italic.apply monospace.apply := by
  intro text
  simp only [Delimiter.apply_eq_walk]
  exact Delimiter.walk_walk (by decide) (by decide) false false text

lemma ellipses_commute_apply (hd : d ∈ [italic, monospace]) : Function.Commute ellipses d.apply := by
  intro text
  have hforeign : d.Foreign '.' ∧ d.mark ∉ ellipsis := by
    revert d
    decide
  simp only [Delimiter.apply_eq_walk]
  exact ellipses_walk hforeign.1 hforeign.2 false text

lemma passes_commute : ∀ first ∈ passes, ∀ second ∈ passes, Function.Commute first second := by
  have hsymm : Std.Symm (Function.Commute (α := List Char)) := ⟨fun _ _ h => h.symm⟩
  refine fun first hfirst second hsecond =>
    List.Pairwise.forall_of_forall (fun pass _ => Function.Commute.refl pass) ?_ hfirst hsecond
  simp only [passes, List.pairwise_cons, List.forall_mem_cons, List.not_mem_nil, false_imp_iff, implies_true,
    List.Pairwise.nil, and_true]
  exact ⟨⟨ellipses_commute_apply (by simp), ellipses_commute_apply (by simp)⟩, italic_commute_monospace⟩

lemma foldl_passes {order : List (List Char → List Char)} (horder : order.Perm passes) (text : List Char) :
    order.foldl (fun text pass => pass text) text = translateChars text :=
  horder.foldl_eq' (fun first hfirst second hsecond text =>
    passes_commute second (horder.mem_iff.mp hsecond) first (horder.mem_iff.mp hfirst) text) text

end SlideDeck.Markup

namespace SlideDeck

open Markup

theorem translate_in_any_order {order : List (List Char → List Char)} (horder : order.Perm passes)
    (text : String) :
    String.ofList (order.foldl (fun text pass => pass text) text.toList) = translate text := by
  rw [foldl_passes horder, translate]

theorem translate_in_any_order_of_reverse :
    passes.reverse.Perm passes ∧
      String.ofList (passes.reverse.foldl (fun text pass => pass text) "/a|b/c|...".toList) =
        "\\textit\x7ba\\texttt\x7bb\x7dc\x7d\\ldots\x7b\x7d" :=
  ⟨List.reverse_perm passes,
    (translate_in_any_order (List.reverse_perm passes) "/a|b/c|...").trans (by decide)⟩

end SlideDeck
