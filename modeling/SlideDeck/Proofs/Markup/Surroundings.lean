import SlideDeck.Node.Draft
import SlideDeck.Proofs.Markup.Appending
import SlideDeck.Proofs.Overlay

/-! Surroundings that no rule of the light markup reads, such as the overlay commands around running texts. A text
inside them is translated as it is alone. -/

namespace SlideDeck

namespace Markup

structure Inert (text : List Char) : Prop where
  dot : '.' ∉ text
  slash : italic.mark ∉ text
  bar : monospace.mark ∉ text

variable {before after : List Char}

lemma Inert.append (h : Inert before) (h' : Inert after) : Inert (before ++ after) where
  dot := by simp [h.dot, h'.dot]
  slash := by simp [h.slash, h'.slash]
  bar := by simp [h.bar, h'.bar]

lemma Inert.of_append (h : Inert (before ++ after)) : Inert before ∧ Inert after := by
  obtain ⟨hdot, hslash, hbar⟩ := h
  simp only [List.mem_append, not_or] at hdot hslash hbar
  exact ⟨⟨hdot.1, hslash.1, hbar.1⟩, ⟨hdot.2, hslash.2, hbar.2⟩⟩

lemma translateChars_append_inert (h : Inert after) (text : List Char) :
    translateChars (text ++ after) = translateChars text ++ after := by
  induction after using List.reverseRecOn with
  | nil => simp
  | append_singleton after c ih =>
    obtain ⟨hafter, hlast⟩ := h.of_append
    rw [← List.append_assoc, translateChars_concat (by simpa [eq_comm] using hlast.dot)
      (by simpa [eq_comm] using hlast.slash) (by simpa [eq_comm] using hlast.bar), ih hafter, List.append_assoc]

lemma translateChars_inert_append (h : Inert before) (text : List Char) :
    translateChars (before ++ text) = before ++ translateChars text := by
  have hpaired : ∀ d ∈ [italic, monospace], d.Paired false before := by
    intro d hd
    rcases List.mem_pair.mp hd with rfl | rfl
    · exact Delimiter.paired_of_not_mem h.slash
    · exact Delimiter.paired_of_not_mem h.bar
  have hcut : ¬ (before.getLast? = some '.' ∧ text.head? = some '.') := fun hcut =>
    h.dot (List.mem_of_getLast? hcut.1)
  have halone : translateChars before = before := translateChars_append_inert h []
  rw [translateChars_append hpaired hcut, halone]

end Markup

open Markup (Inert)

section

variable {before after : String}

lemma translate_append_inert (h : Inert after.toList) (text : String) :
    translate (text ++ after) = translate text ++ after := by
  rw [translate, String.toList_append, Markup.translateChars_append_inert h, String.ofList_append,
    String.ofList_toList, translate]

lemma translate_inert_append (h : Inert before.toList) (text : String) :
    translate (before ++ text) = before ++ translate text := by
  rw [translate, String.toList_append, Markup.translateChars_inert_append h, String.ofList_append,
    String.ofList_toList, translate]

lemma translate_between (hbefore : Inert before.toList) (hafter : Inert after.toList) (text : String) :
    translate (before ++ text ++ after) = before ++ translate text ++ after := by
  rw [translate_append_inert hafter, translate_inert_append hbefore]

end

namespace Overlay

lemma inert_range (n : Int) : Inert (range n).toList where
  dot := not_mem_range rfl (by decide) n
  slash := not_mem_range rfl (by decide) n
  bar := not_mem_range rfl (by decide) n

lemma inert_command (n : Int) : Inert (command n).toList where
  dot := not_mem_command rfl (by decide) n
  slash := not_mem_command rfl (by decide) n
  bar := not_mem_command rfl (by decide) n

end Overlay

def runningLine (container : Kind) (body : String) (slide? : Option Int) : String :=
  match container, slide? with
  | .itemize, none => "\\item " ++ translate body ++ "\n"
  | .itemize, some n => "\\item" ++ Overlay.range n ++ " " ++ translate body ++ "\n"
  | _, none => translate body ++ "\n"
  | _, some n => Overlay.command n ++ "\x7b" ++ translate body ++ "\x7d\n"

lemma inert_newline : Inert "\n".toList := ⟨by decide, by decide, by decide⟩

lemma translate_item (body : String) (slide? : Option Int) :
    translate ("\\item" ++ (slide?.map Overlay.range).getD "" ++ " " ++ body ++ "\n") =
      "\\item" ++ (slide?.map Overlay.range).getD "" ++ " " ++ translate body ++ "\n" := by
  have hitem : Inert "\\item".toList := ⟨by decide, by decide, by decide⟩
  have hblank : Inert " ".toList := ⟨by decide, by decide, by decide⟩
  have hslide : Inert ((slide?.map Overlay.range).getD "").toList := by
    cases slide? with
    | none => exact ⟨by decide, by decide, by decide⟩
    | some n => exact Overlay.inert_range n
  have hbefore : Inert ("\\item" ++ (slide?.map Overlay.range).getD "" ++ " ").toList := by
    rw [String.toList_append, String.toList_append]
    exact (hitem.append hslide).append hblank
  exact translate_between hbefore inert_newline body

lemma translate_overlay (body : String) (n : Int) :
    translate (Overlay.command n ++ "\x7b" ++ body ++ "\x7d\n") =
      Overlay.command n ++ "\x7b" ++ translate body ++ "\x7d\n" := by
  have hopen : Inert "\x7b".toList := ⟨by decide, by decide, by decide⟩
  have hclose : Inert "\x7d\n".toList := ⟨by decide, by decide, by decide⟩
  have hbefore : Inert (Overlay.command n ++ "\x7b").toList := by
    rw [String.toList_append]
    exact (Overlay.inert_command n).append hopen
  exact translate_between hbefore hclose body

lemma Draft.exists_source (container : Kind) (body : String) (slide? : Option Int) : ∃ source,
    textIn container body slide? = .text source ∧ translate source = runningLine container body slide? := by
  cases slide? with
  | none =>
    cases container with
    | itemize => exact ⟨_, rfl, translate_item body none⟩
    | _ => exact ⟨_, rfl, translate_append_inert inert_newline body⟩
  | some n =>
    cases container with
    | itemize => exact ⟨_, rfl, translate_item body (some n)⟩
    | _ => exact ⟨_, rfl, translate_overlay body n⟩

end SlideDeck
