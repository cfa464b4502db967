import SlideDeck.Proofs.Braces
import SlideDeck.Proofs.Overlay
import SlideDeck.Proofs.Store.DeckText
import SlideDeck.Proofs.Subtree

/-! The braces of what is written. Around children with balanced texts each node closes the braces that it
opens, however it is indented. -/

namespace SlideDeck

open Braces

def PiecesLead (step : String) (j : Nat) (pieces : List Piece) (k : Nat) : Prop :=
  Layout.Everywhere Braceless step (Leads j · k) pieces

namespace PiecesLead

variable {step text : String} {j k l : Nat} {p q : List Piece}

lemma append (hp : PiecesLead step j p k) (hq : PiecesLead step k q l) : PiecesLead step j (p ++ q) l :=
  Layout.Everywhere.append hp hq fun _ _ ha hb => ha.append hb

lemma flush (h : Leads j text k) : PiecesLead step j [.flush text] k := Layout.everywhere_flush h

lemma line (h : Leads j text k) : PiecesLead step j [.line 0 text] k :=
  Layout.everywhere_line fun _ hbase => hbase.balanced.before h

lemma deepen (hstep : Braceless step) (h : PiecesLead step j p k) : PiecesLead step j (Layout.deepen p) k :=
  Layout.Everywhere.deepen h fun _ hbase => hbase.append hstep

lemma deeper (h : PiecesLead step j p k) (i : Nat) : PiecesLead step (j + i) p (k + i) :=
  fun base hbase => (h base hbase).deeper i

lemma flatMap {α : Type} {f : α → List Piece} {xs : List α}
    (h : ∀ x ∈ xs, PiecesLead step j (f x) j) : PiecesLead step j (xs.flatMap f) j := by
  induction xs with
  | nil => exact Layout.everywhere_nil rfl
  | cons x rest ih =>
    rw [List.forall_mem_cons] at h
    exact h.1.append (ih h.2)

end PiecesLead

namespace Layout

variable {step name title : String} {a : Arguments} {body : List Piece}

section Texts

variable {text : String} {texts : List String}

lemma balanced_braced (h : Balanced text) : Balanced (braced text) := by
  have hopen : Leads 0 "\x7b" 1 := by decide
  exact balanced_iff_leads.mpr ((hopen.append (h.leads 1)).append (by decide))

lemma balanced_bracketed (h : ∀ text ∈ texts, Balanced text) : Balanced (bracketed texts) := by
  cases texts with
  | nil => exact show Balanced "" by decide
  | cons text rest =>
    have hopen : Balanced "[" := by decide
    exact (hopen.append (balanced_intercalate (by decide) h)).append (by decide)

lemma balanced_trailing {comment? : Option String} (h : ∀ text ∈ comment?, Balanced text) :
    Balanced (trailing comment?) := by
  cases comment? with
  | none => exact show Balanced "" by decide
  | some comment =>
    have hopen : Balanced " % " := by decide
    exact hopen.append (h comment rfl)

lemma balanced_overlay (x : Slides) : Balanced x.command :=
  Braceless.balanced ⟨x.not_mem_command rfl (by decide), x.not_mem_command rfl (by decide)⟩

lemma balanced_range (x : Slides) : Balanced x.range :=
  Braceless.balanced ⟨x.not_mem_range rfl (by decide), x.not_mem_range rfl (by decide)⟩

lemma balanced_shown {a : Atom} (h : ∀ text ∈ a.texts, Balanced text) : Balanced a.shown := by
  rcases a.shown_cases (c := '\x7b') rfl (by decide) with ⟨value, rfl⟩ | hopen
  · exact h value (List.mem_singleton_self value)
  rcases a.shown_cases (c := '\x7d') rfl (by decide) with ⟨value, rfl⟩ | hclose
  · exact h value (List.mem_singleton_self value)
  · exact Braceless.balanced ⟨hopen, hclose⟩

end Texts

lemma balanced_commandText (hname : Balanced name) (ha : ∀ text ∈ a.texts, Balanced text) :
    Balanced (commandText name a) := by
  have hopen : Balanced "\\" := by decide
  have hoptions : Balanced (bracketed a.options) :=
    balanced_bracketed fun text h => ha text (by simp [Arguments.texts, h])
  refine ((hopen.append hname).append hoptions).append (balanced_join fun text h => ?_)
  obtain ⟨argument, hargument, rfl⟩ := List.mem_map.mp h
  exact balanced_braced (ha argument (by simp [Arguments.texts, hargument]))

lemma balanced_comment (ha : ∀ text ∈ a.texts, Balanced text) : Balanced (trailing a.comment?) :=
  balanced_trailing fun comment h => ha comment (by simp [Arguments.texts, Option.mem_def.mp h])

lemma balanced_beginLine {options : List String} (hname : Balanced name)
    (hoptions : ∀ text ∈ options, Balanced text) (ha : ∀ text ∈ a.texts, Balanced text) :
    Balanced (beginLine name options a) := by
  have hopen : Balanced "\\begin" := by decide
  have hrequired : Balanced (", ".intercalate a.required) :=
    balanced_intercalate (by decide) fun text h => ha text (by simp [Arguments.texts, h])
  have harguments : Balanced (if a.required = [] then "" else braced (", ".intercalate a.required)) := by
    split_ifs
    · decide
    · exact balanced_braced hrequired
  exact ((((hopen.append (balanced_braced hname)).append (balanced_bracketed hoptions)).append
    harguments).append (balanced_comment ha)).append (by decide)

section Pieces

lemma command_lead (hstep : Braceless step) (slides? : Option Slides) (hname : Balanced name)
    (ha : ∀ text ∈ a.texts, Balanced text) : PiecesLead step 0 (command slides? name a) 0 := by
  have hline : Balanced "\n" := by decide
  have htext := balanced_commandText hname ha
  have hcomment := balanced_comment ha
  cases slides? with
  | none => exact .line (((htext.append hcomment).append hline).leads 0)
  | some n =>
    have hopen : Leads 0 (n.command ++ "\x7b\n") 1 := (balanced_overlay n).before (by decide)
    have hinside : PiecesLead step 1 (deepen [.line 0 (commandText name a ++ "\n")]) 1 :=
      .deepen hstep (.line ((htext.append hline).leads 1))
    have hclose : Leads 1 ("\x7d" ++ trailing a.comment? ++ "\n") 0 :=
      (Leads.before (by decide) hcomment).before hline
    exact (PiecesLead.line hopen).append (hinside.append (.line hclose))

variable (hstep : Braceless step) (hbody : PiecesLead step 0 body 0)

include hstep hbody

lemma containingCommand_lead (hname : Balanced name) (ha : ∀ text ∈ a.texts, Balanced text) :
    PiecesLead step 0 (containingCommand name a body) 0 := by
  have hslash : Balanced "\\" := by decide
  have hoptions : Balanced (bracketed a.options) :=
    balanced_bracketed fun text h => ha text (by simp [Arguments.texts, h])
  have hopen : Leads 0 ("\\" ++ name ++ bracketed a.options ++ "\x7b\n") 1 :=
    ((hslash.append hname).append hoptions).before (by decide)
  have hlines : PiecesLead step 0 (.line 0 ("\\" ++ name ++ bracketed a.options ++ "\x7b\n") ::
      deepen body ++ [.flush "\x7d\n"]) 0 :=
    ((PiecesLead.line hopen).append ((hbody.deepen hstep).deeper 1)).append (.flush (by decide))
  have hcomment := balanced_comment ha
  rw [containingCommand, List.append_assoc]
  cases hcommented : a.comment? with
  | none => exact hlines
  | some comment =>
    rw [hcommented] at hcomment
    have hline : Balanced (" % " ++ comment ++ "\n") := hcomment.append (by decide)
    exact (PiecesLead.flush (hline.leads 0)).append hlines

lemma newCommand_lead (hname : Balanced name) {arity : Atom} (harity : ∀ text ∈ arity.texts, Balanced text) :
    PiecesLead step 0 (newCommand name arity body) 0 := by
  have hcommand : Balanced "\\newcommand\\" := by decide
  have hopen : Leads 0 ("\\newcommand\\" ++ name ++ "[" ++ arity.shown ++ "]\x7b\n") 1 :=
    (((hcommand.append hname).append (by decide)).append (balanced_shown harity)).before (by decide)
  exact ((PiecesLead.line hopen).append ((hbody.deepen hstep).deeper 1)).append (.flush (by decide))

lemma plainEnvironment_lead {options : List String} (hname : Balanced name)
    (hoptions : ∀ text ∈ options, Balanced text) (ha : ∀ text ∈ a.texts, Balanced text) :
    PiecesLead step 0 (plainEnvironment name options a body) 0 := by
  have hclose : Balanced "\\end" := by decide
  have hend : Balanced ("\\end" ++ braced name ++ "\n") :=
    (hclose.append (balanced_braced hname)).append (by decide)
  exact ((PiecesLead.line ((balanced_beginLine hname hoptions ha).leads 0)).append
    (hbody.deepen hstep)).append (.line (hend.leads 0))

lemma environment_lead (slides? : Option Slides) {options : List String} (hname : Balanced name)
    (hoptions : ∀ text ∈ options, Balanced text) (ha : ∀ text ∈ a.texts, Balanced text) :
    PiecesLead step 0 (environment slides? name options a body) 0 := by
  have hplain := plainEnvironment_lead hstep hbody hname hoptions ha
  cases slides? with
  | none => exact hplain
  | some n =>
    have hopen : Leads 0 (n.command ++ "\x7b\n") 1 := (balanced_overlay n).before (by decide)
    exact ((PiecesLead.line hopen).append ((hplain.deepen hstep).deeper 1)).append (.line (by decide))

lemma block_lead (slides? : Option Slides) (htitle : Balanced title) :
    PiecesLead step 0 (block slides? title body) 0 := by
  have hrange : Balanced ((slides?.map Slides.range).getD "") := by
    cases slides? with
    | none => exact show Balanced "" by decide
    | some n => exact balanced_range n
  have hbegin : Balanced "\\begin\x7bblock\x7d" := by decide
  have hopen : Balanced ("\\begin\x7bblock\x7d" ++ (slides?.map Slides.range).getD "" ++ braced title ++ "\n") :=
    ((hbegin.append hrange).append (balanced_braced htitle)).append (by decide)
  exact ((PiecesLead.line (hopen.leads 0)).append (hbody.deepen hstep)).append (.line (by decide))

lemma node_lead {n : Node} (holdsCode : Bool) (htexts : ∀ text ∈ n.content.texts, Balanced text) :
    PiecesLead step 0 (node n holdsCode body) 0 := by
  obtain ⟨content, foreign?, parent?, slides?, children, odd⟩ := n
  cases content with
  | raw text => exact .flush ((htexts text (by simp [Content.texts])).leads 0)
  | text source => exact .line ((balanced_translate (htexts source (by simp [Content.texts]))).leads 0)
  | command name a | package name a =>
    obtain ⟨hname, ha⟩ := List.forall_mem_cons.mp htexts
    exact command_lead hstep slides? hname ha
  | containingCommand name a =>
    obtain ⟨hname, ha⟩ := List.forall_mem_cons.mp htexts
    exact containingCommand_lead hstep hbody hname ha
  | newCommand name arity =>
    obtain ⟨hname, harity⟩ := List.forall_mem_cons.mp htexts
    exact newCommand_lead hstep hbody hname harity
  | environment form name a =>
    obtain ⟨hname, ha⟩ := List.forall_mem_cons.mp htexts
    have hoptions : ∀ text ∈ a.options, Balanced text :=
      fun text h => ha text (by simp [Arguments.texts, h])
    exact environment_lead hstep hbody slides? hname
      (forall_mem_environmentOptions (by decide) hoptions) ha
  | block title | code title language listing =>
    exact block_lead hstep hbody slides? (htexts title (by simp [Content.texts]))
  | header => exact hbody

end Pieces

end Layout

def Store.BalancedTexts (s : Store) (n : NodeId) : Prop :=
  ∀ m, s.Climbs m n → ∀ text ∈ (s.node m).content.texts, Balanced text

lemma Tree.Matches.pieces_lead {s : Store} {t : Tree} {step : String} (ht : t.Matches s)
    (hstep : Braceless step)
    (htexts : ∀ m ∈ t.ids, ∀ text ∈ (s.node m).content.texts, Balanced text) :
    PiecesLead step 0 t.pieces 0 := by
  induction ht with
  | node n children hids h ih =>
    rw [Tree.ids, List.forall_mem_cons] at htexts
    rw [Tree.pieces]
    refine Layout.node_lead hstep ?_ _ htexts.1
    rw [Forest.pieces_eq]
    exact .flatMap fun t ht => ih t ht fun m hm => htexts.2 m (Forest.mem_ids.mpr ⟨t, ht, hm⟩)

namespace Store

variable {s : Store} {n : NodeId} {t : Tree} {step : String}

lemma balancedTexts (h : ∀ m < s.size, ∀ text ∈ (s.node m).content.texts, Balanced text) (n : NodeId) :
    s.BalancedTexts n :=
  fun m _ => forall_node (P := fun node => ∀ text ∈ node.content.texts, Balanced text) (List.forall_mem_nil _) h m

lemma balanced_render (hs : s.WellFormed) (ht : s.tree? n = some t) (htexts : s.BalancedTexts n)
    (hstep : Braceless step) : Balanced (t.render step) := by
  obtain ⟨rfl, hmatches⟩ := matches_of_tree? ht
  have hpieces := hmatches.pieces_lead hstep fun m hm => htexts m ((hmatches.mem_ids_iff hs).mp hm)
  exact balanced_iff_leads.mpr (hpieces "" (by decide))

end Store

lemma Deck.balanced_package {d : Deck} {s : Store} {settings : LooseSettings}
    (h : ∀ comment ∈ settings.comment?, Balanced comment) : Balanced (d.package s settings) := by
  rw [package]
  split_ifs
  · have hopen : Balanced "\\usepackage" := by decide
    exact ((hopen.append (Layout.balanced_braced (by decide))).append
      (Layout.balanced_trailing h)).append (by decide)
  · decide

end SlideDeck
