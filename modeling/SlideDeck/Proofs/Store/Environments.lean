import SlideDeck.Proofs.Braces
import SlideDeck.Proofs.Environments
import SlideDeck.Proofs.Overlay
import SlideDeck.Proofs.Store.Graft
import SlideDeck.Proofs.Subtree

/-! The environments in what is written of a tree: they are nested as its nodes are, and no others arise. -/

namespace SlideDeck

open Marks

namespace Content

def environment? : Content → Option String
  | .environment _ name _ => some name
  | .block _ | .code _ _ _ => some "block"
  | _ => none

def commandName? : Content → Option String
  | .command name _ | .package name _ | .containingCommand name _ | .newCommand name _ => some name
  | _ => none

def leaf? : Content → Option String
  | .raw given | .text given => some given
  | _ => none

def marks (c : Content) (inner : List Mark) : List Mark :=
  match c.environment? with
  | none => inner
  | some name => .opens name :: inner ++ [.closes name]

structure Tidy (c : Content) : Prop where
  clean : ∀ text ∈ c.texts, Clean text
  leaf : ∀ text ∈ c.leaf?, EndsLine text
  command : ∀ name ∈ c.commandName?, ∀ word ∈ words, ¬ word.toList <+: name.toList
  environment : ∀ name ∈ c.environment?, Braces.Braceless name

instance (c : Content) : Decidable c.Tidy :=
  decidable_of_iff ((∀ text ∈ c.texts, Clean text) ∧ (∀ text ∈ c.leaf?, EndsLine text) ∧
    (∀ name ∈ c.commandName?, ∀ word ∈ words, ¬ word.toList <+: name.toList) ∧
    ∀ name ∈ c.environment?, Braces.Braceless name)
    ⟨fun h => ⟨h.1, h.2.1, h.2.2.1, h.2.2.2⟩, fun h => ⟨h.clean, h.leaf, h.command, h.environment⟩⟩

end Content

def PiecesRead (step : String) (pieces : List Piece) (ms : List Mark) : Prop :=
  Layout.Everywhere (fun base => '\\' ∉ base.toList) step (Reads · ms) pieces

namespace PiecesRead

variable {step text : String} {ms ns : List Mark} {p q : List Piece}

lemma append (hp : PiecesRead step p ms) (hq : PiecesRead step q ns) :
    PiecesRead step (p ++ q) (ms ++ ns) :=
  Layout.Everywhere.append hp hq fun _ _ ha hb => ha.append hb

lemma flush (h : Reads text ms) : PiecesRead step [.flush text] ms := Layout.everywhere_flush h

lemma line (h : Reads text ms) : PiecesRead step [.line 0 text] ms :=
  Layout.everywhere_line fun _ hbase => (reads_plain hbase).append h

lemma deepen (hstep : '\\' ∉ step.toList) (h : PiecesRead step p ms) :
    PiecesRead step (Layout.deepen p) ms :=
  Layout.Everywhere.deepen h fun _ hbase => by simp [hbase, hstep]

lemma plain {last : String} (h : Clean text) (hlast : Separates last) (hend : EndsLine last) :
    PiecesRead step [.line 0 (text ++ last)] [] :=
  .line (reads_line (h.append hlast.tail) hend.append)

lemma within {first last : Piece} (hfirst : PiecesRead step [first] []) (hstep : '\\' ∉ step.toList)
    (h : PiecesRead step p ms) (hlast : PiecesRead step [last] []) :
    PiecesRead step (first :: Layout.deepen p ++ [last]) ms := by
  simpa using (hfirst.append (h.deepen hstep)).append hlast

end PiecesRead

namespace Layout

variable {step name title : String} {a : Arguments} {body : List Piece} {ms : List Mark}

section Texts

variable {texts : List String}

lemma tail_bracketed (h : ∀ text ∈ texts, Clean text) : Tail (bracketed texts) := by
  cases texts with
  | nil => exact tail_nil
  | cons text rest =>
    have htexts : Clean (", ".intercalate (text :: rest)) := clean_intercalate (by decide) h
    exact (htexts.separated (by decide)).append (Separates.tail (by decide))

lemma tail_comment (ha : ∀ text ∈ a.texts, Clean text) : Tail (trailing a.comment?) := by
  cases hcomment : a.comment? with
  | none => exact tail_nil
  | some comment => exact (ha comment (by simp [Arguments.texts, hcomment])).separated (by decide)

lemma tail_options (ha : ∀ text ∈ a.texts, Clean text) : Tail (bracketed a.options) :=
  tail_bracketed fun text h => ha text (by simp [Arguments.texts, h])

lemma clean_commandText (hname : Clean ("\\" ++ name)) (ha : ∀ text ∈ a.texts, Clean text) :
    Clean (commandText name a) := by
  refine (hname.append (tail_options ha)).append (tail_join fun text h => ?_)
  obtain ⟨argument, hargument, rfl⟩ := List.mem_map.mp h
  exact (ha argument (by simp [Arguments.texts, hargument])).braced

lemma tail_toString (n : Int) : Tail (toString n) := by
  have hletters : ∀ word ∈ words, ('\\' :: word.toList).all (fun c => !c.isDigit && c != '-') := by decide
  refine tail_of_not_mem fun word hword c hc => ?_
  have hc := List.all_eq_true.mp (hletters word hword) c hc
  simp only [Bool.and_eq_true, Bool.not_eq_true', bne_iff_ne] at hc
  exact not_mem_toString hc.1 hc.2 n

lemma clean_overlay (x : Slides) : Clean x.command := by
  cases x with
  | int n =>
    rw [Slides.command, Overlay.command]
    split_ifs
    · have hopen : Clean "\\only<" := by decide
      exact (hopen.append (tail_toString n.natAbs)).append (Separates.tail (by decide))
    · have hopen : Clean "\\onslide<" := by decide
      exact (hopen.append (tail_toString n)).append (Separates.tail (by decide))
  | bool value => cases value <;> decide
  | text value => exact tail_nil.clean

lemma tail_range (x : Slides) : Tail x.range := by
  cases x with
  | int n =>
    rw [Slides.range, Overlay.range]
    split_ifs
    · exact ((Separates.tail (by decide)).append (tail_toString n.natAbs)).append (Separates.tail (by decide))
    · exact ((Separates.tail (by decide)).append (tail_toString n)).append (Separates.tail (by decide))
  | bool value => cases value <;> exact Separates.tail (by decide)
  | text value => exact tail_nil

lemma clean_shown {a : Atom} (h : ∀ text ∈ a.texts, Clean text) : Clean a.shown := by
  cases a with
  | null => decide
  | bool value => cases value <;> decide
  | int n => exact (tail_toString n).clean
  | text value => exact h value (List.mem_singleton_self value)

end Texts

section Pieces

lemma command_reads (hstep : '\\' ∉ step.toList) (slides? : Option Slides) (hname : Clean ("\\" ++ name))
    (ha : ∀ text ∈ a.texts, Clean text) : PiecesRead step (command slides? name a) [] := by
  have htext := clean_commandText hname ha
  have hcomment := tail_comment ha
  cases slides? with
  | none => exact .plain (htext.append hcomment) (by decide) (by decide)
  | some n =>
    have hopen : PiecesRead step [.line 0 (n.command ++ "\x7b\n")] [] :=
      .plain (clean_overlay n) (by decide) (by decide)
    have hinside : PiecesRead step (deepen [.line 0 (commandText name a ++ "\n")]) [] :=
      .deepen hstep (.plain htext (by decide) (by decide))
    have hclose : PiecesRead step [.line 0 ("\x7d" ++ trailing a.comment? ++ "\n")] [] :=
      .plain ((show Clean "\x7d" by decide).append hcomment) (by decide) (by decide)
    exact hopen.append (hinside.append hclose)

variable (hstep : '\\' ∉ step.toList) (hbody : PiecesRead step body ms)

include hstep hbody

lemma containingCommand_reads (hname : Clean ("\\" ++ name)) (ha : ∀ text ∈ a.texts, Clean text) :
    PiecesRead step (containingCommand name a body) ms := by
  have hopen : PiecesRead step [.line 0 ("\\" ++ name ++ bracketed a.options ++ "\x7b\n")] [] :=
    .plain (hname.append (tail_options ha)) (by decide) (by decide)
  have hclose : PiecesRead step [.flush "\x7d\n"] [] := .flush (reads_line (by decide) (by decide))
  have hlines := hopen.within hstep hbody hclose
  have hcomment := tail_comment ha
  rw [containingCommand, List.append_assoc]
  cases hcommented : a.comment? with
  | none => exact hlines
  | some comment =>
    rw [hcommented] at hcomment
    have hline : Reads (" % " ++ comment ++ "\n") [] :=
      reads_line (hcomment.clean.append (Separates.tail (by decide))) (EndsLine.append (by decide))
    exact (PiecesRead.flush hline).append hlines

lemma newCommand_reads (hname : Clean ("\\" ++ name)) {arity : Atom} (harity : ∀ text ∈ arity.texts, Clean text) :
    PiecesRead step (newCommand name arity body) ms := by
  have hcommand : Clean ("\\newcommand\\" ++ name) := by
    rw [show "\\newcommand\\" = "\\newcommand" ++ "\\" from rfl, String.append_assoc]
    exact Clean.append (by decide) hname.tail_command
  have hopen : PiecesRead step [.line 0 ("\\newcommand\\" ++ name ++ "[" ++ arity.shown ++ "]\x7b\n")] [] := by
    have hbracket : Tail ("[" ++ arity.shown) := (clean_shown harity).separated (by decide)
    have htext : Clean ("\\newcommand\\" ++ name ++ "[" ++ arity.shown) := by
      rw [String.append_assoc]
      exact hcommand.append hbracket
    exact .plain htext (by decide) (by decide)
  have hclose : PiecesRead step [.flush "\x7d\n"] [] := .flush (reads_line (by decide) (by decide))
  exact hopen.within hstep hbody hclose

lemma plainEnvironment_reads {options : List String} (hname : Clean name) (hbraces : Braces.Braceless name)
    (hoptions : ∀ text ∈ options, Clean text) (ha : ∀ text ∈ a.texts, Clean text) :
    PiecesRead step (plainEnvironment name options a body) (.opens name :: ms ++ [.closes name]) := by
  have hrequired : Tail (if a.required = [] then "" else braced (", ".intercalate a.required)) := by
    split_ifs
    · exact tail_nil
    · exact (clean_intercalate (by decide) fun text h => ha text (by simp [Arguments.texts, h])).braced
  have hline : beginLine name options a = (Mark.opens name).text ++ (bracketed options ++
      ((if a.required = [] then "" else braced (", ".intercalate a.required)) ++
        (trailing a.comment? ++ "\n"))) := by
    simp only [beginLine, Mark.text, Mark.word, Mark.name, String.append_assoc]
  have hopen : PiecesRead step [.line 0 (beginLine name options a)] [.opens name] := by
    rw [hline]
    have htail := (tail_bracketed hoptions).append
      (hrequired.append ((tail_comment ha).append (Separates.tail (show Separates "\n" by decide))))
    have hend : EndsLine (trailing a.comment? ++ "\n") := EndsLine.append (by decide)
    exact .line (reads_mark (m := .opens name) hbraces.2 hname htail hend.append.append)
  have hclose : PiecesRead step [.line 0 ("\\end" ++ braced name ++ "\n")] [.closes name] :=
    .line (reads_mark (m := .closes name) hbraces.2 hname (Separates.tail (by decide)) (by decide))
  exact (hopen.append (hbody.deepen hstep)).append hclose

lemma environment_reads (slides? : Option Slides) {options : List String} (hname : Clean name)
    (hbraces : Braces.Braceless name) (hoptions : ∀ text ∈ options, Clean text)
    (ha : ∀ text ∈ a.texts, Clean text) :
    PiecesRead step (environment slides? name options a body) (.opens name :: ms ++ [.closes name]) := by
  have hplain := plainEnvironment_reads hstep hbody hname hbraces hoptions ha
  cases slides? with
  | none => exact hplain
  | some n =>
    have hopen : PiecesRead step [.line 0 (n.command ++ "\x7b\n")] [] :=
      .plain (clean_overlay n) (by decide) (by decide)
    have hclose : PiecesRead step [.line 0 "\x7d\n"] [] := .line (reads_line (by decide) (by decide))
    exact hopen.within hstep hplain hclose

lemma block_reads (slides? : Option Slides) (htitle : Clean title) :
    PiecesRead step (block slides? title body) (.opens "block" :: ms ++ [.closes "block"]) := by
  have hrange : Tail ((slides?.map Slides.range).getD "") := by
    cases slides? with
    | none => exact tail_nil
    | some n => exact tail_range n
  have hline : "\\begin\x7bblock\x7d" ++ (slides?.map Slides.range).getD "" ++ braced title ++ "\n" =
      (Mark.opens "block").text ++ ((slides?.map Slides.range).getD "" ++ (braced title ++ "\n")) := by
    rw [show (Mark.opens "block").text = "\\begin\x7bblock\x7d" from rfl, String.append_assoc,
      String.append_assoc]
  have hopen : PiecesRead step [.line 0 ("\\begin\x7bblock\x7d" ++ (slides?.map Slides.range).getD "" ++
      braced title ++ "\n")] [.opens "block"] := by
    rw [hline]
    have htail := hrange.append (htitle.braced.append (Separates.tail (show Separates "\n" by decide)))
    have hend : EndsLine (braced title ++ "\n") := EndsLine.append (by decide)
    exact .line (reads_mark (m := .opens "block") (by decide) (by decide) htail hend.append)
  have hclose : PiecesRead step [.line 0 "\\end\x7bblock\x7d\n"] [.closes "block"] := by
    rw [show "\\end\x7bblock\x7d\n" = (Mark.closes "block").text ++ "\n" from rfl]
    exact .line (reads_mark (by decide) (by decide) (Separates.tail (by decide)) (by decide))
  exact (hopen.append (hbody.deepen hstep)).append hclose

lemma node_reads {n : Node} (holdsCode : Bool) (hn : n.content.Tidy)
    (hleaf : n.kind.isContainer = false → ms = []) :
    PiecesRead step (node n holdsCode body) (n.content.marks ms) := by
  obtain ⟨content, foreign?, parent?, slides?, children, odd⟩ := n
  have hcommand : ∀ name ∈ content.commandName?, Clean name → Clean ("\\" ++ name) :=
    fun name hname h => h.command (hn.command name hname)
  cases content with
  | raw text =>
    obtain rfl := hleaf rfl
    exact .flush (reads_line (hn.clean text List.mem_cons_self) (hn.leaf text rfl))
  | text source =>
    obtain rfl := hleaf rfl
    exact .line (reads_line (clean_translate (hn.clean source List.mem_cons_self))
      (endsLine_translate (hn.leaf source rfl)))
  | command name a | package name a =>
    obtain rfl := hleaf rfl
    obtain ⟨hname, ha⟩ := List.forall_mem_cons.mp hn.clean
    exact command_reads hstep slides? (hcommand name rfl hname) ha
  | containingCommand name a =>
    obtain ⟨hname, ha⟩ := List.forall_mem_cons.mp hn.clean
    exact containingCommand_reads hstep hbody (hcommand name rfl hname) ha
  | newCommand name arity =>
    obtain ⟨hname, harity⟩ := List.forall_mem_cons.mp hn.clean
    exact newCommand_reads hstep hbody (hcommand name rfl hname) harity
  | environment form name a =>
    obtain ⟨hname, ha⟩ := List.forall_mem_cons.mp hn.clean
    have hoptions : ∀ text ∈ a.options, Clean text := fun text h => ha text (by simp [Arguments.texts, h])
    exact environment_reads hstep hbody slides? hname (hn.environment name rfl)
      (forall_mem_environmentOptions (by decide) hoptions) ha
  | block title | code title language listing =>
    exact block_reads hstep hbody slides? (hn.clean title List.mem_cons_self)
  | header => exact hbody

end Pieces

end Layout

lemma Content.nest_marks {names : List String} {ms : List Mark} (c : Content) (h : Nest ms names) :
    Nest (c.marks ms) (c.environment?.toList ++ names) := by
  rw [Content.marks]
  cases c.environment? with
  | none => exact h
  | some name => exact h.around name

namespace Store

def environments (s : Store) (ids : List NodeId) : List String :=
  ids.filterMap fun n => (s.node n).content.environment?

/-- The texts at and below a node begin and end no environments. -/
def TidyTexts (s : Store) (n : NodeId) : Prop := ∀ m, s.Climbs m n → (s.node m).content.Tidy

variable {s : Store} {n : NodeId} {t : Tree} {step : String}

lemma environments_cons (s : Store) (n : NodeId) (ids : List NodeId) :
    s.environments (n :: ids) = (s.node n).content.environment?.toList ++ s.environments ids := by
  rw [environments, List.filterMap_cons]
  cases (s.node n).content.environment? <;> rfl

lemma environments_append (s : Store) (ids ids' : List NodeId) :
    s.environments (ids ++ ids') = s.environments ids ++ s.environments ids' := List.filterMap_append

lemma tidyTexts (h : ∀ m < s.size, (s.node m).content.Tidy) (n : NodeId) : s.TidyTexts n :=
  fun m _ => forall_node (P := fun node => node.content.Tidy) (by decide) h m

lemma exists_forest_reads {f : Forest} (h : ∀ t ∈ f, ∃ ms, PiecesRead step t.pieces ms ∧
    Nest ms (s.environments t.ids)) :
    ∃ ms, PiecesRead step (Forest.pieces f) ms ∧ Nest ms (s.environments (Forest.ids f)) ∧
      (f = [] → ms = []) := by
  induction f with
  | nil => exact ⟨[], Layout.everywhere_nil Reads.nil, Nest.nil, fun _ => rfl⟩
  | cons t rest ih =>
    rw [List.forall_mem_cons] at h
    obtain ⟨⟨ms, hreads, hnest⟩, hrest⟩ := h
    obtain ⟨ns, hreads', hnest', -⟩ := ih hrest
    refine ⟨ms ++ ns, hreads.append hreads', ?_, by simp⟩
    rw [Forest.ids, environments_append]
    exact hnest.append hnest'

end Store

lemma Tree.Matches.exists_reads {s : Store} {t : Tree} {step : String} (hs : s.WellFormed)
    (ht : t.Matches s) (hstep : '\\' ∉ step.toList) (htidy : ∀ m ∈ t.ids, (s.node m).content.Tidy) :
    ∃ ms, PiecesRead step t.pieces ms ∧ Nest ms (s.environments t.ids) := by
  induction ht with
  | node n children hids h ih =>
    rw [Tree.ids, List.forall_mem_cons] at htidy
    obtain ⟨ms, hreads, hnest, hnil⟩ := Store.exists_forest_reads fun t ht =>
      ih t ht fun m hm => htidy.2 m (Forest.mem_ids.mpr ⟨t, ht, hm⟩)
    have hleaf : (s.node n).kind.isContainer = false → ms = [] := by
      intro hkind
      rw [hs.children_eq_nil n hkind, List.map_eq_nil_iff] at hids
      exact hnil hids
    rw [Tree.pieces, Tree.ids, Store.environments_cons]
    exact ⟨_, Layout.node_reads hstep hreads _ htidy.1 hleaf, Content.nest_marks _ hnest⟩

lemma Store.render_nest {s : Store} {n : NodeId} {t : Tree} {step : String} (hs : s.WellFormed)
    (ht : s.tree? n = some t) (htidy : s.TidyTexts n) (hstep : '\\' ∉ step.toList) :
    Nest (marks (t.render step).toList) (s.environments t.ids) := by
  obtain ⟨rfl, hmatches⟩ := matches_of_tree? ht
  obtain ⟨ms, hreads, hnest⟩ :=
    hmatches.exists_reads hs hstep fun m hm => htidy m ((hmatches.mem_ids_iff hs).mp hm)
  rwa [Tree.render, (hreads "" (by decide)).marks_eq]

end SlideDeck
