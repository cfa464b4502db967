import SlideDeck.Proofs.Environments
import SlideDeck.Proofs.Layout
import SlideDeck.Proofs.Overlay

/-! The line breaks of what is written. Light markup keeps those of a text, and each node puts as many around those
of its children as it has lines of its own. -/

namespace SlideDeck

def lineBreaks (text : String) : ℕ := text.toList.count '\n'

namespace Markup

variable {rule : List Char → List Char → Prop} {text out : List Char}

lemma Rewrites.count_eq {c : Char} (hrule : ∀ old new, rule old new → new.count c = old.count c)
    (h : Rewrites rule text out) : out.count c = text.count c := by
  induction h with
  | nil => rfl
  | keep first _ ih => rw [List.count_cons, List.count_cons, ih]
  | replace hreplaced _ ih => rw [List.count_append, List.count_append, hrule _ _ hreplaced, ih]

lemma count_translateChars (text : List Char) : (translateChars text).count '\n' = text.count '\n' := by
  refine translateChars_induction (P := fun out => out.count '\n' = text.count '\n')
    (fun text out h hkept => (h.count_eq ?_).trans hkept)
    (fun d hd text out h hkept => (h.count_eq ?_).trans hkept) text rfl
  · rintro old new ⟨rfl, rfl⟩
    rfl
  · have hmark : ∀ d ∈ [italic, monospace], ¬ d.mark = '\n' ∧ d.command.count '\n' = 0 := by decide
    rintro old new ⟨body, -, -, rfl, rfl⟩
    obtain ⟨hmark, hcommand⟩ := hmark d hd
    simp [Delimiter.wrap, hmark, hcommand]

end Markup

section Texts

variable {text sep : String} {texts : List String}

@[simp] lemma lineBreaks_append (a b : String) : lineBreaks (a ++ b) = lineBreaks a + lineBreaks b := by
  rw [lineBreaks, String.toList_append, List.count_append, lineBreaks, lineBreaks]

lemma lineBreaks_eq_zero : lineBreaks text = 0 ↔ '\n' ∉ text.toList := List.count_eq_zero

lemma lineBreaks_translate (text : String) : lineBreaks (translate text) = lineBreaks text := by
  rw [lineBreaks, translate, String.toList_ofList, Markup.count_translateChars, lineBreaks]

lemma lineBreaks_join (h : ∀ text ∈ texts, lineBreaks text = 0) : lineBreaks (String.join texts) = 0 := by
  induction texts with
  | nil => rfl
  | cons text rest ih =>
    rw [List.forall_mem_cons] at h
    rw [String.join_cons, lineBreaks_append, h.1, ih h.2]

lemma lineBreaks_intercalate (hsep : lineBreaks sep = 0) (h : ∀ text ∈ texts, lineBreaks text = 0) :
    lineBreaks (sep.intercalate texts) = 0 := by
  induction texts with
  | nil => rfl
  | cons text rest ih =>
    rw [List.forall_mem_cons] at h
    cases rest with
    | nil => simpa using h.1
    | cons next rest => rw [String.intercalate_cons_cons, lineBreaks_append, lineBreaks_append, h.1, hsep, ih h.2]

lemma lineBreaks_overlay (x : Slides) : lineBreaks x.command = 0 :=
  lineBreaks_eq_zero.mpr (x.not_mem_command rfl (by decide))

lemma lineBreaks_range (x : Slides) : lineBreaks x.range = 0 :=
  lineBreaks_eq_zero.mpr (x.not_mem_range rfl (by decide))

lemma lineBreaks_shown {a : Atom} (h : ∀ text ∈ a.texts, lineBreaks text = 0) : lineBreaks a.shown = 0 := by
  rcases a.shown_cases (c := '\n') rfl (by decide) with ⟨value, rfl⟩ | hplain
  · exact h value (List.mem_singleton_self value)
  · exact lineBreaks_eq_zero.mpr hplain

end Texts

def Piece.text : Piece → String
  | flush text | line _ text => text

/-- The texts given to a node that are written within a line. -/
def Content.labels : Content → List String
  | .raw _ | .text _ => []
  | content => content.texts

def Node.breaks (n : Node) : ℕ :=
  match n.content with
  | .raw text | .text text => lineBreaks text
  | .command _ _ | .package _ _ => if n.slides?.isSome then 3 else 1
  | .containingCommand _ a => if a.comment?.isSome then 3 else 2
  | .environment _ _ _ => if n.slides?.isSome then 4 else 2
  | .newCommand _ _ | .block _ | .code _ _ _ => 2
  | .header => 0

namespace Layout

variable {base step text name title : String} {a : Arguments} {body : List Piece}

def breaks (pieces : List Piece) : ℕ := (pieces.map fun p => lineBreaks p.text).sum

@[simp] lemma breaks_nil : breaks [] = 0 := rfl

@[simp] lemma breaks_cons (p : Piece) (pieces : List Piece) :
    breaks (p :: pieces) = lineBreaks p.text + breaks pieces := by
  rw [breaks, List.map_cons, List.sum_cons, breaks]

@[simp] lemma breaks_append (xs ys : List Piece) : breaks (xs ++ ys) = breaks xs + breaks ys := by
  rw [breaks, List.map_append, List.sum_append, breaks, breaks]

lemma text_deepen (p : Piece) : p.deepen.text = p.text := by
  cases p <;> rfl

@[simp] lemma breaks_deepen (pieces : List Piece) : breaks (deepen pieces) = breaks pieces := by
  simp [breaks, Function.comp_def, text_deepen]

lemma breaks_render (hbase : lineBreaks base = 0) (hstep : lineBreaks step = 0) (pieces : List Piece) :
    lineBreaks (render base step pieces) = breaks pieces := by
  induction pieces with
  | nil => rfl
  | cons p rest ih =>
    have hindent (depth : ℕ) : lineBreaks (String.join (List.replicate depth step)) = 0 :=
      lineBreaks_join fun text h => List.eq_of_mem_replicate h ▸ hstep
    rw [render_cons, breaks_cons, lineBreaks_append, ih]
    cases p <;> simp [Piece.render, Piece.text, hbase, hindent]

lemma lineBreaks_braced (text : String) : lineBreaks (braced text) = lineBreaks text := by
  have hopen : lineBreaks "\x7b" = 0 := by decide
  have hclose : lineBreaks "\x7d" = 0 := by decide
  rw [braced, lineBreaks_append, lineBreaks_append, hopen, hclose, Nat.zero_add, Nat.add_zero]

lemma lineBreaks_bracketed {options : List String} (h : ∀ option ∈ options, lineBreaks option = 0) :
    lineBreaks (bracketed options) = 0 := by
  cases options with
  | nil => rfl
  | cons option rest =>
    have hopen : lineBreaks "[" = 0 := by decide
    have hclose : lineBreaks "]" = 0 := by decide
    rw [bracketed, lineBreaks_append, lineBreaks_append, hopen, hclose,
      lineBreaks_intercalate (by decide) h]
    exact nofun

lemma lineBreaks_trailing {comment? : Option String} (h : ∀ comment ∈ comment?, lineBreaks comment = 0) :
    lineBreaks (trailing comment?) = 0 := by
  cases comment? with
  | none => rfl
  | some comment =>
    have hopen : lineBreaks " % " = 0 := by decide
    rw [trailing, lineBreaks_append, hopen, h comment rfl]

section Arguments

variable (hname : lineBreaks name = 0) (ha : ∀ text ∈ a.texts, lineBreaks text = 0)

include ha

lemma lineBreaks_options : lineBreaks (bracketed a.options) = 0 :=
  lineBreaks_bracketed fun option h => ha option (by simp [Arguments.texts, h])

lemma lineBreaks_comment : lineBreaks (trailing a.comment?) = 0 :=
  lineBreaks_trailing fun comment h => ha comment (by simp [Arguments.texts, Option.mem_def.mp h])

include hname

lemma lineBreaks_commandText : lineBreaks (commandText name a) = 0 := by
  have hslash : lineBreaks "\\" = 0 := by decide
  have hrequired : lineBreaks (String.join (a.required.map braced)) = 0 := by
    refine lineBreaks_join fun text h => ?_
    obtain ⟨argument, hargument, rfl⟩ := List.mem_map.mp h
    rw [lineBreaks_braced, ha argument (by simp [Arguments.texts, hargument])]
  simp only [commandText, lineBreaks_append, hslash, hname, lineBreaks_options ha, hrequired]

lemma breaks_command (slides? : Option Slides) :
    breaks (command slides? name a) = if slides?.isSome then 3 else 1 := by
  have htext := lineBreaks_commandText hname ha
  have hcomment := lineBreaks_comment ha
  have hline : lineBreaks "\n" = 1 := by decide
  cases slides? with
  | none => simp [command, Piece.text, htext, hcomment, hline]
  | some n =>
    have hopen : lineBreaks "\x7b\n" = 1 := by decide
    have hclose : lineBreaks "\x7d" = 0 := by decide
    simp [command, Piece.text, lineBreaks_overlay, htext, hcomment, hline, hopen, hclose]

lemma breaks_containingCommand (body : List Piece) : breaks (containingCommand name a body) =
    (if a.comment?.isSome then 3 else 2) + breaks body := by
  have hslash : lineBreaks "\\" = 0 := by decide
  have hopen : lineBreaks "\x7b\n" = 1 := by decide
  have hclose : lineBreaks "\x7d\n" = 1 := by decide
  have hcomment := lineBreaks_comment ha
  cases hcommented : a.comment? with
  | none =>
    simp [containingCommand, hcommented, Piece.text, hslash, hname, lineBreaks_options ha, hopen, hclose]
    omega
  | some comment =>
    have hline : lineBreaks "\n" = 1 := by decide
    rw [hcommented, trailing, lineBreaks_append] at hcomment
    obtain ⟨hsign, hcomment⟩ := Nat.add_eq_zero_iff.mp hcomment
    simp [containingCommand, hcommented, Piece.text, hslash, hname, lineBreaks_options ha, hopen, hclose, hsign,
      hcomment, hline]
    omega

lemma breaks_plainEnvironment {options : List String}
    (hoptions : ∀ option ∈ options, lineBreaks option = 0) (body : List Piece) :
    breaks (plainEnvironment name options a body) = 2 + breaks body := by
  have hbegin : lineBreaks "\\begin" = 0 := by decide
  have hend : lineBreaks "\\end" = 0 := by decide
  have hline : lineBreaks "\n" = 1 := by decide
  have hrequired : lineBreaks (", ".intercalate a.required) = 0 :=
    lineBreaks_intercalate (by decide) fun argument h => ha argument (by simp [Arguments.texts, h])
  have harguments : lineBreaks
      (if a.required = [] then "" else braced (", ".intercalate a.required)) = 0 := by
    split_ifs
    · decide
    · rw [lineBreaks_braced, hrequired]
  simp only [plainEnvironment, breaks_append, breaks_cons, breaks_deepen, breaks_nil, Piece.text,
    lineBreaks_append, lineBreaks_braced, lineBreaks_bracketed hoptions, lineBreaks_comment ha, harguments, hname,
    hbegin, hend, hline]
  omega

lemma breaks_environment (slides? : Option Slides) {options : List String}
    (hoptions : ∀ option ∈ options, lineBreaks option = 0) (body : List Piece) :
    breaks (environment slides? name options a body) = (if slides?.isSome then 4 else 2) + breaks body := by
  have hplain := breaks_plainEnvironment hname ha hoptions body
  cases slides? with
  | none => exact hplain
  | some n =>
    have hopen : lineBreaks "\x7b\n" = 1 := by decide
    have hclose : lineBreaks "\x7d\n" = 1 := by decide
    simp [environment, Piece.text, hplain, lineBreaks_overlay, hopen, hclose]
    omega

end Arguments

lemma breaks_newCommand (hname : lineBreaks name = 0) {arity : Atom}
    (harity : ∀ text ∈ arity.texts, lineBreaks text = 0) (body : List Piece) :
    breaks (newCommand name arity body) = 2 + breaks body := by
  have hcommand : lineBreaks "\\newcommand\\" = 0 := by decide
  have hbracket : lineBreaks "[" = 0 := by decide
  have hopen : lineBreaks "]\x7b\n" = 1 := by decide
  have hclose : lineBreaks "\x7d\n" = 1 := by decide
  simp only [newCommand, breaks_append, breaks_cons, breaks_deepen, breaks_nil, Piece.text, lineBreaks_append,
    lineBreaks_shown harity, hname, hcommand, hbracket, hopen, hclose]
  omega

lemma breaks_block (slides? : Option Slides) (htitle : lineBreaks title = 0) (body : List Piece) :
    breaks (block slides? title body) = 2 + breaks body := by
  have hbegin : lineBreaks "\\begin\x7bblock\x7d" = 0 := by decide
  have hline : lineBreaks "\n" = 1 := by decide
  have hend : lineBreaks "\\end\x7bblock\x7d\n" = 1 := by decide
  have hrange : lineBreaks ((slides?.map Slides.range).getD "") = 0 := by
    cases slides? with
    | none => rfl
    | some n => exact lineBreaks_range n
  simp only [block, breaks_append, breaks_cons, breaks_deepen, breaks_nil, Piece.text, lineBreaks_append,
    lineBreaks_braced, hrange, htitle, hbegin, hline, hend]
  omega

lemma breaks_node {n : Node} (holdsCode : Bool) (hlabels : ∀ label ∈ n.content.labels, lineBreaks label = 0)
    (hleaf : n.kind.isContainer = false → body = []) :
    breaks (node n holdsCode body) = n.breaks + breaks body := by
  obtain ⟨content, foreign?, parent?, slides?, children, odd⟩ := n
  cases content with
  | raw text =>
    obtain rfl := hleaf rfl
    simp [node, Node.breaks, Piece.text]
  | text source =>
    obtain rfl := hleaf rfl
    simp [node, Node.breaks, Piece.text, lineBreaks_translate]
  | command name a | package name a =>
    obtain rfl := hleaf rfl
    obtain ⟨hname, ha⟩ := List.forall_mem_cons.mp hlabels
    exact breaks_command hname ha slides?
  | containingCommand name a =>
    obtain ⟨hname, ha⟩ := List.forall_mem_cons.mp hlabels
    exact breaks_containingCommand hname ha body
  | newCommand name arity =>
    obtain ⟨hname, harity⟩ := List.forall_mem_cons.mp hlabels
    exact breaks_newCommand hname harity body
  | environment form name a =>
    obtain ⟨hname, ha⟩ := List.forall_mem_cons.mp hlabels
    have hoptions : ∀ option ∈ a.options, lineBreaks option = 0 :=
      fun option h => ha option (by simp [Arguments.texts, h])
    exact breaks_environment hname ha slides? (forall_mem_environmentOptions (by decide) hoptions) body
  | block title | code title language listing =>
    exact breaks_block slides? (hlabels title List.mem_cons_self) body
  | header => exact (Nat.zero_add _).symm

end Layout

end SlideDeck
