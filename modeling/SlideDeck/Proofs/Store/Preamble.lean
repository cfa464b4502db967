import SlideDeck.Proofs.Store.Opening

/-! The preamble of a new presentation states the settings that it is built from: the class with its options, the
packages in their order, and an outline at the start of each section if one is asked for. -/

namespace SlideDeck

def commandLine (name : String) (options : List String) (argument : String) (comment? : Option String) : String :=
  "\\" ++ name ++ (if options = [] then "" else "[" ++ ", ".intercalate options ++ "]") ++
    "\x7b" ++ argument ++ "\x7d" ++ (comment?.map (" % " ++ ·)).getD "" ++ "\n"

def PackageLine.line (p : PackageLine) : String :=
  commandLine "usepackage" (p.options.map CodeText.shown) p.name.shown (p.comment?.map CodeText.shown)

def outlineText (step title : String) : String :=
  "\\" ++ "AtBeginSection" ++ "\x7b\n" ++
    Deck.slideText step step (braced title) "tableofcontents[currentsection]" ++ "\x7d\n"

namespace Settings

def preambleText (c : Settings) (outlineTitle? : Option String) : String :=
  commandLine "documentclass" (c.classOptions.map CodeText.shown) c.documentClass.shown none ++
    "\n% = standard packages for 21st-century LaTeX =\n" ++
    String.join (c.packages.map PackageLine.line) ++
    "\n% = additional configuration =\n" ++
    (outlineTitle?.map (outlineText c.indent.shown)).getD ""

def classArguments (c : Settings) : Arguments where
  required := [c.documentClass.shown]
  options := c.classOptions.map CodeText.shown

def plan (c : Settings) : Preamble where
  classArguments := c.classArguments
  foreign? := none
  packages := c.packages

def preambleDrafts (c : Settings) : List Draft :=
  .command "documentclass" c.classArguments :: Deck.preambleDrafts c.packages

lemma preamble_loose (c : Settings) : c.loose.preamble = .ok c.plan := by
  have htexts : (c.classOptions.map Datum.text).mapM LooseSettings.text? = some c.classOptions := by
    rw [mapM_eq_some, List.forall₂_map_left_iff, List.forall₂_same]
    exact fun _ _ => rfl
  simp only [LooseSettings.preamble, loose, LooseSettings.optionData, LooseSettings.classLine, bind, Except.bind,
    htexts]
  rfl

lemma step?_loose (c : Settings) : c.loose.step? = some c.indent.shown := rfl

lemma listing?_preambleDrafts (c : Settings) : ∀ draft ∈ c.preambleDrafts, draft.listing? = none := by
  intro draft hdraft
  simp only [preambleDrafts, Deck.preambleDrafts, List.mem_cons, List.mem_append, List.mem_map, List.not_mem_nil,
    or_false] at hdraft
  rcases hdraft with rfl | ((rfl | rfl) | ⟨p, -, rfl⟩) | rfl | rfl <;> rfl

end Settings

def outlineTree (preamble n : NodeId) (title : String) : Tree :=
  .node n { content := .containingCommand "AtBeginSection" {}, parent? := some preamble, children := [n + 1] }
    [.holder n (n + 1) (.environment .plain "frame" { required := [title] })
      (.command "tableofcontents" { options := ["currentsection"] })]

def Settings.preambleForest (c : Settings) (preamble n : NodeId) (outlineTitle? : Option String) : Forest :=
  Forest.leaves preamble n c.preambleDrafts ++
    (outlineTitle?.map (outlineTree preamble (n + c.preambleDrafts.length))).toList

lemma Node.isWritable_new (content : Content) (parent? : Option NodeId) :
    Node.isWritable true { content, parent? } = true := by
  simp [isWritable, halt?, halts, failsLate]

lemma Settings.isWritable_preambleForest (c : Settings) (preamble n : NodeId) (outlineTitle? : Option String) :
    Forest.isWritable true (c.preambleForest preamble n outlineTitle?) = true := by
  have hleaves (drafts : List Draft) (n : NodeId) :
      Forest.isWritable true (Forest.leaves preamble n drafts) = true := by
    induction drafts generalizing n with
    | nil => rfl
    | cons draft rest ih =>
      have hleaf := Node.isWritable_new (draft.content (n + 1)) (some preamble)
      rw [Forest.leaves, Forest.isWritable, Forest.nodes, List.all_append, ← Forest.isWritable, ih, Bool.and_true]
      exact (Bool.and_true _).trans hleaf
  rw [preambleForest, Forest.isWritable_append, hleaves]
  cases outlineTitle? <;> rfl

section Texts

open Layout

variable {base step argument : String} {a : Arguments}

lemma Layout.render_commandLine (ha : a.required = [argument]) (name : String) :
    render "" step (Layout.command none name a) = commandLine name a.options argument a.comment? := by
  obtain ⟨required, options, comment?⟩ := a
  obtain rfl : required = [argument] := ha
  refine String.toList_injective ?_
  cases options <;> cases comment? <;>
    simp [Layout.command, commandText, commandLine, bracketed, trailing, render, Piece.render, braced]

def Draft.written (base step : String) (draft : Draft) : String :=
  render base step (node { content := draft.content 0 } false [])

lemma Draft.written_raw (text : String) : (Draft.raw text).written base step = text :=
  String.join_cons.trans String.append_empty

lemma Forest.render_leaves (c n : NodeId) {drafts : List Draft} (hleaves : ∀ draft ∈ drafts, draft.listing? = none) :
    render base step (Forest.pieces (Forest.leaves c n drafts)) =
      String.join (drafts.map (Draft.written base step)) := by
  induction drafts generalizing n with
  | nil => rfl
  | cons draft rest ih =>
    obtain ⟨hleaf, hrest⟩ := List.forall_mem_cons.mp hleaves
    have hcontent : draft.content (n + 1) = draft.content 0 := by
      cases draft with
      | code language title? => cases hleaf
      | _ => rfl
    have hwritten : render base step (Tree.leaf c n (draft.content (n + 1))).pieces = draft.written base step := by
      rw [hcontent]
      rfl
    rw [Forest.leaves, Forest.pieces, render_append, hwritten, ih (n + 1) hrest, List.map_cons, String.join_cons]

lemma render_outlineTree (preamble n : NodeId) (title : String) :
    render "" step (outlineTree preamble n title).pieces = outlineText step title := by
  simp [outlineTree, outlineText, Deck.slideText, Tree.holder, Tree.leaf, Forest.pieces, Tree.pieces, node,
    containingCommand, environment, plainEnvironment, environmentOptions, Layout.command, commandText, bracketed,
    trailing, render, Piece.render, Piece.deepen, String.append_assoc]

lemma Settings.written_preambleDrafts (c : Settings) : String.join (c.preambleDrafts.map (Draft.written "" step)) =
    commandLine "documentclass" (c.classOptions.map CodeText.shown) c.documentClass.shown none ++
      "\n% = standard packages for 21st-century LaTeX =\n" ++ String.join (c.packages.map PackageLine.line) ++
      "\n% = additional configuration =\n" := by
  have hclass : (Draft.command "documentclass" c.classArguments).written "" step =
      commandLine "documentclass" (c.classOptions.map CodeText.shown) c.documentClass.shown none :=
    render_commandLine rfl "documentclass"
  have hpackage (p : PackageLine) : (Draft.package p.name.shown (p.options.map CodeText.shown)
      (p.comment?.map CodeText.shown)).written "" step = p.line := render_commandLine rfl "usepackage"
  have hpackages : "\n" ++ ("%" ++ " = standard packages for 21st-century LaTeX =" ++ "\n" ++ String.join []) =
      "\n% = standard packages for 21st-century LaTeX =\n" := rfl
  have hadditions : "\n" ++ ("%" ++ " = additional configuration =" ++ "\n" ++ String.join []) =
      "\n% = additional configuration =\n" := rfl
  simp only [preambleDrafts, Deck.preambleDrafts, Draft.blankline, Draft.comment, List.map_cons, List.map_append,
    List.map_map, List.map_nil, Function.comp_def, hclass, Draft.written_raw, hpackage, String.join_cons,
    String.join_append]
  rw [hpackages, hadditions]
  simp only [String.append_assoc]

lemma Settings.render_preambleForest (c : Settings) (preamble n : NodeId) (outlineTitle? : Option String) :
    render "" c.indent.shown (Forest.pieces (c.preambleForest preamble n outlineTitle?)) =
      c.preambleText outlineTitle? := by
  have houtline : render "" c.indent.shown (Forest.pieces
      (outlineTitle?.map (outlineTree preamble (n + c.preambleDrafts.length))).toList) =
      (outlineTitle?.map (outlineText c.indent.shown)).getD "" := by
    cases outlineTitle? with
    | none => rfl
    | some title => simp [Forest.pieces, render_outlineTree]
  rw [preambleForest, Forest.pieces_eq, List.flatMap_append, ← Forest.pieces_eq, ← Forest.pieces_eq, render_append,
    houtline, Forest.render_leaves preamble n c.listing?_preambleDrafts, c.written_preambleDrafts]
  rfl

end Texts

variable {s : Store}

namespace Deck

lemma adds_addOutline {preamble : NodeId} (hp : preamble < s.size) (title : String) :
    s.Adds (addOutline s preamble title) preamble [] [outlineTree preamble s.size title] := by
  let hook := (s.createIn preamble (.containingCommand "AtBeginSection") .last).1
  let filled := ((hook.createIn s.size (.environment "frame" [title]) .last).1.createIn hook.size
    (.command "tableofcontents" { options := ["currentsection"] }) .last).1
  have hsize : hook.size = s.size + 1 := Store.size_createIn .last rfl
  have hslide : hook.Adds filled s.size [] [_] :=
    Store.adds_holder (.environment "frame" [title]) (.command "tableofcontents" { options := ["currentsection"] })
      .last (by rw [hsize]; exact Nat.lt_succ_self _) rfl rfl
  rw [hsize] at hslide
  exact Store.adds_nested (.containingCommand "AtBeginSection") .last hp rfl hslide

lemma buildPreamble_eq (s : Store) (c : Settings) (outlineTitle? : Option String) :
    let filled := (s.create .header).1.createAllIn s.size c.preambleDrafts
    buildPreamble s c.plan outlineTitle? =
      ((outlineTitle?.map (addOutline filled s.size)).getD filled, s.size) := by
  intro filled
  let made := (s.create .header).1
  have hlt : s.size < made.size := Store.size_lt_size_create s .header
  -- settings that are texts have no foreign arguments to put down
  have hkept : (made.createIn s.size (.command "documentclass" c.classArguments) .last).1.modify made.size
      (fun node => { node with foreign? := none }) =
      (made.createIn s.size (.command "documentclass" c.classArguments) .last).1 := by
    refine Store.modify_eq_self ?_
    rw [Store.node_createIn .last hlt rfl, if_pos rfl]
  have hcreate : s.create .header = (made, s.size) := Prod.ext rfl (Store.create_snd s .header)
  have hfilled : filled = (made.createIn s.size (.command "documentclass" c.classArguments) .last).1.createAllIn
      s.size (Deck.preambleDrafts c.packages) := by
    simp only [filled, Settings.preambleDrafts, Store.createAllIn, List.foldl_cons, made]
  rw [hfilled, buildPreamble, hcreate]
  simp only [Settings.plan, Store.createIn_snd, hkept]
  cases outlineTitle? with
  | none => rw [Option.map_none, Option.getD_none]
  | some title => rw [Option.map_some, Option.getD_some]

lemma adds_buildPreamble (s : Store) (c : Settings) (outlineTitle? : Option String) :
    let made := (s.create .header).1
    made.Adds (buildPreamble s c.plan outlineTitle?).1 s.size []
      (c.preambleForest s.size made.size outlineTitle?) := by
  intro made
  have hlt : s.size < made.size := Store.size_lt_size_create s .header
  have hlines := Store.adds_leaves hlt c.listing?_preambleDrafts
  have hsize := Store.size_createAllIn (s := made) (c := s.size) c.listing?_preambleDrafts
  rw [buildPreamble_eq, Settings.preambleForest]
  cases outlineTitle? with
  | none =>
    simpa using hlines
  | some title =>
    have houtline := adds_addOutline (Nat.lt_of_lt_of_le hlt hlines.size_le) title
    rw [hsize] at houtline
    exact hlines.trans houtline hlt

/-- A presentation whose preamble says what settings state, and that holds nothing else. -/
structure Blank (d : Deck) (s : Store) (c : Settings) (outlineTitle? : Option String) (preamble : Tree) : Prop where
  consists : d.Consists s preamble (.node d.header { content := .header } [])
    (.node d.document { content := .environment .plain "document" {} } [])
  writable : preamble.isWritable true = true
  render : preamble.render c.indent.shown = c.preambleText outlineTitle?

lemma exists_build (hs : s.WellFormed) (c : Settings) (place : Nat) (outlineTitle? : Option String) :
    ∃ t d preamble, build s c.loose place outlineTitle? = .ok (t, d) ∧ d.settings = place ∧
      d.Blank t c outlineTitle? preamble := by
  let made := (s.create (.environment "document" [])).1
  let headed := (made.create .header).1
  let built := (buildPreamble made c.plan outlineTitle?).1
  let forest := c.preambleForest made.size headed.size outlineTitle?
  let t := (built.create .header).1
  let d : Deck :=
    { outlineTitle := .ofText? outlineTitle?, settings := place, document := s.size, preamble := made.size, header := built.size }
  have hbuild : build s c.loose place outlineTitle? = .ok (t, d) := by
    have hpreamble : buildPreamble made c.plan outlineTitle? = (built, made.size) := by
      simp only [built, buildPreamble_eq]
    simp only [build, Settings.preamble_loose, bind, Except.bind, Store.create_snd]
    rw [hpreamble]
    rfl
  have hadds : headed.Adds built made.size [] forest := adds_buildPreamble made c outlineTitle?
  have hnew : made.Makes headed (.node made.size { content := .header } []) := Store.makes_create rfl
  have hempty : headed.node made.size = { content := .header } := hnew.reads.root_eq.symm
  have hpreamble : made.Makes t (.node made.size { content := .header, children := forest.map Tree.id } forest) := by
    rw [← hempty] at hnew
    have hfilled := (hadds.makes_host hnew).create .header
    rwa [hadds.container, Store.children, hempty] at hfilled
  have hdocument : s.Makes t (.node s.size { content := .environment .plain "document" {} } []) := by
    have hmade : s.Makes made _ := Store.makes_create rfl
    exact ((hmade.create .header).kept hadds fun hmem => absurd (hmade.fresh _ hmem).2 (Nat.lt_irrefl _)).create .header
  have hheader : built.Makes t _ := Store.makes_create rfl
  have ht : t.WellFormed := (build_edits hbuild).1.wellFormed hs
  refine ⟨t, d, _, hbuild, rfl, ⟨Store.tree?_of_matches ht hpreamble.reads, Store.tree?_of_matches ht hheader.reads,
    Store.tree?_of_matches ht hdocument.reads⟩, c.isWritable_preambleForest made.size headed.size outlineTitle?, ?_⟩
  rw [Tree.render, Tree.pieces, Layout.node_header rfl]
  exact c.render_preambleForest made.size headed.size outlineTitle?

section Blank

variable {d : Deck} {c : Settings} {outlineTitle? : Option String} {preamble : Tree}

lemma Blank.not_climbs (h : d.Blank s c outlineTitle? preamble) (hd : d.Within s) (happart : d.preamble ≠ d.header) :
    ¬ s.Climbs d.header d.preamble ∧ ¬ s.Climbs d.document d.preamble := by
  have hheader := (Store.matches_of_tree? h.consists.header).2.root_eq
  have hdocument := (Store.matches_of_tree? h.consists.document).2.root_eq
  exact ⟨fun hclimbs => happart (hclimbs.eq_of_free (congrArg Node.parent? hheader.symm)),
    fun hclimbs => hd.preamble_ne_document (hclimbs.eq_of_free (congrArg Node.parent? hdocument.symm))⟩

lemma Blank.preamble_outcome (h : d.Blank s c outlineTitle? preamble) (hs : s.WellFormed) :
    (s.rendering (some c.indent.shown) d.preamble).outcome = .ok (c.preambleText outlineTitle?) := by
  rw [Store.rendering_of_tree? hs _ h.consists.preamble, Tree.write, Option.isSome_some, if_pos h.writable,
    Option.getD_some, h.render]

lemma Blank.outcome (h : d.Blank s c outlineTitle? preamble) (hs : s.WellFormed) :
    (d.rendering s c.loose).outcome = .ok (c.preambleText outlineTitle? ++ "\n\\begin\x7bdocument\x7d\n\\end\x7bdocument\x7d\n") := by
  have hcode : (d.codeRendering s c.loose).outcome = .ok "" := by
    rw [codeRendering, Store.has?_of_tree? .code h.consists.document]
    rfl
  have hheader : (s.rendering (some c.indent.shown) d.header).outcome = .ok "" := by
    rw [Store.rendering_of_tree? hs _ h.consists.header]
    rfl
  have hdocument : (s.rendering (some c.indent.shown) d.document).outcome =
      .ok "\\begin\x7bdocument\x7d\n\\end\x7bdocument\x7d\n" := by
    rw [Store.rendering_of_tree? hs _ h.consists.document]
    exact congrArg Except.ok rfl
  simp only [rendering, Rendering.followedBy_outcome, c.step?_loose, h.preamble_outcome hs, hcode, hheader, hdocument]
  exact congrArg (fun rest => Except.ok (c.preambleText outlineTitle? ++ rest)) rfl

lemma exists_rest {settings : LooseSettings} {text : String} (h : (d.rendering s settings).outcome = .ok text) :
    ∃ first rest, (s.rendering settings.step? d.preamble).outcome = .ok first ∧ text = first ++ rest := by
  rw [rendering, Rendering.followedBy_outcome] at h
  cases hfirst : (s.rendering settings.step? d.preamble).outcome with
  | error cause =>
    rw [hfirst] at h
    cases h
  | ok first =>
    rw [hfirst] at h
    simp only [bind, Except.bind] at h
    split at h
    · cases h
    · next rest _ =>
      cases h
      exact ⟨first, rest, rfl, rfl⟩

end Blank

end Deck

end SlideDeck
