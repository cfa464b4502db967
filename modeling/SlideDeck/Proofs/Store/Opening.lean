import SlideDeck.Proofs.Store.Additions
import SlideDeck.Proofs.Store.DeckText

/-! What a presentation gets when its title is declared: lines at the end of its header, and two slides before all
that its document holds. -/

namespace SlideDeck

namespace Deck

variable {d : Deck} {s t u : Store} {lines slides : Forest} {title author : String} {date? subtitle? : Option String}

/-- From `s` to `t`, new lines stand at the end of the header and new slides before the content of the document, and
nothing else has changed. -/
structure Opens (d : Deck) (s t : Store) (lines slides : Forest) : Prop where
  size_le : s.size ≤ t.size
  header : t.node d.header = { s.node d.header with children := s.children d.header ++ lines.map Tree.id }
  document : t.node d.document =
    { s.node d.document with children := slides.map Tree.id ++ s.children d.document }
  others : ∀ m < s.size, m ≠ d.header → m ≠ d.document → t.node m = s.node m
  makes : ∀ v ∈ lines ++ slides, s.Makes t v

lemma Within.header_ne_document (hd : d.Within s) : d.header ≠ d.document := by
  intro heq
  have hkind := hd.header.kind_eq
  rw [heq, hd.document.kind_eq] at hkind
  cases hkind

lemma Within.preamble_ne_document (hd : d.Within s) : d.preamble ≠ d.document := by
  intro heq
  have hkind := hd.preamble.kind_eq
  rw [heq, hd.document.kind_eq] at hkind
  cases hkind

lemma Within.exists_environment (hd : d.Within s) :
    ∃ name a, (s.node d.document).content = .environment .plain name a :=
  Content.exists_plain hd.document.kind_eq

lemma opens_of_adds (hd : d.Within s) (hlines : s.Adds t d.header [] lines) (hslides : t.Adds u d.document slides []) :
    d.Opens s u lines slides where
  size_le := Nat.le_trans hlines.size_le hslides.size_le
  header := by
    have hlt := Nat.lt_of_lt_of_le hd.header.lt_size hlines.size_le
    rw [hslides.others _ hlt hd.header_ne_document, hlines.container]
    rfl
  document := by
    have hkept := hlines.others _ hd.document.lt_size hd.header_ne_document.symm
    rw [hslides.container, Store.children, hkept, List.map_nil, List.append_nil]
    rfl
  others m hm hheader hdocument :=
    (hslides.others m (Nat.lt_of_lt_of_le hm hlines.size_le) hdocument).trans (hlines.others m hm hheader)
  makes v hv := by
    rcases List.mem_append.mp hv with hv | hv
    · exact (hlines.makes v hv).adds hslides hd.document.lt_size
    · exact (hslides.makes v (List.mem_append_left [] hv)).before hlines.size_le

def titleTrees (header n : NodeId) (title author : String) (date? subtitle? : Option String) : Forest :=
  let command (name text : String) : Draft := .command name { required := [text] }
  let names := Forest.leaves header n [command "title" title, command "author" author]
  let subtitle (n : NodeId) := Forest.leaves header n (subtitle?.map (command "subtitle")).toList
  match date? with
  | some date => names ++ Forest.leaves header (n + 2) [command "date" date] ++ subtitle (n + 3)
  | none => names ++ [.holder header (n + 2) (.containingCommand "date" {}) (.command "today" {})] ++ subtitle (n + 4)

def slideTree (document n : NodeId) (title? : Option String) (command : String) (options : List String) : Tree :=
  .holder document n (.environment .frame "frame" { required := title?.toList }) (.command command { options })

def openingTrees (document n : NodeId) (title : String) : Forest :=
  [slideTree document (n + 2) none "titlepage" [],
    slideTree document n (some title) "tableofcontents" ["hideallsubsections"]]

lemma adds_addTitle {header : NodeId} (hh : header < s.size) (title author : String)
    (date? subtitle? : Option String) : s.Adds (addTitle s header title author date? subtitle?) header []
      (titleTrees header s.size title author date? subtitle?) := by
  let command (name text : String) : Draft := .command name { required := [text] }
  have hsubtitle : ∀ draft ∈ (subtitle?.map (command "subtitle")).toList, draft.listing? = none := by
    cases subtitle? <;> simp [command, Draft.listing?]
  have hnames : s.Adds (s.createAllIn header [command "title" title, command "author" author]) header [] _ :=
    Store.adds_leaves hh (by simp [command, Draft.listing?])
  let named := s.createAllIn header [command "title" title, command "author" author]
  have hnamed : named.size = s.size + 2 := Store.size_createAllIn (by simp [command, Draft.listing?])
  have hlt : header < named.size := Nat.lt_of_lt_of_le hh hnames.size_le
  cases date? with
  | some date =>
    let dated := named.createAllIn header [command "date" date]
    have hdate : named.Adds dated header [] _ := Store.adds_leaves hlt (by simp [command, Draft.listing?])
    have hdated : dated.size = s.size + 3 :=
      (Store.size_createAllIn (by simp [command, Draft.listing?])).trans (congrArg (· + 1) hnamed)
    have hlast := Store.adds_leaves (Nat.lt_of_lt_of_le hlt hdate.size_le) hsubtitle
    rw [hnamed] at hdate
    rw [hdated] at hlast
    exact (hnames.trans hdate hh).trans hlast hh
  | none =>
    let dated := ((named.createIn header (.containingCommand "date") .last).1.createIn named.size (.command "today" {})
      .last).1
    have hdate : named.Adds dated header [] [_] :=
      Store.adds_holder (.containingCommand "date") (.command "today" {}) .last hlt rfl rfl
    have hdated : dated.size = s.size + 4 := by
      rw [Store.size_createIn .last rfl, Store.size_createIn .last rfl, hnamed]
    have hlast := Store.adds_leaves (Nat.lt_of_lt_of_le hlt hdate.size_le) hsubtitle
    rw [hnamed] at hdate
    rw [hdated] at hlast
    simp only [addTitle, Store.createIn_snd]
    exact (hnames.trans hdate hh).trans hlast hh

lemma adds_openWith {document : NodeId} (hd : document < s.size) (title? : Option String) (command : String)
    (options : List String) : s.Adds (openWith s document title? command options) document
      [slideTree document s.size title? command options] [] := by
  have hholder := Store.adds_holder (.frame title?) (.command command { options }) .first hd rfl rfl
  simp only [openWith, Store.createIn_snd]
  exact hholder

lemma setTitle_opens (hd : d.Within s) (title author : String) (date? subtitle? : Option String) :
    ∃ n, d.Opens s (d.setTitle s title author date? subtitle?)
      (titleTrees d.header s.size title author date? subtitle?) (openingTrees d.document n title) := by
  let titled := addTitle s d.header title author date? subtitle?
  let outlined := openWith titled d.document (some title) "tableofcontents" ["hideallsubsections"]
  have hlines := adds_addTitle hd.header.lt_size title author date? subtitle?
  have hlt : d.document < titled.size := Nat.lt_of_lt_of_le hd.document.lt_size hlines.size_le
  have houtline : titled.Adds outlined d.document _ [] :=
    adds_openWith hlt (some title) "tableofcontents" ["hideallsubsections"]
  have hpage := adds_openWith (Nat.lt_of_lt_of_le hlt houtline.size_le) none "titlepage" []
  have houtlined : outlined.size = titled.size + 2 := by
    simp only [outlined, openWith, Store.createIn_snd]
    exact (Store.size_createIn .last rfl).trans (congrArg (· + 1) (Store.size_createIn .first rfl))
  rw [houtlined] at hpage
  exact ⟨titled.size, opens_of_adds hd hlines (houtline.trans hpage hlt)⟩

end Deck

lemma Tree.Matches.exists_parent? {s : Store} {r m : NodeId} {root : Node} {children : Forest} (hs : s.WellFormed)
    (ht : (Tree.node r root children).Matches s) (hm : m ∈ Forest.ids children) : ∃ p, s.parent? m = some p := by
  cases ht with
  | node r children hids hbelow =>
    obtain ⟨v, hv, hmv⟩ := Forest.mem_ids.mp hm
    rcases (((hbelow v hv).mem_ids_iff hs).mp hmv).cases_head with rfl | ⟨p, hp, -⟩
    · exact ⟨r, parent?_of_mem hs hids hv⟩
    · exact ⟨p, hp⟩

namespace Deck.Opens

open Layout

variable {d : Deck} {s t : Store} {lines slides : Forest}

section Trees

variable (h : d.Opens s t lines slides) (hs : s.WellFormed) (hheader : s.parent? d.header = none)
  (hdocument : s.parent? d.document = none)

include h hs hheader hdocument

lemma host {r : NodeId} {root : Node} {children : Forest} (front back : Forest) (hr : (Tree.node r root children).Matches s)
    (hnew : ∀ v ∈ front ++ back, v.Matches t)
    (hids : t.children r = front.map Tree.id ++ s.children r ++ back.map Tree.id) :
    (Tree.node r (t.node r) (front ++ children ++ back)).Matches t := by
  -- the header and the document have no parents, so that neither lies below the node
  have hkeeps : ∀ v ∈ children, v.Matches s → v.Matches t := by
    refine fun v hv hmatches => hmatches.congr fun m hm => ?_
    obtain ⟨p, hp⟩ := hr.exists_parent? hs (Forest.mem_ids.mpr ⟨v, hv, hm⟩)
    refine h.others m (Store.lt_size_of_parent? s m hp) ?_ ?_
    · rintro rfl
      rw [hheader] at hp
      cases hp
    · rintro rfl
      rw [hdocument] at hp
      cases hp
  cases hr with
  | node r children hchildren hbelow =>
    refine .node r _ ?_ fun v hv => ?_
    · rw [hids, ← hchildren, List.map_append, List.map_append]
    · simp only [List.mem_append] at hv hnew
      rcases hv with (hv | hv) | hv
      · exact hnew v (.inl hv)
      · exact hkeeps v hv (hbelow v hv)
      · exact hnew v (.inr hv)

lemma consists {preamble header document : Tree} (ht : t.WellFormed) (hd : d.Within s)
    (happart : d.preamble ≠ d.header) (hparts : d.Consists s preamble header document) :
    d.Consists t preamble (.node d.header (t.node d.header) (header.children ++ lines))
      (.node d.document (t.node d.document) (slides ++ document.children)) := by
  obtain ⟨hpid, hp⟩ := Store.matches_of_tree? hparts.preamble
  obtain ⟨hhid, hh⟩ := Store.matches_of_tree? hparts.header
  obtain ⟨hdid, hdoc⟩ := Store.matches_of_tree? hparts.document
  have hmade (v : Tree) (hv : v ∈ lines ++ slides) : v.Matches t := (h.makes v hv).reads
  refine ⟨?_, ?_, ?_⟩
  · obtain ⟨r, root, children⟩ := preamble
    obtain rfl : r = d.preamble := hpid
    have hkept := h.others d.preamble hd.preamble.lt_size happart hd.preamble_ne_document
    have hroot : root = s.node d.preamble := hp.root_eq
    have hnew := host h hs hheader hdocument [] [] hp (List.forall_mem_nil _)
      (by simp [Store.children, hkept])
    rw [List.nil_append, List.append_nil, hkept, ← hroot] at hnew
    exact Store.tree?_of_matches ht hnew
  · obtain ⟨r, root, children⟩ := header
    obtain rfl : r = d.header := hhid
    have hnew := host h hs hheader hdocument [] lines hh
      (fun v hv => hmade v (List.mem_append_left _ hv)) (by simp [Store.children, h.header])
    exact Store.tree?_of_matches ht hnew
  · obtain ⟨r, root, children⟩ := document
    obtain rfl : r = d.document := hdid
    have hnew := host h hs hheader hdocument slides [] hdoc
      (fun v hv => hmade v (List.mem_append_right _ (by simpa using hv))) (by simp [Store.children, h.document])
    rw [List.append_nil] at hnew
    exact Store.tree?_of_matches ht hnew

end Trees

end Deck.Opens

section Texts

open Layout

variable (id : NodeId) {root : Node} {name : String} {a : Arguments}

lemma Layout.node_header (hroot : root.kind = .header) (holdsCode : Bool) (body : List Piece) :
    node root holdsCode body = body := by
  rw [node, Content.eq_header hroot]

lemma Tree.render_header (hroot : root.kind = .header) (children back : Forest) (step : String) :
    (Tree.node id root (children ++ back)).render step =
      (Tree.node id root children).render step ++ Layout.render "" step (Forest.pieces back) := by
  simp only [Tree.render, Tree.pieces, Layout.node_header hroot]
  rw [← Layout.render_append, Forest.pieces_eq, List.flatMap_append, ← Forest.pieces_eq, ← Forest.pieces_eq]

def Layout.beginning (slides? : Option Slides) (name : String) (a : Arguments) : List Piece :=
  overlayLine slides? ++ [.line (overlayLine slides?).length (beginLine name a.options a)]

lemma Layout.node_plain (hroot : root.content = .environment .plain name a) (holdsCode : Bool) (body : List Piece) :
    node root holdsCode body =
      beginning root.slides? name a ++ deepenBy (levels root) body ++ closing root false := by
  have hkind : root.kind.isContainer = true := by
    rw [Node.kind, hroot]
    rfl
  have hcode (body : List Piece) : node root holdsCode body = node root false body := by
    rw [node, node, hroot]
    rfl
  have hopening : opening root false = beginning root.slides? name a := by
    obtain ⟨content, foreign?, parent?, slides?, ids, odd⟩ := root
    obtain rfl : content = .environment .plain name a := hroot
    cases slides? <;>
      simp [opening, levels, node, environment, plainEnvironment, environmentOptions, beginning, overlayLine,
        beginLine, Piece.deepen]
  rw [hcode, node_eq hkind, hopening]

lemma Tree.render_plain (hroot : root.content = .environment .plain name a) (front children : Forest)
    (step : String) : (Tree.node id root (front ++ children)).render step =
      Layout.render "" step (beginning root.slides? name a) ++
        Layout.render (String.join (List.replicate (levels root) step)) step (Forest.pieces front) ++
        (Layout.render (String.join (List.replicate (levels root) step)) step (Forest.pieces children) ++
          Layout.render "" step (closing root false)) := by
  rw [Tree.render, Tree.pieces, Layout.node_plain hroot, Forest.pieces_eq, List.flatMap_append, ← Forest.pieces_eq,
    ← Forest.pieces_eq, Layout.deepenBy_append]
  simp only [Layout.render_append, Layout.render_deepenBy, String.empty_append, String.append_assoc]

end Texts

namespace Deck

open Layout

def titleText (step title author : String) (date? subtitle? : Option String) : String :=
  let line (name text : String) := "\\" ++ name ++ braced text ++ "\n"
  line "title" title ++ line "author" author ++
    (match date? with
      | some date => line "date" date
      | none => "\\date\x7b\n" ++ step ++ "\\today\n\x7d\n") ++
    (subtitle?.map (line "subtitle")).getD ""

def slideText (base step title command : String) : String :=
  base ++ "\\begin" ++ braced "frame" ++ title ++ "\n" ++ base ++ step ++ "\\" ++ command ++ "\n" ++
    base ++ "\\end" ++ braced "frame" ++ "\n"

def openingText (base step title : String) : String :=
  slideText base step "" "titlepage" ++ slideText base step (braced title) "tableofcontents[hideallsubsections]"

variable {d : Deck} {s t : Store} {lines slides : Forest} {settings : LooseSettings}

lemma render_titleTrees (header n : NodeId) (step title author : String) (date? subtitle? : Option String) :
    Layout.render "" step (Forest.pieces (titleTrees header n title author date? subtitle?)) =
      titleText step title author date? subtitle? := by
  refine String.toList_injective ?_
  cases date? <;> cases subtitle? <;>
    simp [titleTrees, titleText, Forest.leaves, Draft.content, Tree.leaf, Tree.holder, Forest.pieces, Tree.pieces,
      Layout.node, Layout.command, commandText, containingCommand, bracketed, trailing, Layout.render, Piece.render,
      Piece.deepen]

lemma render_openingTrees (document n : NodeId) (base step title : String) :
    Layout.render base step (Forest.pieces (openingTrees document n title)) = openingText base step title := by
  simp [openingTrees, slideTree, openingText, slideText, Tree.leaf, Tree.holder, Forest.pieces, Tree.pieces,
    Forest.holds, Tree.holds, Tree.kind, Tree.root, Node.kind, Content.kind,
    Layout.node, environment, plainEnvironment, environmentOptions, Layout.command, commandText, bracketed, trailing,
    Layout.render, Piece.render, Piece.deepen, String.append_assoc]

structure Harmless (lines slides : Forest) : Prop where
  writable : Forest.isWritable true lines = true ∧ Forest.isWritable true slides = true
  code : Forest.holds .code slides = false

lemma harmless (header document n m : NodeId) (title author : String) (date? subtitle? : Option String) :
    Harmless (titleTrees header n title author date? subtitle?) (openingTrees document m title) where
  writable := ⟨by cases date? <;> cases subtitle? <;> rfl, rfl⟩
  code := rfl

end Deck

section Grown

variable {id : NodeId} {root : Node} {f new : Forest} {hasStep : Bool} {step? : Option String} {cause : Obstacle}

lemma Node.halt?_of_isWritable {n : Node} (hn : n.isWritable true = true) (hasStep : Bool) :
    n.halt? hasStep = none ∨ hasStep = false ∧ n.halt? hasStep = some .foreign := by
  rw [isWritable, Bool.and_eq_true, Option.isNone_iff_eq_none] at hn
  cases hasStep with
  | true => exact .inl hn.1
  | false =>
    have hhalts := hn.1
    rw [halt?] at hhalts ⊢
    split_ifs at hhalts with hstops htext
    · split_ifs
      · exact .inr ⟨rfl, rfl⟩
      · exact .inl hhalts
    · split_ifs
      · exact .inr ⟨rfl, rfl⟩
      · exact .inl rfl

lemma Forest.halt?_of_isWritable (hnew : Forest.isWritable true new = true) (hasStep : Bool) :
    (Forest.nodes new).findSome? (·.halt? hasStep) = none ∨
      hasStep = false ∧ (Forest.nodes new).findSome? (·.halt? hasStep) = some .foreign := by
  cases hfound : (Forest.nodes new).findSome? (·.halt? hasStep) with
  | none => exact .inl rfl
  | some cause =>
    obtain ⟨n, hn, hhalts⟩ := List.exists_of_findSome?_eq_some hfound
    rcases n.halt?_of_isWritable (List.all_eq_true.mp hnew n hn) hasStep with hnone | ⟨hstep, hforeign⟩
    · simp [hnone] at hhalts
    · exact .inr ⟨hstep, hhalts ▸ hforeign⟩

namespace Tree

lemma write_error_iff {t : Tree} : t.write step? = .error cause ↔
    t.isWritable step?.isSome = false ∧ (t.halt? step?.isSome).getD .foreign = cause := by
  rw [write]
  split_ifs with hwritable <;> simp [hwritable]

lemma halt?_node (hasStep : Bool) (id : NodeId) (root : Node) (f : Forest) : (Tree.node id root f).halt? hasStep =
    (root.halt? hasStep).or ((Forest.nodes f).findSome? (·.halt? hasStep)) := by
  rw [Tree.halt?, Tree.nodes, List.findSome?_cons]
  cases root.halt? hasStep <;> rfl

lemma write_of_deepens (hroot : root.kind.deepens = true) (f : Forest) :
    (node id root f).write none = .error .foreign := by
  have hhalts : root.halt? false = some .foreign := by
    simp [Node.halt?, Node.halts, hroot]
  rw [write_error_iff, isWritable_node, Option.isSome_none, halt?_node, hhalts, Node.isWritable, hhalts]
  exact ⟨rfl, rfl⟩

variable (ids : List NodeId)

lemma write_error_append (hnew : Forest.isWritable true new = true) (h : (node id root f).write step? = .error cause) :
    (node id { root with children := ids } (f ++ new)).write step? = .error cause := by
  rw [write_error_iff, isWritable_node, halt?_node] at h
  obtain ⟨hwritable, rfl⟩ := h
  rw [write_error_iff, isWritable_node, halt?_node, Forest.isWritable_append, Forest.nodes_append,
    List.findSome?_append]
  refine ⟨?_, ?_⟩
  · rw [← Bool.and_assoc]
    exact (congrArg (· && _) hwritable).trans (Bool.false_and _)
  · change ((root.halt? _).or _).getD _ = _
    rcases Forest.halt?_of_isWritable hnew step?.isSome with hnone | ⟨-, hforeign⟩
    · rw [hnone, Option.or_none]
    · rw [hforeign]
      cases root.halt? step?.isSome with
      | some cause => rfl
      | none => cases (Forest.nodes f).findSome? (·.halt? step?.isSome) <;> rfl

lemma halt?_eq_none {t : Tree} (h : t.isWritable hasStep = true) : t.halt? hasStep = none := by
  refine List.findSome?_eq_none_iff.mpr fun n hn => ?_
  have hplain := List.all_eq_true.mp h n hn
  rw [Node.isWritable, Bool.and_eq_true, Option.isNone_iff_eq_none] at hplain
  exact hplain.1

lemma write_append {text : String} (hnew : Forest.isWritable true new = true)
    (h : (node id root f).write step? = .ok text) :
    (∃ text, (node id { root with children := ids } (f ++ new)).write step? = .ok text) ∨
      step? = none ∧ (node id { root with children := ids } (f ++ new)).write step? = .error .foreign := by
  have hwritable : (node id root f).isWritable step?.isSome = true := by
    rw [write] at h
    split_ifs at h with hwritable
    exact hwritable
  cases step? with
  | some step =>
    have hgrown : (node id { root with children := ids } (f ++ new)).isWritable true = true := by
      rw [isWritable_node, Forest.isWritable_append, hnew, Bool.and_true]
      exact hwritable
    rw [write, Option.isSome_some, if_pos hgrown]
    exact .inl ⟨_, rfl⟩
  | none =>
    cases hwrite : (node id { root with children := ids } (f ++ new)).write none with
    | ok text => exact .inl ⟨text, rfl⟩
    | error cause =>
      obtain ⟨hroot, hbelow⟩ := Option.or_eq_none_iff.mp ((halt?_node _ id root f).symm.trans (halt?_eq_none hwritable))
      rw [write_error_iff, halt?_node, Forest.nodes_append, List.findSome?_append, hbelow, Option.none_or] at hwrite
      obtain ⟨-, rfl⟩ := hwrite
      refine .inr ⟨rfl, ?_⟩
      change Except.error (((root.halt? _).or _).getD _) = _
      rw [hroot, Option.none_or]
      rcases Forest.halt?_of_isWritable hnew false with hnone | ⟨-, hforeign⟩
      · rw [Option.isSome_none, hnone, Option.getD_none]
      · rw [Option.isSome_none, hforeign, Option.getD_some]

lemma write_error_prepend (hnew : Forest.isWritable true new = true) (hroot : root.kind.deepens = true)
    (h : (node id root f).write step? = .error cause) :
    (node id { root with children := ids } (new ++ f)).write step? = .error cause := by
  cases step? with
  | none =>
    have hgrown : Node.kind { root with children := ids } |>.deepens := hroot
    rw [write_of_deepens hroot] at h
    rw [write_of_deepens hgrown, h]
  | some step =>
    rw [write_error_iff, isWritable_node, Option.isSome_some, halt?_node] at h
    rw [write_error_iff, isWritable_node, Option.isSome_some, Forest.isWritable_append, hnew, Bool.true_and, halt?_node,
      Forest.nodes_append, List.findSome?_append]
    rcases Forest.halt?_of_isWritable hnew true with hnone | ⟨hstep, -⟩
    · rw [hnone, Option.none_or]
      exact h
    · cases hstep

end Tree

end Grown

lemma Forest.holds_append (kind : Kind) (f g : Forest) :
    Forest.holds kind (f ++ g) = (Forest.holds kind f || Forest.holds kind g) := by
  simp only [Forest.holds_eq, List.any_append]

namespace Deck.Opens

variable {d : Deck} {s t : Store} {lines slides : Forest} {settings : LooseSettings}

structure Grown (d : Deck) (s t : Store) (lines slides preamble headed body : Forest) : Prop where
  before : d.Consists s (.node d.preamble (s.node d.preamble) preamble) (.node d.header (s.node d.header) headed)
    (.node d.document (s.node d.document) body)
  after : d.Consists t (.node d.preamble (s.node d.preamble) preamble)
    (.node d.header (t.node d.header) (headed ++ lines)) (.node d.document (t.node d.document) (slides ++ body))

lemma exists_grown (h : d.Opens s t lines slides) (hs : s.WellFormed) (ht : t.WellFormed) (hd : d.Within s)
    (happart : d.preamble ≠ d.header) (hfree : ∀ n ∈ d.roots, s.parent? n = none) :
    ∃ preamble headed body, Grown d s t lines slides preamble headed body := by
  obtain ⟨preamble, header, document, hparts⟩ :=
    exists_consists hs fun n hn => Store.not_cyclic_of_free (hfree n hn)
  have hgrown := h.consists hs (hfree _ (by simp [roots])) (hfree _ (by simp [roots])) ht hd happart hparts
  obtain ⟨hpid, hp⟩ := Store.matches_of_tree? hparts.preamble
  obtain ⟨hhid, hh⟩ := Store.matches_of_tree? hparts.header
  obtain ⟨hdid, hdoc⟩ := Store.matches_of_tree? hparts.document
  obtain ⟨p, root, below⟩ := preamble
  obtain ⟨q, root', headed⟩ := header
  obtain ⟨r, root'', body⟩ := document
  obtain rfl : p = d.preamble := hpid
  obtain rfl : q = d.header := hhid
  obtain rfl : r = d.document := hdid
  obtain rfl : root = s.node d.preamble := hp.root_eq
  obtain rfl : root' = s.node d.header := hh.root_eq
  obtain rfl : root'' = s.node d.document := hdoc.root_eq
  exact ⟨below, headed, body, hparts, hgrown⟩

section Rendering

variable {preamble headed body : Forest} (h : d.Opens s t lines slides) (hs : s.WellFormed) (ht : t.WellFormed)
  (hnew : Harmless lines slides) (hgrown : Grown d s t lines slides preamble headed body)

include h hs ht hnew hgrown

lemma holdsForeign_iff {n : NodeId} (hn : n ∈ d.roots) : t.HoldsForeign n ↔ s.HoldsForeign n := by
  have hsame {v w : Tree} (hv : s.tree? n = some v) (hw : t.tree? n = some w)
      (heq : w.isWritable true = v.isWritable true) : t.HoldsForeign n ↔ s.HoldsForeign n := by
    obtain ⟨hvid, hv⟩ := Store.matches_of_tree? hv
    obtain ⟨hwid, hw⟩ := Store.matches_of_tree? hw
    have hforeign := hv.not_isWritable_iff hs
    have hforeign' := hw.not_isWritable_iff ht
    rw [hvid] at hforeign
    rw [hwid] at hforeign'
    rw [← hforeign, ← hforeign', heq]
  simp only [roots, List.mem_cons, List.not_mem_nil, or_false] at hn
  rcases hn with rfl | rfl | rfl
  · exact hsame hgrown.before.preamble hgrown.after.preamble rfl
  · refine hsame hgrown.before.header hgrown.after.header ?_
    rw [Tree.isWritable_node, Tree.isWritable_node, Forest.isWritable_append, hnew.writable.1, Bool.and_true, h.header]
    rfl
  · refine hsame hgrown.before.document hgrown.after.document ?_
    rw [Tree.isWritable_node, Tree.isWritable_node, Forest.isWritable_append, hnew.writable.2, Bool.true_and, h.document]
    rfl

omit h in
lemma package_eq : d.package t settings = d.package s settings := by
  obtain ⟨-, hv⟩ := Store.matches_of_tree? hgrown.before.document
  obtain ⟨-, hw⟩ := Store.matches_of_tree? hgrown.after.document
  have hcode : t.HoldsBelow .code d.document ↔ s.HoldsBelow .code d.document := by
    have hholds : Tree.holds .code _ = true ↔ _ := hv.holds_iff hs
    have hholds' : Tree.holds .code _ = true ↔ _ := hw.holds_iff ht
    rw [Tree.holds, Forest.holds_append, hnew.code, Bool.false_or] at hholds'
    rw [Tree.holds] at hholds
    exact hholds'.symm.trans hholds
  by_cases hfound : s.HoldsBelow .code d.document
  · rw [package_of_holdsBelow hfound, package_of_holdsBelow (hcode.mpr hfound)]
  · rw [package_of_not_holdsBelow hfound, package_of_not_holdsBelow fun hfound' => hfound (hcode.mp hfound')]

open Layout in
lemma rendering_text (hd : d.Within s) (htexts : ∀ n ∈ d.roots, ¬ s.HoldsForeign n) {step name : String}
    {a : Arguments} (hstep : settings.step? = some step)
    (hdocument : (s.node d.document).content = .environment .plain name a) :
    let document := s.node d.document
    let start := Layout.render "" step (beginning document.slides? name a)
    let base := String.join (List.replicate (levels document) step)
    ∃ preamble header body rest, d.Consists s preamble header body ∧ body.render step = start ++ rest ∧
      (d.rendering s settings).outcome = .ok (preamble.render step ++ d.package s settings ++ header.render step ++
        "\n" ++ (start ++ rest)) ∧
      (d.rendering t settings).outcome = .ok (preamble.render step ++ d.package s settings ++
        (header.render step ++ Layout.render "" step (Forest.pieces lines)) ++ "\n" ++
        (start ++ Layout.render base step (Forest.pieces slides) ++ rest)) := by
  intro document start base
  have htexts' : ∀ n ∈ d.roots, ¬ t.HoldsForeign n := fun n hn hforeign =>
    htexts n hn ((h.holdsForeign_iff hs ht hnew hgrown hn).mp hforeign)
  have hheader : (s.node d.header).kind = .header := hd.header.kind_eq
  have hheader' : (t.node d.header).kind = .header := by
    rw [h.header]
    exact hheader
  have hdocument' : (t.node d.document).content = .environment .plain name a := by
    rw [h.document]
    exact hdocument
  have hbefore := Deck.rendering_text hs hgrown.before htexts hstep
  have hafter := Deck.rendering_text ht hgrown.after htexts' hstep
  have hbody := Tree.render_plain d.document hdocument [] body step
  rw [List.nil_append, Forest.pieces, Layout.render_nil, String.append_empty] at hbody
  have hgrownBody := Tree.render_plain d.document hdocument' slides body step
  obtain ⟨hslides, hlevels, hclosing⟩ : (t.node d.document).slides? = document.slides? ∧
      levels (t.node d.document) = levels document ∧
      closing (t.node d.document) false = closing document false := by
    rw [h.document]
    exact ⟨rfl, rfl, rfl⟩
  rw [hslides, hlevels, hclosing] at hgrownBody
  have hgrownHeader := Tree.render_header d.header hheader' headed lines step
  have hsameHeader : (Tree.node d.header (t.node d.header) headed).render step =
      (Tree.node d.header (s.node d.header) headed).render step := by
    rw [h.header]
    rfl
  rw [hsameHeader] at hgrownHeader
  rw [hgrownHeader, hgrownBody, package_eq hs ht hnew hgrown] at hafter
  exact ⟨_, _, _, _, hgrown.before, hbody, hbody ▸ hbefore, hafter⟩

lemma rendering_error (hd : d.Within s) {cause : Obstacle} (herror : (d.rendering s settings).outcome = .error cause) :
    (d.rendering t settings).outcome = .error cause := by
  rw [hgrown.before.rendering_error_iff hs] at herror
  rw [hgrown.after.rendering_error_iff ht, h.header, h.document]
  have hdeepens : (s.node d.document).kind.deepens = true := by
    rw [← Store.kind, hd.document.kind_eq]
    rfl
  refine herror.imp_right (And.imp_right fun herror => ?_)
  rcases herror with hheader | ⟨⟨text, hheader⟩, hdocument⟩
  · exact .inl (Tree.write_error_append _ hnew.writable.1 hheader)
  · have hdocument' := Tree.write_error_prepend (slides.map Tree.id ++ s.children d.document) hnew.writable.2
      hdeepens hdocument
    rcases Tree.write_append (s.children d.header ++ lines.map Tree.id) hnew.writable.1 hheader with hok | ⟨hstep, hfails⟩
    · exact .inr ⟨hok, hdocument'⟩
    · rw [hstep, Tree.write_of_deepens hdeepens] at hdocument
      exact .inl (hdocument ▸ hfails)

end Rendering

end Deck.Opens

end SlideDeck
