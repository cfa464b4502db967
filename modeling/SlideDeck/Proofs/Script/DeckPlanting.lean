import SlideDeck.Proofs.Script.Planting

/-! What the containers of a presentation receive when it is built and when its title is declared. -/

namespace SlideDeck.Deck

open Script (Attachment Receives)

def titleLines (header n : NodeId) (title author : String) (date? subtitle? : Option String) :
    List Planting :=
  let command (name text : String) : Planting :=
    { container := header, draft := .command name { required := [text] } }
  [command "title" title, command "author" author] ++
    (match date? with
      | some date => [command "date" date]
      | none => [{ container := header, draft := .containingCommand "date" },
          { container := n + 2, draft := .command "today" {} }]) ++
    (subtitle?.map (command "subtitle")).toList

def openingSlide (document n : NodeId) (title? : Option String) (command : String)
    (options : List String) : List Planting :=
  [{ container := document, draft := .frame title?, place := .first },
    { container := n, draft := .command command { options } }]

def titlePlantings (d : Deck) (n : NodeId) (title author : String) (date? subtitle? : Option String) :
    List Planting :=
  let lines := titleLines d.header n title author date? subtitle?
  let slides := n + plantingSpan lines
  lines ++ (openingSlide d.document slides (some title) "tableofcontents" ["hideallsubsections"] ++
    openingSlide d.document (slides + 2) none "titlepage" [])

def outlinePlantings (preamble n : NodeId) (title : String) : List Planting :=
  [{ container := preamble, draft := .containingCommand "AtBeginSection" },
    { container := n, draft := .environment "frame" [title] },
    { container := n + 1, draft := .command "tableofcontents" { options := ["currentsection"] } }]

def preamblePlantings (preamble : NodeId) (plan : Preamble) (outlineTitle? : Option String) :
    List Planting :=
  let lines := Draft.plantings preamble
    (.command "documentclass" plan.classArguments :: preambleDrafts plan.packages)
  lines ++ match outlineTitle? with
    | none => []
    | some title => outlinePlantings preamble (preamble + 1 + plantingSpan lines) title

lemma addTitle_eq (s : Store) (header : NodeId) (title author : String)
    (date? subtitle? : Option String) : addTitle s header title author date? subtitle? =
      s.plantAll (titleLines header s.size title author date? subtitle?) := by
  have hspan (a b : Draft) : plantingSpan (Draft.plantings header [a, b]) = a.span + b.span := rfl
  cases date? <;>
    simp only [addTitle, titleLines, Store.createAllIn_eq_plantAll, Store.createIn_fst_eq_plantAll,
      Store.createIn_snd, Store.size_plantAll, hspan, ← Store.plantAll_append] <;>
    congr 1 <;> cases subtitle? <;> rfl

lemma openWith_eq (s : Store) (document : NodeId) (title? : Option String) (command : String)
    (options : List String) : openWith s document title? command options =
      s.plantAll (openingSlide document s.size title? command options) := by
  simp only [openWith, Store.createAllIn_eq_plantAll, Store.createIn_snd]
  rfl

lemma setTitle_eq (d : Deck) (s : Store) (title author : String) (date? subtitle? : Option String) :
    d.setTitle s title author date? subtitle? =
      s.plantAll (d.titlePlantings s.size title author date? subtitle?) := by
  simp only [setTitle, titlePlantings, Store.plantAll_append, addTitle_eq, openWith_eq,
    Store.size_plantAll]
  rfl

lemma allFit_titleLines {header n : NodeId} (h : header < n) (title author : String)
    (date? subtitle? : Option String) :
    AllFit n (titleLines header n title author date? subtitle?) := by
  cases date? <;> cases subtitle? <;>
    simp [titleLines, AllFit, Draft.span, Draft.listing?, Nat.add_assoc, h, Nat.lt_add_right _ h]

lemma allFit_openingSlide {document n : NodeId} (h : document < n) (title? : Option String)
    (command : String) (options : List String) :
    AllFit n (openingSlide document n title? command options) :=
  ⟨h, Nat.lt_succ_self n, trivial⟩

lemma allFit_titlePlantings {d : Deck} {s : Store} (hd : d.Within s) (title author : String)
    (date? subtitle? : Option String) :
    AllFit s.size (d.titlePlantings s.size title author date? subtitle?) := by
  have hdocument := hd.document.lt_size
  rw [titlePlantings, allFit_append, allFit_append]
  exact ⟨allFit_titleLines hd.header.lt_size title author date? subtitle?,
    allFit_openingSlide (Nat.lt_add_right _ hdocument) _ _ _,
    allFit_openingSlide (Nat.lt_add_right 2 (Nat.lt_add_right _ hdocument)) _ _ _⟩

lemma receives_setTitle {d : Deck} {s : Store} (hd : d.Within s) (title author : String)
    (date? subtitle? : Option String) :
    Receives s (plantingAttachments s.size (d.titlePlantings s.size title author date? subtitle?))
      (d.setTitle s title author date? subtitle?) := by
  rw [setTitle_eq]
  exact s.receives_plantAll (allFit_titlePlantings hd title author date? subtitle?)

lemma container_of_titleLines (header n : NodeId) (title author : String) (date? subtitle? : Option String) :
    ∀ p ∈ titleLines header n title author date? subtitle?, p.container = header ∨ n ≤ p.container := by
  cases date? <;> cases subtitle? <;> simp [titleLines]

lemma container_of_openingSlide (document n : NodeId) (title? : Option String) (command : String)
    (options : List String) :
    ∀ p ∈ openingSlide document n title? command options, p.container = document ∨ n ≤ p.container := by
  simp [openingSlide]

lemma container_of_titlePlantings (d : Deck) (n : NodeId) (title author : String)
    (date? subtitle? : Option String) : ∀ p ∈ d.titlePlantings n title author date? subtitle?,
      p.container = d.header ∨ p.container = d.document ∨ n ≤ p.container := by
  intro p hp
  rw [titlePlantings, List.mem_append, List.mem_append] at hp
  rcases hp with hp | hp | hp
  · exact (container_of_titleLines _ _ _ _ _ _ p hp).imp_right .inr
  · exact .inr ((container_of_openingSlide _ _ _ _ _ p hp).imp_right
      (Nat.le_trans (Nat.le_add_right _ _)))
  · exact .inr ((container_of_openingSlide _ _ _ _ _ p hp).imp_right
      (Nat.le_trans (Nat.le_add_right_of_le (Nat.le_add_right _ _))))

lemma addOutline_eq (s : Store) (preamble : NodeId) (title : String) :
    addOutline s preamble title = s.plantAll (outlinePlantings preamble s.size title) := by
  simp only [addOutline, Store.createIn_fst_eq_plantAll, Store.createIn_snd, Store.size_plantAll,
    ← Store.plantAll_append]
  rfl

lemma receives_buildPreamble (s : Store) (plan : Preamble) (outlineTitle? : Option String) :
    Receives s (plantingAttachments (s.size + 1) (preamblePlantings s.size plan outlineTitle?))
      (buildPreamble s plan outlineTitle?).1 := by
  -- the store after each stage, as each plants where the one before it has ended
  let headed := (s.create .header).1
  let lined := headed.plant { container := s.size, draft := .command "documentclass" plan.classArguments }
  let marked := lined.modify headed.size fun node => { node with foreign? := plan.foreign? }
  let filled := marked.createAllIn s.size (preambleDrafts plan.packages)
  have hheaded : headed.size = s.size + 1 := Store.size_create s .header
  have hlined : lined.size = s.size + 2 := by rw [Store.size_plant, hheaded]; rfl
  have hmarked : marked.size = s.size + 2 := (Store.size_modify ..).trans hlined
  have h₁ : Receives s [] headed := s.receives_create .header
  have h₂ : Receives headed [⟨s.size, s.size + 1, .last⟩] lined :=
    hheaded ▸ headed.receives_plant (hheaded ▸ Nat.lt_succ_self s.size)
  have h₃ : Receives lined [] marked :=
    .of_sameShape (Store.sameShape_modify _ _ ⟨rfl, rfl, rfl, rfl⟩)
  have h₄ : Receives marked (plantingAttachments (s.size + 2)
      (Draft.plantings s.size (preambleDrafts plan.packages))) filled :=
    hmarked ▸ marked.receives_createAllIn (hmarked ▸ Nat.lt_add_right 1 (Nat.lt_succ_self s.size)) _
  have hlines := ((h₁.trans h₂).trans h₃).trans h₄
  rw [buildPreamble]
  simp only [Store.create_snd, Store.createIn_snd]
  cases outlineTitle? with
  | none =>
    rw [preamblePlantings, List.append_nil]
    exact hlines
  | some title =>
    have hfilled : filled.size = s.size + 2 +
        plantingSpan (Draft.plantings s.size (preambleDrafts plan.packages)) := by
      rw [← hmarked, ← Store.size_plantAll, ← Store.createAllIn_eq_plantAll]
    have hfit : AllFit filled.size (outlinePlantings s.size filled.size title) := by
      rw [hfilled]
      exact ⟨Nat.lt_add_right _ (Nat.lt_add_right 1 (Nat.lt_succ_self s.size)), Nat.lt_succ_self _,
        Nat.lt_succ_self _, trivial⟩
    have h₅ := filled.receives_plantAll hfit
    have hspan : s.size + 1 + plantingSpan (Draft.plantings s.size
        (.command "documentclass" plan.classArguments :: preambleDrafts plan.packages)) = filled.size := by
      rw [hfilled]
      exact (Nat.add_assoc _ 1 _).symm
    rw [← addOutline_eq] at h₅
    rw [preamblePlantings, plantingAttachments_append, hspan]
    exact hlines.trans h₅

lemma receives_build {s t : Store} {settings : LooseSettings} {place : Nat}
    {outlineTitle? : Option String} {d : Deck} (h : build s settings place outlineTitle? = .ok (t, d)) :
    ∃ plan, settings.preamble = .ok plan ∧
      Receives s (plantingAttachments (s.size + 2) (preamblePlantings (s.size + 1) plan outlineTitle?)) t := by
  obtain ⟨plan, hplan, rfl, -⟩ := exists_of_build h
  refine ⟨plan, hplan, ?_⟩
  let made := (s.create (.environment "document" [])).1
  let built := (buildPreamble made plan outlineTitle?).1
  have hmade : made.size = s.size + 1 := Store.size_create s _
  have h₁ : Receives s [] made := s.receives_create _
  have h₂ := receives_buildPreamble made plan outlineTitle?
  have h₃ : Receives built [] (built.create .header).1 := built.receives_create .header
  rw [hmade] at h₂
  simpa using (h₁.trans h₂).trans h₃

end SlideDeck.Deck
