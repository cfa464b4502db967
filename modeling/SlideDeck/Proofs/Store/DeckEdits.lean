import SlideDeck.Proofs.Store.Edit
import SlideDeck.Deck

/-! A presentation is built, and its title declared, by edits alone. -/

namespace SlideDeck.Deck

open Store (Edit Edits Grows)

structure Within (d : Deck) (s : Store) : Prop where
  document : s.HasKind d.document .environment
  preamble : s.HasKind d.preamble .header
  header : s.HasKind d.header .header

lemma Within.grows {d : Deck} {s t : Store} (hd : d.Within s) (h : s.Grows t) : d.Within t where
  document := h.hasKind hd.document
  preamble := h.hasKind hd.preamble
  header := h.hasKind hd.header

lemma addOutline_edits {s : Store} {preamble : NodeId} (hp : s.Container preamble)
    (title : String) : s.Edits (addOutline s preamble title) := by
  let hook := s.createIn preamble (.containingCommand "AtBeginSection") .last
  let slide := hook.1.createIn hook.2 (.environment "frame" [title]) .last
  have hhook : hook.1.Container hook.2 := (Store.hasKind_createIn _ _ _).container rfl
  have hslide : slide.1.Container slide.2 := (Store.hasKind_createIn _ _ _).container rfl
  have h₁ : s.Edit hook.1 := .plant _ _ hp
  have h₂ : hook.1.Edit slide.1 := .plant _ _ hhook
  have h₃ : slide.1.Edit (addOutline s preamble title) := .plant _ _ hslide
  exact ((Relation.ReflTransGen.single h₁).tail h₂).tail h₃

lemma buildPreamble_edits (s : Store) (plan : Preamble) (outlineTitle? : Option String) :
    s.Edits (buildPreamble s plan outlineTitle?).1 ∧
      (buildPreamble s plan outlineTitle?).1.HasKind (buildPreamble s plan outlineTitle?).2
        .header := by
  have hmade : (s.create .header).1.HasKind (s.create .header).2 .header := Store.hasKind_create _
  have h₁ : s.Edit (s.create .header).1 := .create s .header
  rw [buildPreamble]
  generalize s.create .header = made at hmade h₁
  have h₂ := Edit.plant (.command "documentclass" plan.classArguments) .last (hmade.container rfl)
  simp only
  generalize made.1.createIn made.2 (.command "documentclass" plan.classArguments) .last = lined at h₂
  have h₃ : lined.1.Edit
      (lined.1.modify lined.2 fun node => { node with foreign? := plan.foreign? }) :=
    .alter (Store.sameShape_modify _ _ ⟨rfl, rfl, rfl, rfl⟩)
  have hmarked := h₃.grows.hasKind (h₂.grows.hasKind hmade)
  have h₄ := Store.createAllIn_edits (hmarked.container rfl) (preambleDrafts plan.packages)
  have h := (((Relation.ReflTransGen.single h₁).tail h₂).tail h₃).trans h₄
  have hfilled := h₄.grows.hasKind hmarked
  cases outlineTitle? with
  | none => exact ⟨h, hfilled⟩
  | some title =>
    have h₅ := addOutline_edits (hfilled.container rfl) title
    exact ⟨h.trans h₅, h₅.grows.hasKind hfilled⟩

lemma exists_of_build {s t : Store} {settings : LooseSettings} {place : Nat} {outlineTitle? : Option String} {d : Deck}
    (h : build s settings place outlineTitle? = .ok (t, d)) :
    ∃ plan, settings.preamble = .ok plan ∧
      let made := s.create (.environment "document" [])
      let built := buildPreamble made.1 plan outlineTitle?
      let headed := built.1.create .header
      t = headed.1 ∧
        d = { outlineTitle := .ofText? outlineTitle?, settings := place, document := made.2, preamble := built.2, header := headed.2 } := by
  rw [build] at h
  cases hplan : settings.preamble with
  | error cause => simp [hplan, bind, Except.bind] at h
  | ok plan =>
    simp only [hplan, bind, Except.bind, pure, Except.pure, Except.ok.injEq, Prod.mk.injEq] at h
    exact ⟨plan, rfl, h.1.symm, h.2.symm⟩

lemma settings_of_build {s t : Store} {settings : LooseSettings} {place : Nat} {outlineTitle? : Option String}
    {d : Deck} (h : build s settings place outlineTitle? = .ok (t, d)) : d.settings = place := by
  obtain ⟨plan, -, -, rfl⟩ := exists_of_build h
  rfl

lemma build_edits {s t : Store} {settings : LooseSettings} {place : Nat}
    {outlineTitle? : Option String} {d : Deck}
    (h : build s settings place outlineTitle? = .ok (t, d)) : s.Edits t ∧ d.Within t := by
  obtain ⟨plan, -, rfl, rfl⟩ := exists_of_build h
  let made := s.create (.environment "document" [])
  let built := buildPreamble made.1 plan outlineTitle?
  obtain ⟨hbuilt, hpreamble⟩ := buildPreamble_edits made.1 plan outlineTitle?
  have h₁ : s.Edit made.1 := .create s _
  have h₃ : built.1.Edit (built.1.create .header).1 := .create built.1 .header
  have hdocument : made.1.HasKind made.2 .environment := Store.hasKind_create _
  exact ⟨((Relation.ReflTransGen.single h₁).trans hbuilt).tail h₃,
    h₃.grows.hasKind (hbuilt.grows.hasKind hdocument), h₃.grows.hasKind hpreamble,
    Store.hasKind_create .header⟩

lemma addTitle_edits {s : Store} {header : NodeId} (hh : s.Container header)
    (title author : String) (date? subtitle? : Option String) :
    s.Edits (addTitle s header title author date? subtitle?) := by
  have h₁ := Store.createAllIn_edits hh
    [.command "title" { required := [title] }, .command "author" { required := [author] }]
  have hnamed := h₁.grows.container hh
  simp only [addTitle]
  generalize s.createAllIn header [.command "title" { required := [title] },
    .command "author" { required := [author] }] = named at h₁ hnamed ⊢
  cases date? with
  | some date =>
    have h₂ := Store.createAllIn_edits hnamed [.command "date" { required := [date] }]
    exact (h₁.trans h₂).trans (Store.createAllIn_edits (h₂.grows.container hnamed) _)
  | none =>
    have h₂ : named.Edit (named.createIn header (.containingCommand "date") .last).1 :=
      .plant _ _ hnamed
    have hday := Store.hasKind_createIn (s := named) header (.containingCommand "date") .last
    simp only
    generalize named.createIn header (.containingCommand "date") .last = day at h₂ hday ⊢
    have h₃ := Store.createAllIn_edits (hday.container rfl) [.command "today" {}]
    have hdated := h₃.grows.container (h₂.grows.container hnamed)
    exact ((h₁.tail h₂).trans h₃).trans (Store.createAllIn_edits hdated _)

lemma openWith_edits {s : Store} {document : NodeId} (hd : s.Container document)
    (title? : Option String) (command : String) (options : List String) :
    s.Edits (openWith s document title? command options) := by
  let slide := s.createIn document (.frame title?) .first
  have h₁ : s.Edit slide.1 := .plant _ _ hd
  exact .head h₁ (Store.createAllIn_edits ((Store.hasKind_createIn _ _ _).container rfl) _)

lemma setTitle_edits {d : Deck} {s : Store} (hd : d.Within s) (title author : String)
    (date? subtitle? : Option String) : s.Edits (d.setTitle s title author date? subtitle?) := by
  let titled := addTitle s d.header title author date? subtitle?
  let outlined := openWith titled d.document (some title) "tableofcontents" ["hideallsubsections"]
  have h₁ : s.Edits titled := addTitle_edits (hd.header.container rfl) title author date? subtitle?
  have htitled : titled.Container d.document := h₁.grows.container (hd.document.container rfl)
  have h₂ : titled.Edits outlined := openWith_edits htitled _ _ _
  exact (h₁.trans h₂).trans (openWith_edits (h₂.grows.container htitled) _ _ _)

end SlideDeck.Deck
