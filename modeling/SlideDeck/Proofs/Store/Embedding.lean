import SlideDeck.Deck
import SlideDeck.Proofs.Correspondence
import SlideDeck.Proofs.Renaming
import SlideDeck.Proofs.Store.Settling

/-! A store inside another one. What the larger store has besides is not reached from the nodes of the smaller one,
so both show the same below them, and each operation keeps the one inside the other. -/

namespace SlideDeck

namespace Store

/-- The nodes of a store stand in another one at other places, with all their edges. -/
def Embeds (f : NodeId ↪ NodeId) (s t : Store) : Prop :=
  Spread f (fun _ x y => y = x.rename f) s.nodes t.nodes

def behind (s : Store) : NodeId ↪ NodeId where
  toFun k := s.size + k
  inj' _ _ := Nat.add_left_cancel

namespace Embeds

variable {f : NodeId ↪ NodeId} {s t : Store}

lemma refl (s : Store) : s.Embeds (.refl NodeId) s :=
  Spread.refl (fun _ x => x.rename_id.symm) s.nodes

lemma empty (s : Store) : Embeds (behind s) {} s where
  beyond _ := by simp [behind, Store.size]
  items _ := by simp [behind, Store.size]

section

variable (h : s.Embeds f t)

include h

lemma size_le : s.size ≤ t.size := Spread.size_le h

lemma size : f s.size = t.size := Spread.beyond h 0

lemma node (n : NodeId) : t.node (f n) = (s.node n).rename f := by
  have hitem := h.items n
  simp only [Store.node, Array.getD_eq_getD_getElem?]
  generalize s.nodes[n]? = x?, t.nodes[f n]? = y? at hitem
  cases hitem with
  | none => rfl
  | some hitem => exact hitem

lemma kind (n : NodeId) : t.kind (f n) = s.kind n := by
  rw [Store.kind, h.node, Node.kind_rename, Store.kind]

lemma children (n : NodeId) : t.children (f n) = (s.children n).map f := by
  rw [Store.children, h.node]
  rfl

lemma parent? (n : NodeId) : t.parent? (f n) = (s.parent? n).map f := by
  rw [Store.parent?, h.node]
  rfl

lemma owned? (n : NodeId) : t.owned? (f n) = s.owned? n := by
  rw [Store.owned?, Store.owned?, h.parent?, Option.map_map]
  simp only [Function.comp_def, h.kind]

lemma modify {g k : Node → Node} (n : NodeId) (hgk : ∀ x, k (x.rename f) = (g x).rename f) :
    (s.modify n g).Embeds f (t.modify (f n) k) :=
  Spread.modify h fun x y hxy => by rw [hxy, hgk]

lemma push (x : Node) : (s.push x).Embeds f (t.push (x.rename f)) := Spread.push h rfl

lemma create (draft : Draft) :
    (s.create draft).1.Embeds f (t.create draft).1 ∧ (t.create draft).2 = f (s.create draft).2 := by
  have hnext : f (s.size + 1) = t.size + 1 := h.beyond 1
  have hcontent : draft.content (t.size + 1) = (draft.content (s.size + 1)).rename f := by
    cases draft <;> simp [Draft.content, Content.rename, hnext]
  rw [Store.create, Store.create]
  cases hlisting : draft.listing? with
  | none => exact ⟨by rw [hcontent]; exact h.push _, h.size.symm⟩
  | some listing =>
    have hlisting' : listing.rename f = listing := by
      cases draft <;> cases hlisting
      rfl
    have hpushed := (h.push { content := draft.content (s.size + 1), children := [s.size + 1] }).push
      { content := listing, parent? := some s.size }
    simp only [Node.rename, hlisting', ← hcontent, Option.map_some, Option.map_none, List.map_cons, List.map_nil,
      hnext, h.size] at hpushed
    exact ⟨hpushed, h.size.symm⟩

lemma link (c n : NodeId) (place : Place) : (s.link c n place).Embeds f (t.link (f c) (f n) place) := by
  have hheld := h.modify (g := fun node => { node with parent? := some c })
    (k := fun node => { node with parent? := some (f c) }) n fun x => rfl
  refine hheld.modify c fun x => ?_
  cases place <;> simp [Node.rename, Place.insert]

lemma createIn (c : NodeId) (draft : Draft) (place : Place) :
    (s.createIn c draft place).1.Embeds f (t.createIn (f c) draft place).1 ∧
      (t.createIn (f c) draft place).2 = f (s.createIn c draft place).2 := by
  obtain ⟨hmade, hnode⟩ := h.create draft
  simp only [Store.createIn, hnode]
  exact ⟨hmade.link _ _ _, trivial⟩

lemma createAllIn (c : NodeId) (drafts : List Draft) :
    (s.createAllIn c drafts).Embeds f (t.createAllIn (f c) drafts) := by
  induction drafts generalizing s t with
  | nil => exact h
  | cons draft rest ih => exact ih (h.createIn c draft .last).1

lemma hasWithin (kind : Kind) (depth : ℕ) (n : NodeId) :
    t.hasWithin kind depth (f n) = s.hasWithin kind depth n := by
  induction depth generalizing n with
  | zero => rfl
  | succ depth ih =>
    have hchildren (l : List NodeId) (p : NodeId → Option Bool) : (l.map f).anyM p = l.anyM (p ∘ f) := by
      induction l with
      | nil => rfl
      | cons c l ihl => rw [List.map_cons, List.anyM_cons, List.anyM_cons, ihl, Function.comp_apply]
    rw [Store.hasWithin, Store.hasWithin, h.children, hchildren]
    exact anyM_congr fun c _ => by rw [Function.comp_apply, h.kind, ih]

lemma has? (kind : Kind) (n : NodeId) : t.has? kind (f n) = s.has? kind n := by
  rw [Store.has?, h.hasWithin, hasWithin_eq_has? (Nat.lt_succ_of_le h.size_le)]

lemma treeWithin (depth : ℕ) (n : NodeId) :
    t.treeWithin depth (f n) = (s.treeWithin depth n).map (Tree.rename f) := by
  induction depth generalizing n with
  | zero => rfl
  | succ depth ih =>
    have hchildren (l : List NodeId) :
        (l.map f).mapM (t.treeWithin depth) = (l.mapM (s.treeWithin depth)).map (Forest.rename f) := by
      induction l with
      | nil => rfl
      | cons c l ihl =>
        rw [List.map_cons, List.mapM_cons, List.mapM_cons, ihl, ih]
        cases s.treeWithin depth c with
        | none => rfl
        | some u => cases l.mapM (s.treeWithin depth) <;> rfl
    rw [Store.treeWithin, Store.treeWithin, h.children, hchildren, h.node, Option.map_map, Option.map_map]
    rfl

lemma tree? (n : NodeId) : t.tree? (f n) = (s.tree? n).map (Tree.rename f) := by
  rw [Store.tree?, h.treeWithin, treeWithin_eq_tree? (Nat.lt_succ_of_le h.size_le)]

lemma sketch (hasStep : Bool) (depth : ℕ) (n : NodeId) : t.sketch hasStep depth (f n) = s.sketch hasStep depth n := by
  induction depth generalizing n with
  | zero => rfl
  | succ depth ih =>
    have hbelow (l : List NodeId) : Layout.gather (t.sketch hasStep depth) (l.map f) =
        Layout.gather (s.sketch hasStep depth) l := by
      induction l with
      | nil => rfl
      | cons c l ihl => rw [List.map_cons, Layout.gather, Layout.gather, ih, ihl]
    rw [Store.sketch, Store.sketch, h.children, hbelow]
    exact sketchAround_congr (h.node n ▸ (s.node n).alike_rename f) (h.has? .code n) _ _

theorem rendering (step? : Option String) (n : NodeId) : t.rendering step? (f n) = s.rendering step? n := by
  rw [Store.rendering, Store.rendering, h.kind, h.sketch, sketch_eq (Nat.lt_succ_of_le h.size_le)]

end

end Embeds

end Store

namespace Deck

open Store (Embeds)

variable {f : NodeId ↪ NodeId} {s t : Store} (h : s.Embeds f t)

include h

lemma embeds_addOutline (preamble : NodeId) (title : String) :
    (addOutline s preamble title).Embeds f (addOutline t (f preamble) title) := by
  have hhook := h.createIn preamble (.containingCommand "AtBeginSection") .last
  rw [addOutline, addOutline]
  generalize s.createIn preamble (.containingCommand "AtBeginSection") .last = hook,
    t.createIn (f preamble) (.containingCommand "AtBeginSection") .last = hook' at hhook
  have hslide := hhook.1.createIn hook.2 (.environment "frame" [title]) .last
  simp only [hhook.2]
  generalize hook.1.createIn hook.2 (.environment "frame" [title]) .last = slide,
    hook'.1.createIn (f hook.2) (.environment "frame" [title]) .last = slide' at hslide
  rw [hslide.2]
  exact (hslide.1.createIn slide.2 _ _).1

lemma embeds_buildPreamble (plan : Preamble) (outlineTitle? : Option String) :
    (buildPreamble s plan outlineTitle?).1.Embeds f (buildPreamble t plan outlineTitle?).1 ∧
      (buildPreamble t plan outlineTitle?).2 = f (buildPreamble s plan outlineTitle?).2 := by
  have hmade := h.create .header
  rw [buildPreamble, buildPreamble]
  generalize s.create .header = made, t.create .header = made' at hmade
  have hline := hmade.1.createIn made.2 (.command "documentclass" plan.classArguments) .last
  simp only [hmade.2]
  generalize made.1.createIn made.2 (.command "documentclass" plan.classArguments) .last = line,
    made'.1.createIn (f made.2) (.command "documentclass" plan.classArguments) .last = line' at hline
  have hmarked := hline.1.modify (g := fun node => { node with foreign? := plan.foreign? })
    (k := fun node => { node with foreign? := plan.foreign? }) line.2 fun x => rfl
  have hfilled := hmarked.createAllIn made.2 (preambleDrafts plan.packages)
  rw [hline.2]
  cases outlineTitle? with
  | none => exact ⟨hfilled, trivial⟩
  | some title => exact ⟨embeds_addOutline hfilled _ _, trivial⟩

lemma embeds_build (settings : LooseSettings) (i j : ℕ) (outlineTitle? : Option String) :
    Agree (fun a b => a.1.Embeds f b.1 ∧
        b.2 = { a.2 with
          settings := j
          document := f a.2.document
          preamble := f a.2.preamble
          header := f a.2.header } ∧ a.2.outlineTitle = .ofText? outlineTitle? ∧ a.2.settings = i)
      (build s settings i outlineTitle?) (build t settings j outlineTitle?) := by
  rw [build, build]
  cases settings.preamble with
  | error cause => exact .error cause
  | ok plan =>
    have hdocument := h.create (.environment "document" [])
    simp only [bind, Except.bind]
    generalize s.create (.environment "document" []) = document,
      t.create (.environment "document" []) = document' at hdocument
    have hpreamble := embeds_buildPreamble hdocument.1 plan outlineTitle?
    generalize buildPreamble document.1 plan outlineTitle? = preamble,
      buildPreamble document'.1 plan outlineTitle? = preamble' at hpreamble
    have hheader := hpreamble.1.create .header
    generalize preamble.1.create .header = header, preamble'.1.create .header = header' at hheader
    refine .ok ⟨hheader.1, ?_, rfl, rfl⟩
    simp only [hdocument.2, hpreamble.2, hheader.2]

lemma embeds_addTitle (header : NodeId) (title author : String) (date? subtitle? : Option String) :
    (addTitle s header title author date? subtitle?).Embeds f
      (addTitle t (f header) title author date? subtitle?) := by
  have hnamed := h.createAllIn header
    [.command "title" { required := [title] }, .command "author" { required := [author] }]
  simp only [addTitle]
  generalize s.createAllIn header _ = named, t.createAllIn (f header) _ = named' at hnamed
  cases date? with
  | some date =>
    exact (hnamed.createAllIn header [.command "date" { required := [date] }]).createAllIn header _
  | none =>
    have hdate := hnamed.createIn header (.containingCommand "date") .last
    simp only
    generalize named.createIn header _ _ = date, named'.createIn (f header) _ _ = date' at hdate
    rw [hdate.2]
    exact (hdate.1.createAllIn date.2 [.command "today" {}]).createAllIn header _

lemma embeds_openWith (document : NodeId) (title? : Option String) (command : String) (options : List String) :
    (openWith s document title? command options).Embeds f (openWith t (f document) title? command options) := by
  have hslide := h.createIn document (.frame title?) .first
  rw [openWith, openWith]
  generalize s.createIn document _ _ = slide, t.createIn (f document) _ _ = slide' at hslide
  simp only [hslide.2]
  exact hslide.1.createAllIn slide.2 _

lemma embeds_setTitle {d e : Deck} (hdocument : e.document = f d.document) (hheader : e.header = f d.header)
    (title author : String) (date? subtitle? : Option String) :
    (d.setTitle s title author date? subtitle?).Embeds f (e.setTitle t title author date? subtitle?) := by
  rw [setTitle, setTitle, hdocument, hheader]
  exact embeds_openWith (embeds_openWith (embeds_addTitle h _ _ _ _ _) _ _ _ _) _ _ _ _

lemma rendering_embeds {d e : Deck} (hdocument : e.document = f d.document) (hpreamble : e.preamble = f d.preamble)
    (hheader : e.header = f d.header) {settings settings' : LooseSettings}
    (hstep : settings'.step? = settings.step?) (hcomment : settings'.comment? = settings.comment?) :
    e.rendering t settings' = d.rendering s settings := by
  simp only [rendering, codeRendering, hdocument, hpreamble, hheader, hstep, hcomment, h.rendering, h.has?]

end Deck

end SlideDeck
