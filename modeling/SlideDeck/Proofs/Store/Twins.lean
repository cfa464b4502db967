import Mathlib.Logic.Relator
import SlideDeck.Proofs.Store.Appending

/-! Two stores in which some nodes have twins. What is done to twins leaves them twins, and twins are written alike
where all that is below them has twins as well. -/

namespace SlideDeck

lemma relOption_mono {α β : Type} {r r' : α → β → Prop} (hr : r ≤ r') {x : Option α} {y : Option β}
    (h : Option.Rel r x y) : Option.Rel r' x y := by
  cases h with
  | none => exact .none
  | some h => exact .some (hr _ _ h)

structure NewPairs (a b : ℕ) (r r' : ℕ → ℕ → Prop) : Prop where
  le : r ≤ r'
  old_or_new {i j : ℕ} : r' i j → r i j ∨ a ≤ i ∧ b ≤ j

lemma NewPairs.refl (a b : ℕ) (r : ℕ → ℕ → Prop) : NewPairs a b r r := ⟨le_refl r, .inl⟩

lemma NewPairs.trans {a b a' b' : ℕ} {r r' r'' : ℕ → ℕ → Prop} (h : NewPairs a b r r') (h' : NewPairs a' b' r' r'')
    (ha : a ≤ a') (hb : b ≤ b') : NewPairs a b r r'' where
  le := h.le.trans h'.le
  old_or_new hij := by
    obtain hij | ⟨hi, hj⟩ := h'.old_or_new hij
    · exact h.old_or_new hij
    · exact .inr ⟨ha.trans hi, hb.trans hj⟩

def Beside (r : ℕ → ℕ → Prop) (a b count : ℕ) (i j : ℕ) : Prop := r i j ∨ ∃ k < count, i = a + k ∧ j = b + k

lemma newPairs_beside (r : ℕ → ℕ → Prop) (a b count : ℕ) : NewPairs a b r (Beside r a b count) where
  le _ _ := .inl
  old_or_new hij := by
    obtain hij | ⟨k, -, rfl, rfl⟩ := hij
    · exact .inl hij
    · exact .inr ⟨Nat.le_add_right _ _, Nat.le_add_right _ _⟩

lemma biUnique_beside {r : ℕ → ℕ → Prop} {a b : ℕ} (hr : Relator.BiUnique r) (hlt : ∀ i j, r i j → i < a ∧ j < b)
    (count : ℕ) : Relator.BiUnique (Beside r a b count) := by
  constructor
  · rintro i i' j (h | ⟨k, -, rfl, rfl⟩) (h' | ⟨k', -, rfl, hk⟩)
    · exact hr.1 h h'
    · have := hlt _ _ h
      omega
    · have := hlt _ _ h'
      omega
    · omega
  · rintro i j j' (h | ⟨k, -, rfl, rfl⟩) (h' | ⟨k', -, hk, rfl⟩)
    · exact hr.2 h h'
    · have := hlt _ _ h
      omega
    · have := hlt _ _ h'
      omega
    · omega

namespace Node

/-- What a node holds itself, without the nodes that it points to. -/
def bare (n : Node) : Node := { n.rename fun _ => 0 with parent? := none, children := [] }

lemma bare_rename (n : Node) (f : NodeId → NodeId) : (n.rename f).bare = n.bare := by
  obtain ⟨content, foreign?, parent?, slides?, children, odd⟩ := n
  cases content <;> rfl

lemma bare_mapArguments (n : Node) (f : Arguments → Arguments) : (n.mapArguments f).bare = n.bare.mapArguments f := by
  simp only [bare, mapArguments, mapContent, rename, Content.mapArguments_rename]

lemma alike_bare (n : Node) : n.Alike n.bare := by
  obtain ⟨hkind, hseeks, hhalt, hlate, hlayout⟩ := n.alike_rename fun _ => 0
  exact ⟨hkind, hseeks, hhalt, hlate, hlayout⟩

structure Twins (R : NodeId → NodeId → Prop) (matters : Prop) (x y : Node) : Prop where
  bare : y.bare = x.bare
  listing? : Option.Rel R x.content.listing? y.content.listing?
  parent? : Option.Rel R x.parent? y.parent?
  children : matters → List.Forall₂ R x.children y.children

namespace Twins

variable {R R' : NodeId → NodeId → Prop} {matters : Prop} {x y x' y' : Node}

lemma mono (h : x.Twins R matters y) (hR : R ≤ R') : x.Twins R' matters y where
  bare := h.bare
  listing? := relOption_mono hR h.listing?
  parent? := relOption_mono hR h.parent?
  children hmatters := (h.children hmatters).imp hR

lemma alike (h : x.Twins R matters y) : x.Alike y := by
  have hx := x.alike_bare
  have hy := y.alike_bare
  rw [h.bare] at hy
  exact ⟨hy.kind.symm.trans hx.kind, hy.seeksCode.symm.trans hx.seeksCode,
    fun hasStep => (hy.halt? hasStep).symm.trans (hx.halt? hasStep), hy.failsLate.symm.trans hx.failsLate,
    fun holdsCode => (hy.layout holdsCode).symm.trans (hx.layout holdsCode)⟩

lemma alter (h : x.Twins R matters y) (hx : x.SameShape x') (hy : y.SameShape y') (hbare : y'.bare = x'.bare) :
    x'.Twins R matters y' where
  bare := hbare
  listing? := by rw [hx.listing?, hy.listing?]; exact h.listing?
  parent? := by rw [hx.parent?, hy.parent?]; exact h.parent?
  children := by rw [hx.children, hy.children]; exact h.children

lemma mapArguments (h : x.Twins R matters y) (f : Arguments → Arguments) :
    (x.mapArguments f).Twins R matters (y.mapArguments f) :=
  h.alter (x.sameShape_mapArguments f) (y.sameShape_mapArguments f)
    (by rw [bare_mapArguments, bare_mapArguments, h.bare])

lemma qualify (h : x.Twins R matters y) (slides? : Option Slides) :
    Twins R matters { x with slides? } { y with slides? } :=
  h.alter ⟨rfl, rfl, rfl, rfl⟩ ⟨rfl, rfl, rfl, rfl⟩ (congrArg (fun n : Node => { n with slides? }) h.bare)

end Twins

end Node

namespace Store

lemma anyM_forall₂ {α β : Type} {p : α → Option Bool} {q : β → Option Bool} {l : List α} {l' : List β}
    (h : List.Forall₂ (fun a b => q b = p a) l l') : l'.anyM q = l.anyM p := by
  induction h with
  | nil => rfl
  | cons hab _ ih => rw [List.anyM_cons, List.anyM_cons, hab, ih]

lemma gather_forall₂ {f g : NodeId → Except Obstacle (Option (List Piece))} {l l' : List NodeId}
    (h : List.Forall₂ (fun n m => g m = f n) l l') : Layout.gather g l' = Layout.gather f l := by
  induction h with
  | nil => rfl
  | cons hab _ ih => rw [Layout.gather, Layout.gather, hab, ih]

/-- Pairs of nodes that are twins. The children of those inside a region matter. -/
structure Twins (R : NodeId → NodeId → Prop) (inside : NodeId → Prop) (s t : Store) : Prop where
  unique : Relator.BiUnique R
  lt_size {n m : NodeId} : R n m → n < s.size ∧ m < t.size
  node {n m : NodeId} : R n m → (s.node n).Twins R (inside n) (t.node m)

lemma Twins.narrow {R : NodeId → NodeId → Prop} {inside part : NodeId → Prop} {s t : Store} (h : s.Twins R inside t)
    (hpart : ∀ n, part n → inside n) : s.Twins R part t where
  unique := h.unique
  lt_size := h.lt_size
  node {n _} hnm := { h.node hnm with children := fun hn => (h.node hnm).children (hpart n hn) }

structure LaterTwins (R : NodeId → NodeId → Prop) (inside : NodeId → Prop) (s t : Store)
    (R' : NodeId → NodeId → Prop) (s' t' : Store) : Prop where
  pairs : NewPairs s.size t.size R R'
  size_le : s.size ≤ s'.size
  size_le' : t.size ≤ t'.size
  twins : s'.Twins R' inside t'

lemma LaterTwins.of_size {R : NodeId → NodeId → Prop} {inside : NodeId → Prop} {s t s' t' : Store}
    (hs : s'.size = s.size) (ht : t'.size = t.size) (h : s'.Twins R inside t') : LaterTwins R inside s t R s' t' :=
  ⟨.refl _ _ R, hs.ge, ht.ge, h⟩

lemma LaterTwins.trans {R R' R'' : NodeId → NodeId → Prop} {inside : NodeId → Prop} {s t s' t' s'' t'' : Store}
    (h : LaterTwins R inside s t R' s' t') (h' : LaterTwins R' inside s' t' R'' s'' t'') :
    LaterTwins R inside s t R'' s'' t'' where
  pairs := h.pairs.trans h'.pairs h.size_le h.size_le'
  size_le := h.size_le.trans h'.size_le
  size_le' := h.size_le'.trans h'.size_le'
  twins := h'.twins

namespace Twins

variable {R : NodeId → NodeId → Prop} {inside : NodeId → Prop} {s s' t t' r : Store} {n m c c' : NodeId}

section

variable (h : s.Twins R inside t)

include h

lemma kind (hr : R n m) : t.kind m = s.kind n := (h.node hr).alike.kind

lemma modify (hr : R n m) {g k : Node → Node}
    (hgk : ∀ x y, x.Twins R (inside n) y → (g x).Twins R (inside n) (k y)) :
    (s.modify n g).Twins R inside (t.modify m k) where
  unique := h.unique
  lt_size hij := by simpa using h.lt_size hij
  node {i j} hij := by
    obtain ⟨hi, hj⟩ := h.lt_size hij
    rw [node_modify, node_modify]
    by_cases heq : n = i
    · subst heq
      obtain rfl := h.unique.2 hr hij
      rw [if_pos ⟨rfl, hi⟩, if_pos ⟨rfl, hj⟩]
      exact hgk _ _ (h.node hij)
    · have hne : m ≠ j := by
        rintro rfl
        exact heq (h.unique.1 hr hij)
      rw [if_neg fun hboth => heq hboth.1, if_neg fun hboth => hne hboth.1]
      exact h.node hij

lemma grow (hs : s.Appends inside s') (ht : t.Appends (fun m => ∃ n, R n m ∧ inside n) t') :
    s'.Twins R inside t' where
  unique := h.unique
  lt_size hij := ⟨(h.lt_size hij).1.trans_le hs.size_le, (h.lt_size hij).2.trans_le ht.size_le⟩
  node {i j} hij := by
    obtain ⟨hi, hj⟩ := h.lt_size hij
    obtain ⟨hbare, hlisting, hparent, hchildren⟩ := h.node hij
    have hsi := hs.node hi
    have htj := ht.node hj
    rw [← hsi, ← htj] at hbare hlisting hparent
    refine ⟨hbare, hlisting, hparent, fun hinside => ?_⟩
    rw [hs.kept hi hinside, ht.kept hj ⟨i, hij, hinside⟩]
    exact hchildren hinside

lemma extend (hr : r.WellFormed) (hs : s.Appends (fun _ => True) s') (ht : t.Appends (fun _ => True) t')
    (hrs : r.Embeds s.behind s') (hrt : r.Embeds t.behind t') :
    LaterTwins R inside s t (Beside R s.size t.size r.size) s' t' where
  pairs := newPairs_beside R _ _ _
  size_le := hs.size_le
  size_le' := ht.size_le
  twins := by
    have hnew {k : NodeId} (hk : k < r.size) : Beside R s.size t.size r.size (s.size + k) (t.size + k) :=
      .inr ⟨k, hk, rfl, rfl⟩
    refine ⟨biUnique_beside h.unique (fun _ _ => h.lt_size) _, fun {i j} hij => ?_, fun {i j} hij => ?_⟩
    · obtain hij | ⟨k, hk, rfl, rfl⟩ := hij
      · exact ⟨(h.lt_size hij).1.trans_le hs.size_le, (h.lt_size hij).2.trans_le ht.size_le⟩
      · have hsize : s.size + r.size = s'.size := hrs.size
        have hsize' : t.size + r.size = t'.size := hrt.size
        rw [← hsize, ← hsize']
        exact ⟨Nat.add_lt_add_left hk _, Nat.add_lt_add_left hk _⟩
    · obtain hij | ⟨k, hk, rfl, rfl⟩ := hij
      · obtain ⟨hi, hj⟩ := h.lt_size hij
        rw [hs.kept hi trivial, ht.kept hj trivial]
        exact (h.node hij).mono (newPairs_beside R _ _ _).le
      · have hsk : s'.node (s.size + k) = (r.node k).rename s.behind := hrs.node k
        have htk : t'.node (t.size + k) = (r.node k).rename t.behind := hrt.node k
        rw [hsk, htk]
        refine ⟨by rw [Node.bare_rename, Node.bare_rename], ?_, ?_, fun _ => ?_⟩
        · have hlisting := hr.listing k
          simp only [Node.rename]
          cases hc : (r.node k).content with
          | code title language listing =>
            rw [hc] at hlisting
            exact .some (hnew (lt_size_of_parent? r listing (hlisting listing rfl).1))
          | _ => exact .none
        · cases hp : (r.node k).parent? with
          | none => simp [Node.rename, hp]
          | some p =>
            simp only [Node.rename, hp]
            exact .some (hnew (hr.parent_lt_size hp))
        · rw [Node.rename, Node.rename, List.forall₂_map_left_iff, List.forall₂_map_right_iff, List.forall₂_same]
          exact fun c hc => hnew (lt_size_of_parent? r c ((hr.mem_children_iff k c).mp hc))

lemma create (draft : Draft) :
    ∃ R', LaterTwins R inside s t R' (s.create draft).1 (t.create draft).1 ∧ R' s.size t.size := by
  obtain ⟨hs, -⟩ := (Embeds.empty s).create draft
  obtain ⟨ht, -⟩ := (Embeds.empty t).create draft
  refine ⟨_, h.extend wellFormed_empty.create ((Appends.refl _ s).create draft) ((Appends.refl _ t).create draft) hs ht,
    .inr ⟨0, size_lt_size_create {} draft, rfl, rfl⟩⟩

lemma link (hc : R c c') (hn : R n m) (place : Place) : (s.link c n place).Twins R inside (t.link c' m place) := by
  have hheld := h.modify (g := fun node => { node with parent? := some c })
    (k := fun node => { node with parent? := some c' }) hn fun x y hxy =>
      { hxy with parent? := .some hc }
  refine hheld.modify hc fun x y hxy => { hxy with children := fun hinside => ?_ }
  cases place with
  | first => exact .cons hn (hxy.children hinside)
  | last => exact List.rel_append (hxy.children hinside) (.cons hn .nil)

lemma createIn (hc : R c c') (draft : Draft) (place : Place) :
    ∃ R', LaterTwins R inside s t R' (s.createIn c draft place).1 (t.createIn c' draft place).1 ∧ R' s.size t.size := by
  obtain ⟨R', hmade, hn⟩ := h.create draft
  have hlinked := hmade.twins.link (hmade.pairs.le _ _ hc) hn place
  refine ⟨R', ?_, hn⟩
  rw [createIn_fst, createIn_fst]
  exact hmade.trans (.of_size (size_link _ _ _ _) (size_link _ _ _ _) hlinked)

lemma createAllIn (hc : R c c') (drafts : List Draft) :
    ∃ R', LaterTwins R inside s t R' (s.createAllIn c drafts) (t.createAllIn c' drafts) := by
  induction drafts generalizing R s t with
  | nil => exact ⟨R, .of_size rfl rfl h⟩
  | cons draft rest ih =>
    obtain ⟨R', hmade, -⟩ := h.createIn hc draft .last
    obtain ⟨R'', hrest⟩ := ih hmade.twins (hmade.pairs.le _ _ hc)
    exact ⟨R'', hmade.trans hrest⟩

lemma below (hclosed : ∀ n c, inside n → c ∈ s.children n → inside c) (hr : R n m) (hn : inside n) :
    List.Forall₂ (fun c c' => R c c' ∧ inside c) (s.children n) (t.children m) := by
  have hchildren := (h.node hr).children hn
  rw [List.forall₂_iff_zip] at hchildren ⊢
  exact ⟨hchildren.1, fun hc => ⟨hchildren.2 hc, hclosed n _ hn (List.of_mem_zip hc).1⟩⟩

lemma hasWithin (hclosed : ∀ n c, inside n → c ∈ s.children n → inside c) (kind : Kind) (depth : ℕ) (hr : R n m)
    (hn : inside n) : t.hasWithin kind depth m = s.hasWithin kind depth n := by
  induction depth generalizing n m with
  | zero => rfl
  | succ depth ih =>
    rw [Store.hasWithin, Store.hasWithin]
    exact anyM_forall₂ ((h.below hclosed hr hn).imp fun c c' hc => by rw [h.kind hc.1, ih hc.1 hc.2])

lemma has? (hclosed : ∀ n c, inside n → c ∈ s.children n → inside c) (kind : Kind) (hr : R n m) (hn : inside n) :
    t.has? kind m = s.has? kind n := by
  have hs : s.size < max s.size t.size + 1 := by omega
  have ht : t.size < max s.size t.size + 1 := by omega
  rw [← hasWithin_eq_has? hs, ← hasWithin_eq_has? ht]
  exact h.hasWithin hclosed kind _ hr hn

lemma sketch (hclosed : ∀ n c, inside n → c ∈ s.children n → inside c) (hasStep : Bool) (depth : ℕ) (hr : R n m)
    (hn : inside n) : t.sketch hasStep depth m = s.sketch hasStep depth n := by
  induction depth generalizing n m with
  | zero => rfl
  | succ depth ih =>
    have hbelow : Layout.gather (t.sketch hasStep depth) (t.children m) =
        Layout.gather (s.sketch hasStep depth) (s.children n) :=
      gather_forall₂ ((h.below hclosed hr hn).imp fun c c' hc => ih hc.1 hc.2)
    rw [Store.sketch, Store.sketch, hbelow]
    exact sketchAround_congr (h.node hr).alike (h.has? hclosed .code hr hn) _ _

theorem rendering (hclosed : ∀ n c, inside n → c ∈ s.children n → inside c) (step? : Option String) (hr : R n m)
    (hn : inside n) : t.rendering step? m = s.rendering step? n := by
  have hs : s.size < max s.size t.size + 1 := by omega
  have ht : t.size < max s.size t.size + 1 := by omega
  rw [Store.rendering, Store.rendering, h.kind hr, ← sketch_eq hs, ← sketch_eq ht, h.sketch hclosed _ _ hr hn]

end

end Twins

end Store

namespace Deck

open Store (Appends LaterTwins)

structure Twins (R : NodeId → NodeId → Prop) (d e : Deck) : Prop where
  document : R d.document e.document
  preamble : R d.preamble e.preamble
  header : R d.header e.header

lemma Twins.mono {R R' : NodeId → NodeId → Prop} {d e : Deck} (h : d.Twins R e) (hR : R ≤ R') : d.Twins R' e :=
  ⟨hR _ _ h.document, hR _ _ h.preamble, hR _ _ h.header⟩

section

variable {R : NodeId → NodeId → Prop} {inside : NodeId → Prop} {s s' t t' : Store} {d e : Deck}

section

variable (h : s.Twins R inside t)

include h

lemma twins_build_alike {settings : LooseSettings} {i j : ℕ} {outlineTitle? : Option String}
    (hs : build s settings i outlineTitle? = .ok (s', d)) (ht : build t settings j outlineTitle? = .ok (t', e)) :
    ∃ R', LaterTwins R inside s t R' s' t' ∧ d.Twins R' e := by
  have hfirst := embeds_build (.empty s) settings 0 i outlineTitle?
  have hsecond := embeds_build (.empty t) settings 0 j outlineTitle?
  cases hbuilt : build {} settings 0 outlineTitle? with
  | error cause =>
    rw [hbuilt, hs] at hfirst
    cases hfirst
  | ok built =>
    obtain ⟨r, p⟩ := built
    obtain ⟨hedits, hp⟩ := build_edits hbuilt
    rw [hbuilt, hs] at hfirst
    rw [hbuilt, ht] at hsecond
    cases hfirst with
    | ok hfirst =>
      cases hsecond with
      | ok hsecond =>
        obtain ⟨hrs, rfl, -⟩ := hfirst
        obtain ⟨hrt, rfl, -⟩ := hsecond
        refine ⟨_, h.extend (hedits.wellFormed Store.wellFormed_empty) (appends_build hs) (appends_build ht) hrs hrt, ?_⟩
        exact ⟨.inr ⟨_, hp.document.lt_size, rfl, rfl⟩, .inr ⟨_, hp.preamble.lt_size, rfl, rfl⟩,
          .inr ⟨_, hp.header.lt_size, rfl, rfl⟩⟩

lemma twins_build_apart {settings settings' : LooseSettings} {i j : ℕ} {outlineTitle? : Option String}
    (hs : build s settings i outlineTitle? = .ok (s', d)) (ht : build t settings' j outlineTitle? = .ok (t', e))
    (houtside : ¬ inside d.preamble) : ∃ R', LaterTwins R inside s t R' s' t' ∧ d.Twins R' e := by
  obtain ⟨plan, -, rfl, rfl⟩ := exists_of_build hs
  obtain ⟨plan', -, rfl, rfl⟩ := exists_of_build ht
  obtain ⟨R₁, h₁, hdocument⟩ := h.create (.environment "document" [])
  obtain ⟨R₂, h₂, hpreamble⟩ := h₁.twins.create .header
  have hleft := appends_buildPreamble (.refl inside _) (.inl houtside) plan outlineTitle?
  have hright := appends_buildPreamble (.refl (fun m => ∃ n, R₂ n m ∧ inside n) _)
    (.inl fun ⟨n, hn, hinside⟩ => houtside ((h₂.twins.unique.1 hpreamble hn).symm ▸ hinside :)) plan' outlineTitle?
  have hgrown := h₂.twins.grow hleft hright
  obtain ⟨R₃, h₃, hheader⟩ := hgrown.create .header
  have hparts : LaterTwins R₂ inside _ _ R₃ _ _ :=
    LaterTwins.trans ⟨.refl _ _ R₂, hleft.size_le, hright.size_le, hgrown⟩ h₃
  exact ⟨R₃, h₁.trans (h₂.trans hparts),
    hparts.pairs.le _ _ (h₂.pairs.le _ _ hdocument), hparts.pairs.le _ _ hpreamble, hheader⟩

lemma twins_build {settings settings' : LooseSettings} {i j : ℕ} {outlineTitle? : Option String}
    (hs : build s settings i outlineTitle? = .ok (s', d)) (ht : build t settings' j outlineTitle? = .ok (t', e))
    (hplan : settings'.preamble = settings.preamble ∨ ¬ inside d.preamble) :
    ∃ R', LaterTwins R inside s t R' s' t' ∧ d.Twins R' e := by
  obtain hsame | houtside := hplan
  · rw [build, hsame, ← build] at ht
    exact twins_build_alike h hs ht
  · exact twins_build_apart h hs ht houtside

lemma twins_makeCodeHeader (comment? : Option String) :
    ∃ R', LaterTwins R inside s t R' (makeCodeHeader s comment?).1 (makeCodeHeader t comment?).1 ∧ R' s.size t.size := by
  obtain ⟨R₁, h₁, hheader⟩ := h.create .header
  obtain ⟨R₂, h₂⟩ := h₁.twins.createAllIn hheader [.package listingName [] comment?]
  exact ⟨R₂, h₁.trans h₂, h₂.pairs.le _ _ hheader⟩

lemma twins_addTitle {header header' : NodeId} (hheader : R header header') (title author : String)
    (date? subtitle? : Option String) : ∃ R', LaterTwins R inside s t R'
      (addTitle s header title author date? subtitle?) (addTitle t header' title author date? subtitle?) := by
  obtain ⟨R₁, h₁⟩ := h.createAllIn hheader
    [.command "title" { required := [title] }, .command "author" { required := [author] }]
  have hheader₁ := h₁.pairs.le _ _ hheader
  have hsubtitled {R₂ : NodeId → NodeId → Prop} {u v : Store} (h₂ : LaterTwins R inside s t R₂ u v) :
      ∃ R', LaterTwins R inside s t R'
        (u.createAllIn header (subtitle?.map fun text => Draft.command "subtitle" { required := [text] }).toList)
        (v.createAllIn header' (subtitle?.map fun text => Draft.command "subtitle" { required := [text] }).toList) := by
    obtain ⟨R₃, h₃⟩ := h₂.twins.createAllIn (h₂.pairs.le _ _ hheader) _
    exact ⟨R₃, h₂.trans h₃⟩
  simp only [addTitle]
  cases date? with
  | some date =>
    obtain ⟨R₂, h₂⟩ := h₁.twins.createAllIn hheader₁ [.command "date" { required := [date] }]
    exact hsubtitled (h₁.trans h₂)
  | none =>
    obtain ⟨R₂, h₂, hdate⟩ := h₁.twins.createIn hheader₁ (.containingCommand "date") .last
    obtain ⟨R₃, h₃⟩ := h₂.twins.createAllIn hdate [.command "today" {}]
    simp only [Store.createIn_snd]
    exact hsubtitled (h₁.trans (h₂.trans h₃))

lemma twins_openWith {document document' : NodeId} (hdocument : R document document') (title? : Option String)
    (command : String) (options : List String) : ∃ R', LaterTwins R inside s t R'
      (openWith s document title? command options) (openWith t document' title? command options) := by
  obtain ⟨R₁, h₁, hslide⟩ := h.createIn hdocument (.frame title?) .first
  obtain ⟨R₂, h₂⟩ := h₁.twins.createAllIn hslide [.command command { options }]
  exact ⟨R₂, h₁.trans h₂⟩

lemma twins_setTitle (hd : d.Twins R e) (title author : String) (date? subtitle? : Option String) :
    ∃ R', LaterTwins R inside s t R' (d.setTitle s title author date? subtitle?)
      (e.setTitle t title author date? subtitle?) := by
  obtain ⟨R₁, h₁⟩ := twins_addTitle h hd.header title author date? subtitle?
  obtain ⟨R₂, h₂⟩ := twins_openWith h₁.twins (h₁.pairs.le _ _ hd.document) (some title) "tableofcontents"
    ["hideallsubsections"]
  obtain ⟨R₃, h₃⟩ := twins_openWith h₂.twins (h₂.pairs.le _ _ (h₁.pairs.le _ _ hd.document)) none "titlepage" []
  exact ⟨R₃, h₁.trans (h₂.trans h₃)⟩

theorem Twins.rendering (hclosed : ∀ n c, inside n → c ∈ s.children n → inside c) (hd : d.Twins R e)
    (hpreamble : inside d.preamble) (hheader : inside d.header) (hdocument : inside d.document)
    {settings settings' : LooseSettings} (hstep : settings'.step? = settings.step?)
    (hcomment : settings'.comment? = settings.comment?) : e.rendering t settings' = d.rendering s settings := by
  simp only [Deck.rendering, codeRendering, hstep, hcomment, h.rendering hclosed _ hd.preamble hpreamble,
    h.rendering hclosed _ hd.header hheader, h.rendering hclosed _ hd.document hdocument,
    h.has? hclosed _ hd.document hdocument]

end

end

end Deck

end SlideDeck
