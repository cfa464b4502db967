import SlideDeck.Proofs.Script.Abreast
import SlideDeck.Proofs.Store.DeckRendering

/-! A session, and the same session after an assignment to settings or to the title of an outline. All that was there
is its own twin, and a presentation whose trees have twins is written alike. -/

namespace SlideDeck

def Pairing.here (w : Workspace) : Pairing where
  node n m := m = n ∧ n < w.store.size
  deck i j := j = i ∧ i < w.decks.size
  settings i j := j = i ∧ i < w.settings.size

lemma biUnique_here (size : ℕ) : Relator.BiUnique fun i j => j = i ∧ i < size := by
  constructor
  · rintro i i' j ⟨rfl, -⟩ ⟨rfl, -⟩
    rfl
  · rintro i j j' ⟨rfl, -⟩ ⟨rfl, -⟩
    rfl

lemma Store.WellFormed.twins {s : Store} (hs : s.WellFormed) (inside : NodeId → Prop) :
    s.Twins (fun n m => m = n ∧ n < s.size) inside s where
  unique := biUnique_here s.size
  lt_size h := by
    obtain ⟨rfl, hlt⟩ := h
    exact ⟨hlt, hlt⟩
  node {n m} h := by
    obtain ⟨rfl, -⟩ := h
    refine ⟨rfl, ?_, ?_, fun _ => ?_⟩
    · cases hlisting : (s.node m).content.listing? with
      | none => exact .none
      | some l => exact .some ⟨rfl, lt_size_of_parent? s l (hs.listing m l hlisting).1⟩
    · cases hparent : (s.node m).parent? with
      | none => exact .none
      | some p => exact .some ⟨rfl, hs.parent_lt_size hparent⟩
    · rw [List.forall₂_same]
      exact fun c hc => ⟨rfl, lt_size_of_parent? s c ((hs.mem_children_iff m c).mp hc)⟩

namespace Script

/-- The nodes of the trees of a presentation. -/
def Session.InDeck (s : Session) (d : Deck) (m : NodeId) : Prop := ∃ r ∈ d.roots, s.store.Climbs m r

lemma Session.not_inDeck_of_free {s : Session} {d : Deck} {m : NodeId} (hfree : s.store.parent? m = none)
    (hroot : m ∉ d.roots) : ¬ s.InDeck d m := by
  rintro ⟨r, hr, hclimbs⟩
  obtain rfl := hclimbs.eq_of_free hfree
  exact hroot hr

def comparison (inside : NodeId → Prop) (aside : List String) : Comparison where
  inside := inside
  aside := aside
  alike := Eq
  alike_refl _ := rfl
  alike_assign? := by
    rintro x _ x' y' field value rfl hx hy
    exact Option.some.inj (hx.symm.trans hy)
  writesAlike := by
    rintro x _ rfl
    exact .refl x

def looseComparison (inside : NodeId → Prop) (aside : List String) : Comparison where
  inside := inside
  aside := aside
  alike := LooseSettings.WritesAlike
  alike_refl := .refl
  alike_assign? h hx hy := h.assign? hx hy
  writesAlike := id

variable {C : Comparison} {K : Pairing} {s t u v : Session} {j k : ℕ} {d : Deck}

namespace Session

lemma Reachable.twins (hs : s.Reachable) (C : Comparison) : s.Twins C (.here s.workspace) s where
  workspace := {
    store := hs.wellFormed.store.twins C.inside
    unique_deck := biUnique_here _
    deck := by
      rintro i j ⟨rfl, hi⟩
      have hd : s.workspace.deck? j = some s.workspace.decks[j] := Array.getElem?_eq_getElem hi
      have hwithin := hs.wellFormed.deck? hd
      exact ⟨_, _, hd, hd, ⟨⟨rfl, hwithin.document.lt_size⟩, ⟨rfl, hwithin.preamble.lt_size⟩,
        ⟨rfl, hwithin.header.lt_size⟩⟩, rfl, hs.bounded.settings _ (Array.getElem_mem hi)⟩
    unique_settings := biUnique_here _
    settings := by
      rintro i j ⟨rfl, hi⟩
      exact ⟨hi, hi, C.alike_refl _⟩
    arguments := rfl }
  marks {o o'} ho name := by
    obtain rfl : o' = o := by
      cases ho with
      | node h => rw [h.1]
      | arguments h => cases h with | ofNode h => rw [h.1] | free i => rfl
      | deck h => rw [h.1]
      | settings h => rw [h.1]
      | kind k => rfl
    rfl
  names {name} _ := by
    cases he : s.names.lookup name with
    | none => exact .none
    | some e =>
      have hbound := hs.bounded.lookup (lookup_eq_ok_iff.mpr he)
      refine .some ?_
      cases e with
      | object o =>
        refine .object ?_
        cases o with
        | node n => exact .node ⟨rfl, hbound⟩
        | arguments a => cases a with | ofNode n => exact .arguments (.ofNode ⟨rfl, hbound⟩) | free i => exact .arguments (.free i)
        | deck i => exact .deck ⟨rfl, hbound⟩
        | settings i => exact .settings ⟨rfl, hbound⟩
        | kind k => exact .kind k
      | _ => exact .plain trivial trivial

lemma Twins.retitle_right (h : s.Twins C K t) (k : ℕ) (title : Atom) : s.Twins C K (t.setOutlineTitle k title) := by
  refine { h with workspace := { h.workspace with deck := fun {i j} hij => ?_ } }
  obtain ⟨d, e, hd, he, hde, hsettings⟩ := h.workspace.deck hij
  simp only [setOutlineTitle, Workspace.deck?] at hd he ⊢
  rw [Array.getElem?_modify, he]
  split
  · exact ⟨d, _, hd, rfl, ⟨hde.document, hde.preamble, hde.header⟩, hsettings⟩
  · exact ⟨d, e, hd, rfl, hde, hsettings⟩

lemma Twins.assign_right (h : s.Twins C K t) (hC : ∀ x y, x.WritesAlike y → C.alike x y) {place : ℕ} {x : LooseSettings}
    (hx : (t.workspace.settingsAt place).WritesAlike x) : s.Twins C K { t with workspace := { t.workspace with
      settings := t.workspace.settings.setIfInBounds place x } } := by
  refine { h with workspace := { h.workspace with settings := fun {i j} hij => ?_ } }
  obtain ⟨hi, hj, halike⟩ := h.workspace.settings hij
  rw [Workspace.settingsAt_set _ hj, Array.size_setIfInBounds]
  refine ⟨hi, hj, ?_⟩
  split
  · next heq =>
    subst heq
    exact hC _ _ ((C.writesAlike halike).trans hx)
  · exact halike

lemma Twins.write (h : u.Twins C K v) (hu : u.Reachable) (hj : K.deck j j) (hinside : ∀ m, u.InDeck d m → C.inside m)
    (hd : ∃ title, u.workspace.deck? j = some { d with outlineTitle := title }) (indent : String) :
    v.write (.object (.deck j)) indent = u.write (.object (.deck j)) indent := by
  obtain ⟨title, hd⟩ := hd
  obtain ⟨d', e, hd', he, hde, hsettings⟩ := h.workspace.deck hj
  obtain rfl := Option.some.inj (hd'.symm.trans hd)
  have halike := C.writesAlike (h.workspace.settings hsettings).2.2
  have hclosed (n c : NodeId) : u.InDeck d n → c ∈ u.store.children n → u.InDeck d c := by
    rintro ⟨r, hr, hn⟩ hc
    exact ⟨r, hr, .head ((hu.wellFormed.store.mem_children_iff n c).mp hc) hn⟩
  have hroot {r : NodeId} (hr : r ∈ d.roots) : u.InDeck d r := ⟨r, hr, .refl⟩
  rw [write_deck hd', write_deck he, deckRendering, deckRendering]
  exact congrArg Sight.ofRendering (hde.rendering (h.workspace.store.narrow hinside) hclosed
    (hroot (by simp [Deck.roots])) (hroot (by simp [Deck.roots])) (hroot (by simp [Deck.roots])) halike.step?
    halike.comment?)

def WritesDeckAlike (j : ℕ) (s t : Session) : Prop :=
  ∀ indent, t.write (.object (.deck j)) indent = s.write (.object (.deck j)) indent

theorem Twins.writeDeckAlike {P : Step → Session → Session → Prop} (hP : Supports C P) {steps : List Step}
    (h : s.Twins C K t) (hs : s.Reachable) (ht : t.Reachable) (hj : K.deck j j) (hd : s.workspace.deck? j = some d)
    (hinside : ∀ u ∈ sessions steps s, ∀ m, u.InDeck d m → C.inside m) (hp : Abreast P C.aside steps s t) :
    List.Forall₂ (WritesDeckAlike j) (sessions steps s) (sessions steps t) := by
  have htwins := sessions_twins hP steps h hs ht hp
  rw [List.forall₂_iff_zip] at htwins ⊢
  refine ⟨htwins.1, fun {u v} huv indent => ?_⟩
  have hu : u ∈ sessions steps s := (List.of_mem_zip huv).1
  obtain ⟨K', hle, hlater⟩ := htwins.2 huv
  have hkept : s.KeepsDecks u :=
    Throughout.sessions Step.yields_keepsDecks steps (.of_forall (fun _ _ => trivial) steps s) u hu
  exact hlater.write (hs.of_mem_sessions hu) (hle.deck _ _ hj) (hinside u hu) (hkept j d hd) indent

end Session

end Script

end SlideDeck
