import SlideDeck.Proofs.Script.InPlace
import SlideDeck.Proofs.Script.Retaining
import SlideDeck.Proofs.Store.Appending

/-! A session where a document and a header have been made, and the session where a presentation has been made
instead. -/

namespace SlideDeck

structure Relocation.Fixes (r : Relocation) (w : Workspace) : Prop where
  node {n : NodeId} : n < w.store.size → r.node n = n
  deck {i : ℕ} : i < w.decks.size → r.deck i = i
  settings {i : ℕ} : i < w.settings.size → r.settings i = i

namespace Relocation.Fixes

open Script

variable {r : Relocation} {w : Workspace} (h : r.Fixes w)

include h

lemma argumentsRef {a : ArgumentsRef} (ha : a.Bound w) : a.relocate r = a := by
  cases a with
  | ofNode n => exact congrArg ArgumentsRef.ofNode (h.node ha)
  | free i => rfl

lemma object {o : Object} (ho : o.Bound w) : o.relocate r = o := by
  cases o with
  | node n => exact congrArg Object.node (h.node ho)
  | arguments a => exact congrArg Object.arguments (h.argumentsRef ho)
  | deck i => exact congrArg Object.deck (h.deck ho)
  | settings i => exact congrArg Object.settings (h.settings ho)
  | kind k => rfl

lemma entity {e : Entity} (he : e.Bound w) : e.relocate r = e := by
  cases e with
  | object o => exact congrArg Entity.object (h.object he)
  | nodes form members =>
    exact congrArg (Entity.nodes form) ((List.map_congr_left fun n hn => h.node (he n hn)).trans (List.map_id members))
  | part owner p => exact congrArg (Entity.part · p) (h.argumentsRef he)
  | value v => rfl

lemma relocate_deck {d : Deck} (hd : d.Within w.store) (hsettings : d.settings < w.settings.size) :
    d.relocate r = d := by
  rw [Deck.relocate, h.settings hsettings, h.node hd.document.lt_size, h.node hd.preamble.lt_size,
    h.node hd.header.lt_size]

end Relocation.Fixes

namespace Script

variable {s t : Session}

lemma Session.takeSettings_eq {source : SettingsSource} {i : ℕ} (h : s.takeSettings source = .ok (t, i)) :
    t = { s with workspace := { s.workspace with settings := t.workspace.settings } } := by
  cases takes h <;> rfl

lemma Session.exists_of_makeDeck {outlineTitle? : Option String} {source : SettingsSource} {j : ℕ} {d : Deck}
    (h : s.makeDeck outlineTitle? source = .ok (t, .object (.deck j))) (hd : t.workspace.deck? j = some d) :
    ∃ (settings : Array LooseSettings) (store : Store) (x : LooseSettings) (place : ℕ),
      Deck.build s.store x place outlineTitle? = .ok (store, d) ∧ j = s.workspace.decks.size ∧
      t = { s with workspace := { s.workspace with store, settings, decks := s.workspace.decks.push d } } ∧
      s.Keeps t := by
  have hkeeps := keeps_makeDeck h
  obtain ⟨u, place, store, e, htake, hbuild, rfl, hx⟩ := exists_build_of_makeDeck h
  have hu := takeSettings_eq htake
  cases hx
  obtain rfl : e = d := by simpa [Workspace.deck?] using hd
  rw [hu] at hbuild ⊢
  exact ⟨_, store, _, place, hbuild, rfl, rfl, by rwa [hu] at hkeeps⟩

lemma Session.Reachable.tied_makeDeck (hs : s.Reachable) {outlineTitle? : Option String} {source : SettingsSource}
    {j : ℕ} {d : Deck} (h : s.makeDeck outlineTitle? source = .ok (t, .object (.deck j)))
    (hd : t.workspace.deck? j = some d) :
    let document := s.store.create (.environment "document" [])
    let header := document.1.create .header
    ∃ r : Relocation, (∀ i, r.deck i ≠ j) ∧ r.node document.2 = d.document ∧ r.node header.2 = d.header ∧
      ∀ T : Tie, T.toRelocation = r → (∀ l, T.loggers l l) → (s.withStore header.1).Tied T t := by
  intro document header
  obtain ⟨settings, store, x, place, hbuild, rfl, rfl, hkeeps⟩ := exists_of_makeDeck h hd
  have hw := hs.wellFormed
  have hb := hs.bounded
  obtain ⟨f, hfixed, hembeds, hdocument, hheader⟩ := Deck.embeds_parts hw.store hbuild
  have hsize : s.workspace.settings.size ≤ settings.size := by
    by_contra hlt
    have hsame := hkeeps.settings (i := settings.size) (Nat.lt_of_not_le hlt)
    rw [Array.getElem?_eq_none (Nat.le_refl settings.size), Array.getElem?_eq_getElem (Nat.lt_of_not_le hlt)] at hsame
    cases hsame
  -- what is made later is moved up by what the presentation has brought besides its parts
  let r : Relocation := {
    node := f
    deck := moveUp s.workspace.decks.size ((s.workspace.decks.push d).size - s.workspace.decks.size)
    settings := moveUp s.workspace.settings.size (settings.size - s.workspace.settings.size) }
  have hfixes : r.Fixes s.workspace := ⟨fun hn => hfixed _ hn, fun hi => moveUp_of_lt hi, fun hi => moveUp_of_lt hi⟩
  refine ⟨r, fun i hi => ?_, hdocument, hheader, ?_⟩
  · by_cases hlt : i < s.workspace.decks.size
    · exact absurd ((moveUp_of_lt hlt).symm.trans hi) (Nat.ne_of_lt hlt)
    · have hmoved := (moveUp_of_le (Nat.le_of_not_lt hlt)).symm.trans hi
      rw [Array.size_push] at hmoved
      omega
  · rintro T hT hloggers
    refine {
      store := by rw [hT]; exact hembeds
      arguments := rfl
      settings := ?_
      decks := ?_
      names := ?_
      marks := ?_
      logger := hloggers _ }
    · rw [hT]
      exact Spread.of_start hsize (fun i hi => hkeeps.settings hi) fun i x _ => ⟨.refl x, .inl rfl⟩
    · rw [hT]
      refine Spread.of_start (by simp) (fun i hi => ?_) fun i e he => ?_
      · rw [Array.getElem?_push_lt hi, Array.getElem?_eq_getElem hi]
      · have hmem : e ∈ s.workspace.decks := Array.mem_of_getElem? he
        have hsame := hfixes.relocate_deck (hw.decks e hmem) (hb.settings e hmem)
        exact ⟨by rw [hT, hsame], .inl rfl⟩
    · exact List.forall₂_same.mpr fun entry hentry => ⟨rfl, .inl (by rw [hT, hfixes.entity (hb.names entry hentry)])⟩
    · have hmark (m) (hm : m ∈ s.marks) : T.mark m = m := by rw [Tie.mark, hT, hfixes.object (hb.marks m hm)]
      exact ((List.map_congr_left hmark).trans (List.map_id _)).symm

end Script

end SlideDeck
