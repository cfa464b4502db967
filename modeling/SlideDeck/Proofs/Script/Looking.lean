import SlideDeck.Proofs.Store.DeckWriting
import SlideDeck.Script.Action

/-! Questions hand on the session that they were put to: the renderer works on the nodes, and leaves them as they
are. -/

namespace SlideDeck.Script

def Sight.text? (x : Sight) : Option String :=
  match x.outcome with
  | .ok (.value (.atom (.text text))) => some text
  | _ => none

lemma Sight.outcome_of_text? {x : Sight} {text : String} (h : x.text? = some text) :
    x.outcome = .ok (.value (.text text)) := by
  rw [Sight.text?] at h
  split at h
  · next heq =>
    cases h
    exact heq
  · cases h

namespace Session

variable {s : Session} {w : Writing String} {r : Rendering}

def deckRendering (s : Session) (d : Deck) : Rendering :=
  d.rendering s.store (s.workspace.settingsAt d.settings)

def write (s : Session) (e : Entity) (step : String) : Sight := (s.render e step).2

def print (s : Session) (e : Entity) : Sight := (s.spell e).2

def look (s : Session) (e : Entity) (question : Look) : Sight := (s.ask e question).2

lemma begin_eq (h : w.Renders s.store r) : s.begin w = (s, .ofRendering r) := by
  obtain ⟨lists, output, heq⟩ := h { store := s.store } rfl
  rw [Session.begin, Writing.begin, heq]
  obtain ⟨records, outcome⟩ := r
  cases outcome <;> rfl

lemma render_eq (s : Session) (e : Entity) (step : String) : s.render e step = (s,
    match e with
    | .object (.node n) => .ofRendering (s.store.rendering (some step) n)
    | .object (.deck i) =>
      match s.workspace.deck? i with
      | some deck => .ofRendering (s.deckRendering deck)
      | none => { outcome := s.missing e "kind" }
    | _ => { outcome := s.missing e "kind" }) := by
  cases e with
  | object o =>
    cases o with
    | node n => exact begin_eq (Renderer.renders (some step) s.store n)
    | deck i =>
      simp only [render]
      cases s.workspace.deck? i with
      | none => rfl
      | some deck => exact begin_eq (deck.renders s.store _)
    | _ => rfl
  | _ => rfl

lemma write_eq (s : Session) (e : Entity) (step : String) : s.write e step =
    match e with
    | .object (.node n) => .ofRendering (s.store.rendering (some step) n)
    | .object (.deck i) =>
      match s.workspace.deck? i with
      | some deck => .ofRendering (s.deckRendering deck)
      | none => { outcome := s.missing e "kind" }
    | _ => { outcome := s.missing e "kind" } := by
  rw [write, render_eq]

lemma write_node (n : NodeId) (step : String) :
    s.write (.node n) step = .ofRendering (s.store.rendering (some step) n) := write_eq s _ step

lemma write_deck {i : Nat} {d : Deck} (hd : s.workspace.deck? i = some d) (step : String) :
    s.write (.object (.deck i)) step = .ofRendering (s.deckRendering d) := by
  simp only [write_eq, hd]

lemma print_eq (s : Session) (e : Entity) : s.print e =
    match e with
    | .object (.node _) | .object (.deck _) => s.write e standardIndent
    | .object (.arguments a) => .ofText (s.workspace.argumentsAt a).describe
    | .object (.settings i) => .ofText (s.workspace.settingsAt i).describe
    | .object (.kind k) => .ofText ("NodeKind." ++ k.constant)
    | .nodes form members => .ofText (form.write (members.map s.describeItem))
    | .value (.atom (.text text)) => .ofText text
    | e => .ofText (s.present e).write := by
  rw [print, spell.eq_def]
  cases e with
  | object o => cases o <;> rfl
  | value v =>
    cases v with
    | atom a => cases a <;> rfl
    | _ => rfl
  | _ => rfl

lemma spell_fst (s : Session) (e : Entity) : (s.spell e).1 = s := by
  rw [spell.eq_def]
  split <;> first | rw [render_eq] | rfl

/-- Whatever is asked, the session is as before. -/
theorem ask_fst (s : Session) (e : Entity) (question : Look) : (s.ask e question).1 = s := by
  cases question with
  | print => exact s.spell_fst e
  | write step? => rw [ask, render_eq]
  | _ => rfl

lemma ask_eq (s : Session) (e : Entity) (question : Look) : s.ask e question = (s, s.look e question) :=
  Prod.ext (s.ask_fst e question) rfl

end Session

lemma Action.run_look (s : Session) (on : String) (question : Look) : (Action.look on question).run s =
    match s.lookup on with
    | .error fault => { session := s, outcome := .error fault }
    | .ok e => {
        session := s
        records := (s.look e question).records
        outcome := (s.look e question).outcome } := by
  cases hon : s.lookup on with
  | error fault => simp only [Action.run, hon]
  | ok e => simp only [Action.run, hon, Session.ask_eq]

end SlideDeck.Script
