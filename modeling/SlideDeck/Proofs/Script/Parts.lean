import SlideDeck.Proofs.Script.Configuring
import SlideDeck.Proofs.Script.Retaining
import SlideDeck.Proofs.Script.Tandem

/-! Calls of a presentation, and the calls of its document and its header that stand for them. -/

namespace SlideDeck.Script

/-- The names of a presentation, of its document and of its header, and one under which a new slide is put in. -/
structure Parts where
  deck : String
  document : String
  header : String
  slide : String
  nodup : [deck, document, header, slide].Nodup

namespace Parts

variable (p : Parts)

lemma deck_ne : p.deck ≠ p.document ∧ p.deck ≠ p.header ∧ p.deck ≠ p.slide := by
  have hnodup := p.nodup
  grind

lemma document_ne : p.document ≠ p.header ∧ p.document ≠ p.slide := by
  have hnodup := p.nodup
  grind

lemma header_ne_slide : p.header ≠ p.slide := by
  have hnodup := p.nodup
  grind

def names : List String := [p.deck, p.document, p.header, p.slide]

def home : Method → String
  | .head | .package | .newCommand => p.header
  | _ => p.document

def instead (part on : String) : String := if on = p.deck then part else on

def blank (name : String) : Step := .act (.look p.document (.equal p.document)) (some name)

def addSlide (title? subject? : Option String) (steps : List Step) (result? : Option String) : List Step :=
  [.act (.make (.frame title?)) (some p.slide),
    .buildWith (.adopt p.document p.slide .last) subject? (p.blank p.slide :: steps) result?]

def enterHeader (subject? : Option String) (steps : List Step) (result? : Option String) : List Step :=
  [.within p.header subject? (steps ++ (result?.map fun name => .within p.header (some name) []).toList)]

end Parts

/-- A call of the presentation that is not a single call of a part. -/
inductive Detour where
  | slide (title? : Option String)
  | head
  deriving DecidableEq

def Detour.steps (p : Parts) : Detour → Option String → List Step → Option String → List Step
  | slide title? => p.addSlide title?
  | head => p.enterHeader

def Detour.Answers (outcome : Except Fault Value) (inner : List Answer) : Detour → List Answer → Prop
  | slide _, answers => ∃ made blanked, answers = [made, .nested outcome (blanked :: inner)]
  | head, answers => ∃ named, answers = [.nested outcome (inner ++ named)]

def Action.onParts (p : Parts) : Action → Action
  | change on c => change (p.instead p.document on) c
  | look on question => look (p.instead p.document on) question
  | action => action

namespace Construction

def detour? (p : Parts) : Construction → Option Detour
  | child on (.frame title?) => if on = p.deck then some (.slide title?) else none
  | head on => if on = p.deck then some .head else none
  | _ => none

def onParts (p : Parts) : Construction → Construction
  | adopt on node place => adopt (p.instead p.document on) node place
  | child on builder => child (p.instead (p.home builder.method) on) builder
  | construction => construction

end Construction

mutual

/-- The steps on the document and the header that stand for a step. -/
def Step.onParts (p : Parts) : Step → List Step
  | .act action result? => [.act (action.onParts p) result?]
  | .build construction result? =>
    match construction.detour? p with
    | some detour => detour.steps p none [] result?
    | none => [.build (construction.onParts p) result?]
  | .buildWith construction subject? steps result? =>
    match construction.detour? p with
    | some detour => detour.steps p subject? (Step.allOnParts p steps) result?
    | none => [.buildWith (construction.onParts p) subject? (Step.allOnParts p steps) result?]
  | .within on subject? steps => [.within on subject? (Step.allOnParts p steps)]

def Step.allOnParts (p : Parts) : List Step → List Step
  | [] => []
  | step :: rest => step.onParts p ++ Step.allOnParts p rest

end

section

variable (p : Parts)

mutual

/-- An answer to a step, and the answers to the steps that stand for it, with the same results and faults. -/
def Step.Alike : Step → Answer → List Answer → Prop
  | .act _ _, a, answers => answers = [a]
  | .build construction _, a, answers =>
    match construction.detour? p with
    | some detour => ∃ outcome, a = .plain outcome [] ∧ detour.Answers outcome [] answers
    | none => answers = [a]
  | .buildWith construction _ steps _, a, answers =>
    match construction.detour? p with
    | some detour => ∃ outcome inner inner', a = .nested outcome inner ∧ detour.Answers outcome inner' answers ∧
      Step.AllAlike steps inner inner'
    | none => ∃ b, answers = [b] ∧
      ((∃ fault, a = .plain (.error fault) [] ∧ b = .plain (.error fault) []) ∨ a.Nest (Step.AllAlike steps) b)
  | .within _ _ steps, a, answers => ∃ b, answers = [b] ∧ a.Nest (Step.AllAlike steps) b

def Step.AllAlike : List Step → List Answer → List Answer → Prop
  | [], as, answers => as = [] ∧ answers = []
  | step :: rest, as, answers => (as = [] ∧ answers = []) ∨
    ∃ a after answers₁ answers₂, as = a :: after ∧ answers = answers₁ ++ answers₂ ∧ step.Alike a answers₁ ∧
      Step.AllAlike rest after answers₂

end

end

def Action.Forwarded : Action → Prop
  | change _ (.headings _ _) | look _ (.has _) => True
  | _ => False

def Construction.Forwarded (p : Parts) : Construction → Prop
  | adopt _ node _ => node ≠ p.deck
  | child _ builder => builder.method.isOfDeck = true
  | head _ => True
  | deck _ _ => False

def Step.Forwarded (p : Parts) : Step → Prop
  | .act action _ => action.Forwarded
  | .build construction _ | .buildWith construction _ _ _ => construction.Forwarded p
  | .within _ _ _ => False

/-- A step uses the presentation only for calls that it passes on, and gives its name and those of its parts to
nothing else. -/
structure Step.Fits (p : Parts) (step : Step) : Prop where
  binds : ∀ name ∈ step.bindings, name ∉ p.names
  forwarded : p.deck ∈ step.names → step.Forwarded p

mutual

def Step.Everywhere (P : Step → Prop) : Step → Prop
  | .act action result? => P (.act action result?)
  | .build construction result? => P (.build construction result?)
  | .buildWith construction subject? steps result? =>
    P (.buildWith construction subject? steps result?) ∧ Step.AllEverywhere P steps
  | .within on subject? steps => P (.within on subject? steps) ∧ Step.AllEverywhere P steps

def Step.AllEverywhere (P : Step → Prop) : List Step → Prop
  | [] => True
  | step :: rest => step.Everywhere P ∧ Step.AllEverywhere P rest

end

mutual

lemma Step.Everywhere.throughout {P : Step → Prop} {Q : Step → Session → Prop} (h : ∀ step s, P step → Q step s) :
    ∀ (step : Step) (s : Session), step.Everywhere P → step.Throughout Q s
  | .act _ _, _, hp => h _ _ hp
  | .build _ _, _, hp => h _ _ hp
  | .buildWith _ _ steps _, _, hp => ⟨h _ _ hp.1, fun _ _ _ => Step.AllEverywhere.allThroughout h steps _ hp.2⟩
  | .within _ _ steps, _, hp => ⟨h _ _ hp.1, fun _ _ => Step.AllEverywhere.allThroughout h steps _ hp.2⟩

lemma Step.AllEverywhere.allThroughout {P : Step → Prop} {Q : Step → Session → Prop}
    (h : ∀ step s, P step → Q step s) : ∀ (steps : List Step) (s : Session),
    Step.AllEverywhere P steps → Step.AllThroughout Q steps s
  | [], _, _ => trivial
  | step :: rest, s, hp =>
    ⟨Step.Everywhere.throughout h step s hp.1, fun _ => Step.AllEverywhere.allThroughout h rest _ hp.2⟩

end

lemma Step.AllEverywhere.throughout {P : Step → Prop} {Q : Step → Session → Prop} (h : ∀ step s, P step → Q step s)
    (steps : List Step) (s : Session) (hp : Step.AllEverywhere P steps) :
    Script.Throughout Q steps s := by
  induction steps generalizing s with
  | nil => trivial
  | cons step rest ih => exact ⟨Step.Everywhere.throughout h step s hp.1, ih _ hp.2⟩

lemma Step.AllEverywhere.append {P : Step → Prop} {steps rest : List Step} (h : Step.AllEverywhere P steps)
    (h' : Step.AllEverywhere P rest) : Step.AllEverywhere P (steps ++ rest) := by
  induction steps with
  | nil => exact h'
  | cons step steps ih => exact ⟨h.1, ih h.2⟩

end SlideDeck.Script
