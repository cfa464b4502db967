import SlideDeck.Script.Action

/-! Scripts: steps with further steps inside, and the answers to them. A step inside another one that fails
ends the steps around it with the same fault; what was done before it stays. -/

namespace SlideDeck.Script

inductive Step where
  | act (action : Action) (result? : Option String)
  | build (construction : Construction) (result? : Option String)
  | buildWith (construction : Construction) (subject? : Option String) (steps : List Step)
      (result? : Option String)
  | within (on : String) (subject? : Option String) (steps : List Step)
  deriving Repr

inductive Answer where
  | plain (outcome : Except Fault Value) (log : List Log.Record)
  | nested (outcome : Except Fault Value) (inner : List Answer)
  deriving Repr

namespace Answer

def outcome : Answer → Except Fault Value
  | plain outcome _ => outcome
  | nested outcome _ => outcome

def fault? (a : Answer) : Option Fault :=
  match a.outcome with
  | .ok _ => none
  | .error fault => some fault

def firstFault? (answers : List Answer) : Option Fault := answers.findSome? fault?

end Answer

namespace Session

def conclude (s : Session) (result? : Option String) (e : Entity) : Session × Value :=
  let e := e.named result?
  let s := s.bind result? e
  (s, s.present e)

/-- The answer to a step that is done at once. A fault binds nothing. -/
def answer (s : Session) (result? : Option String) (effect : Effect) : Session × Answer :=
  let log := Log.visible s.logger.level? effect.records
  match effect.outcome with
  | .ok e =>
    let (session, value) := effect.session.conclude result? e
    (session, .plain (.ok value) log)
  | .error fault => (effect.session, .plain (.error fault) log)

end Session

def Construction.run (s : Session) (construction : Construction) : Effect :=
  match construction.start s with
  | .error fault => { session := s, outcome := .error fault }
  | .ok (s, pending) =>
    match pending.finish s with
    | .error fault => { session := s, outcome := .error fault }
    | .ok s => { session := s, outcome := .ok pending.subject }

mutual

def Step.run : Step → Session → Session × Answer
  | .act action result?, s => s.answer result? (action.run s)
  | .build construction result?, s => s.answer result? (construction.run s)
  | .buildWith construction subject? steps result?, s =>
    match construction.start s with
    | .error fault => (s, .plain (.error fault) [])
    | .ok (s, pending) =>
      let (s, inner) := Step.runUntilFault steps (s.bind subject? pending.subject)
      match Answer.firstFault? inner with
      | some fault => (s, .nested (.error fault) inner)
      | none =>
        match pending.finish s with
        | .error fault => (s, .nested (.error fault) inner)
        | .ok s =>
          let (s, value) := s.conclude result? pending.subject
          (s, .nested (.ok value) inner)
  | .within on subject? steps, s =>
    match s.lookup on with
    | .error fault => (s, .nested (.error fault) [])
    | .ok (.object (.node n)) =>
      let (s, inner) := Step.runUntilFault steps (s.bind subject? (.node n))
      match Answer.firstFault? inner with
      | some fault => (s, .nested (.error fault) inner)
      | none => (s, .nested (.ok (s.present (.node n))) inner)
    | .ok _ => (s, .nested (.error .unsuitable) [])

def Step.runUntilFault : List Step → Session → Session × List Answer
  | [], s => (s, [])
  | step :: rest, s =>
    let (s, answer) := step.run s
    match answer.fault? with
    | some _ => (s, [answer])
    | none =>
      let (s, answers) := Step.runUntilFault rest s
      (s, answer :: answers)

end

def runAll : List Step → Session → Session × List Answer
  | [], s => (s, [])
  | step :: rest, s =>
    let (s, answer) := step.run s
    let (s, answers) := runAll rest s
    (s, answer :: answers)

def run (steps : List Step) : List Answer := (runAll steps {}).2

end SlideDeck.Script
