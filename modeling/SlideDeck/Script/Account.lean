import SlideDeck.Script.Field

/-! Full accounts of nodes with all below them, of arguments and of the log, as records; and the descriptions
that some objects have. -/

namespace SlideDeck.Script

def Reference.entries (r : Reference) : List (String × Value) :=
  [("type", .text r.typeName), ("id", .atom (Atom.ofText? r.name?))] ++
    (r.kind?.map fun kind => ("kind", Value.text kind.label)).toList

/-- The attributes that a full account of a node lists if it has them. -/
def accountFields : List String :=
  ["name", "text", "title", "language", "n_args", "args", "opt_args", "inline_comment"]

def argumentValues (n : Node) (part : Part) : Option Value :=
  n.content.arguments?.map fun a =>
    let foreign := match n.foreign?, part with
      | some f, .required => f.required
      | some f, .options => f.options
      | none, _ => []
    .list .list (foreign.map Value.ofDatum ++ (part.of a).map Value.text)

def accountField? (s : Session) (n : NodeId) (node : Node) (name : String) : Option Value :=
  match name with
  | "args" => argumentValues node .required
  | "opt_args" => argumentValues node .options
  | name => ((s.marked? (.node n) name).or (node.field? name)).map Value.atom

mutual

def accountTree (s : Session) : Tree → Value
  | .node n node children =>
    let parent := node.parent?.map fun p => (s.store.kind p).typeName
    .record ((s.reference (.node n)).entries ++
      [("slides", .atom node.shownSlides), ("parent", .atom (Atom.ofText? parent))] ++
      accountFields.filterMap (fun name => (accountField? s n node name).map fun value => (name, value)) ++
      if node.kind.isContainer then [("children", .list .list (accountForest s children))] else [])

def accountForest (s : Session) : Forest → List Value
  | [] => []
  | tree :: rest => accountTree s tree :: accountForest s rest

end

def accountArguments (a : Arguments) : Value :=
  .record [("args", .texts a.required), ("opt_args", .texts a.options),
    ("comment", .atom a.comment)]

def accountHandler (handler : Log.Handler) : Value :=
  .record [("type", .text "RichHandler"), ("show_time", .atom (.bool handler.showTime)),
    ("show_path", .atom (.bool handler.showPath)), ("rich_tracebacks", .atom (.bool true)),
    ("format", .text "%(message)s"), ("stderr", .atom (.bool true))]

def accountLog (logger : Log.Logger) : Value :=
  .record [("level", .atom (Atom.ofText? (logger.level?.map Log.Level.label))),
    ("propagate", .atom (.bool logger.propagates)),
    ("handler_count", .atom (.int logger.handlers.length)),
    ("handlers", .list .list (logger.handlers.map accountHandler))]

def describeNode (n : Node) : Option String :=
  match n.content with
  | .raw _ => some ("RawText(" ++ shown "text" ++ ")")
  | .text _ => some ("TranslatableText(" ++ shown "text" ++ ")")
  | .command _ _ | .package _ _ => some ("Command(" ++ shown "name" ++ ")")
  | .environment _ _ _ =>
    some (n.kind.typeName ++ "(" ++ shown "name" ++ ", " ++ toString n.children.length ++ " children)")
  | .containingCommand _ _ | .newCommand _ _ | .block _ | .code _ _ _ | .header => none
where
  shown (name : String) : String := ((n.field? name).getD .null).write

namespace Session

/-- An account of a node or of arguments. Any other object is asked for the first attribute of the account
that it has not. -/
def account (s : Session) (e : Entity) : Except Fault Entity :=
  match e with
  | .object (.node n) =>
    match s.store.tree? n with
    | some tree => .ok (.value (accountTree s tree))
    | none => .error .unending
  | .object (.arguments a) => .ok (.value (accountArguments (s.workspace.argumentsAt a)))
  | e => do
    let _ ← s.get e "slides"
    s.missing e "parent"

def describe (s : Session) : Entity → Option String
  | .object (.node n) => describeNode (s.store.node n)
  | .object (.arguments a) => some (s.workspace.argumentsAt a).describe
  | _ => none

def describeItem (s : Session) (n : NodeId) : String :=
  (describeNode (s.store.node n)).getD ("<" ++ (s.store.kind n).typeName ++ ">")

end Session

end SlideDeck.Script
