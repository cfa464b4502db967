import SlideDeck.Script.Session

namespace SlideDeck.Script

inductive Method where
  | addContent
  | insertContent
  | appendText
  | comment
  | blankline
  | command
  | containingCommand
  | headings
  | environment
  | center
  | itemize
  | pause
  | code
  | block
  | frame
  | head
  | package
  | newCommand
  | setTitle
  | addOption
  | setComment
  | addSlideQualifier
  | addSource
  deriving Repr, DecidableEq

namespace Method

def name : Method → String
  | addContent => "add_content"
  | insertContent => "insert_content"
  | appendText => "append_text"
  | comment => "comment"
  | blankline => "blankline"
  | command => "command"
  | containingCommand => "containing_command"
  | headings => "section"
  | environment => "environment"
  | center => "center"
  | itemize => "itemize"
  | pause => "pause"
  | code => "code"
  | block => "block"
  | frame => "frame"
  | head => "head"
  | package => "pkg"
  | newCommand => "newcommand"
  | setTitle => "set_title"
  | addOption => "add_option"
  | setComment => "set_comment"
  | addSlideQualifier => "add_slide_qualifier"
  | addSource => "add_source"

def isCommon : Method → Bool
  | addContent | insertContent | appendText | comment | blankline | command | containingCommand
  | headings | environment | center | itemize => true
  | pause | code | block | frame | head | package | newCommand | setTitle | addOption | setComment
  | addSlideQualifier | addSource => false

def isOf (kind : Kind) : Method → Bool
  | addSlideQualifier => true
  | addOption | setComment => kind.hasArguments
  | pause | code | block => kind == .frame
  | addSource => kind == .code
  | package | newCommand => kind == .header
  | frame | head | setTitle => false
  | addContent | insertContent | appendText | comment | blankline | command | containingCommand
  | headings | environment | center | itemize => kind.isContainer

def isOfDeck : Method → Bool
  | frame | head | package | newCommand | setTitle => true
  | method => method.isCommon

def all : List Method :=
  [addContent, insertContent, appendText, comment, blankline, command, containingCommand, headings, environment,
    center, itemize, pause, code, block, frame, head, package, newCommand, setTitle, addOption, setComment,
    addSlideQualifier, addSource]

end Method

namespace Session

/-- Whether a name is that of a method of an object, or begins as the names do that it keeps to itself. -/
def reserves (s : Session) (o : Object) (name : String) : Bool :=
  name.toList.head? == some '_' ||
  match o with
  | .node n =>
    let kind := s.store.kind n
    name == "has" || (kind == .code && name == "header") ||
      Method.all.any fun method => method.isOf kind && method.name == name
  | .deck _ =>
    name == "has" || name == "render" || Method.all.any fun method => method.isOfDeck && method.name == name
  | .arguments _ => [Method.addOption, .setComment].any (·.name == name)
  | .settings _ | .kind _ => false

/-- The fault of calling a method that an entity has not. Arguments have their comment under the name of a
method, and texts center themselves in some other way; neither can be called like that. -/
def noMethod {α : Type} (s : Session) (e : Entity) (method : Method) : Except Fault α :=
  match e, method with
  | .object (.arguments _), .comment => .error .unsuitable
  | .object (.kind _), .center | .value (.atom (.text _)), .center => .error .unsuitable
  | e, method => s.missing e method.name

/-- The container that a method of an object builds in. A presentation passes most calls on to its document,
and those about packages and commands to its header. -/
def containerFor (s : Session) (e : Entity) (method : Method) : Except Fault NodeId :=
  match e with
  | .object (.node n) => if method.isOf (s.store.kind n) then .ok n else s.noMethod e method
  | .object (.deck i) =>
    match s.workspace.deck? i with
    | some deck =>
      match method with
      | .head | .package | .newCommand => .ok deck.header
      | method => if method.isOfDeck then .ok deck.document else s.noMethod e method
    | none => s.noMethod e method
  | _ => s.noMethod e method

end Session

end SlideDeck.Script
