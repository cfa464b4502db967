import Mathlib.Data.List.Basic
import SlideDeck.Proofs.Layout
import SlideDeck.Proofs.Sketch

/-! The renderer writes what the sketch of a node says, and leaves the nodes as they are. -/

namespace SlideDeck

def joined (x y : Option String) : Option String := x.bind fun first => y.map (first ++ ·)

@[simp] lemma joined_some (a b : String) : joined (some a) (some b) = some (a ++ b) := rfl

@[simp] lemma joined_none (x : Option String) : joined x none = none := by
  cases x <;> rfl

@[simp] lemma none_joined (x : Option String) : joined none x = none := rfl

@[simp] lemma joined_empty (x : Option String) : joined x (some "") = x := by
  cases x <;> simp

@[simp] lemma empty_joined (x : Option String) : joined (some "") x = x := by
  cases x <;> simp

lemma joined_assoc (x y z : Option String) : joined (joined x y) z = joined x (joined y z) := by
  cases x <;> cases y <;> cases z <;> simp [String.append_assoc]

namespace Store

lemma codeBelow_of_seeksCode {s : Store} {n : NodeId} (h : (s.node n).seeksCode = false) : s.codeBelow n = .ok false := by
  rw [codeBelow, h]
  rfl

lemma sketchAround_of_ne {s : Store} {n : NodeId} (hraw : (s.node n).kind ≠ .raw) (htext : (s.node n).kind ≠ .text)
    (hasStep : Bool) (below : Except Obstacle (Option (List Piece))) :
    s.sketchAround hasStep n below = (s.codeBelow n).bind fun holdsCode =>
      if (s.node n).halts hasStep then .error .foreign
      else if (s.node n).kind.isContainer then below.map (·.map (Layout.node (s.node n) holdsCode))
      else .ok (some (Layout.node (s.node n) holdsCode [])) := by
  have hlate : (s.node n).failsLate = false := by simp [Node.failsLate, hraw]
  simp only [sketchAround, Node.halt?, if_neg htext, hlate]
  congr 1
  funext holdsCode
  by_cases hhalts : (s.node n).halts hasStep <;> simp [hhalts]

end Store

namespace Writing

variable {α β : Type} {w : Writing α} {f : α → Writing β} {s : Store} {d : Desk}

/-- A part of a writing comes to a value and a text, or to an obstacle, whatever else is on the desk. The nodes and the
log stay as they are. -/
def Yields (w : Writing α) (s : Store) : Except Obstacle (α × Option String) → Prop
  | .ok (a, text?) => ∀ d, d.store = s → ∃ lists, w d = .ok a { d with lists, output := joined d.output text? }
  | .error cause => ∀ d, d.store = s → ∃ lists output, w d = .error cause { d with lists, output }

lemma bind_run (w : Writing α) (f : α → Writing β) (d : Desk) : (w >>= f) d =
    match w d with
    | .ok a d => f a d
    | .error cause d => .error cause d := by
  simp only [Bind.bind, EStateM.bind]
  cases w d <;> rfl

lemma pure_run (a : α) (d : Desk) : (pure a : Writing α) d = .ok a d := rfl

lemma get_run (d : Desk) : (get : Writing Desk) d = .ok d d := rfl

lemma members_run (options : OptionList) (d : Desk) : members options d = .ok (options.members d) d := rfl

def andThen (r : Except Obstacle (α × Option String)) (next : α → Except Obstacle (β × Option String)) :
    Except Obstacle (β × Option String) :=
  r.bind fun (a, x) => (next a).map fun (b, y) => (b, joined x y)

@[simp] lemma andThen_error (cause : Obstacle) (next : α → Except Obstacle (β × Option String)) :
    andThen (.error cause) next = .error cause := rfl

@[simp] lemma andThen_ok (a : α) (x : Option String) (next : α → Except Obstacle (β × Option String)) :
    andThen (.ok (a, x)) next = (next a).map fun (b, y) => (b, joined x y) := rfl

lemma Yields.bind_ok {a : α} {x : Option String} {r : Except Obstacle (β × Option String)}
    (hw : w.Yields s (.ok (a, x))) (hf : (f a).Yields s r) :
    (w >>= f).Yields s (r.map fun (b, y) => (b, joined x y)) := by
  rcases r with cause | ⟨b, y⟩ <;> intro d hd <;> obtain ⟨lists, heq⟩ := hw d hd
  · obtain ⟨lists', output, heq'⟩ := hf { d with lists, output := joined d.output x } hd
    exact ⟨lists', output, by rw [bind_run, heq]; exact heq'⟩
  · obtain ⟨lists', heq'⟩ := hf { d with lists, output := joined d.output x } hd
    exact ⟨lists', by rw [bind_run, heq, ← joined_assoc]; exact heq'⟩

lemma Yields.bind {r : Except Obstacle (α × Option String)} {next : α → Except Obstacle (β × Option String)}
    (hw : w.Yields s r) (hf : ∀ a, (f a).Yields s (next a)) : (w >>= f).Yields s (andThen r next) := by
  rcases r with cause | ⟨a, x⟩
  · intro d hd
    obtain ⟨lists, output, heq⟩ := hw d hd
    exact ⟨lists, output, by rw [bind_run, heq]⟩
  · exact hw.bind_ok (hf a)

lemma Yields.of_eq {r r' : Except Obstacle (α × Option String)} (h : w.Yields s r) (heq : r = r') : w.Yields s r' :=
  heq ▸ h

lemma yields_pure (a : α) : Yields (pure a) s (.ok (a, some "")) :=
  fun d _ => ⟨d.lists, by rw [joined_empty]; rfl⟩

lemma yields_throw (cause : Obstacle) : Yields (throw cause : Writing α) s (.error cause) :=
  fun d _ => ⟨d.lists, d.output, rfl⟩

lemma yields_put (text : String) : (put text).Yields s (.ok ((), some text)) := by
  refine fun d _ => ⟨d.lists, ?_⟩
  have hput : put text d = .ok () { d with output := d.output.map (· ++ text) } := rfl
  rw [hput]
  cases d.output <;> rfl

lemma yields_putOdd : putOdd.Yields s (.ok ((), none)) := by
  refine fun d _ => ⟨d.lists, ?_⟩
  rw [joined_none]
  rfl

lemma yields_node (n : NodeId) : (node n).Yields s (.ok (s.node n, some "")) := by
  rintro d rfl
  refine ⟨d.lists, ?_⟩
  rw [joined_empty]
  rfl

lemma yields_forM (a? : Option α) {g : α → Writing PUnit} {r : α → Except Obstacle (PUnit × Option String)}
    (h : ∀ a, (g a).Yields s (r a)) : (a?.forM g).Yields s (a?.elim (.ok ((), some "")) r) := by
  cases a? with
  | none => exact yields_pure ()
  | some a => exact h a

lemma yields_ite {p : Prop} [Decidable p] {v : Writing α} {r r' : Except Obstacle (α × Option String)}
    (hw : w.Yields s r) (hv : v.Yields s r') : (if p then w else v).Yields s (if p then r else r') := by
  split <;> assumption

end Writing

namespace Renderer

open Writing

variable {s : Store} {d : Desk} {n : NodeId} {step? : Option String}

lemma yields_bracketedOptions : (bracketedOptions (s.node n) (.ofNode n)).Yields s
    (if (s.node n).foreign?.isSome then .error .foreign
      else .ok (bracketed ((s.node n).content.arguments?.getD {}).options, some "")) := by
  refine yields_ite (yields_throw _) ?_
  rintro d rfl
  refine ⟨d.lists, ?_⟩
  rw [joined_empty]
  rfl

lemma yields_onSlides (slides : Slides) : (onSlides slides).Yields s
    (if slides.isText then .error .foreign else .ok (slides.command, some "")) :=
  yields_ite (yields_throw _) (yields_pure _)

lemma yields_slideRange (slides : Slides) : (slideRange slides).Yields s
    (if slides.isText then .error .foreign else .ok (slides.range, some "")) :=
  yields_ite (yields_throw _) (yields_pure _)

lemma yields_deeper (indent : String) : (deeper step? indent).Yields s
    (step?.elim (.error .foreign) fun step => .ok (indent ++ step, some "")) := by
  cases step? with
  | none => exact yields_throw _
  | some step => exact yields_pure _

def written (step? : Option String) (indent : String) (r : Except Obstacle (Option (List Piece))) :
    Except Obstacle (Unit × Option String) :=
  r.map fun pieces? => ((), pieces?.map (Layout.render indent (step?.getD "")))

lemma yields_command {name : String} {a : Arguments} (ha : (s.node n).content.arguments? = some a) (indent : String) :
    (command step? n (s.node n) name a indent).Yields s
      (if (s.node n).foreign?.isSome || (s.node n).slides?.any Slides.isText then .error .foreign
        else written step? indent (.ok (some (Layout.command (s.node n).slides? name a)))) := by
  rw [command]
  refine .of_eq ((yields_put _).bind fun _ =>
    (yields_forM _ fun _ => (yields_onSlides _).bind fun _ => yields_put _).bind fun _ =>
    (yields_put _).bind fun _ => yields_bracketedOptions.bind fun _ => (yields_put _).bind fun _ =>
    (yields_put _).bind fun _ => (yields_put _).bind fun _ => (yields_put _).bind fun _ => yields_put _) ?_
  cases (s.node n).foreign?.isSome <;> cases (s.node n).slides? with
  | none => simp [ha, written, Except.map, Layout.command, Layout.commandText, Layout.render_cons, Layout.render_nil,
      Piece.render, String.append_assoc]
  | some slides =>
    cases hslides : slides.isText <;>
      simp [ha, hslides, written, Except.map, Layout.command, Layout.commandText, Layout.render_cons,
        Layout.render_nil, Piece.render, String.append_assoc]

section

variable {body : String → Writing Unit} {r : Except Obstacle (Option (List Piece))}
  (hbody : ∀ indent, (body indent).Yields s (written step? indent r))

include hbody

lemma yields_containingCommand {name : String} {a : Arguments} (ha : (s.node n).content.arguments? = some a)
    (indent : String) : (containingCommand step? body n (s.node n) name a indent).Yields s
      (if (s.node n).foreign?.isSome || step?.isNone then .error .foreign
        else written step? indent (r.map (·.map (Layout.containingCommand name a)))) := by
  rw [containingCommand]
  refine .of_eq ((yields_put _).bind fun _ => yields_bracketedOptions.bind fun _ => (yields_put _).bind fun _ =>
    (yields_deeper _).bind fun _ => (hbody _).bind fun _ => yields_put _) ?_
  cases (s.node n).foreign?.isSome <;> cases step? <;> cases hcomment : a.comment? <;> rcases r with _ | _ | _ <;>
    simp [ha, hcomment, trailing, written, Except.map, Layout.containingCommand, Layout.render_cons, Layout.render_append,
      Layout.render_deepen, Layout.render_nil, Piece.render, String.append_assoc]

lemma yields_newCommand (name : String) (arity : Atom) (indent : String) :
    (newCommand step? body name arity indent).Yields s
      (if step?.isNone then .error .foreign
        else written step? indent (r.map (·.map (Layout.newCommand name arity)))) := by
  rw [newCommand]
  refine .of_eq ((yields_put _).bind fun _ => (yields_deeper _).bind fun _ => (hbody _).bind fun _ => yields_put _) ?_
  cases step? <;> rcases r with _ | _ | _ <;>
    simp [written, Except.map, Layout.newCommand, Layout.render_cons, Layout.render_append,
      Layout.render_deepen, Layout.render_nil, Piece.render, String.append_assoc]

lemma yields_block (title indent : String) :
    (block step? body (s.node n) title indent).Yields s
      (if (s.node n).slides?.any Slides.isText || step?.isNone then .error .foreign
        else written step? indent (r.map (·.map (Layout.block (s.node n).slides? title)))) := by
  rw [block]
  refine .of_eq ((yields_put _).bind fun _ =>
    (yields_forM _ fun _ => (yields_slideRange _).bind fun _ => yields_put _).bind fun _ => (yields_put _).bind fun _ =>
    (yields_deeper _).bind fun _ => (hbody _).bind fun _ => yields_put _) ?_
  cases step? <;> rcases r with _ | _ | _ <;> cases (s.node n).slides? with
  | none =>
    simp [written, Except.map, Layout.block, Layout.render_cons, Layout.render_append,
      Layout.render_deepen, Layout.render_nil, Piece.render, String.append_assoc]
  | some slides =>
    cases hslides : slides.isText <;>
      simp [hslides, written, Except.map, Layout.block, Layout.render_cons, Layout.render_append,
        Layout.render_deepen, Layout.render_nil, Piece.render, String.append_assoc]

end

lemma add_made (d : Desk) (options : List String) (option : String) :
    (OptionList.made d.lists.size).add { d with lists := d.lists.push options } option =
      { d with lists := d.lists.push (options ++ [option]) } := by
  rw [OptionList.add]
  congr 1
  refine Array.ext (by simp) fun i hi hi' => ?_
  rw [Array.getElem_modify]
  rcases eq_or_ne i d.lists.size with rfl | hne
  · simp
  · have hlt : i < d.lists.size := by simp at hi; omega
    simp [hne.symm, Array.getElem_push_lt, hlt]

/-- A copy of the options of a node takes the addition; the node does not. -/
lemma makeFragile_made (n : NodeId) (d : Desk) (options : List String) :
    makeFragile n (.made d.lists.size) { d with lists := d.lists.push options } =
      if fragile ∈ options then .ok () { d with lists := d.lists.push options } else
      match d.store.has? .code n with
      | none => .error .unending { d with lists := d.lists.push options }
      | some holdsCode =>
        .ok () { d with lists := d.lists.push (if holdsCode then options ++ [fragile] else options) } := by
  have hmembers : (OptionList.made d.lists.size).members { d with lists := d.lists.push options } = options := by
    simp [OptionList.members]
  rw [makeFragile, bind_run, members_run, hmembers]
  by_cases hmem : fragile ∈ options
  · simp [hmem, pure_run]
  · simp only [hmem, not_false_eq_true, if_true, if_false, bind_run, holds, get_run]
    cases d.store.has? .code n with
    | none => rfl
    | some found =>
      cases found with
      | false => rfl
      | true =>
        simp only [pure_run, if_true]
        rw [← add_made]
        rfl

lemma environmentOptions_run {form : Form} {name : String} {a : Arguments}
    (hcontent : (d.store.node n).content = .environment form name a) :
    let copied (options : List String) : Desk := { d with lists := d.lists.push options }
    environmentOptions form n (d.store.node n) d =
      match d.store.codeBelow n with
      | .error cause => .error cause (copied a.options)
      | .ok holdsCode =>
        let options := Layout.environmentOptions form a.options holdsCode
        if (d.store.node n).foreign?.isSome then .error .foreign (copied options)
        else .ok (bracketed options) (copied options) := by
  intro copied
  have hcopy : copy (.ofNode n) d = .ok (.made d.lists.size) (copied a.options) := by
    simp only [copied, ← show (OptionList.ofNode n).members d = a.options by
      rw [OptionList.members, hcontent]; rfl]
    rfl
  have hprinted (options : List String) : bracketedOptions (d.store.node n) (.made d.lists.size) (copied options) =
      if (d.store.node n).foreign?.isSome then .error .foreign (copied options)
      else .ok (bracketed options) (copied options) := by
    rw [bracketedOptions]
    split
    · rfl
    · have hmembers : (OptionList.made d.lists.size).members (copied options) = options := by
        simp [OptionList.members, copied]
      simp only [Functor.map, EStateM.map, members_run, hmembers]
  have hseeks : (d.store.node n).seeksCode = decide (form = .frame ∧ fragile ∉ a.options) := by
    cases form <;> simp [Node.seeksCode, hcontent]
  simp only [environmentOptions, bind_run, hcopy, Store.codeBelow, hseeks]
  by_cases hframe : form = .frame
  · simp only [hframe, if_true, true_and, copied, makeFragile_made]
    by_cases hfragile : fragile ∈ a.options
    · simp [hfragile, Layout.environmentOptions, copied, hprinted]
    · cases d.store.has? .code n with
      | none => simp [hfragile]
      | some found => simp [hfragile, Layout.environmentOptions, copied, hprinted]
  · simp [hframe, pure_run, hprinted, Layout.environmentOptions]

lemma yields_environmentOptions {form : Form} {name : String} {a : Arguments}
    (hcontent : (s.node n).content = .environment form name a) :
    (environmentOptions form n (s.node n)).Yields s ((s.codeBelow n).bind fun holdsCode =>
      if (s.node n).foreign?.isSome then .error .foreign
      else .ok (bracketed (Layout.environmentOptions form a.options holdsCode), some "")) := by
  cases hbelow : s.codeBelow n with
  | error cause =>
    rintro d rfl
    exact ⟨_, d.output, by rw [environmentOptions_run hcontent, hbelow]⟩
  | ok holdsCode =>
    simp only [Except.bind]
    split
    · rintro d rfl
      exact ⟨_, d.output, by rw [environmentOptions_run hcontent, hbelow]; exact if_pos ‹_›⟩
    · rintro d rfl
      exact ⟨_, by rw [environmentOptions_run hcontent, hbelow, joined_empty]; exact if_neg ‹_›⟩

lemma yields_environment {body : String → Writing Unit} {r : Except Obstacle (Option (List Piece))}
    (hbody : ∀ indent, (body indent).Yields s (written step? indent r)) {form : Form} {name : String} {a : Arguments}
    (hcontent : (s.node n).content = .environment form name a) (indent : String) :
    (environment step? body form n (s.node n) name a indent).Yields s ((s.codeBelow n).bind fun holdsCode =>
      if (s.node n).foreign?.isSome || (s.node n).slides?.any Slides.isText || step?.isNone then .error .foreign
      else written step? indent (r.map (·.map (Layout.environment (s.node n).slides? name (Layout.environmentOptions form a.options holdsCode) a)))) := by
  rw [environment]
  refine .of_eq ((yields_environmentOptions hcontent).bind fun _ =>
    (yields_ite (yields_deeper _) (yields_pure _)).bind fun _ =>
    (yields_forM _ fun _ => (yields_onSlides _).bind fun _ => yields_put _).bind fun _ =>
    (yields_put _).bind fun _ => (yields_put _).bind fun _ => (yields_put _).bind fun _ => (yields_put _).bind fun _ =>
    (yields_deeper _).bind fun _ => (hbody _).bind fun _ => (yields_put _).bind fun _ => yields_put _) ?_
  cases s.codeBelow n with
  | error cause => rfl
  | ok holdsCode =>
  cases (s.node n).foreign?.isSome <;> cases step? <;> rcases r with _ | _ | _ <;> cases (s.node n).slides? with
  | none =>
    simp [written, Except.map, Except.bind, Layout.environment, Layout.plainEnvironment, Layout.render_cons, Layout.render_append,
      Layout.render_deepen, Layout.render_nil, Piece.render, String.append_assoc]
  | some slides =>
    cases hslides : slides.isText <;>
      simp [hslides, written, Except.map, Except.bind, Layout.render_environment_some, Layout.plainEnvironment,
        Layout.render_cons, Layout.render_append, Layout.render_deepen, Layout.render_nil, Piece.render,
        String.append_assoc]

lemma written_sketchAround {r : Except Obstacle (Option (List Piece))} (hraw : (s.node n).kind ≠ .raw)
    (htext : (s.node n).kind ≠ .text) (indent : String) :
    written step? indent (s.sketchAround step?.isSome n r) = (s.codeBelow n).bind fun holdsCode =>
      if (s.node n).halts step?.isSome then .error .foreign
      else if (s.node n).kind.isContainer then written step? indent (r.map (·.map (Layout.node (s.node n) holdsCode)))
      else written step? indent (.ok (some (Layout.node (s.node n) holdsCode []))) := by
  rw [Store.sketchAround_of_ne hraw htext]
  cases s.codeBelow n with
  | error cause => rfl
  | ok holdsCode =>
    simp only [Except.bind, apply_ite (written step? indent)]
    rfl

lemma yields_raw {text : String} (hcontent : (s.node n).content = .raw text) (indent : String)
    (r : Except Obstacle (Option (List Piece))) :
    Yields (if ((s.node n).odd.lookup "text").isSome then putOdd else put text) s
      (written step? indent (s.sketchAround step?.isSome n r)) := by
  have hkind : (s.node n).kind = .raw := by rw [Node.kind, hcontent]; rfl
  have hcode : s.codeBelow n = .ok false := Store.codeBelow_of_seeksCode (by simp only [Node.seeksCode, hcontent])
  have hhalt : (s.node n).halt? step?.isSome = none := by
    simp [Node.halt?, Node.halts, hkind, Kind.hasArguments, Kind.honorsSlides, Kind.deepens]
  refine .of_eq (yields_ite yields_putOdd (yields_put _)) ?_
  cases hodd : (s.node n).odd.lookup "text" <;>
    simp [Store.sketchAround, hcode, hhalt, Node.failsLate, hkind, hcontent, hodd, Kind.isContainer, written, Except.bind,
      Except.map, Layout.node, Layout.render_cons, Layout.render_nil, Piece.render_flush]

lemma yields_text {source : String} (hcontent : (s.node n).content = .text source) (indent : String)
    (r : Except Obstacle (Option (List Piece))) :
    Yields (match (s.node n).odd.lookup "text" with
      | some value => throw (.untranslatable value.typeName)
      | none => put (indent ++ translate source)) s (written step? indent (s.sketchAround step?.isSome n r)) := by
  have hkind : (s.node n).kind = .text := by rw [Node.kind, hcontent]; rfl
  have hcode : s.codeBelow n = .ok false := Store.codeBelow_of_seeksCode (by simp only [Node.seeksCode, hcontent])
  have hhalt : (s.node n).halt? step?.isSome =
      ((s.node n).odd.lookup "text").map fun value => .untranslatable value.typeName := by
    simp [Node.halt?, Node.halts, hkind, Kind.hasArguments, Kind.honorsSlides, Kind.deepens]
  cases hodd : (s.node n).odd.lookup "text" with
  | some value =>
    refine .of_eq (yields_throw _) ?_
    simp [Store.sketchAround, hcode, hhalt, hodd, written, Except.bind, Except.map]
  | none =>
    refine .of_eq (yields_put _) ?_
    simp [Store.sketchAround, hcode, hhalt, hodd, Node.failsLate, hkind, hcontent, Kind.isContainer, written,
      Except.bind, Except.map, Layout.node, Layout.render_cons, Layout.render_nil, Piece.render_line_zero]

lemma yields_handle {body : String → Writing Unit} {r : Except Obstacle (Option (List Piece))}
    (hbody : ∀ indent, (body indent).Yields s (written step? indent r)) (indent : String) :
    (handle step? body n (s.node n) indent).Yields s (written step? indent (s.sketchAround step?.isSome n r)) := by
  have hkind : (s.node n).kind = (s.node n).content.kind := rfl
  have hnode (holdsCode : Bool) : Layout.node (s.node n) holdsCode = fun body => Layout.node (s.node n) holdsCode body :=
    rfl
  have hcode : (s.node n).seeksCode = false → s.codeBelow n = .ok false := Store.codeBelow_of_seeksCode
  rw [handle]
  cases hcontent : (s.node n).content with
  | raw text => exact yields_raw hcontent indent r
  | text source => exact yields_text hcontent indent r
  | environment form name a =>
    simp only [hcontent, Layout.node] at hkind hnode
    refine (yields_environment hbody hcontent indent).of_eq ?_
    cases form <;> rw [written_sketchAround (by simp [hkind, Content.kind]) (by simp [hkind, Content.kind])] <;>
      simp [Node.halts, hkind, Content.kind, hnode, Kind.isContainer, Kind.hasArguments, Kind.honorsSlides, Kind.deepens]
  | command name a | package name a =>
    simp only [hcontent, Content.kind, Layout.node, Node.seeksCode, forall_const] at hkind hnode hcode
    rw [written_sketchAround (by simp [hkind]) (by simp [hkind]), hcode]
    refine (yields_command (by rw [hcontent]; rfl) indent).of_eq ?_
    simp [Except.bind, Node.halts, hkind, hnode, Kind.isContainer, Kind.hasArguments, Kind.honorsSlides, Kind.deepens]
  | containingCommand name a =>
    simp only [hcontent, Content.kind, Layout.node, Node.seeksCode, forall_const] at hkind hnode hcode
    rw [written_sketchAround (by simp [hkind]) (by simp [hkind]), hcode]
    refine (yields_containingCommand hbody (by rw [hcontent]; rfl) indent).of_eq ?_
    simp [Except.bind, Node.halts, hkind, hnode, Kind.isContainer, Kind.hasArguments, Kind.honorsSlides, Kind.deepens]
  | newCommand name arity =>
    simp only [hcontent, Content.kind, Layout.node, Node.seeksCode, forall_const] at hkind hnode hcode
    rw [written_sketchAround (by simp [hkind]) (by simp [hkind]), hcode]
    refine (yields_newCommand hbody name arity indent).of_eq ?_
    simp [Except.bind, Node.halts, hkind, hnode, Kind.isContainer, Kind.hasArguments, Kind.honorsSlides, Kind.deepens]
  | block title | code title language listing =>
    simp only [hcontent, Content.kind, Layout.node, Node.seeksCode, forall_const] at hkind hnode hcode
    rw [written_sketchAround (by simp [hkind]) (by simp [hkind]), hcode]
    refine (yields_block hbody title indent).of_eq ?_
    simp [Except.bind, Node.halts, hkind, hnode, Kind.isContainer, Kind.hasArguments, Kind.honorsSlides, Kind.deepens]
  | header =>
    simp only [hcontent, Content.kind, Layout.node, Node.seeksCode, forall_const] at hkind hnode hcode
    rw [written_sketchAround (by simp [hkind]) (by simp [hkind]), hcode]
    refine (hbody indent).of_eq ?_
    rcases r with _ | _ | _ <;>
      simp [Except.bind, Except.map, Node.halts, hkind, hnode, Kind.isContainer, Kind.hasArguments, Kind.honorsSlides, Kind.deepens]

lemma yields_forM_children {f : NodeId → Writing PUnit} {sketch : NodeId → Except Obstacle (Option (List Piece))}
    {indent : String} (h : ∀ c, (f c).Yields s (written step? indent (sketch c))) (children : List NodeId) :
    (children.forM f).Yields s (written step? indent (Layout.gather sketch children)) := by
  induction children with
  | nil => exact yields_pure ()
  | cons c rest ih =>
    refine ((h c).bind fun _ => ih).of_eq ?_
    rw [Layout.gather]
    rcases sketch c with _ | first? <;> rcases Layout.gather sketch rest with _ | rest?
    · rfl
    · rfl
    · rfl
    · cases first? <;> cases rest? <;> simp [written, Except.map, Bind.bind, Except.bind, Pure.pure, Except.pure, Layout.render_append]

theorem yields_draw (depth : ℕ) (n : NodeId) (indent : String) :
    (draw step? depth n indent).Yields s (written step? indent (s.sketch step?.isSome depth n)) := by
  induction depth generalizing n indent with
  | zero => exact yields_throw _
  | succ depth ih =>
    rw [draw, Store.sketch]
    have hbody (indent : String) := yields_forM_children (fun c => ih c indent) (s.children n)
    refine ((yields_node n).bind_ok (yields_handle hbody indent)).of_eq ?_
    rcases s.sketchAround _ n _ with _ | _ <;> simp [written, Except.map]

end Renderer

/-- A writing comes to the records and the outcome of a rendering, whatever else is on the desk, and leaves the nodes as
they are. -/
def Writing.Renders (w : Writing String) (s : Store) (r : Rendering) : Prop :=
  ∀ d, d.store = s → ∃ lists output,
    let left : Desk := { d with lists, output, records := d.records ++ r.records }
    w d = match r.outcome with
      | .ok text => .ok text left
      | .error cause => .error cause left

lemma Renderer.renders (step? : Option String) (s : Store) (n : NodeId) :
    (Renderer.render step? n).Renders s (s.rendering step? n) := by
  rintro d rfl
  let begun : Desk := { d with output := some "", records := d.records ++ [record (d.store.kind n)] }
  have hdraw : (draw step? (d.store.size + 1) n "").Yields d.store
      (written step? "" (d.store.sketch step?.isSome (d.store.size + 1) n)) := yields_draw _ n ""
  have hrun : Renderer.render step? n d = (draw step? (d.store.size + 1) n "" >>= fun _ => Writing.written) begun := rfl
  rw [hrun, Writing.bind_run]
  cases hsketch : d.store.sketch step?.isSome (d.store.size + 1) n with
  | error cause =>
    rw [hsketch] at hdraw
    obtain ⟨lists, output, heq⟩ := hdraw begun rfl
    refine ⟨lists, output, ?_⟩
    simp only [Store.rendering, hsketch, heq, Except.bind]
    rfl
  | ok pieces? =>
    rw [hsketch] at hdraw
    obtain ⟨lists, heq⟩ := hdraw begun rfl
    simp only [heq, Store.rendering, hsketch, Except.bind]
    cases pieces? with
    | none => exact ⟨lists, none, rfl⟩
    | some pieces => exact ⟨lists, _, rfl⟩

end SlideDeck
