import SlideDeck.Proofs.Yaml.Lexer
import SlideDeck.Yaml.Graph.Document

/-! The faults in which reading the nodes of a document can end. -/

namespace SlideDeck.Yaml

open Std.Do

set_option mvcgen.warning false

def Reader.Ends (source : Source) (r : Reader) : Prop :=
  ∀ fault, r.fault? = some fault → Fault.OfText source fault

lemma Reader.Ends.ofText {source : Source} {r : Reader} (h : r.Ends source) :
    Fault.OfText source (r.fault?.getD .malformed) := by
  cases hfault : r.fault? with
  | none => exact Fault.ofText_malformed source
  | some fault => exact h fault hfault

namespace Read

abbrev kept (source : Source) : Assertion (.arg Reader (.except Fault .pure)) :=
  fun r => ⌜r.Ends source⌝

abbrev ends {α : Type} (source : Source) : PostCond α (.arg Reader (.except Fault .pure)) :=
  post⟨fun _ r => ⌜r.Ends source⌝, fun fault => ⌜Fault.OfText source fault⌝⟩

variable {source : Source}

@[spec]
lemma fail_spec {α : Type} : ⦃kept source⦄ (fail : Read α) ⦃ends source⦄ := by
  mvcgen [fail, -Spec.throw_StateT]
  exact Fault.ofText_malformed source

@[spec]
lemma peek_spec : ⦃kept source⦄ peek ⦃ends source⦄ := by
  mvcgen [peek, -Spec.throw_StateT]
  exact Reader.Ends.ofText ‹_›

@[spec]
lemma skip_spec : ⦃kept source⦄ skip ⦃ends source⦄ := by
  mvcgen [skip]

@[spec]
lemma expect_spec (t : Token) : ⦃kept source⦄ expect t ⦃ends source⦄ := by
  mvcgen [expect]

@[spec]
lemma add_spec (node : GraphNode) : ⦃kept source⦄ add node ⦃ends source⦄ := by
  mvcgen [add]

@[spec]
lemma addEmpty_spec : ⦃kept source⦄ addEmpty ⦃ends source⦄ := by
  mvcgen [addEmpty]

@[spec]
lemma address_spec (handle? : Option String) (suffix : String) :
    ⦃kept source⦄ address handle? suffix ⦃ends source⦄ := by
  mvcgen [address]

@[spec]
lemma takeAnchor_spec : ⦃kept source⦄ takeAnchor ⦃ends source⦄ := by
  mvcgen [takeAnchor]

@[spec]
lemma takeTag_spec : ⦃kept source⦄ takeTag ⦃ends source⦄ := by
  mvcgen [takeTag]

@[spec]
lemma properties_spec : ⦃kept source⦄ properties ⦃ends source⦄ := by
  mvcgen [properties]

@[spec]
lemma nameAnchor_spec (anchor? : Option String) (place : Nat) :
    ⦃kept source⦄ nameAnchor anchor? place ⦃ends source⦄ := by
  mvcgen [nameAnchor]

@[spec]
lemma anchored_spec (name : String) : ⦃kept source⦄ anchored name ⦃ends source⦄ := by
  mvcgen [anchored]

@[spec]
lemma scalar_spec (p : Properties) (text : CodeText) (plain : Bool) :
    ⦃kept source⦄ scalar p text plain ⦃ends source⦄ := by
  mvcgen [scalar]

@[spec]
lemma nameless_spec (p : Properties) : ⦃kept source⦄ nameless p ⦃ends source⦄ := by
  mvcgen [nameless]

@[spec]
lemma collection_spec {p : Properties} {standard : Tag} {empty : GraphContent} {parts : Read GraphContent}
    (h : ⦃kept source⦄ parts ⦃ends source⦄) :
    ⦃kept source⦄ collection p standard empty parts ⦃ends source⦄ := by
  mvcgen [collection, h]

@[spec]
lemma sequence_spec {p : Properties} {items : Read (List Nat)} (h : ⦃kept source⦄ items ⦃ends source⦄) :
    ⦃kept source⦄ sequence p items ⦃ends source⦄ := by
  mvcgen [sequence, h]

@[spec]
lemma mapping_spec {p : Properties} {pairs : Read (List (Nat × Nat))}
    (h : ⦃kept source⦄ pairs ⦃ends source⦄) : ⦃kept source⦄ mapping p pairs ⦃ends source⦄ := by
  mvcgen [mapping, h]

structure Descends (source : Source) (fuel : Nat) : Prop where
  node : ∀ block indentless, ⦃kept source⦄ node block indentless fuel ⦃ends source⦄
  nodeUnless : ∀ stop block indentless, ⦃kept source⦄ nodeUnless stop block indentless fuel ⦃ends source⦄
  blockItems : ∀ indentless, ⦃kept source⦄ blockItems indentless fuel ⦃ends source⦄
  blockPairs : ⦃kept source⦄ blockPairs fuel ⦃ends source⦄
  valueUnless : ∀ stop block indentless, ⦃kept source⦄ valueUnless stop block indentless fuel ⦃ends source⦄
  flowItems : ∀ first, ⦃kept source⦄ flowItems first fuel ⦃ends source⦄
  flowPair : ∀ closing, ⦃kept source⦄ flowPair closing fuel ⦃ends source⦄
  flowPairs : ∀ first, ⦃kept source⦄ flowPairs first fuel ⦃ends source⦄

lemma descends_zero : Descends source 0 where
  node _ _ := by rw [node]; exact fail_spec
  nodeUnless _ _ _ := by rw [nodeUnless]; exact fail_spec
  blockItems _ := by rw [blockItems]; exact fail_spec
  blockPairs := by rw [blockPairs]; exact fail_spec
  valueUnless _ _ _ := by rw [valueUnless]; exact fail_spec
  flowItems _ := by rw [flowItems]; exact fail_spec
  flowPair _ := by rw [flowPair]; exact fail_spec
  flowPairs _ := by rw [flowPairs]; exact fail_spec

variable {fuel : Nat}

lemma Descends.node_succ (h : Descends source fuel) (block indentless : Bool) :
    ⦃kept source⦄ Read.node block indentless (fuel + 1) ⦃ends source⦄ := by
  have hitems := h.blockItems
  have hflowItems := h.flowItems
  have hflowPairs := h.flowPairs
  have hpairs := h.blockPairs
  mvcgen [Read.node, hitems, hflowItems, hflowPairs, hpairs]

lemma Descends.nodeUnless_succ (h : Descends source fuel) (stop : Stop) (block indentless : Bool) :
    ⦃kept source⦄ Read.nodeUnless stop block indentless (fuel + 1) ⦃ends source⦄ := by
  have hnode := h.node
  mvcgen [Read.nodeUnless, hnode]

lemma Descends.blockItems_succ (h : Descends source fuel) (indentless : Bool) :
    ⦃kept source⦄ Read.blockItems indentless (fuel + 1) ⦃ends source⦄ := by
  have hunless := h.nodeUnless
  have hitems := h.blockItems
  mvcgen [Read.blockItems, hunless, hitems]

lemma Descends.blockPairs_succ (h : Descends source fuel) :
    ⦃kept source⦄ Read.blockPairs (fuel + 1) ⦃ends source⦄ := by
  have hunless := h.nodeUnless
  have hvalue := h.valueUnless
  have hpairs := h.blockPairs
  mvcgen [Read.blockPairs, hunless, hvalue, hpairs]

lemma Descends.valueUnless_succ (h : Descends source fuel) (stop : Stop) (block indentless : Bool) :
    ⦃kept source⦄ Read.valueUnless stop block indentless (fuel + 1) ⦃ends source⦄ := by
  have hunless := h.nodeUnless
  mvcgen [Read.valueUnless, hunless]

lemma Descends.flowItems_succ (h : Descends source fuel) (first : Bool) :
    ⦃kept source⦄ Read.flowItems first (fuel + 1) ⦃ends source⦄ := by
  have hnode := h.node
  have hflowPair := h.flowPair
  have hflowItems := h.flowItems
  mvcgen [Read.flowItems, hnode, hflowPair, hflowItems]

lemma Descends.flowPair_succ (h : Descends source fuel) (closing : Token) :
    ⦃kept source⦄ Read.flowPair closing (fuel + 1) ⦃ends source⦄ := by
  have hunless := h.nodeUnless
  have hvalue := h.valueUnless
  mvcgen [Read.flowPair, hunless, hvalue]

lemma Descends.flowPairs_succ (h : Descends source fuel) (first : Bool) :
    ⦃kept source⦄ Read.flowPairs first (fuel + 1) ⦃ends source⦄ := by
  have hnode := h.node
  have hflowPair := h.flowPair
  have hflowPairs := h.flowPairs
  mvcgen [Read.flowPairs, hnode, hflowPair, hflowPairs]

lemma descends (fuel : Nat) : Descends source fuel := by
  induction fuel with
  | zero => exact descends_zero
  | succ fuel ih => exact {
      node := ih.node_succ
      nodeUnless := ih.nodeUnless_succ
      blockItems := ih.blockItems_succ
      blockPairs := ih.blockPairs_succ
      valueUnless := ih.valueUnless_succ
      flowItems := ih.flowItems_succ
      flowPair := ih.flowPair_succ
      flowPairs := ih.flowPairs_succ }

@[spec]
lemma directives_spec (bound : Nat) (versioned : Bool) (handles : List (String × String)) :
    ⦃kept source⦄ directives bound versioned handles ⦃ends source⦄ := by
  induction bound generalizing versioned handles with
  | zero => mvcgen [directives]
  | succ bound ih => mvcgen [directives, ih]

@[spec]
lemma skipDocumentEnds_spec (bound : Nat) : ⦃kept source⦄ skipDocumentEnds bound ⦃ends source⦄ := by
  induction bound with
  | zero => mvcgen [skipDocumentEnds]
  | succ bound ih => mvcgen [skipDocumentEnds, ih]

@[spec]
lemma root_spec (bound : Nat) : ⦃kept source⦄ root bound ⦃ends source⦄ := by
  have hsteps : Descends source (4 * bound + 8) := descends _
  have hnode := hsteps.node
  have hunless := hsteps.nodeUnless
  mvcgen [root, hnode, hunless]

@[spec]
lemma finish_spec (bound : Nat) : ⦃kept source⦄ finish bound ⦃ends source⦄ := by
  mvcgen [finish]

@[spec]
lemma document_spec : ⦃kept source⦄ document ⦃ends source⦄ := by
  mvcgen [document]

end Read

lemma Graph.read_spec (source : Source) :
    ⦃⌜True⌝⦄ Graph.read source ⦃post⟨fun _ => ⌜True⌝, fun fault => ⌜Fault.OfText source fault⌝⟩⦄ :=
  Triple.bind _ _ (fun _ => run_spec Read.document_spec fun _ => tokenize_fault) fun _ =>
    Triple.pure _ fun _ => trivial

theorem Graph.read_fault {source : Source} {fault : Fault} (h : Graph.read source = .error fault) :
    Fault.OfText source fault := error_of_spec (Graph.read_spec source) trivial h

end SlideDeck.Yaml
