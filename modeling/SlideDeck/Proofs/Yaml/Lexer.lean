import SlideDeck.Proofs.Yaml.Scan

/-! The faults in which the tokens of a text can end. -/

namespace SlideDeck.Yaml

open Std.Do

set_option mvcgen.warning false

namespace Lexer

def Ends (source : Source) (l : Lexer) : Prop := l.cursor.Ends source

abbrev ends (source : Source) : PostCond Lexer (.except Fault .pure) :=
  post⟨fun l => ⌜l.Ends source⌝, fun fault => ⌜Fault.OfText source fault⌝⟩

variable {source : Source} {l : Lexer}

lemma Ends.unwind (column : Int) (indents : List Int) (h : l.Ends source) :
    (unwind column indents l).Ends source := by
  induction indents generalizing l with
  | nil => exact h
  | cons outer rest ih =>
    rw [Lexer.unwind]
    split_ifs
    · exact ih h
    · exact h

lemma Ends.unwindTo (column : Int) (h : l.Ends source) : (l.unwindTo column).Ends source := by
  rw [Lexer.unwindTo]
  split_ifs
  · exact h
  · exact h.unwind column _

lemma Ends.indentTo (column place : Nat) (start : Token) (h : l.Ends source) :
    (l.indentTo column place start).Ends source := by
  rw [Lexer.indentTo]
  split_ifs <;> exact h

lemma Ends.skipBlanks (fuel : Nat) (h : l.Ends source) : (skipBlanks fuel l).Ends source := by
  induction fuel generalizing l with
  | zero => exact h
  | succ fuel ih =>
    have hpassed : l.cursor.skipSpaces.skipComment.Ends source := (Cursor.Ends.skip h _).skipComment
    rw [Lexer.skipBlanks]
    split
    · exact ih (hpassed.takeBreak ‹_›)
    · exact hpassed

@[spec]
lemma pushScan_spec {scan : Scan Token} (h : l.Ends source)
    (hscan : ⦃Scan.kept source⦄ scan ⦃Scan.ends source⦄) : ⦃⌜True⌝⦄ l.pushScan scan ⦃ends source⦄ := by
  rw [pushScan]
  exact Triple.bind _ _ (fun _ => run_spec hscan h) fun r => Triple.pure _ fun hr => hr

@[spec]
lemma moveTo_spec {c : Cursor} (h : c.Ends source) : ⦃⌜True⌝⦄ l.moveTo c ⦃ends source⦄ := by
  mvcgen [moveTo]

@[spec]
lemma skip_spec (n : Nat) (h : l.Ends source) : ⦃⌜True⌝⦄ l.skip n ⦃ends source⦄ := by
  mvcgen [skip]
  exact Cursor.Ends.skip h n

@[spec]
lemma dropStaleKeys_spec (h : l.Ends source) : ⦃⌜True⌝⦄ l.dropStaleKeys ⦃ends source⦄ := by
  mvcgen [dropStaleKeys]
  exact Fault.ofText_malformed source

@[spec]
lemma dropKey_spec (h : l.Ends source) : ⦃⌜True⌝⦄ l.dropKey ⦃ends source⦄ := by
  mvcgen [dropKey]
  exact Fault.ofText_malformed source

@[spec]
lemma saveKey_spec (h : l.Ends source) : ⦃⌜True⌝⦄ l.saveKey ⦃ends source⦄ := by
  mvcgen [saveKey]

@[spec]
lemma skipMark_spec (h : l.Ends source) : ⦃⌜True⌝⦄ l.skipMark ⦃ends source⦄ := by
  mvcgen [skipMark]

@[spec]
lemma separator_spec (t : Token) (h : l.Ends source) : ⦃⌜True⌝⦄ l.separator t ⦃ends source⦄ := by
  mvcgen [separator]
  · exact h.unwindTo _
  · exact id

@[spec]
lemma directive_spec (h : l.Ends source) : ⦃⌜True⌝⦄ l.directive ⦃ends source⦄ := by
  mvcgen [directive]
  · exact h.unwindTo _
  · exact id

@[spec]
lemma flowStart_spec (t : Token) (h : l.Ends source) : ⦃⌜True⌝⦄ l.flowStart t ⦃ends source⦄ := by
  mvcgen [flowStart]
  exact id

@[spec]
lemma flowEnd_spec (t : Token) (h : l.Ends source) : ⦃⌜True⌝⦄ l.flowEnd t ⦃ends source⦄ := by
  mvcgen [flowEnd]
  exact id

@[spec]
lemma flowEntry_spec (h : l.Ends source) : ⦃⌜True⌝⦄ l.flowEntry ⦃ends source⦄ := by
  mvcgen [flowEntry]
  exact id

@[spec]
lemma blockEntry_spec (h : l.Ends source) : ⦃⌜True⌝⦄ l.blockEntry ⦃ends source⦄ := by
  mvcgen [blockEntry]
  · exact Fault.ofText_malformed source
  · exact h.indentTo _ _ _
  · exact id

@[spec]
lemma key_spec (h : l.Ends source) : ⦃⌜True⌝⦄ l.key ⦃ends source⦄ := by
  mvcgen [key]
  · exact Fault.ofText_malformed source
  · exact h.indentTo _ _ _
  · exact id

@[spec]
lemma value_spec (h : l.Ends source) : ⦃⌜True⌝⦄ l.value ⦃ends source⦄ := by
  mvcgen [value]
  · exact Ends.indentTo _ _ _ h
  · exact Fault.ofText_malformed source
  · exact h.indentTo _ _ _
  · exact id

@[spec]
lemma keyLike_spec {scan : Scan Token} (h : l.Ends source)
    (hscan : ⦃Scan.kept source⦄ scan ⦃Scan.ends source⦄) : ⦃⌜True⌝⦄ l.keyLike scan ⦃ends source⦄ := by
  mvcgen [keyLike]
  exact id

@[spec]
lemma block_spec (folded : Bool) (h : l.Ends source) : ⦃⌜True⌝⦄ l.block folded ⦃ends source⦄ := by
  mvcgen [block]
  exact id

@[spec]
lemma plain_spec (h : l.Ends source) : ⦃⌜True⌝⦄ l.plain ⦃ends source⦄ := by
  rw [plain]
  refine Triple.bind _ _ (saveKey_spec h) fun l => ?_
  exact Triple.bind _ _ (run_spec (Scan.plainParts_spec _ _ _ _ _)) fun r => Triple.pure _ fun hr => hr

@[spec]
lemma streamEnd_spec (h : l.Ends source) : ⦃⌜True⌝⦄ l.streamEnd ⦃ends source⦄ := by
  mvcgen [streamEnd]
  exact h.unwindTo _

@[spec]
lemma atSeparator_spec (ch : Char) (h : l.Ends source) :
    ⦃⌜True⌝⦄ l.atSeparator ch ⦃post⟨fun _ => ⌜True⌝, fun fault => ⌜Fault.OfText source fault⌝⟩⦄ := by
  mvcgen [atSeparator]

@[spec]
lemma token_spec (ch : Char) (h : l.Ends source) : ⦃⌜True⌝⦄ l.token ch ⦃ends source⦄ := by
  mvcgen [token]
  exact Fault.ofText_malformed source

@[spec]
lemma step_spec (h : l.Ends source) : ⦃⌜True⌝⦄ l.step ⦃ends source⦄ := by
  mvcgen [step]
  · exact Ends.skipBlanks _ ‹_›
  · exact Ends.skipBlanks _ ‹_›
  · exact fun hr => hr.unwindTo _
  · exact Ends.unwindTo _ ‹_›
  · exact id

lemma of_run {fuel : Nat} {fault : Fault} (h : l.Ends source) (hfault : (run fuel l).2 = some fault) :
    Fault.OfText source fault := by
  induction fuel generalizing l with
  | zero =>
    obtain rfl := Option.some.inj hfault
    exact Fault.ofText_malformed source
  | succ fuel ih =>
    have hstep := step_spec h trivial
    rw [run] at hfault
    cases hout : l.step with
    | error cause =>
      rw [hout] at hfault hstep
      obtain rfl := Option.some.inj hfault
      exact hstep
    | ok l =>
      rw [hout] at hfault hstep
      simp only at hfault
      split_ifs at hfault
      exact ih hstep hfault

end Lexer

lemma tokenize_fault {source : Source} {fault : Fault} (h : (tokenize source).2 = some fault) :
    Fault.OfText source fault :=
  Lexer.of_run (show Lexer.Ends source { cursor := .ofSource source } from ⟨rfl, List.suffix_rfl⟩) h

end SlideDeck.Yaml
