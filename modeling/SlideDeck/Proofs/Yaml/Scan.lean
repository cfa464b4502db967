import SlideDeck.Proofs.Yaml.Faults
import SlideDeck.Yaml.Token.Lexer

/-! The faults in which reading tokens can end. A scan passes over characters and leaves the fault behind the
text where it is, so that it fails with that one, or because the text is malformed, or at a number beyond all
bounds. -/

namespace SlideDeck.Yaml

open Std.Do

set_option mvcgen.warning false

/-- In a text stands a letter for an escaped character, and after it the number of the character. -/
def Source.HasEscape (source : Source) (n : Nat) : Prop :=
  ∃ (letter : Char) (digits : List Char), Scan.escapeWidth? letter = some digits.length ∧ digits.all isHexDigit ∧
    hexValue digits = n ∧ letter :: digits <:+: source.text

/-- In a text stands a number beyond all bounds: one of too many digits, or one of no character. -/
inductive Source.Exceeds (source : Source) : Fault → Prop where
  | digits {digits : List Char} : digits.all Char.isDigit → 4300 < digits.length → digits <:+: source.text →
      Exceeds source .number
  | character {n : Nat} : source.HasEscape n → 0x110000 ≤ n → Exceeds source .number
  | hugeCharacter {n : Nat} : source.HasEscape n → 0x80000000 ≤ n → Exceeds source .tooLarge

def Fault.OfText (source : Source) (fault : Fault) : Prop :=
  fault = .malformed ∨ source.fault? = some fault ∨ source.Exceeds fault

lemma Fault.ofText_malformed (source : Source) : Fault.OfText source .malformed := .inl rfl

namespace Cursor

structure Ends (source : Source) (c : Cursor) : Prop where
  fault? : c.fault? = source.fault?
  rest : c.rest <:+ source.text

variable {source : Source} {c d : Cursor}

lemma fault?_next (c : Cursor) : c.next.fault? = c.fault? := by
  rw [Cursor.next]
  split
  · rfl
  · split_ifs <;> rfl

lemma rest_next (c : Cursor) : c.next.rest = c.rest.tail := by
  rw [Cursor.next]
  split
  · next hrest => rw [hrest, List.tail_nil]
  · next hrest => split_ifs <;> rw [hrest, List.tail_cons]

lemma Ends.next (h : c.Ends source) : c.next.Ends source where
  fault? := c.fault?_next.trans h.fault?
  rest := c.rest_next ▸ (List.tail_suffix c.rest).trans h.rest

lemma Ends.skip (h : c.Ends source) (n : Nat) : (c.skip n).Ends source := by
  induction n generalizing c with
  | zero => exact h
  | succ n ih => exact ih h.next

lemma Ends.skipComment (h : c.Ends source) : c.skipComment.Ends source := by
  rw [Cursor.skipComment]
  split_ifs
  · exact h.skip _
  · exact h

lemma Ends.takeBreak {ch : Char} (h : c.Ends source) (hbreak : c.takeBreak? = some (ch, d)) :
    d.Ends source := by
  rw [takeBreak?] at hbreak
  split at hbreak
  · split_ifs at hbreak
    · obtain ⟨-, rfl⟩ := Prod.mk.inj (Option.some.inj hbreak)
      exact h.next
    · obtain ⟨-, rfl⟩ := Prod.mk.inj (Option.some.inj hbreak)
      exact h.next
  · cases hbreak

lemma Ends.of_need {n : Nat} {fault : Fault} (h : c.Ends source) (hneed : c.need n = .error fault) :
    source.fault? = some fault := by
  rw [← h.fault?]
  rw [need] at hneed
  split at hneed
  · cases hneed
  · split_ifs at hneed
    cases hneed
    assumption

@[spec]
lemma need_spec (n : Nat) (h : c.Ends source) :
    ⦃⌜True⌝⦄ c.need n ⦃post⟨fun _ => ⌜True⌝, fun fault => ⌜Fault.OfText source fault⌝⟩⦄ := by
  cases hneed : c.need n with
  | ok a => mvcgen
  | error fault =>
    intro _
    exact .inr (.inl (h.of_need hneed))

@[spec]
lemma atSeparator_spec (h : c.Ends source) :
    ⦃⌜True⌝⦄ c.atSeparator ⦃post⟨fun _ => ⌜True⌝, fun fault => ⌜Fault.OfText source fault⌝⟩⦄ := by
  mvcgen [atSeparator]

end Cursor

namespace Scan

abbrev kept (source : Source) : Assertion (.arg Cursor (.except Fault .pure)) :=
  fun c => ⌜c.Ends source⌝

abbrev ends {α : Type} (source : Source) : PostCond α (.arg Cursor (.except Fault .pure)) :=
  post⟨fun _ c => ⌜c.Ends source⌝, fun fault => ⌜Fault.OfText source fault⌝⟩

variable {source : Source}

@[spec]
lemma fail_spec {α : Type} {fault : Fault} {Q : PostCond α (.arg Cursor (.except Fault .pure))} :
    ⦃fun _ => Q.2.1 fault⦄ (fail fault : Scan α) ⦃Q⦄ := fun _ h => h

@[spec]
lemma malformed_spec {α : Type} : ⦃kept source⦄ (malformed : Scan α) ⦃ends source⦄ := by
  mvcgen [malformed]
  exact Fault.ofText_malformed source

@[spec]
lemma need_spec (n : Nat) : ⦃kept source⦄ need n ⦃ends source⦄ := by
  mvcgen [need]

@[spec]
lemma peek_spec : ⦃kept source⦄ peek ⦃ends source⦄ := by
  mvcgen [peek]

@[spec]
lemma peekAt_spec (n : Nat) : ⦃kept source⦄ peekAt n ⦃ends source⦄ := by
  mvcgen [peekAt]

@[spec]
lemma moveTo_spec {d : Cursor} (h : d.Ends source) : ⦃kept source⦄ moveTo d ⦃ends source⦄ := by
  mvcgen [moveTo]

@[spec]
lemma skip_spec (n : Nat) : ⦃kept source⦄ skip n ⦃ends source⦄ := by
  mvcgen [skip]
  exact Cursor.Ends.skip ‹_› n

@[spec]
lemma span_spec (p : Char → Bool) : ⦃kept source⦄ span p ⦃ends source⦄ := by
  mvcgen [span]
  exact Cursor.Ends.skip ‹_› _

lemma span_run_spec (p : Char → Bool) : ⦃kept source⦄ span p
    ⦃post⟨fun run c => ⌜c.Ends source ∧ run.all p ∧ run <:+: source.text⌝,
      fun fault => ⌜Fault.OfText source fault⌝⟩⦄ := by
  mvcgen [span, -span_spec]
  · exact Cursor.Ends.skip ‹_› _
  · next c hc _ _ hmoved =>
    exact ⟨hmoved, List.all_takeWhile, (List.takeWhile_prefix p).isInfix.trans hc.rest.isInfix⟩

@[spec]
lemma skipWhile_spec (p : Char → Bool) : ⦃kept source⦄ skipWhile p ⦃ends source⦄ := by
  mvcgen [skipWhile]
  exact Cursor.Ends.skip ‹_› _

@[spec]
lemma skipSpaces_spec : ⦃kept source⦄ skipSpaces ⦃ends source⦄ := by
  mvcgen [skipSpaces]
  exact Cursor.Ends.skip ‹_› _

@[spec]
lemma takeBreak_spec : ⦃kept source⦄ takeBreak ⦃ends source⦄ := by
  mvcgen [takeBreak]
  exact Cursor.Ends.takeBreak ‹_› ‹_›

@[spec]
lemma peekHexDigits_spec (count : Nat) : ⦃kept source⦄ peekHexDigits count ⦃ends source⦄ := by
  mvcgen [peekHexDigits]

@[spec]
lemma expect_spec (p : Option Char → Bool) : ⦃kept source⦄ expect p ⦃ends source⦄ := by
  mvcgen [expect]

@[spec]
lemma lineEnd_spec : ⦃kept source⦄ lineEnd ⦃ends source⦄ := by
  mvcgen [lineEnd]
  exact (Cursor.Ends.skip ‹_› _).skipComment

@[spec]
lemma fuel_spec : ⦃kept source⦄ fuel ⦃ends source⦄ := by
  mvcgen [fuel]

section Names

@[spec]
lemma uriBytes_spec (fuel : Nat) : ⦃kept source⦄ uriBytes fuel ⦃ends source⦄ := by
  induction fuel with
  | zero => mvcgen [uriBytes]
  | succ fuel ih => mvcgen [uriBytes, ih]

@[spec]
lemma uriChars_spec (fuel : Nat) : ⦃kept source⦄ uriChars fuel ⦃ends source⦄ := by
  induction fuel with
  | zero => mvcgen [uriChars]
  | succ fuel ih => mvcgen [uriChars, ih]

@[spec]
lemma uri_spec : ⦃kept source⦄ uri ⦃ends source⦄ := by
  mvcgen [uri]

@[spec]
lemma tagHandle_spec : ⦃kept source⦄ tagHandle ⦃ends source⦄ := by
  mvcgen [tagHandle]

@[spec]
lemma hasHandle_spec : ⦃kept source⦄ hasHandle ⦃ends source⦄ := by
  mvcgen [hasHandle]

@[spec]
lemma tag_spec : ⦃kept source⦄ tag ⦃ends source⦄ := by
  mvcgen -elimLets [tag]

@[spec]
lemma anchorName_spec : ⦃kept source⦄ anchorName ⦃ends source⦄ := by
  -- Step by step, since the set of characters that may follow a name is not to be evaluated.
  rw [anchorName]
  refine Triple.bind _ _ (skip_spec 1) fun _ => Triple.bind _ _ (span_spec _) fun name => ?_
  split
  · exact malformed_spec
  · exact Triple.bind _ _ (expect_spec _) fun _ => Triple.pure _ fun _ h => h

@[spec]
lemma versionNumber_spec : ⦃kept source⦄ versionNumber ⦃ends source⦄ := by
  have hspan : ⦃kept source⦄ span Char.isDigit ⦃_⦄ := span_run_spec Char.isDigit
  mvcgen [versionNumber, -span_spec, hspan]
  · exact And.left ‹_›
  · next h => exact .inr (.inr (.digits h.2.1 ‹_› h.2.2))
  · exact And.left ‹_›

@[spec]
lemma version_spec : ⦃kept source⦄ version ⦃ends source⦄ := by
  mvcgen [version]

@[spec]
lemma handleDirective_spec : ⦃kept source⦄ handleDirective ⦃ends source⦄ := by
  mvcgen [handleDirective]

@[spec]
lemma directive_spec : ⦃kept source⦄ directive ⦃ends source⦄ := by
  mvcgen [directive]

end Names

section Scalars

@[spec]
lemma takeChomping_spec : ⦃kept source⦄ takeChomping ⦃ends source⦄ := by
  mvcgen [takeChomping]

@[spec]
lemma takeIncrement_spec : ⦃kept source⦄ takeIncrement ⦃ends source⦄ := by
  mvcgen [takeIncrement]

@[spec]
lemma blockHeader_spec : ⦃kept source⦄ blockHeader ⦃ends source⦄ := by
  mvcgen [blockHeader]

@[spec]
lemma leadingBreaks_spec (fuel widest : Nat) : ⦃kept source⦄ leadingBreaks fuel widest ⦃ends source⦄ := by
  induction fuel generalizing widest with
  | zero => mvcgen [leadingBreaks]
  | succ fuel ih => mvcgen [leadingBreaks, ih]

@[spec]
lemma indentTo_spec (column : Nat) : ⦃kept source⦄ indentTo column ⦃ends source⦄ := by
  mvcgen [indentTo]

@[spec]
lemma innerBreaks_spec (column fuel : Nat) : ⦃kept source⦄ innerBreaks column fuel ⦃ends source⦄ := by
  induction fuel with
  | zero => mvcgen [innerBreaks]
  | succ fuel ih => mvcgen [innerBreaks, ih]

@[spec]
lemma blockLines_spec (folded : Bool) (chomping : Chomping) (column fuel : Nat) (breaks : List Char) :
    ⦃kept source⦄ blockLines folded chomping column fuel breaks ⦃ends source⦄ := by
  induction fuel generalizing breaks with
  | zero => mvcgen [blockLines]
  | succ fuel ih => mvcgen [blockLines, ih]

@[spec]
lemma blockScalar_spec (indent : Int) (folded : Bool) :
    ⦃kept source⦄ blockScalar indent folded ⦃ends source⦄ := by
  mvcgen [blockScalar]

lemma codePoint_spec (n : Nat) : ⦃fun c => ⌜c.Ends source ∧ source.HasEscape n⌝⦄ codePoint n ⦃ends source⦄ := by
  mvcgen [codePoint]
  · exact .inr (.inr (.hugeCharacter (And.right ‹_›) ‹_›))
  · exact .inr (.inr (.character (And.right ‹_›) ‹_›))
  · exact And.left ‹_›

@[spec]
lemma quotedBreaks_spec (fuel : Nat) : ⦃kept source⦄ quotedBreaks fuel ⦃ends source⦄ := by
  induction fuel with
  | zero => mvcgen [quotedBreaks]
  | succ fuel ih => mvcgen [quotedBreaks, ih]

@[spec]
lemma quotedBlanks_spec : ⦃kept source⦄ quotedBlanks ⦃ends source⦄ := by
  mvcgen [quotedBlanks]

lemma peek_at_spec : ⦃kept source⦄ peek
    ⦃post⟨fun next c => ⌜c.Ends source ∧ c.peek? = next⌝, fun fault => ⌜Fault.OfText source fault⌝⟩⦄ := by
  mvcgen [peek, -peek_spec]

lemma skip_after_spec (ch : Char) : ⦃fun c => ⌜c.Ends source ∧ c.peek? = some ch⌝⦄ skip 1
    ⦃post⟨fun _ c => ⌜c.Ends source ∧ ch :: c.rest <:+ source.text⌝,
      fun fault => ⌜Fault.OfText source fault⌝⟩⦄ := by
  have hmove {d : Cursor} (h : d.Ends source) : ⦃kept source⦄ moveTo d
      ⦃post⟨fun _ c => ⌜c.Ends source ∧ c = d⌝, fun fault => ⌜Fault.OfText source fault⌝⟩⦄ := by
    mvcgen [moveTo, need, -moveTo_spec, -need_spec]
  mvcgen [skip, -skip_spec, -moveTo_spec, hmove]
  case vc1.h hc => exact hc.1.skip 1
  case vc2.pre hc => exact hc.1
  case vc3.post.success c hc _ d =>
    rintro hd rfl
    have hrest : ch :: c.next.rest = c.rest := by rw [c.rest_next, List.cons_head?_tail hc.2]
    exact ⟨hd, hrest ▸ hc.1.rest⟩

lemma peekHexDigits_after_spec {ch : Char} {count : Nat} (h : escapeWidth? ch = some count) :
    ⦃fun c => ⌜c.Ends source ∧ ch :: c.rest <:+ source.text⌝⦄ peekHexDigits count
    ⦃post⟨fun digits c => ⌜c.Ends source ∧ source.HasEscape (hexValue digits)⌝,
      fun fault => ⌜Fault.OfText source fault⌝⟩⦄ := by
  mvcgen [peekHexDigits, malformed, -peekHexDigits_spec, -malformed_spec]
  · next c hc digits hlength =>
    have hdigits : ch :: digits <+: ch :: c.rest :=
      List.cons_prefix_cons.mpr ⟨rfl, (List.takeWhile_prefix isHexDigit).trans (List.take_prefix count c.rest)⟩
    exact ⟨hc.1, ch, digits, hlength ▸ h, List.all_takeWhile, rfl, hdigits.isInfix.trans hc.2.isInfix⟩
  · exact And.left ‹_›
  · exact Fault.ofText_malformed source

lemma numbered_spec {ch : Char} {width : Nat} (h : escapeWidth? ch = some width) :
    ⦃fun c => ⌜c.Ends source ∧ c.peek? = some ch⌝⦄ (do
      skip 1
      let digits ← peekHexDigits width
      let point ← codePoint (hexValue digits)
      skip width
      return [point]) ⦃ends source⦄ := by
  refine Triple.bind _ _ (skip_after_spec ch) fun _ => Triple.bind _ _ (peekHexDigits_after_spec h) fun digits => ?_
  exact Triple.bind _ _ (codePoint_spec _) fun _ => Triple.bind _ _ (skip_spec width) fun _ => Triple.pure _ fun _ h => h

@[spec]
lemma escape_spec : ⦃kept source⦄ escape ⦃ends source⦄ := by
  rw [escape]
  refine Triple.bind _ _ peek_at_spec fun next => ?_
  cases next with
  | none =>
    mvcgen
    exact And.left ‹_›
  | some ch =>
    simp only
    split
    · mvcgen
      exact And.left ‹_›
    · exact numbered_spec ‹_›
    · mvcgen
      all_goals exact And.left ‹_›

@[spec]
lemma quotedPart_spec (mark : Char) : ⦃kept source⦄ quotedPart mark ⦃ends source⦄ := by
  mvcgen [quotedPart]

@[spec]
lemma quotedParts_spec (mark : Char) (fuel : Nat) : ⦃kept source⦄ quotedParts mark fuel ⦃ends source⦄ := by
  induction fuel with
  | zero => mvcgen [quotedParts]
  | succ fuel ih => mvcgen [quotedParts, ih]

@[spec]
lemma quotedScalar_spec (mark : Char) : ⦃kept source⦄ quotedScalar mark ⦃ends source⦄ := by
  mvcgen [quotedScalar]

@[spec]
lemma plainBreaks_spec (fuel : Nat) : ⦃kept source⦄ plainBreaks fuel ⦃ends source⦄ := by
  induction fuel with
  | zero => mvcgen [plainBreaks]
  | succ fuel ih => mvcgen [plainBreaks, ih]

@[spec]
lemma plainRun_spec (inFlow : Bool) : ⦃kept source⦄ plainRun inFlow ⦃ends source⦄ := by
  mvcgen [plainRun]

@[spec]
lemma plainBlanks_spec : ⦃kept source⦄ plainBlanks ⦃ends source⦄ := by
  mvcgen [plainBlanks]

@[spec]
lemma plainParts_spec (inFlow : Bool) (indent : Int) (fuel : Nat) (blanks : List Char) (broken : Bool) :
    ⦃kept source⦄ plainParts inFlow indent fuel blanks broken ⦃ends source⦄ := by
  induction fuel generalizing blanks broken with
  | zero => mvcgen [plainParts]
  | succ fuel ih => mvcgen [plainParts, ih]

end Scalars

end Scan

end SlideDeck.Yaml
