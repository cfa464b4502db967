import SlideDeck.Proofs.Text.Decoding
import SlideDeck.Proofs.Yaml.Building
import SlideDeck.Proofs.Yaml.Reading
import SlideDeck.Settings.Load

/-! How loading settings from a file can end. What is malformed or breaks the rules is told as an error of the
settings; what has another fault is not. -/

namespace SlideDeck

open Std.Do

namespace Yaml

lemma Source.ofBlocks_fault {last? : Option Fault} {blocks : List (List Char)} {fault : Fault}
    (h : (ofBlocks last? blocks).fault? = some fault) : fault = .malformed ∨ last? = some fault := by
  induction blocks with
  | nil => exact .inr h
  | cons block rest ih =>
    rw [ofBlocks] at h
    split_ifs at h
    · exact ih h
    · exact .inl (Option.some.inj h).symm

lemma Source.ofBytes_fault {bytes : List UInt8} {fault : Fault} (h : (ofBytes bytes).fault? = some fault) :
    fault = .malformed ∨ (fault = .encoding ∧ (Text.decodeBlocks bytes).2 = true) := by
  unfold ofBytes at h
  generalize Text.decodeBlocks bytes = decoded at h ⊢
  obtain ⟨blocks, broken⟩ := decoded
  have hbroken (hlast : (if broken then some Fault.encoding else none) = some fault) :
      fault = .encoding ∧ broken = true := by
    split_ifs at hlast with hbroken
    exact ⟨(Option.some.inj hlast).symm, hbroken⟩
  simp only at h
  split at h
  · exact (ofBlocks_fault h).imp id hbroken
  · split_ifs at h with hend
    · exact .inr ⟨(Option.some.inj h).symm, hend⟩
    · exact (ofBlocks_fault h).imp id nofun

end Yaml

namespace Settings

/-- The faults that are told as errors of the settings. -/
def LoadFault.isConfigError : LoadFault → Bool
  | .yaml .malformed | .noMapping _ | .invalid _ _ => true
  | .yaml _ | .directory => false

/-- The faults of a file that are told as other errors: its bytes encode no text, a number in it is beyond all bounds,
or a node of its document has no value of its type. -/
inductive Escapes (bytes : List UInt8) : Yaml.Fault → Prop where
  | encoding : Text.decodeUtf8 bytes = none → Escapes bytes .encoding
  | number {fault : Yaml.Fault} : (Yaml.Source.ofBytes bytes).Exceeds fault → Escapes bytes fault
  | node {graph : Yaml.Graph} {root place : Nat} {fault : Yaml.Fault} :
      Yaml.Graph.read (.ofBytes bytes) = .ok (graph, some root) → graph.Refuses place fault →
      Escapes bytes fault

variable {bytes : List UInt8} {fault : Yaml.Fault}

lemma Escapes.isConfigError_eq_false (h : Escapes bytes fault) :
    (LoadFault.yaml fault).isConfigError = false := by
  have hne : fault ≠ .malformed := by
    cases h with
    | encoding => nofun
    | number hexceeds => cases hexceeds <;> nofun
    | node _ hrefuses => exact hrefuses.ne_malformed
  cases fault with
  | malformed => exact absurd rfl hne
  | _ => rfl

lemma escapes_of_graph (h : Yaml.Graph.read (.ofBytes bytes) = .error fault) :
    fault = .malformed ∨ Escapes bytes fault := by
  obtain rfl | hlast | hnumber := Yaml.Graph.read_fault h
  · exact .inl rfl
  · obtain rfl | ⟨rfl, hbroken⟩ := Yaml.Source.ofBytes_fault hlast
    · exact .inl rfl
    · refine .inr (.encoding ?_)
      by_contra hsome
      obtain ⟨chars, hchars⟩ := Option.ne_none_iff_exists'.mp hsome
      rw [Text.decodeBlocks_of_decodeUtf8 hchars] at hbroken
      cases hbroken
  · exact .inr (.number hnumber)

lemma escapes_of_document {shape : Yaml.Shape} (h : Yaml.read shape (.ofBytes bytes) = .error fault) :
    fault = .malformed ∨ Escapes bytes fault := by
  cases hread : Yaml.Graph.read (.ofBytes bytes) with
  | error cause =>
    rw [Yaml.read, hread] at h
    cases h
    exact escapes_of_graph hread
  | ok out =>
    obtain ⟨graph, _ | root⟩ := out
    · rw [Yaml.read, hread] at h
      cases h
    · exact (Yaml.refuses_of_read hread h).imp id fun hrefuses => .node hread hrefuses.choose_spec

lemma ofDocument_isConfigError {path : String} {document : Datum} {fault : LoadFault}
    (h : ofDocument path document = .error fault) : fault.isConfigError := by
  unfold ofDocument at h
  split at h
  · split at h
    · cases h
    · cases h
      rfl
  · cases h
    rfl

lemma readDocument_eq (bytes : List UInt8) :
    readDocument bytes = (Yaml.read shape (.ofBytes bytes)).mapError .yaml := by
  unfold readDocument
  cases Yaml.read shape (.ofBytes bytes) <;> rfl

lemma load_content (path : String) (bytes : List UInt8) :
    (load path (.content bytes)).2 = readDocument bytes >>= ofDocument path := by
  unfold load
  dsimp only
  cases readDocument bytes >>= ofDocument path <;> rfl

/-- Where the document in a file can be read, loading ends in the settings that it states or in an error of the
settings. Where it cannot, loading ends in the fault of the document, which is told as another error if and only
if it escapes. -/
theorem load_outcomes (path : String) (bytes : List UInt8) :
    (∃ document, Yaml.read shape (.ofBytes bytes) = .ok document ∧
        (load path (.content bytes)).2 = ofDocument path document ∧
        ∀ fault, (load path (.content bytes)).2 = .error fault → fault.isConfigError) ∨
      ∃ fault, Yaml.read shape (.ofBytes bytes) = .error fault ∧
        (load path (.content bytes)).2 = .error (.yaml fault) ∧
        ((LoadFault.yaml fault).isConfigError = false ↔ Escapes bytes fault) := by
  cases hread : Yaml.read shape (.ofBytes bytes) with
  | ok document =>
    have hload : (load path (.content bytes)).2 = ofDocument path document := by
      rw [load_content, readDocument_eq, hread]
      rfl
    exact .inl ⟨document, rfl, hload, fun fault h => ofDocument_isConfigError (hload ▸ h)⟩
  | error fault =>
    have hload : (load path (.content bytes)).2 = .error (.yaml fault) := by
      rw [load_content, readDocument_eq, hread]
      rfl
    refine .inr ⟨fault, rfl, hload, fun hother => ?_, Escapes.isConfigError_eq_false⟩
    obtain rfl | hescapes := escapes_of_document hread
    · cases hother
    · exact hescapes

/-- An indentation that has the form of a date and is none. -/
theorem load_of_no_date :
    (load defaultPath (.content "indent: 2022-13-45\n".toUTF8.toList)).2 = .error (.yaml .number) ∧
      (LoadFault.yaml .number).isConfigError = false := by
  decide +kernel

end Settings

end SlideDeck
