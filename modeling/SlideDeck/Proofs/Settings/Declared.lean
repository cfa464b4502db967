import Mathlib.Data.List.Nodup
import SlideDeck.Proofs.Datum.Json
import SlideDeck.Settings.Check

/-! The types that the fields of settings declare, the data that fit them, and the breaches of those that do not.
A breach is one only if all that encloses it is well formed. -/

namespace SlideDeck

inductive Declared where
  | text
  | textOrNull
  | list (item : Declared)
  | package
  | settings
  deriving Repr, DecidableEq

namespace Declared

def fields : Declared → List (String × Declared)
  | package => [("name", text), ("options", list text), ("comment", textOrNull)]
  | settings =>
    [("document_class", text), ("class_options", list text), ("indent", text), ("packages", list package),
      ("code_package_comment", textOrNull)]
  | text | textOrNull | list _ => []

def fieldNames (record : Declared) : List String := record.fields.map Prod.fst

def Admits : Declared → Datum → Bool
  | text, .scalar (.text _) | textOrNull, .scalar (.text _) | textOrNull, .scalar .null => true
  | list _, .sequence _ => true
  | package, .mapping _ | settings, .mapping _ => true
  | _, _ => false

def rule : Declared → Rule
  | text | textOrNull => .text
  | list _ => .list
  | package => .mapping "PackageConfig"
  | settings => .mapping "BeamerConfig"

end Declared

/-- The data of a type. A package may have keys beside the fields of packages, settings have no others. -/
inductive Fits : Declared → Datum → Prop where
  | text (value : CodeText) : Fits .text (.text value)
  | textOrNull (value : CodeText) : Fits .textOrNull (.text value)
  | null : Fits .textOrNull (.scalar .null)
  | list {type : Declared} {items : List Datum} :
      (∀ item ∈ items, Fits type item) → Fits (.list type) (.sequence items)
  | package {entries : List (Scalar × Datum)} : (∃ datum, (.text ↑"name", datum) ∈ entries) →
      (∀ name type datum, (name, type) ∈ Declared.package.fields → (.text ↑name, datum) ∈ entries →
        Fits type datum) →
      Fits .package (.mapping entries)
  | settings {entries : List (Scalar × Datum)} :
      (∀ key datum, (key, datum) ∈ entries → ∃ name ∈ Declared.settings.fieldNames, key = .text ↑name) →
      (∀ name type datum, (name, type) ∈ Declared.settings.fields → (.text ↑name, datum) ∈ entries →
        Fits type datum) →
      Fits .settings (.mapping entries)

/-- The rule that a datum breaks below it, and the path to the breach. -/
inductive Breaks : Declared → Datum → Path → Rule → Prop where
  | form {type : Declared} {datum : Datum} : ¬ type.Admits datum → Breaks type datum [] type.rule
  | item {type : Declared} {items : List Datum} {i : ℕ} {item : Datum} {path : Path} {rule : Rule} :
      items[i]? = some item → Breaks type item path rule →
      Breaks (.list type) (.sequence items) (.index i :: path) rule
  | field {record type : Declared} {entries : List (Scalar × Datum)} {name : String} {datum : Datum}
      {path : Path} {rule : Rule} : (name, type) ∈ record.fields → (.text ↑name, datum) ∈ entries →
      Breaks type datum path rule → Breaks record (.mapping entries) (.field name :: path) rule
  | missing {entries : List (Scalar × Datum)} : (∀ datum, (.text ↑"name", datum) ∉ entries) →
      Breaks .package (.mapping entries) [.field "name"] .required
  | undeclared {entries : List (Scalar × Datum)} {name : String} {datum : Datum} :
      (.text ↑name, datum) ∈ entries → name ∉ Declared.settings.fieldNames →
      Breaks .settings (.mapping entries) [.field name] .declared

section

variable {type record : Declared} {datum : Datum} {path : Path} {rule : Rule}

lemma Declared.admits_of_mem_fields {name : String} (h : (name, type) ∈ record.fields)
    (entries : List (Scalar × Datum)) : record.Admits (.mapping entries) := by
  cases record with
  | package | settings => rfl
  | text | textOrNull | list => cases h

lemma breaks_iff_of_not_admits (h : ¬ type.Admits datum) :
    Breaks type datum path rule ↔ path = [] ∧ rule = type.rule := by
  refine ⟨fun hbreaks => ?_, fun ⟨hpath, hrule⟩ => hpath ▸ hrule ▸ .form h⟩
  cases hbreaks with
  | form => exact ⟨rfl, rfl⟩
  | item | missing | undeclared => exact absurd rfl h
  | field hfield => exact absurd (Declared.admits_of_mem_fields hfield _) h

lemma breaks_list_iff {items : List Datum} :
    Breaks (.list type) (.sequence items) path rule ↔
      ∃ (i : ℕ) (item : Datum) (rest : Path),
        items[i]? = some item ∧ path = .index i :: rest ∧ Breaks type item rest rule := by
  constructor
  · intro h
    cases h with
    | form hform => exact absurd rfl hform
    | item hitem hbreaks => exact ⟨_, _, _, hitem, rfl, hbreaks⟩
  · rintro ⟨i, item, rest, hitem, rfl, hbreaks⟩
    exact .item hitem hbreaks

lemma not_breaks_of_text (value : CodeText) : ¬ Breaks .text (.text value) path rule := by
  rintro (hform | _)
  exact hform rfl

lemma not_breaks_of_admits_textOrNull (h : Declared.textOrNull.Admits datum) :
    ¬ Breaks .textOrNull datum path rule := by
  rintro (hform | _ | hfield)
  · exact hform h
  · cases hfield

lemma Fits.not_breaks (h : Fits type datum) : ∀ path rule, ¬ Breaks type datum path rule := by
  induction h with
  | text value => exact fun _ _ => not_breaks_of_text value
  | textOrNull | null => exact fun _ _ => not_breaks_of_admits_textOrNull rfl
  | list _ ih =>
    intro path rule hbreaks
    obtain ⟨i, item, rest, hitem, -, hbelow⟩ := breaks_list_iff.mp hbreaks
    exact ih item (List.mem_of_getElem? hitem) rest rule hbelow
  | package hname _ ih =>
    rintro path rule (hform | _ | ⟨hfield, hmem, hbelow⟩ | hmissing)
    · exact hform rfl
    · exact ih _ _ _ hfield hmem _ _ hbelow
    · exact hmissing _ hname.choose_spec
  | settings hkeys _ ih =>
    rintro path rule (hform | _ | ⟨hfield, hmem, hbelow⟩ | _ | ⟨hmem, hundeclared⟩)
    · exact hform rfl
    · exact ih _ _ _ hfield hmem _ _ hbelow
    · obtain ⟨name, hname, hkey⟩ := hkeys _ _ hmem
      rw [Scalar.text.injEq, CodeText.ofString_inj] at hkey
      exact hundeclared (hkey ▸ hname)

def Complete (type : Declared) : Prop :=
  ∀ datum, datum.IsJson → (∀ path rule, ¬ Breaks type datum path rule) → Fits type datum

lemma admits_of_not_breaks (h : ∀ path rule, ¬ Breaks type datum path rule) : type.Admits datum :=
  by_contra fun hother => h _ _ (.form hother)

lemma fits_fields_of_not_breaks {entries : List (Scalar × Datum)}
    (htypes : ∀ field ∈ record.fields, Complete field.2) (hjson : ∀ entry ∈ entries, entry.2.IsJson)
    (h : ∀ path rule, ¬ Breaks record (.mapping entries) path rule)
    {name : String} (hfield : (name, type) ∈ record.fields) (hmem : (.text ↑name, datum) ∈ entries) :
    Fits type datum :=
  htypes _ hfield datum (hjson _ hmem) fun _ _ hbelow => h _ _ (.field hfield hmem hbelow)

lemma complete_text : Complete .text := by
  intro datum _ h
  match datum, admits_of_not_breaks h with
  | .scalar (.text value), _ => exact .text value

lemma complete_textOrNull : Complete .textOrNull := by
  intro datum _ h
  match datum, admits_of_not_breaks h with
  | .scalar (.text value), _ => exact .textOrNull value
  | .scalar .null, _ => exact .null

lemma complete_list (htype : Complete type) : Complete (.list type) := by
  intro datum hjson h
  match datum, hjson, admits_of_not_breaks h with
  | .sequence items, .sequence hitems, _ =>
    refine .list fun item hmem => htype item (hitems item hmem) fun path rule hbelow => ?_
    obtain ⟨i, hi⟩ := List.mem_iff_getElem?.mp hmem
    exact h _ _ (.item hi hbelow)

lemma json_of_mem_named {members : List (String × Datum)} (h : ∀ member ∈ members, member.2.IsJson) :
    ∀ entry ∈ Datum.named members, entry.2.IsJson := by
  rw [Datum.named, List.forall_mem_map]
  exact h

lemma complete_package : Complete .package := by
  intro datum hjson h
  match datum, hjson, admits_of_not_breaks h with
  | .mapping _, .mapping _ hmembers, _ =>
    refine .package (by_contra fun hmissing => h _ _ (.missing (not_exists.mp hmissing))) fun _ _ _ => ?_
    refine fits_fields_of_not_breaks ?_ (json_of_mem_named hmembers) h
    simp [Declared.fields, complete_text, complete_textOrNull, complete_list]

lemma complete_settings : Complete .settings := by
  intro datum hjson h
  match datum, hjson, admits_of_not_breaks h with
  | .mapping _, .mapping _ hmembers, _ =>
    refine .settings (fun key value hmem => ?_) fun _ _ _ => ?_
    · obtain ⟨⟨name, _⟩, hmember, ⟨⟩⟩ := List.mem_map.mp hmem
      exact ⟨name, by_contra fun hother => h _ _ (.undeclared hmem hother), rfl⟩
    · refine fits_fields_of_not_breaks ?_ (json_of_mem_named hmembers) h
      simp [Declared.fields, complete_text, complete_textOrNull, complete_list, complete_package]

end

end SlideDeck
