import SlideDeck.Proofs.Settings.Violations

/-! What settings are read from a datum: those that it states, if it is of the declared type, and none
otherwise. -/

namespace SlideDeck

namespace Datum

def texts (values : List CodeText) : Datum := .sequence (values.map text)

def textOrNull : Option CodeText → Datum
  | none => .scalar .null
  | some value => .text value

/-- The entries give a field its value, or they leave it out and it has the default. -/
inductive Gives {α : Type} (entries : List (Scalar × Datum)) (name : String) (states : Datum → α → Prop)
    (default : α) : α → Prop where
  | given {datum : Datum} {value : α} : (.text ↑name, datum) ∈ entries → states datum value →
      Gives entries name states default value
  | absent : (∀ datum, (.text ↑name, datum) ∉ entries) → Gives entries name states default default

end Datum

namespace PackageLine

inductive StatedBy : Datum → PackageLine → Prop where
  | mapping {entries : List (Scalar × Datum)} {line : PackageLine} :
      (.text ↑"name", .text line.name) ∈ entries →
      Datum.Gives entries "options" (fun datum options => datum = .texts options) [] line.options →
      Datum.Gives entries "comment" (fun datum comment? => datum = .textOrNull comment?) none line.comment? →
      StatedBy (.mapping entries) line

def datum (line : PackageLine) : Datum :=
  .mapping (Datum.named [("name", .text line.name), ("options", .texts line.options),
    ("comment", .textOrNull line.comment?)])

end PackageLine

namespace Settings

/-- A datum states settings: every value that it gives, and the default for what it leaves out. -/
inductive StatedBy : Datum → Settings → Prop where
  | mapping {entries : List (Scalar × Datum)} {settings : Settings} :
      (∀ key datum, (key, datum) ∈ entries → ∃ name ∈ Declared.settings.fieldNames, key = .text ↑name) →
      Datum.Gives entries "document_class" (fun datum value => datum = .text value) "beamer"
        settings.documentClass →
      Datum.Gives entries "class_options" (fun datum values => datum = .texts values) []
        settings.classOptions →
      Datum.Gives entries "indent" (fun datum value => datum = .text value) "  " settings.indent →
      Datum.Gives entries "packages"
        (fun datum lines => ∃ items, datum = .sequence items ∧ List.Forall₂ PackageLine.StatedBy items lines)
        PackageLine.defaults settings.packages →
      Datum.Gives entries "code_package_comment" (fun datum comment? => datum = .textOrNull comment?)
        (some ↑"to include source code") settings.codeComment? →
      StatedBy (.mapping entries) settings

def datum (settings : Settings) : Datum :=
  .mapping (Datum.named [("document_class", .text settings.documentClass),
    ("class_options", .texts settings.classOptions), ("indent", .text settings.indent),
    ("packages", .sequence (settings.packages.map PackageLine.datum)),
    ("code_package_comment", .textOrNull settings.codeComment?)])

end Settings

namespace Checked

variable {α β : Type}

lemma map_eq_ok_iff {c : Checked α} {f : α → β} {b : β} : c.map f = .ok b ↔ ∃ a, c = .ok a ∧ f a = b := by
  cases c <;> simp [Except.map]

lemma and_eq_ok_iff {c : Checked α} {d : Checked β} {a : α} {b : β} :
    c.and d = .ok (a, b) ↔ c = .ok a ∧ d = .ok b := by
  cases c <;> cases d <;> simp [Checked.and]

end Checked

namespace Settings

def Reads {α : Type} (check : Path → Datum → Checked α) (states : Datum → α → Prop) : Prop :=
  ∀ path datum value, datum.IsJson → (check path datum = .ok value ↔ states datum value)

lemma reads_text : Reads checkText fun datum value => datum = .text value := by
  rintro path - value (_ | _ | _ | _ | given | _ | _)
  case text => simp [checkText, Datum.text]
  all_goals simp [checkText, Checked.fail, Datum.text]

lemma reads_textOrNull : Reads checkTextOrNull fun datum comment? => datum = .textOrNull comment? := by
  intro path datum comment? hjson
  cases hjson <;> cases comment? <;>
    simp [checkTextOrNull, checkText, Checked.fail, Except.map, Datum.textOrNull, Datum.text]

section

variable {α : Type} {check : Path → Datum → Checked α} {states : Datum → α → Prop}

lemma reads_items (h : Reads check states) (path : Path) (i : ℕ) {items : List Datum} {values : List α}
    (hjson : ∀ item ∈ items, item.IsJson) :
    checkItems check path i items = .ok values ↔ List.Forall₂ states items values := by
  induction items generalizing i values with
  | nil => simp [checkItems, eq_comm]
  | cons item rest ih =>
    rw [List.forall_mem_cons] at hjson
    rw [checkItems, Checked.map_eq_ok_iff, List.forall₂_cons_left_iff]
    constructor
    · rintro ⟨⟨value, values⟩, hok, rfl⟩
      obtain ⟨hitem, hrest⟩ := Checked.and_eq_ok_iff.mp hok
      exact ⟨value, values, (h _ _ _ hjson.1).mp hitem, (ih _ hjson.2).mp hrest, rfl⟩
    · rintro ⟨value, values, hitem, hrest, rfl⟩
      refine ⟨(value, values), Checked.and_eq_ok_iff.mpr ?_, rfl⟩
      exact ⟨(h _ _ _ hjson.1).mpr hitem, (ih _ hjson.2).mpr hrest⟩

lemma reads_list (h : Reads check states) :
    Reads (checkList check) fun datum values =>
      ∃ items, datum = .sequence items ∧ List.Forall₂ states items values := by
  rintro path - values (_ | _ | _ | _ | _ | hitems | _)
  case sequence items => simpa [checkList] using reads_items h path 0 hitems
  all_goals simp [checkList, Checked.fail, Datum.text]

lemma reads_texts : Reads (checkList checkText) fun datum values => datum = .texts values := by
  intro path datum values hjson
  have htexts (items : List Datum) :
      List.Forall₂ (fun item value => item = .text value) items values ↔ items = values.map Datum.text := by
    rw [← List.forall₂_map_right_iff, List.forall₂_eq_eq_eq]
  simp [reads_list reads_text path datum values hjson, htexts, Datum.texts]

variable {members : List (String × Datum)}

lemma checkField_eq_ok_iff (h : Reads check states) (hnodup : (members.map Prod.fst).Nodup)
    (hjson : ∀ member ∈ members, member.2.IsJson) {path : Path} {name : String} {default value : α} :
    checkField (Datum.named members) path name default check = .ok value ↔
      Datum.Gives (Datum.named members) name states default value := by
  unfold checkField
  cases hlookup : Datum.lookup name (Datum.named members) with
  | some datum =>
    have hmem := (Datum.lookup_eq_some_iff hnodup).mp hlookup
    rw [h _ _ _ (hjson _ hmem)]
    constructor
    · exact .given (Datum.mem_named.mpr hmem)
    · rintro (⟨hother, hstates⟩ | habsent)
      · rw [Datum.mem_named, ← Datum.lookup_eq_some_iff hnodup, hlookup] at hother
        exact Option.some.inj hother ▸ hstates
      · exact absurd (Datum.mem_named.mpr hmem) (habsent datum)
  | none =>
    have habsent (datum : Datum) : (.text ↑name, datum) ∉ Datum.named members :=
      fun hmem => (Datum.lookup_eq_none_iff hnodup).mp hlookup datum (Datum.mem_named.mp hmem)
    constructor
    · rintro ⟨⟩
      exact .absent habsent
    · rintro (⟨hmem, -⟩ | -)
      · exact absurd hmem (habsent _)
      · rfl

lemma checkRequired_eq_ok_iff (hnodup : (members.map Prod.fst).Nodup)
    (hjson : ∀ member ∈ members, member.2.IsJson) {path : Path} {name : String} {value : CodeText} :
    checkRequired (Datum.named members) path name checkText = .ok value ↔
      (.text ↑name, .text value) ∈ Datum.named members := by
  rw [Datum.mem_named, ← Datum.lookup_eq_some_iff hnodup]
  unfold checkRequired
  cases hlookup : Datum.lookup name (Datum.named members) with
  | some datum =>
    have hmem := (Datum.lookup_eq_some_iff hnodup).mp hlookup
    rw [reads_text _ _ _ (hjson _ hmem), Option.some_inj]
  | none => simp [Checked.fail]

lemma reads_package : Reads checkPackage PackageLine.StatedBy := by
  rintro path - line (_ | _ | _ | _ | _ | _ | ⟨hnodup, hjson⟩)
  case mapping =>
    rw [checkPackage, Checked.map_eq_ok_iff]
    constructor
    · rintro ⟨⟨name, options, comment?⟩, hok, rfl⟩
      simp only [Checked.and_eq_ok_iff] at hok
      obtain ⟨hname, hoptions, hcomment⟩ := hok
      exact .mapping ((checkRequired_eq_ok_iff hnodup hjson).mp hname)
        ((checkField_eq_ok_iff reads_texts hnodup hjson).mp hoptions)
        ((checkField_eq_ok_iff reads_textOrNull hnodup hjson).mp hcomment)
    · rintro ⟨hname, hoptions, hcomment⟩
      refine ⟨(line.name, line.options, line.comment?), ?_, rfl⟩
      simp only [Checked.and_eq_ok_iff]
      exact ⟨(checkRequired_eq_ok_iff hnodup hjson).mpr hname,
        (checkField_eq_ok_iff reads_texts hnodup hjson).mpr hoptions,
        (checkField_eq_ok_iff reads_textOrNull hnodup hjson).mpr hcomment⟩
  all_goals
    constructor <;> rintro ⟨⟩

end

lemma checkKeys_eq_ok_iff {members : List (String × Datum)} :
    checkKeys (Datum.named members) = .ok () ↔ ∀ key datum, (key, datum) ∈ Datum.named members →
      ∃ name ∈ Declared.settings.fieldNames, key = .text ↑name := by
  have hnone : checkKeys (Datum.named members) = .ok () ↔ (checkKeys (Datum.named members)).violations = [] :=
    ⟨fun h => h ▸ rfl, fun h => (explained_checkKeys _ h).choose_spec⟩
  have hflat (names : List String) : (names.map keyPart).flatMap Part.found = [] ↔ names = [] := by
    cases names <;> simp [keyPart]
  rw [hnone, violations_checkKeys, hflat, Datum.undeclared_eq_nil_iff]

lemma check_eq_ok_iff {datum : Datum} (hjson : datum.IsJson) {settings : Settings} :
    check datum = .ok settings ↔ StatedBy datum settings := by
  obtain _ | _ | _ | _ | _ | _ | ⟨hnodup, hmembers⟩ := hjson
  case mapping =>
    rw [check_named, checkEntries, Checked.map_eq_ok_iff]
    constructor
    · rintro ⟨⟨documentClass, classOptions, indent, packages, comment?, _⟩, hok, rfl⟩
      simp only [Checked.and_eq_ok_iff] at hok
      obtain ⟨hclass, hoptions, hindent, hpackages, hcomment, hkeys⟩ := hok
      exact .mapping (checkKeys_eq_ok_iff.mp hkeys)
        ((checkField_eq_ok_iff reads_text hnodup hmembers).mp hclass)
        ((checkField_eq_ok_iff reads_texts hnodup hmembers).mp hoptions)
        ((checkField_eq_ok_iff reads_text hnodup hmembers).mp hindent)
        ((checkField_eq_ok_iff (reads_list reads_package) hnodup hmembers).mp hpackages)
        ((checkField_eq_ok_iff reads_textOrNull hnodup hmembers).mp hcomment)
    · rintro ⟨hkeys, hclass, hoptions, hindent, hpackages, hcomment⟩
      refine ⟨(settings.documentClass, settings.classOptions, settings.indent, settings.packages,
        settings.codeComment?, ()), ?_, rfl⟩
      simp only [Checked.and_eq_ok_iff]
      exact ⟨(checkField_eq_ok_iff reads_text hnodup hmembers).mpr hclass,
        (checkField_eq_ok_iff reads_texts hnodup hmembers).mpr hoptions,
        (checkField_eq_ok_iff reads_text hnodup hmembers).mpr hindent,
        (checkField_eq_ok_iff (reads_list reads_package) hnodup hmembers).mpr hpackages,
        (checkField_eq_ok_iff reads_textOrNull hnodup hmembers).mpr hcomment, checkKeys_eq_ok_iff.mpr hkeys⟩
  all_goals
    constructor <;> rintro ⟨⟩

lemma fits_iff {datum : Datum} (hjson : datum.IsJson) :
    (∃ settings, check datum = .ok settings) ↔ Fits .settings datum := by
  have hfinds := finds_check hjson
  constructor
  · rintro ⟨settings, hok⟩
    refine complete_settings datum hjson fun path rule hbreaks => ?_
    have hmem := (hfinds.mem_iff ⟨path, rule⟩).mpr ⟨path, rfl, hbreaks⟩
    rw [hok] at hmem
    cases hmem
  · intro hfits
    refine explained_check datum (List.eq_nil_iff_forall_not_mem.mpr fun violation hmem => ?_)
    obtain ⟨rest, -, hbreaks⟩ := (hfinds.mem_iff violation).mp hmem
    exact hfits.not_breaks _ _ hbreaks

end Settings

lemma Datum.texts_isJson (values : List CodeText) : (Datum.texts values).IsJson :=
  .sequence (by simp [IsJson.text])

lemma Datum.textOrNull_isJson (comment? : Option CodeText) : (Datum.textOrNull comment?).IsJson := by
  cases comment? with
  | none => exact .null
  | some value => exact .text value

lemma PackageLine.datum_isJson (line : PackageLine) : line.datum.IsJson :=
  .mapping (by simp) (by simp [Datum.IsJson.text, Datum.texts_isJson, Datum.textOrNull_isJson])

lemma PackageLine.statedBy_datum (line : PackageLine) : StatedBy line.datum line :=
  .mapping (Datum.mem_named.mpr (by simp)) (.given (Datum.mem_named.mpr (by simp)) rfl)
    (.given (Datum.mem_named.mpr (by simp)) rfl)

namespace Settings

lemma datum_isJson (settings : Settings) : settings.datum.IsJson := by
  have hpackages : (Datum.sequence (settings.packages.map PackageLine.datum)).IsJson :=
    .sequence (by simp [PackageLine.datum_isJson])
  exact .mapping (by simp)
    (by simp [Datum.IsJson.text, Datum.texts_isJson, Datum.textOrNull_isJson, hpackages])

lemma statedBy_datum (settings : Settings) : StatedBy settings.datum settings := by
  have hlines : List.Forall₂ PackageLine.StatedBy (settings.packages.map PackageLine.datum) settings.packages := by
    rw [List.forall₂_map_left_iff, List.forall₂_same]
    exact fun line _ => line.statedBy_datum
  refine .mapping (Datum.undeclared_eq_nil_iff.mp ?_) (.given (Datum.mem_named.mpr ?_) rfl)
    (.given (Datum.mem_named.mpr ?_) rfl) (.given (Datum.mem_named.mpr ?_) rfl)
    (.given (Datum.mem_named.mpr ?_) ⟨_, rfl, hlines⟩) (.given (Datum.mem_named.mpr ?_) rfl)
  · simp [Datum.undeclared, Datum.names_named, Declared.fieldNames, Declared.fields]
  all_goals simp

/-- Settings are read from a datum if and only if it fits what they declare. They are then the settings that it
states; and settings that are given in full are read back. -/
theorem check_reads_stated :
    (∀ datum, datum.IsJson →
      ((∃ settings, check datum = .ok settings) ↔ Fits .settings datum) ∧
        ∀ settings, check datum = .ok settings ↔ StatedBy datum settings) ∧
      ∀ settings, check settings.datum = .ok settings :=
  ⟨fun _ hjson => ⟨fits_iff hjson, fun _ => check_eq_ok_iff hjson⟩,
    fun settings => (check_eq_ok_iff settings.datum_isJson).mpr settings.statedBy_datum⟩

def partialDatum : Datum :=
  .mapping (Datum.named [("indent", .text ↑"\t"),
    ("packages", .sequence [.mapping (Datum.named [("version", .scalar (.int 2)), ("name", .text ↑"tikz")])]),
    ("code_package_comment", .scalar .null)])

lemma partialDatum_isJson : partialDatum.IsJson := by
  have hpackages : (Datum.sequence [.mapping (Datum.named
      [("version", .scalar (.int 2)), ("name", .text ↑"tikz")])]).IsJson := by
    refine .sequence ?_
    rw [List.forall_mem_singleton]
    exact .mapping (by decide) (by simp [Datum.IsJson.int, Datum.IsJson.text])
  exact .mapping (by decide) (by simp [hpackages, Datum.IsJson.null, Datum.IsJson.text])

theorem check_reads_partial :
    Fits .settings partialDatum ∧
      StatedBy partialDatum { indent := "\t", packages := [{ name := "tikz" }], codeComment? := none } := by
  have hcheck : check partialDatum =
      .ok { indent := "\t", packages := [{ name := "tikz" }], codeComment? := none } := by
    rfl
  obtain ⟨hfits, hstated⟩ := check_reads_stated.1 partialDatum partialDatum_isJson
  exact ⟨hfits.mp ⟨_, hcheck⟩, (hstated _).mp hcheck⟩

end Settings

end SlideDeck
