import SlideDeck.Proofs.Settings.Finding

/-! What checking a datum reports: each breach of the declared types, once, in the order of the fields, of the
items, and last of the keys that no field has. -/

namespace SlideDeck

namespace Settings

structure Checks {α : Type} (type : Declared) (check : Path → Datum → Checked α) : Prop where
  finds {names : List String} {path : Path} {datum : Datum} : path ≠ [] → datum.IsJson →
    Finds names path (Breaks type datum) (check path datum).violations
  explained (path : Path) (datum : Datum) : (check path datum).Explained

section

variable {names : List String} {path : Path} {datum : Datum} {type : Declared}

lemma finds_of_not_admits (h : ¬ type.Admits datum) : Finds names path (Breaks type datum) [⟨path, type.rule⟩] :=
  .single fun _ _ => breaks_iff_of_not_admits h

lemma finds_checkText (h : datum.IsJson) :
    Finds names path (Breaks .text datum) (checkText path datum).violations := by
  cases h with
  | text value => exact .nil fun _ _ => not_breaks_of_text value
  | _ => exact finds_of_not_admits nofun

lemma finds_checkTextOrNull (h : datum.IsJson) :
    Finds names path (Breaks .textOrNull datum) (checkTextOrNull path datum).violations := by
  cases h with
  | text | null => exact .nil fun _ _ => not_breaks_of_admits_textOrNull rfl
  | _ => exact finds_of_not_admits nofun

lemma explained_checkText (path : Path) (datum : Datum) : (checkText path datum).Explained := by
  unfold checkText
  split
  · exact Checked.explained_ok _
  · split
    · exact Checked.explained_ok _
    · exact Checked.explained_fail _ _
  · exact Checked.explained_fail _ _

lemma checks_text : Checks .text checkText where
  finds _ := finds_checkText
  explained := explained_checkText

lemma checks_textOrNull : Checks .textOrNull checkTextOrNull where
  finds _ := finds_checkTextOrNull
  explained path datum := by
    unfold checkTextOrNull
    split
    · exact Checked.explained_ok _
    · exact (explained_checkText _ _).map _

variable {α : Type} {check : Path → Datum → Checked α}

def itemParts (type : Declared) (check : Path → Datum → Checked α) (path : Path) (i : ℕ) (items : List Datum) :
    List Part :=
  (items.zipIdx i).map fun (item, n) =>
    { step := .index n, found := (check (path ++ [.index n]) item).violations, breaks := Breaks type item }

lemma violations_checkItems (type : Declared) (i : ℕ) (items : List Datum) :
    (checkItems check path i items).violations = (itemParts type check path i items).flatMap Part.found := by
  induction items generalizing i with
  | nil => rfl
  | cons item rest ih =>
    rw [checkItems, Checked.violations_map, Checked.violations_and, ih (i + 1)]
    rfl

lemma explained_checkItems (h : ∀ path datum, (check path datum).Explained) (i : ℕ) (items : List Datum) :
    (checkItems check path i items).Explained := by
  induction items generalizing i with
  | nil => exact Checked.explained_ok _
  | cons item rest ih => exact ((h _ _).and (ih (i + 1))).map _

lemma pairwise_itemParts (names : List String) (i : ℕ) (items : List Datum) :
    (itemParts type check path i items).Pairwise fun a b => a.step.rank names < b.step.rank names := by
  rw [itemParts, List.pairwise_map]
  induction items generalizing i with
  | nil => exact .nil
  | cons item rest ih =>
    refine .cons ?_ (ih (i + 1))
    rintro ⟨other, n⟩ hmem
    have hle : i + 1 ≤ n := List.le_snd_of_mem_zipIdx hmem
    simp only [PathStep.rank]
    omega

lemma checks_list (h : Checks type check) : Checks (.list type) (checkList check) where
  finds {names path datum} _ hjson := by
    cases hjson with
    | @sequence items hitems =>
      have hparts : Finds names path _ ((itemParts type check path 0 items).flatMap Part.found) :=
        .parts (by
          simp only [itemParts, List.mem_map]
          rintro - ⟨⟨item, n⟩, hmem, rfl⟩
          exact h.finds (by simp) (hitems item (List.fst_mem_of_mem_zipIdx hmem)))
        (pairwise_itemParts _ 0 items)
      rw [checkList, violations_checkItems type]
      refine hparts.congr fun rest rule => ?_
      rw [breaks_list_iff, exists_comm]
      simp [itemParts, List.mk_mem_zipIdx_iff_getElem?]
    | _ => exact finds_of_not_admits nofun
  explained path datum := by
    unfold checkList
    split
    · exact explained_checkItems h.explained _ _
    · exact explained_checkItems h.explained _ _
    · exact Checked.explained_fail _ _

def FieldBreaks (entries : List (Scalar × Datum)) (name : String) (type : Declared) (path : Path)
    (rule : Rule) : Prop :=
  ∃ datum, (.text ↑name, datum) ∈ entries ∧ Breaks type datum path rule

def NameBreaks (entries : List (Scalar × Datum)) (path : Path) (rule : Rule) : Prop :=
  FieldBreaks entries "name" .text path rule ∨
    ((∀ datum, (.text ↑"name", datum) ∉ entries) ∧ path = [] ∧ rule = .required)

section

variable {members : List (String × Datum)} {name : String} {default : α}

lemma breaks_of_mem (hnodup : (members.map Prod.fst).Nodup) (hmem : (name, datum) ∈ members) (rest : Path)
    (rule : Rule) : FieldBreaks (Datum.named members) name type rest rule ↔ Breaks type datum rest rule := by
  refine ⟨?_, fun h => ⟨datum, Datum.mem_named.mpr hmem, h⟩⟩
  rintro ⟨d, hd, h⟩
  have heq : some d = some datum :=
    ((Datum.lookup_eq_some_iff hnodup).mpr (Datum.mem_named.mp hd)).symm.trans
      ((Datum.lookup_eq_some_iff hnodup).mpr hmem)
  exact Option.some.inj heq ▸ h

lemma finds_checkField (hcheck : Checks type check) (hnodup : (members.map Prod.fst).Nodup)
    (hjson : ∀ member ∈ members, member.2.IsJson) :
    Finds names (path ++ [.field name]) (FieldBreaks (Datum.named members) name type)
      (checkField (Datum.named members) path name default check).violations := by
  unfold checkField
  cases hlookup : Datum.lookup name (Datum.named members) with
  | some datum =>
    have hmem := (Datum.lookup_eq_some_iff hnodup).mp hlookup
    exact (hcheck.finds (by simp) (hjson _ hmem)).congr (breaks_of_mem hnodup hmem)
  | none =>
    refine .nil fun rest rule => ?_
    rintro ⟨datum, hmem, -⟩
    exact (Datum.lookup_eq_none_iff hnodup).mp hlookup datum (Datum.mem_named.mp hmem)

lemma finds_checkRequired (hnodup : (members.map Prod.fst).Nodup)
    (hjson : ∀ member ∈ members, member.2.IsJson) :
    Finds names (path ++ [.field "name"]) (NameBreaks (Datum.named members))
      (checkRequired (Datum.named members) path "name" checkText).violations := by
  unfold checkRequired
  cases hlookup : Datum.lookup "name" (Datum.named members) with
  | some datum =>
    have hmem := (Datum.lookup_eq_some_iff hnodup).mp hlookup
    refine (finds_checkText (hjson _ hmem)).congr fun rest rule => ?_
    rw [NameBreaks, breaks_of_mem hnodup hmem, or_iff_left_iff_imp]
    exact fun ⟨hmissing, _⟩ => absurd (Datum.mem_named.mpr hmem) (hmissing datum)
  | none =>
    have hmissing : ∀ d, (.text ↑"name", d) ∉ Datum.named members :=
      fun d hd => (Datum.lookup_eq_none_iff hnodup).mp hlookup d (Datum.mem_named.mp hd)
    refine .single fun rest rule => ?_
    rw [NameBreaks, and_iff_right hmissing, or_iff_right_iff_imp]
    exact fun ⟨d, hd, _⟩ => absurd hd (hmissing d)

end

lemma explained_checkField (h : ∀ path datum, (check path datum).Explained) (entries : List (Scalar × Datum))
    (name : String) (default : α) : (checkField entries path name default check).Explained := by
  unfold checkField
  split
  · exact h _ _
  · exact Checked.explained_ok _

lemma explained_checkRequired (h : ∀ path datum, (check path datum).Explained)
    (entries : List (Scalar × Datum)) (name : String) : (checkRequired entries path name check).Explained := by
  unfold checkRequired
  split
  · exact h _ _
  · exact Checked.explained_fail _ _

def packageParts (entries : List (Scalar × Datum)) (path : Path) : List Part :=
  [⟨.field "name", (checkRequired entries path "name" checkText).violations, NameBreaks entries⟩,
    ⟨.field "options", (checkField entries path "options" [] (checkList checkText)).violations,
      FieldBreaks entries "options" (.list .text)⟩,
    ⟨.field "comment", (checkField entries path "comment" none checkTextOrNull).violations,
      FieldBreaks entries "comment" .textOrNull⟩]

lemma breaks_package_iff {entries : List (Scalar × Datum)} {rest : Path} {rule : Rule} :
    Breaks .package (.mapping entries) rest rule ↔
      ∃ part ∈ packageParts entries path, ∃ below, rest = part.step :: below ∧ part.breaks below rule := by
  simp only [packageParts, List.exists_mem_cons_iff, List.not_mem_nil, false_and, exists_false, or_false]
  constructor
  · rintro (hform | _ | ⟨hfield, hmem, hbelow⟩ | hmissing)
    · exact absurd rfl hform
    · simp only [Declared.fields, List.mem_cons, Prod.mk.injEq, List.not_mem_nil, or_false] at hfield
      obtain ⟨rfl, rfl⟩ | ⟨rfl, rfl⟩ | ⟨rfl, rfl⟩ := hfield
      · exact .inl ⟨_, rfl, .inl ⟨_, hmem, hbelow⟩⟩
      · exact .inr (.inl ⟨_, rfl, _, hmem, hbelow⟩)
      · exact .inr (.inr ⟨_, rfl, _, hmem, hbelow⟩)
    · exact .inl ⟨_, rfl, .inr ⟨hmissing, rfl, rfl⟩⟩
  · rintro (⟨below, rfl, hname⟩ | ⟨below, rfl, datum, hmem, hbelow⟩ | ⟨below, rfl, datum, hmem, hbelow⟩)
    · obtain ⟨datum, hmem, hbelow⟩ | ⟨hmissing, rfl, rfl⟩ := hname
      · exact .field (.head _) hmem hbelow
      · exact .missing hmissing
    · exact .field (.tail _ (.head _)) hmem hbelow
    · exact .field (.tail _ (.tail _ (.head _))) hmem hbelow

lemma pairwise_of_steps (parts : List Part) (order : List String)
    (hsteps : parts.map Part.step = order.map .field) (hnodup : order.Nodup) :
    parts.Pairwise fun a b => a.step.rank order < b.step.rank order := by
  have hranks : (parts.map Part.step).Pairwise fun s t => s.rank order < t.rank order := by
    rw [hsteps, List.pairwise_map, List.pairwise_iff_getElem]
    intro i j hi hj hlt
    simpa [PathStep.rank, hnodup.idxOf_getElem] using hlt
  rwa [List.pairwise_map] at hranks

lemma checks_package : Checks .package checkPackage where
  finds {names path datum} hpath hjson := by
    cases hjson with
    | @mapping members hnodup hmembers =>
      have hnames : path.namesAt names = Declared.package.fieldNames := by
        cases path with
        | nil => exact absurd rfl hpath
        | cons => rfl
      have hparts : ∀ part ∈ packageParts (Datum.named members) path,
          Finds names (path ++ [part.step]) part.breaks part.found := by
        simp only [packageParts, List.forall_mem_cons]
        exact ⟨finds_checkRequired hnodup hmembers, finds_checkField (checks_list checks_text) hnodup hmembers,
          finds_checkField checks_textOrNull hnodup hmembers, nofun⟩
      have hsorted := pairwise_of_steps (packageParts (Datum.named members) path) Declared.package.fieldNames rfl
        (by decide)
      have hfinds := (Finds.parts hparts (hnames ▸ hsorted)).congr fun _ _ => breaks_package_iff
      simpa [checkPackage, packageParts] using hfinds
    | _ => exact finds_of_not_admits nofun
  explained path datum := by
    unfold checkPackage
    split
    · exact ((explained_checkRequired explained_checkText _ _).and
        ((explained_checkField (checks_list checks_text).explained _ _ _).and
          (explained_checkField checks_textOrNull.explained _ _ _))).map _
    · exact Checked.explained_fail _ _

def settingsParts (entries : List (Scalar × Datum)) : List Part :=
  let default : Settings := {}
  [⟨.field "document_class", (checkField entries [] "document_class" default.documentClass checkText).violations,
      FieldBreaks entries "document_class" .text⟩,
    ⟨.field "class_options",
      (checkField entries [] "class_options" default.classOptions (checkList checkText)).violations,
      FieldBreaks entries "class_options" (.list .text)⟩,
    ⟨.field "indent", (checkField entries [] "indent" default.indent checkText).violations,
      FieldBreaks entries "indent" .text⟩,
    ⟨.field "packages", (checkField entries [] "packages" default.packages (checkList checkPackage)).violations,
      FieldBreaks entries "packages" (.list .package)⟩,
    ⟨.field "code_package_comment",
      (checkField entries [] "code_package_comment" default.codeComment? checkTextOrNull).violations,
      FieldBreaks entries "code_package_comment" .textOrNull⟩]

def keyPart (name : String) : Part where
  step := .field name
  found := [⟨[.field name], .declared⟩]
  breaks rest rule := rest = [] ∧ rule = .declared

end

end Settings

namespace Datum

def names : Datum → List String
  | mapping entries => entries.filterMap fun (key, _) =>
    match key with
    | .text name => some name.shown
    | _ => none
  | _ => []

def undeclared (datum : Datum) : List String :=
  datum.names.filter fun name => name ∉ Declared.settings.fieldNames

lemma names_named (members : List (String × Datum)) :
    (mapping (named members)).names = members.map Prod.fst := by
  simp [names, named, List.filterMap_map]

lemma undeclared_eq_nil_iff {members : List (String × Datum)} :
    (mapping (named members)).undeclared = [] ↔ ∀ key datum, (key, datum) ∈ named members →
      ∃ name ∈ Declared.settings.fieldNames, key = .text ↑name := by
  rw [undeclared, names_named, List.filter_eq_nil_iff]
  constructor
  · intro h key datum hmem
    obtain ⟨⟨name, _⟩, hmember, ⟨⟩⟩ := List.mem_map.mp hmem
    have hname := h name (List.mem_map_of_mem hmember)
    exact ⟨name, by simpa using hname, rfl⟩
  · intro h name hname
    obtain ⟨⟨_, datum⟩, hmember, rfl⟩ := List.mem_map.mp hname
    obtain ⟨field, hfield, heq⟩ := h _ datum (mem_named.mpr hmember)
    rw [Scalar.text.injEq, CodeText.ofString_inj] at heq
    simpa [heq] using hfield

end Datum

namespace Settings

lemma keyViolations_named (members : List (String × Datum)) :
    (Datum.named members).filterMap (fun entry => keyViolation? entry.1) =
      ((Datum.mapping (Datum.named members)).undeclared.map keyPart).flatMap Part.found := by
  rw [Datum.undeclared, Datum.names_named]
  induction members with
  | nil => rfl
  | cons member rest ih =>
    have hkey : keyViolation? (.text ↑member.1) =
        if member.1 ∈ Declared.settings.fieldNames then none else some ⟨[.field member.1], .declared⟩ := by
      rw [keyViolation?, CodeText.shown_ofString]
      rfl
    rw [Datum.named, List.map_cons, List.filterMap_cons, hkey]
    by_cases hname : member.1 ∈ Declared.settings.fieldNames
    · simpa [hname, Datum.named] using ih
    · simpa [hname, keyPart, Datum.named] using ih

lemma violations_checkKeys (members : List (String × Datum)) :
    (checkKeys (Datum.named members)).violations =
      ((Datum.mapping (Datum.named members)).undeclared.map keyPart).flatMap Part.found := by
  rw [checkKeys, keyViolations_named]
  split
  next h => exact h.symm
  next => rfl

lemma explained_checkKeys (entries : List (Scalar × Datum)) : (checkKeys entries).Explained := by
  unfold checkKeys
  split
  · exact Checked.explained_ok _
  next hsome => exact fun hnone => absurd hnone hsome

lemma breaks_settings_iff {members : List (String × Datum)} {rest : Path} {rule : Rule} :
    Breaks .settings (.mapping (Datum.named members)) rest rule ↔
      ∃ part ∈ settingsParts (Datum.named members) ++
          (Datum.mapping (Datum.named members)).undeclared.map keyPart,
        ∃ below, rest = part.step :: below ∧ part.breaks below rule := by
  simp only [settingsParts, List.cons_append, List.nil_append, List.exists_mem_cons_iff, List.mem_map,
    Datum.undeclared, Datum.names_named, List.mem_filter, decide_eq_true_eq]
  constructor
  · rintro (hform | _ | ⟨hfield, hmem, hbelow⟩ | _ | ⟨hmem, hundeclared⟩)
    · exact absurd rfl hform
    · simp only [Declared.fields, List.mem_cons, Prod.mk.injEq, List.not_mem_nil, or_false] at hfield
      obtain ⟨rfl, rfl⟩ | ⟨rfl, rfl⟩ | ⟨rfl, rfl⟩ | ⟨rfl, rfl⟩ | ⟨rfl, rfl⟩ := hfield
      · exact .inl ⟨_, rfl, _, hmem, hbelow⟩
      · exact .inr (.inl ⟨_, rfl, _, hmem, hbelow⟩)
      · exact .inr (.inr (.inl ⟨_, rfl, _, hmem, hbelow⟩))
      · exact .inr (.inr (.inr (.inl ⟨_, rfl, _, hmem, hbelow⟩)))
      · exact .inr (.inr (.inr (.inr (.inl ⟨_, rfl, _, hmem, hbelow⟩))))
    · exact .inr (.inr (.inr (.inr (.inr ⟨_, ⟨_, ⟨⟨_, Datum.mem_named.mp hmem, rfl⟩, hundeclared⟩, rfl⟩,
        [], rfl, rfl, rfl⟩))))
  · have hfield : ∀ {name type below}, (name, type) ∈ Declared.settings.fields →
        FieldBreaks (Datum.named members) name type below rule →
        Breaks .settings (.mapping (Datum.named members)) (.field name :: below) rule :=
      fun hfield hbreaks => .field hfield hbreaks.choose_spec.1 hbreaks.choose_spec.2
    rintro (⟨below, rfl, h⟩ | ⟨below, rfl, h⟩ | ⟨below, rfl, h⟩ | ⟨below, rfl, h⟩ | ⟨below, rfl, h⟩ |
      ⟨-, ⟨-, ⟨⟨member, hmem, rfl⟩, hundeclared⟩, rfl⟩, -, rfl, rfl, rfl⟩)
    · exact hfield (by decide) h
    · exact hfield (by decide) h
    · exact hfield (by decide) h
    · exact hfield (by decide) h
    · exact hfield (by decide) h
    · exact .undeclared (Datum.mem_named.mpr hmem) hundeclared

/-- The names at the top in their order: the fields, and after them the other keys. -/
def order (datum : Datum) : List String := Declared.settings.fieldNames ++ datum.undeclared

lemma nodup_order {members : List (String × Datum)} (h : (members.map Prod.fst).Nodup) :
    (order (.mapping (Datum.named members))).Nodup := by
  rw [order, List.nodup_append', Datum.undeclared, Datum.names_named]
  refine ⟨by decide, h.filter _, fun name hfield hother => ?_⟩
  simp [hfield] at hother

lemma finds_checkEntries {members : List (String × Datum)} (hnodup : (members.map Prod.fst).Nodup)
    (hjson : ∀ member ∈ members, member.2.IsJson) :
    Finds (order (.mapping (Datum.named members))) [] (Breaks .settings (.mapping (Datum.named members)))
      (checkEntries (Datum.named members)).violations := by
  have hparts : ∀ part ∈ settingsParts (Datum.named members) ++
      (Datum.mapping (Datum.named members)).undeclared.map keyPart,
      Finds (order (.mapping (Datum.named members))) ([] ++ [part.step]) part.breaks part.found := by
    rw [List.forall_mem_append]
    constructor
    · simp only [settingsParts, List.forall_mem_cons]
      exact ⟨finds_checkField checks_text hnodup hjson, finds_checkField (checks_list checks_text) hnodup hjson,
        finds_checkField checks_text hnodup hjson, finds_checkField (checks_list checks_package) hnodup hjson,
        finds_checkField checks_textOrNull hnodup hjson, nofun⟩
    · rw [List.forall_mem_map]
      exact fun name _ => .single fun _ _ => Iff.rfl
  have hsorted := pairwise_of_steps
    (settingsParts (Datum.named members) ++ (Datum.mapping (Datum.named members)).undeclared.map keyPart)
    (order (.mapping (Datum.named members)))
    (by simp [settingsParts, order, keyPart, Declared.fieldNames, Declared.fields]) (nodup_order hnodup)
  have hfinds := (Finds.parts hparts hsorted).congr fun _ _ => breaks_settings_iff
  rw [List.flatMap_append, ← violations_checkKeys] at hfinds
  simpa [checkEntries, settingsParts] using hfinds

lemma explained_checkEntries (entries : List (Scalar × Datum)) : (checkEntries entries).Explained :=
  ((explained_checkField checks_text.explained _ _ _).and
    ((explained_checkField (checks_list checks_text).explained _ _ _).and
      ((explained_checkField checks_text.explained _ _ _).and
        ((explained_checkField (checks_list checks_package).explained _ _ _).and
          ((explained_checkField checks_textOrNull.explained _ _ _).and (explained_checkKeys _)))))).map _

lemma check_named (members : List (String × Datum)) :
    check (.mapping (Datum.named members)) = checkEntries (Datum.named members) := by
  have hwhole : hasBrokenKey (Datum.named members) = false := by
    simp [hasBrokenKey, Datum.named]
  rw [check, hwhole]
  rfl

lemma finds_check {datum : Datum} (h : datum.IsJson) :
    Finds (order datum) [] (Breaks .settings datum) (check datum).violations := by
  cases h with
  | mapping hnodup hjson =>
    rw [check_named]
    exact finds_checkEntries hnodup hjson
  | _ => exact finds_of_not_admits nofun

lemma explained_check (datum : Datum) : (check datum).Explained := by
  unfold check
  split
  · split
    · exact Checked.explained_fail _ _
    · exact explained_checkEntries _
  · exact Checked.explained_fail _ _

end Settings

lemma Breaks.mem_fieldNames {datum : Datum} {name : String} {below : Path} {rule : Rule}
    (h : Breaks .package datum (.field name :: below) rule) : name ∈ Declared.package.fieldNames := by
  cases h with
  | field hfield => exact List.mem_map_of_mem hfield
  | missing => decide

lemma Breaks.below_packages {datum : Datum} {i : Int} {name : String} {below : Path} {rule : Rule}
    (h : Breaks .settings datum (.field "packages" :: .index i :: .field name :: below) rule) :
    name ∈ Declared.package.fieldNames := by
  cases h with
  | field hfield _ hlist =>
    simp only [Declared.fields, List.mem_cons, Prod.mk.injEq, String.reduceEq, false_and, true_and, false_or,
      List.not_mem_nil, or_false] at hfield
    subst hfield
    cases hlist with
    | item _ hpackage => exact hpackage.mem_fieldNames

namespace Settings

/-- Checking reports a datum that it rejects by every breach of the declared types, by each once and in their
order, and by nothing else. -/
theorem check_reports {datum : Datum} (hjson : datum.IsJson) {violations : List Violation}
    (h : check datum = .error violations) :
    violations ≠ [] ∧ (violations.map Violation.path).Nodup ∧
      (∀ path rule, ⟨path, rule⟩ ∈ violations ↔ Breaks .settings datum path rule) ∧
      violations.Pairwise (fun v w => Path.Before (order datum) v.path w.path) ∧
      ((∀ entries, datum ≠ .mapping entries) → violations = [⟨[], .mapping "BeamerConfig"⟩]) ∧
      (∀ violation ∈ violations, ∀ i name below,
        violation.path = .field "packages" :: .index i :: .field name :: below →
          name ∈ Declared.package.fieldNames) ∧
      ∃ rest, Violation.summary violations = toString violations.length ++ " validation error" ++ rest := by
  have hfinds : Finds (order datum) [] (Breaks .settings datum) violations := by
    have hall := finds_check hjson
    rw [h] at hall
    exact hall
  have hmem (path : Path) (rule : Rule) : ⟨path, rule⟩ ∈ violations ↔ Breaks .settings datum path rule := by
    simp [hfinds.mem_iff]
  refine ⟨Checked.violations_eq_nil_of_error (explained_check datum) h, hfinds.nodup, hmem, hfinds.ordered,
    fun hother => ?_, ?_, ?_⟩
  · cases datum with
    | mapping entries => exact absurd rfl (hother entries)
    | scalar | sequence | set => exact (Except.error.inj h).symm
  · rintro ⟨-, rule⟩ hviolation i name below rfl
    exact ((hmem _ _).mp hviolation).below_packages
  · unfold Violation.summary
    split
    · exact ⟨" for BeamerConfig", rfl⟩
    · exact ⟨"s for BeamerConfig", by rw [String.append_assoc, String.append_assoc]; rfl⟩

def misfitPackage : Datum :=
  .mapping (Datum.named [("version", .scalar (.int 2)),
    ("options", .sequence [.text ↑"a", .scalar (.bool true)])])

def misfit : Datum :=
  .mapping (Datum.named [("theme", .text ↑"dark"), ("packages", .sequence [.scalar .null, misfitPackage]),
    ("indent", .scalar (.int 4))])

lemma misfitPackage_isJson : misfitPackage.IsJson := by
  have hoptions : (Datum.sequence [.text ↑"a", .scalar (.bool true)]).IsJson :=
    .sequence (by simp [Datum.IsJson.text, Datum.IsJson.bool])
  exact .mapping (by decide) (by simp [hoptions, Datum.IsJson.int])

lemma misfit_isJson : misfit.IsJson := by
  have hpackages : (Datum.sequence [.scalar .null, misfitPackage]).IsJson :=
    .sequence (by simp [Datum.IsJson.null, misfitPackage_isJson])
  exact .mapping (by decide) (by simp [hpackages, Datum.IsJson.int, Datum.IsJson.text])

theorem check_reports_misfit :
    check misfit = .error
        [⟨[.field "indent"], .text⟩, ⟨[.field "packages", .index 0], .mapping "PackageConfig"⟩,
          ⟨[.field "packages", .index 1, .field "name"], .required⟩,
          ⟨[.field "packages", .index 1, .field "options", .index 1], .text⟩,
          ⟨[.field "theme"], .declared⟩] ∧
      ∀ violation ∈ (check misfit).violations,
        Breaks .settings misfit violation.path violation.rule := by
  have hcheck : check misfit = .error
      [⟨[.field "indent"], .text⟩, ⟨[.field "packages", .index 0], .mapping "PackageConfig"⟩,
        ⟨[.field "packages", .index 1, .field "name"], .required⟩,
        ⟨[.field "packages", .index 1, .field "options", .index 1], .text⟩,
        ⟨[.field "theme"], .declared⟩] := by
    rfl
  obtain ⟨-, -, hmem, -⟩ := check_reports misfit_isJson hcheck
  refine ⟨hcheck, fun violation hviolation => ?_⟩
  rw [hcheck] at hviolation
  exact (hmem _ _).mp hviolation

end Settings

end SlideDeck
