import SlideDeck.Proofs.Pieces
import SlideDeck.Proofs.Markup

/-! The marks of environments in a text, each of which begins or ends one. A text in which neither word that
makes a mark occurs has none, and none arises where it is put together with others or by light markup. -/

namespace SlideDeck

inductive Mark where
  | opens (name : String)
  | closes (name : String)
  deriving Repr, DecidableEq

namespace Mark

def word : Mark → String
  | opens _ => "\\begin"
  | closes _ => "\\end"

def name : Mark → String
  | opens name | closes name => name

def text (m : Mark) : String := m.word ++ braced m.name

def opened? : Mark → Option String
  | opens name => some name
  | closes _ => none

def bracedName? : List Char → Option String
  | '\x7b' :: rest =>
    if '\x7d' ∈ rest then some (String.ofList (rest.takeWhile (· ≠ '\x7d'))) else none
  | _ => none

def at? : List Char → Option Mark
  | '\\' :: 'b' :: 'e' :: 'g' :: 'i' :: 'n' :: rest => (bracedName? rest).map opens
  | '\\' :: 'e' :: 'n' :: 'd' :: rest => (bracedName? rest).map closes
  | _ => none

def step (open_ : List String) : Mark → Option (List String)
  | opens name => some (name :: open_)
  | closes name => if open_.head? = some name then some open_.tail else none

end Mark

def marks : List Char → List Mark
  | [] => []
  | c :: rest => (Mark.at? (c :: rest)).toList ++ marks rest

namespace Marks

def words : List String := ["begin", "end"]

def Clean (text : String) : Prop := ∀ word ∈ words, ¬ '\\' :: word.toList <:+: text.toList

instance (text : String) : Decidable (Clean text) := inferInstanceAs (Decidable (∀ word ∈ words, _))

structure Tail (text : String) : Prop where
  clean : Clean text
  head : ∀ c ∈ text.toList.head?, ∀ word ∈ words, c ∉ word.toList

structure Separates (sep : String) : Prop where
  ne_nil : sep.toList ≠ []
  plain : '\\' ∉ sep.toList
  head : ∀ c ∈ sep.toList.head?, ∀ word ∈ words, c ∉ word.toList

instance (sep : String) : Decidable (Separates sep) :=
  have : Decidable (∀ c ∈ sep.toList.head?, ∀ word ∈ words, c ∉ word.toList) := Option.decidableForallMem _
  decidable_of_iff (sep.toList ≠ [] ∧ '\\' ∉ sep.toList ∧
    ∀ c ∈ sep.toList.head?, ∀ word ∈ words, c ∉ word.toList)
    ⟨fun h => ⟨h.1, h.2.1, h.2.2⟩, fun h => ⟨h.ne_nil, h.plain, h.head⟩⟩

def EndsLine (text : String) : Prop := text.toList.getLast? = some '\n'

instance (text : String) : Decidable (EndsLine text) := inferInstanceAs (Decidable (_ = _))

def Reads (text : String) (ms : List Mark) : Prop :=
  ∀ rest, marks (text.toList ++ rest) = ms ++ marks rest

section Words

variable {w a b : List Char} {c : Char}

lemma prefix_of_prefix_append_cons (hc : c ∉ w) (h : w <+: a ++ c :: b) : w <+: a := by
  induction a generalizing w with
  | nil =>
    rcases List.prefix_cons_iff.mp h with rfl | ⟨t, rfl, -⟩
    · exact List.nil_prefix
    · simp at hc
  | cons x a ih =>
    rcases List.prefix_cons_iff.mp h with rfl | ⟨t, rfl, ht⟩
    · exact List.nil_prefix
    · exact List.prefix_cons_iff.mpr (.inr ⟨t, rfl, ih (List.not_mem_of_not_mem_cons hc) ht⟩)

lemma infix_append_cons (hc : c ∉ w) (h : '\\' :: w <:+: a ++ c :: b) :
    '\\' :: w <:+: a ∨ '\\' :: w <:+: c :: b := by
  induction a with
  | nil => exact .inr h
  | cons x a ih =>
    rw [List.cons_append] at h
    rcases List.infix_cons_iff.mp h with hstart | hrest
    · obtain ⟨rfl, hw⟩ := List.cons_prefix_cons.mp hstart
      exact .inl (List.cons_prefix_cons.mpr ⟨rfl, prefix_of_prefix_append_cons hc hw⟩).isInfix
    · exact (ih hrest).imp_left fun h => List.infix_cons_iff.mpr (.inr h)

lemma infix_of_infix_append (ha : '\\' ∉ a) (h : '\\' :: w <:+: a ++ b) : '\\' :: w <:+: b := by
  induction a with
  | nil => exact h
  | cons x a ih =>
    rw [List.mem_cons, not_or] at ha
    rw [List.cons_append] at h
    rcases List.infix_cons_iff.mp h with hstart | hrest
    · exact (ha.1 (List.cons_prefix_cons.mp hstart).1).elim
    · exact ih ha.2 hrest

end Words

section Clean

variable {a b name sep text : String}

lemma clean_of_not_mem (h : '\\' ∉ text.toList) : Clean text := by
  intro word _ hfound
  exact h (hfound.subset List.mem_cons_self)

lemma Clean.append (ha : Clean a) (hb : Tail b) : Clean (a ++ b) := by
  intro word hword h
  rw [String.toList_append] at h
  cases hlist : b.toList with
  | nil =>
    rw [hlist, List.append_nil] at h
    exact ha word hword h
  | cons c rest =>
    rw [hlist] at h
    rcases infix_append_cons (hb.head c (by simp [hlist]) word hword) h with h | h
    · exact ha word hword h
    · exact hb.clean word hword (hlist ▸ h)

lemma Clean.after (hb : Clean b) (ha : '\\' ∉ a.toList) : Clean (a ++ b) := by
  intro word hword h
  rw [String.toList_append] at h
  exact hb word hword (infix_of_infix_append ha h)

lemma Tail.append (ha : Tail a) (hb : Tail b) : Tail (a ++ b) where
  clean := ha.clean.append hb
  head := by
    intro c hc
    rw [String.toList_append, List.head?_append, Option.mem_def, Option.or_eq_some_iff] at hc
    rcases hc with hc | ⟨-, hc⟩
    · exact ha.head c hc
    · exact hb.head c hc

lemma Clean.separated (h : Clean text) (hsep : Separates sep) : Tail (sep ++ text) where
  clean := h.after hsep.plain
  head := by
    intro c hc
    rw [String.toList_append, List.head?_append_of_ne_nil _ hsep.ne_nil] at hc
    exact hsep.head c hc

lemma Separates.tail (h : Separates sep) : Tail sep where
  clean := clean_of_not_mem h.plain
  head := h.head

lemma tail_of_not_mem (h : ∀ word ∈ words, ∀ c ∈ '\\' :: word.toList, c ∉ text.toList) : Tail text where
  clean := clean_of_not_mem (h "begin" (by decide) '\\' (by decide))
  head := fun c hc word hword hmem =>
    h word hword c (List.mem_cons_of_mem _ hmem) (List.mem_of_mem_head? hc)

lemma clean_intercalate {texts : List String} (hsep : Separates sep) (h : ∀ text ∈ texts, Clean text) :
    Clean (sep.intercalate texts) := by
  induction texts with
  | nil => exact show Clean "" by decide
  | cons text rest ih =>
    rw [List.forall_mem_cons] at h
    cases rest with
    | nil => simpa using h.1
    | cons next rest =>
      rw [String.intercalate_cons_cons, String.append_assoc]
      exact h.1.append ((ih h.2).separated hsep)

lemma tail_nil : Tail "" := ⟨by decide, by simp⟩

lemma tail_join {texts : List String} (h : ∀ text ∈ texts, Tail text) : Tail (String.join texts) := by
  induction texts with
  | nil => exact tail_nil
  | cons text rest ih =>
    rw [List.forall_mem_cons] at h
    rw [String.join_cons]
    exact h.1.append (ih h.2)

lemma Clean.command (hname : Clean name) (hstart : ∀ word ∈ words, ¬ word.toList <+: name.toList) :
    Clean ("\\" ++ name) := by
  intro word hword h
  rw [String.toList_append, show "\\".toList = ['\\'] from rfl, List.singleton_append] at h
  rcases List.infix_cons_iff.mp h with h | h
  · exact hstart word hword (List.cons_prefix_cons.mp h).2
  · exact hname word hword h

lemma Clean.tail_command (h : Clean ("\\" ++ name)) : Tail ("\\" ++ name) where
  clean := h
  head := by
    have hslash : ∀ word ∈ words, '\\' ∉ word.toList := by decide
    intro c hc
    rw [String.toList_append, List.head?_append_of_ne_nil _ (by decide)] at hc
    obtain rfl : '\\' = c := Option.some.inj hc
    exact hslash

end Clean

section Reads

variable {a b text : String} {ms ns : List Mark} {m : Mark}

lemma Reads.nil : Reads "" [] := fun _ => rfl

lemma Reads.append (ha : Reads a ms) (hb : Reads b ns) : Reads (a ++ b) (ms ++ ns) := by
  intro rest
  rw [String.toList_append, List.append_assoc, ha, hb, List.append_assoc]

lemma Reads.marks_eq (h : Reads text ms) : marks text.toList = ms := by
  simpa [marks] using h []

lemma at?_eq_none {chars : List Char} (h : ∀ word ∈ words, ¬ '\\' :: word.toList <+: chars) :
    Mark.at? chars = none := by
  unfold Mark.at?
  split
  · exact absurd (List.prefix_append "\\begin".toList _) (h "begin" (by decide))
  · exact absurd (List.prefix_append "\\end".toList _) (h "end" (by decide))
  · rfl

lemma reads_plain (h : '\\' ∉ text.toList) : Reads text [] := by
  intro rest
  generalize text.toList = chars at h ⊢
  induction chars with
  | nil => rfl
  | cons c chars ih =>
    rw [List.mem_cons, not_or] at h
    have hnone : Mark.at? (c :: (chars ++ rest)) = none :=
      at?_eq_none fun word _ hword => h.1 (List.cons_prefix_cons.mp hword).1
    rw [List.cons_append, marks, hnone, ih h.2]
    rfl

lemma reads_line (h : Clean text) (hend : EndsLine text) : Reads text [] := by
  intro rest
  obtain ⟨chars, hchars⟩ := List.getLast?_eq_some_iff.mp hend
  rw [Clean, hchars] at h
  rw [hchars, List.append_assoc, List.singleton_append, List.nil_append]
  clear hend hchars
  have hbreak : ∀ word ∈ words, '\n' ∉ '\\' :: word.toList := by decide
  induction chars with
  | nil => rfl
  | cons c chars ih =>
    have hnone : Mark.at? (c :: chars ++ '\n' :: rest) = none := by
      refine at?_eq_none fun word hword hstarts => h word hword ?_
      have hinside := prefix_of_prefix_append_cons (hbreak word hword) hstarts
      exact (hinside.trans (List.prefix_append _ _)).isInfix
    rw [List.cons_append, marks, ← List.cons_append, hnone]
    exact ih fun word hword hfound => h word hword (List.infix_cons_iff.mpr (.inr hfound))

lemma EndsLine.append (hb : EndsLine b) : EndsLine (a ++ b) := by
  rw [EndsLine, String.toList_append, List.getLast?_append, show b.toList.getLast? = some '\n' from hb]
  rfl

lemma bracedName?_braced {name : String} (hname : '\x7d' ∉ name.toList) (rest : List Char) :
    Mark.bracedName? ((braced name).toList ++ rest) = some name := by
  have hbraced : (braced name).toList ++ rest = '\x7b' :: (name.toList ++ '\x7d' :: rest) := by
    simp [braced]
  have hbefore : (name.toList ++ '\x7d' :: rest).takeWhile (· ≠ '\x7d') = name.toList := by
    rw [List.takeWhile_append_of_pos]
    · simp
    · intro c hc
      have hne : c ≠ '\x7d' := fun h => hname (h ▸ hc)
      simpa using hne
  rw [hbraced, Mark.bracedName?, if_pos (by simp), hbefore, String.ofList_toList]

lemma Clean.braced (h : Clean text) : Tail (braced text) :=
  (h.separated (by decide)).append (Separates.tail (by decide))

lemma exists_letters (m : Mark) : ∃ letters : String, '\\' ∉ letters.toList ∧ m.word = "\\" ++ letters ∧
    ∀ rest, Mark.bracedName? rest = some m.name → Mark.at? ('\\' :: (letters.toList ++ rest)) = some m := by
  cases m with
  | opens name =>
    refine ⟨"begin", by decide, rfl, fun rest h => ?_⟩
    show (Mark.bracedName? rest).map Mark.opens = _
    rw [h]
    rfl
  | closes name =>
    refine ⟨"end", by decide, rfl, fun rest h => ?_⟩
    show (Mark.bracedName? rest).map Mark.closes = _
    rw [h]
    rfl

lemma reads_mark (hname : '\x7d' ∉ m.name.toList) (hclean : Clean m.name) (htail : Tail text)
    (hend : EndsLine text) : Reads (m.text ++ text) [m] := by
  obtain ⟨letters, hplain, hword, hat⟩ := exists_letters m
  have hinside : Reads (letters ++ (braced m.name ++ text)) [] :=
    reads_line ((hclean.braced.append htail).clean.after hplain) hend.append.append
  intro rest
  have hline : (m.text ++ text).toList ++ rest =
      '\\' :: ((letters ++ (braced m.name ++ text)).toList ++ rest) := by
    simp [Mark.text, hword]
  have hmark : Mark.at? ('\\' :: ((letters ++ (braced m.name ++ text)).toList ++ rest)) = some m := by
    rw [String.toList_append, String.toList_append, List.append_assoc, List.append_assoc]
    exact hat _ (bracedName?_braced hname _)
  rw [hline, marks, hmark, hinside]
  rfl

end Reads

/-- Each end is that of the innermost environment that is open, and no environment stays open. -/
def Nested (ms : List Mark) : Prop := ms.foldlM Mark.step [] = some []

/-- Every environment that is begun among the marks is ended in its turn, whatever is open around them, and
these are the names of those that are begun. -/
structure Nest (ms : List Mark) (names : List String) : Prop where
  closed : ∀ outer, ms.foldlM Mark.step outer = some outer
  opened : ms.filterMap Mark.opened? = names

section Nest

variable {ms ns : List Mark} {names names' : List String}

lemma Nest.nil : Nest [] [] := ⟨fun _ => rfl, rfl⟩

lemma Nest.append (hms : Nest ms names) (hns : Nest ns names') : Nest (ms ++ ns) (names ++ names') where
  closed outer := by simp [List.foldlM_append, hms.closed, hns.closed]
  opened := by rw [List.filterMap_append, hms.opened, hns.opened]

lemma Nest.around (h : Nest ms names) (name : String) :
    Nest (.opens name :: ms ++ [.closes name]) (name :: names) where
  closed outer := by simp [List.foldlM_append, Mark.step, h.closed]
  opened := by simp [Mark.opened?, h.opened]

end Nest

end Marks

namespace Markup

open Marks

variable {rule : List Char → List Char → Prop} {text out old new w : List Char}

lemma Rewrites.prefix_of_prefix (hrule : ∀ old new, rule old new → ∃ front, new = '\\' :: front)
    (hw : '\\' ∉ w) (h : Rewrites rule text out) (hout : w <+: out) : w <+: text := by
  induction h generalizing w with
  | nil => exact hout
  | keep c _ ih =>
    rcases List.prefix_cons_iff.mp hout with rfl | ⟨t, rfl, ht⟩
    · exact List.nil_prefix
    · exact List.prefix_cons_iff.mpr (.inr ⟨t, rfl, ih (List.not_mem_of_not_mem_cons hw) ht⟩)
  | replace hr _ _ =>
    obtain ⟨front, rfl⟩ := hrule _ _ hr
    rcases List.prefix_cons_iff.mp hout with rfl | ⟨t, rfl, -⟩
    · exact List.nil_prefix
    · simp at hw

lemma Rewrites.infix_of_infix (hw : '\\' ∉ w) (hclose : '\x7d' ∉ w)
    (hrule : ∀ old new, rule old new → ∃ front, new = '\\' :: front ++ ['\x7d'] ∧
      ('\\' :: w <:+: '\\' :: front → '\\' :: w <:+: old))
    (h : Rewrites rule text out) (hout : '\\' :: w <:+: out) : '\\' :: w <:+: text := by
  induction h with
  | nil => exact hout
  | keep c hrest ih =>
    rcases List.infix_cons_iff.mp hout with hstart | hinside
    · obtain ⟨rfl, hletters⟩ := List.cons_prefix_cons.mp hstart
      have hfront : ∀ old new, rule old new → ∃ front, new = '\\' :: front := fun old new hr => by
        obtain ⟨front, rfl, -⟩ := hrule old new hr
        exact ⟨_, rfl⟩
      exact (List.cons_prefix_cons.mpr ⟨rfl, hrest.prefix_of_prefix hfront hw hletters⟩).isInfix
    · exact List.infix_cons_iff.mpr (.inr (ih hinside))
  | @replace old new text out hr _ ih =>
    obtain ⟨front, rfl, hfront⟩ := hrule old new hr
    rw [List.append_assoc, List.singleton_append] at hout
    rcases infix_append_cons hclose hout with h | h
    · exact (hfront h).trans (List.prefix_append _ _).isInfix
    · have hinside := infix_of_infix_append (show '\\' ∉ ['\x7d'] by decide) h
      exact (ih hinside).trans (List.suffix_append _ _).isInfix

end Markup

namespace Marks

open Markup

lemma clean_translate {text : String} (h : Clean text) : Clean (translate text) := by
  have hwords : ∀ word ∈ words, '\\' ∉ word.toList ∧ '\x7d' ∉ word.toList ∧ '\x7b' ∉ word.toList ∧
      (¬ '\\' :: word.toList <:+: "\\ldots\x7b".toList) ∧
      ∀ d ∈ [italic, monospace], ¬ '\\' :: word.toList <:+: d.command := by decide
  have hcommands : ∀ d ∈ [italic, monospace], ∃ letters, d.command = '\\' :: letters := by
    intro d hd
    rcases List.mem_pair.mp hd with rfl | rfl
    · exact ⟨"textit".toList, rfl⟩
    · exact ⟨"texttt".toList, rfl⟩
  intro word hword
  obtain ⟨hslash, hclose, hopen, hdots, hnone⟩ := hwords word hword
  rw [translate, String.toList_ofList]
  refine translateChars_induction (P := fun text => ¬ '\\' :: word.toList <:+: text)
    (fun _ _ hrewrites htext => mt (hrewrites.infix_of_infix hslash hclose ?_) htext)
    (fun d hd _ _ hrewrites htext => mt (hrewrites.infix_of_infix hslash hclose ?_) htext) _ (h word hword)
  · rintro old new ⟨rfl, rfl⟩
    exact ⟨"ldots\x7b".toList, rfl, fun hfound => (hdots hfound).elim⟩
  · rintro old new ⟨body, -, -, rfl, rfl⟩
    obtain ⟨letters, hletters⟩ := hcommands d hd
    refine ⟨letters ++ '\x7b' :: body, by simp [Delimiter.wrap, hletters], fun hfound => ?_⟩
    rw [← List.cons_append, ← hletters] at hfound
    rcases infix_append_cons hopen hfound with hfound | hfound
    · exact (hnone d hd hfound).elim
    · have hbody := infix_of_infix_append (show '\\' ∉ ['\x7b'] by decide) hfound
      exact hbody.trans ⟨[d.mark], [d.mark], by simp⟩

lemma endsLine_translate {text : String} (h : EndsLine text) : EndsLine (translate text) := by
  obtain ⟨chars, hchars⟩ := List.getLast?_eq_some_iff.mp h
  rw [EndsLine, translate, String.toList_ofList, hchars,
    translateChars_concat (by decide) (by decide) (by decide)]
  exact List.getLast?_concat

end Marks

end SlideDeck
