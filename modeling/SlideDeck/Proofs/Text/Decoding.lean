import Mathlib.Tactic.Basic
import Mathlib.Tactic.SplitIfs
import SlideDeck.Text.Piecewise

/-! Bytes that are decoded piece by piece are decoded as a whole, so that a piece that encodes no text stands in
bytes that encode none. -/

namespace SlideDeck.Text

inductive Encodes : List UInt8 → Char → Prop where
  | one {a : UInt8} : a < 0x80 → Encodes [a] (Char.ofNat a.toNat)
  | two {a b : UInt8} {n : Nat} {c : Char} : 0xC0 ≤ a → a < 0xE0 → continuation? b = some n →
      charOf? 0x80 ((a.toNat - 0xC0) * 64 + n) = some c → Encodes [a, b] c
  | three {a b b' : UInt8} {n n' : Nat} {c : Char} : 0xE0 ≤ a → a < 0xF0 → continuation? b = some n →
      continuation? b' = some n' → charOf? 0x800 (((a.toNat - 0xE0) * 64 + n) * 64 + n') = some c →
      Encodes [a, b, b'] c
  | four {a b b' b'' : UInt8} {n n' n'' : Nat} {c : Char} : 0xF0 ≤ a → a < 0xF8 → continuation? b = some n →
      continuation? b' = some n' → continuation? b'' = some n'' →
      charOf? 0x10000 ((((a.toNat - 0xF0) * 64 + n) * 64 + n') * 64 + n'') = some c → Encodes [a, b, b', b''] c

lemma Encodes.decode {e : List UInt8} {c : Char} (h : Encodes e c) (rest : List UInt8) :
    decodeUtf8 (e ++ rest) = (decodeUtf8 rest).map (c :: ·) := by
  cases h with
  | one ha =>
    rw [List.singleton_append, decodeUtf8.eq_def]
    simp [ha]
  | @two a b n c hlow hhigh hb hc =>
    have hlarge : ¬ a < 0x80 := by grind
    rw [List.cons_append, decodeUtf8.eq_def]
    simp [hlarge, hlow, hhigh, hb, hc]
  | @three a b b' n n' c hlow hhigh hb hb' hc =>
    have hlarge : ¬ a < 0x80 := by grind
    have htwo : ¬ a < 0xE0 := by grind
    rw [List.cons_append, decodeUtf8.eq_def]
    simp [hlarge, htwo, hlow, hhigh, hb, hb', hc]
  | @four a b b' b'' n n' n'' c hlow hhigh hb hb' hb'' hc =>
    have hlarge : ¬ a < 0x80 := by grind
    have htwo : ¬ a < 0xE0 := by grind
    have hthree : ¬ a < 0xF0 := by grind
    rw [List.cons_append, decodeUtf8.eq_def]
    simp [hlarge, htwo, hthree, hlow, hhigh, hb, hb', hb'', hc]

inductive Decodes : List UInt8 → List Char → Prop where
  | nil : Decodes [] []
  | append {e rest : List UInt8} {c : Char} {chars : List Char} :
      Encodes e c → Decodes rest chars → Decodes (e ++ rest) (c :: chars)

lemma Encodes.decodes {e : List UInt8} {c : Char} (h : Encodes e c) : Decodes e [c] := by
  simpa using Decodes.append h .nil

lemma decodes_of_decodeUtf8 {bytes : List UInt8} {chars : List Char} (h : decodeUtf8 bytes = some chars) :
    Decodes bytes chars := by
  fun_induction decodeUtf8 bytes generalizing chars with
  | case1 =>
    cases h
    exact .nil
  | case2 a rest ha ih =>
    obtain ⟨tail, htail, rfl⟩ := Option.map_eq_some_iff.mp h
    exact .append (.one ha) (ih htail)
  | case3 a _ hlead b rest ih =>
    obtain ⟨n, hb, h⟩ := Option.bind_eq_some_iff.mp h
    obtain ⟨c, hc, h⟩ := Option.bind_eq_some_iff.mp h
    obtain ⟨tail, htail, rfl⟩ := Option.map_eq_some_iff.mp h
    exact .append (.two hlead.1 hlead.2 hb hc) (ih htail)
  | case5 a _ _ hlead b b' rest ih =>
    obtain ⟨n, hb, h⟩ := Option.bind_eq_some_iff.mp h
    obtain ⟨n', hb', h⟩ := Option.bind_eq_some_iff.mp h
    obtain ⟨c, hc, h⟩ := Option.bind_eq_some_iff.mp h
    obtain ⟨tail, htail, rfl⟩ := Option.map_eq_some_iff.mp h
    exact .append (.three hlead.1 hlead.2 hb hb' hc) (ih htail)
  | case7 a _ _ _ hlead b b' b'' rest ih =>
    obtain ⟨n, hb, h⟩ := Option.bind_eq_some_iff.mp h
    obtain ⟨n', hb', h⟩ := Option.bind_eq_some_iff.mp h
    obtain ⟨n'', hb'', h⟩ := Option.bind_eq_some_iff.mp h
    obtain ⟨c, hc, h⟩ := Option.bind_eq_some_iff.mp h
    obtain ⟨tail, htail, rfl⟩ := Option.map_eq_some_iff.mp h
    exact .append (.four hlead.1 hlead.2 hb hb' hb'' hc) (ih htail)
  | case4 | case6 | case8 | case9 => cases h

variable {a b : List UInt8} {chars : List Char}

lemma Decodes.decode_append (h : Decodes a chars) : decodeUtf8 (a ++ b) = (decodeUtf8 b).map (chars ++ ·) := by
  induction h with
  | nil => simp
  | append he _ ih =>
    rw [List.append_assoc, he.decode, ih, Option.map_map]
    rfl

lemma Decodes.decode (h : Decodes a chars) : decodeUtf8 a = some chars := by
  simpa [decodeUtf8] using h.decode_append (b := [])

lemma Decodes.trans {rest : List Char} (ha : Decodes a chars) (hb : Decodes b rest) :
    Decodes (a ++ b) (chars ++ rest) := by
  refine decodes_of_decodeUtf8 ?_
  rw [ha.decode_append, hb.decode]
  rfl

def IsLater (b : UInt8) : Prop := 0x80 ≤ b ∧ b < 0xC0

lemma isLater_of_continuation {b : UInt8} {n : Nat} (h : continuation? b = some n) :
    IsLater b ∧ n = b.toNat - 0x80 := by
  rw [continuation?] at h
  split_ifs at h with hb
  exact ⟨hb, (Option.some.inj h).symm⟩

lemma bounds_of_charOf {least n : Nat} {c : Char} (h : charOf? least n = some c) :
    least ≤ n ∧ n < 0x110000 := by
  rw [charOf?] at h
  by_cases hvalid : n.isValidChar
  · rw [dif_pos hvalid] at h
    by_cases hleast : least ≤ n
    · exact ⟨hleast, hvalid.elim (by omega) (by omega)⟩
    · rw [if_neg hleast] at h
      cases h
  · rw [dif_neg hvalid] at h
    cases h

def Headed (bytes : List UInt8) : Prop :=
  ∃ lead later, bytes = lead :: later ∧ ¬ IsLater lead ∧ ∀ b ∈ later, IsLater b

lemma Headed.eq_of_append_eq {x y s t : List UInt8} (hs : Headed s) (ht : Headed t) (h : x ++ s = y ++ t) :
    s = t := by
  obtain ⟨lead, later, rfl, hlead, hlater⟩ := hs
  obtain ⟨lead', later', rfl, hlead', hlater'⟩ := ht
  obtain ⟨mid, rfl, hmid⟩ | ⟨mid, rfl, hmid⟩ := List.append_eq_append_iff.mp h
  · cases mid with
    | nil => exact hmid
    | cons b mid =>
      obtain ⟨rfl, rfl⟩ := List.cons.inj hmid
      exact absurd (hlater lead' (by simp)) hlead'
  · cases mid with
    | nil => exact hmid.symm
    | cons b mid =>
      obtain ⟨rfl, rfl⟩ := List.cons.inj hmid
      exact absurd (hlater' lead (by simp)) hlead

lemma headed_of_isUnfinished {bytes : List UInt8} (h : isUnfinished bytes) : Headed bytes := by
  unfold isUnfinished at h
  split at h
  · refine ⟨_, [], rfl, ?_, by simp⟩
    grind [IsLater]
  · refine ⟨_, [_], rfl, ?_, ?_⟩ <;> grind [IsLater, isSecondByte]
  · refine ⟨_, [_, _], rfl, ?_, ?_⟩ <;> grind [IsLater, isSecondByte]
  · cases h

variable {e : List UInt8} {c : Char}

lemma Encodes.headed (h : Encodes e c) : Headed e := by
  cases h with
  | one ha => exact ⟨_, [], rfl, by grind [IsLater], by simp⟩
  | two hlow _ hb _ =>
    have hlater := (isLater_of_continuation hb).1
    exact ⟨_, [_], rfl, by grind [IsLater], by simpa using hlater⟩
  | three hlow _ hb hb' _ =>
    have hlater := (isLater_of_continuation hb).1
    have hlater' := (isLater_of_continuation hb').1
    exact ⟨_, [_, _], rfl, by grind [IsLater], by simpa using ⟨hlater, hlater'⟩⟩
  | four hlow _ hb hb' hb'' _ =>
    have hlater := (isLater_of_continuation hb).1
    have hlater' := (isLater_of_continuation hb').1
    have hlater'' := (isLater_of_continuation hb'').1
    exact ⟨_, [_, _, _], rfl, by grind [IsLater], by simpa using ⟨hlater, hlater', hlater''⟩⟩

lemma Encodes.not_isUnfinished (h : Encodes e c) : ¬ isUnfinished e := by
  cases h <;> grind [isUnfinished]

lemma isSecondByte_iff {a b : UInt8} :
    isSecondByte a b ↔ IsLater b ∧ (a.toNat = 0xE0 → 0xA0 ≤ b.toNat) ∧ (a.toNat = 0xF0 → 0x90 ≤ b.toNat) ∧
      (a.toNat = 0xF4 → b.toNat < 0x90) := by
  have hE0 : a = 0xE0 ↔ a.toNat = 0xE0 := UInt8.toNat_inj.symm
  have hF0 : a = 0xF0 ↔ a.toNat = 0xF0 := UInt8.toNat_inj.symm
  have hF4 : a = 0xF4 ↔ a.toNat = 0xF4 := UInt8.toNat_inj.symm
  simp only [isSecondByte, IsLater, Bool.and_eq_true, Bool.or_eq_true, decide_eq_true_eq, bne_iff_ne, ne_eq,
    hE0, hF0, hF4, UInt8.le_iff_toNat_le, UInt8.lt_iff_toNat_lt, UInt8.reduceToNat]
  omega

lemma Encodes.isUnfinished_take {k : Nat} (h : Encodes e c) (hpos : 0 < k) (hlt : k < e.length) :
    isUnfinished (e.take k) := by
  cases h with
  | one =>
    rw [List.length_singleton] at hlt
    omega
  | @two a b n c hlow hhigh hb hc =>
    obtain ⟨hlater, hn⟩ := isLater_of_continuation hb
    have hc := bounds_of_charOf hc
    obtain rfl : k = 1 := by
      simp only [List.length_cons, List.length_nil] at hlt
      omega
    simp only [IsLater, isUnfinished, List.take, Bool.and_eq_true, decide_eq_true_eq, UInt8.le_iff_toNat_le,
      UInt8.lt_iff_toNat_lt, UInt8.reduceToNat] at *
    omega
  | @three a b b' n n' c hlow hhigh hb hb' hc =>
    obtain ⟨hlater, hn⟩ := isLater_of_continuation hb
    obtain ⟨hlater', hn'⟩ := isLater_of_continuation hb'
    have hc := bounds_of_charOf hc
    obtain rfl | rfl : k = 1 ∨ k = 2 := by
      simp only [List.length_cons, List.length_nil] at hlt
      omega
    all_goals
      simp only [isSecondByte_iff, IsLater, isUnfinished, List.take, Bool.and_eq_true, decide_eq_true_eq,
        UInt8.le_iff_toNat_le, UInt8.lt_iff_toNat_lt, UInt8.reduceToNat] at *
      omega
  | @four a b b' b'' n n' n'' c hlow hhigh hb hb' hb'' hc =>
    obtain ⟨hlater, hn⟩ := isLater_of_continuation hb
    obtain ⟨hlater', hn'⟩ := isLater_of_continuation hb'
    obtain ⟨hlater'', hn''⟩ := isLater_of_continuation hb''
    have hc := bounds_of_charOf hc
    obtain rfl | rfl | rfl : k = 1 ∨ k = 2 ∨ k = 3 := by
      simp only [List.length_cons, List.length_nil] at hlt
      omega
    all_goals
      simp only [isSecondByte_iff, IsLater, isUnfinished, List.take, Bool.and_eq_true, decide_eq_true_eq,
        UInt8.le_iff_toNat_le, UInt8.lt_iff_toNat_lt, UInt8.reduceToNat] at *
      omega

lemma Decodes.exists_cut {front back : List UInt8} (h : Decodes (front ++ back) chars) :
    ∃ done part start, front = done ++ part ∧ Decodes done start ∧ (part = [] ∨ isUnfinished part) := by
  generalize hbytes : front ++ back = bytes at h
  induction h generalizing front with
  | nil =>
    obtain ⟨rfl, rfl⟩ := List.append_eq_nil_iff.mp hbytes
    exact ⟨[], [], [], rfl, .nil, .inl rfl⟩
  | @append e rest c chars he hrest ih =>
    obtain ⟨mid, rfl, hmid⟩ | ⟨mid, rfl, hmid⟩ := List.append_eq_append_iff.mp hbytes
    · by_cases hmore : mid = []
      · subst hmore
        rw [List.append_nil] at he
        exact ⟨front, [], [c], (List.append_nil _).symm, he.decodes, .inl rfl⟩
      · by_cases hfront : front = []
        · exact ⟨[], [], [], by simp [hfront], .nil, .inl rfl⟩
        · have hpart := he.isUnfinished_take (List.length_pos_iff.mpr hfront) (by
            rw [List.length_append]
            exact Nat.lt_add_of_pos_right (List.length_pos_iff.mpr hmore))
          rw [List.take_left] at hpart
          exact ⟨[], front, [], rfl, .nil, .inr hpart⟩
    · obtain ⟨done, part, start, rfl, hdone, hpart⟩ := ih hmid.symm
      exact ⟨e ++ done, part, c :: start, by simp, .append he hdone, hpart⟩

lemma Decodes.exists_last {bytes : List UInt8} (h : Decodes bytes chars) (hne : bytes ≠ []) :
    ∃ front e c, bytes = front ++ e ∧ Encodes e c := by
  induction h with
  | nil => exact absurd rfl hne
  | @append e rest c chars he hrest ih =>
    by_cases hrest : rest = []
    · exact ⟨[], e, c, by simp [hrest], he⟩
    · obtain ⟨front, last, c, rfl, hlast⟩ := ih hrest
      exact ⟨e ++ front, last, c, (List.append_assoc ..).symm, hlast⟩

lemma Decodes.not_isUnfinished {front back : List UInt8} (h : Decodes (front ++ back) chars) :
    ¬ isUnfinished back := by
  intro hback
  have hheaded := headed_of_isUnfinished hback
  have hne : front ++ back ≠ [] := by
    obtain ⟨lead, later, rfl, -⟩ := hheaded
    simp
  obtain ⟨before, last, c, hsplit, hlast⟩ := h.exists_last hne
  rw [hheaded.eq_of_append_eq hlast.headed hsplit] at hback
  exact hlast.not_isUnfinished hback

lemma unfinished_eq {done part x t : List UInt8} {start : List Char} (hdone : Decodes done start)
    (hpart : part = [] ∨ isUnfinished part) (hx : x ++ t = done ++ part) (ht : isUnfinished t) : t = part := by
  obtain rfl | hpart := hpart
  · rw [List.append_nil] at hx
    exact absurd ht (hx ▸ hdone).not_isUnfinished
  · exact (headed_of_isUnfinished ht).eq_of_append_eq (headed_of_isUnfinished hpart) hx

lemma length_of_isUnfinished {bytes : List UInt8} (h : isUnfinished bytes) : bytes.length ∈ [3, 2, 1] := by
  unfold isUnfinished at h
  split at h
  · simp
  · simp
  · simp
  · cases h

lemma Decodes.exists_decodeStart {front back : List UInt8} (h : Decodes (front ++ back) chars) :
    ∃ done part start, front = done ++ part ∧ Decodes done start ∧ decodeStart front = some (start, part) := by
  obtain ⟨done, part, start, rfl, hdone, hpart⟩ := h.exists_cut
  refine ⟨done, part, start, rfl, hdone, ?_⟩
  have htail : (([3, 2, 1].map fun n => (done ++ part).drop ((done ++ part).length - n)).find?
      isUnfinished).getD [] = part := by
    -- Whatever start of a character is found is the one at the cut, and one that is there is found.
    cases hfound : ([3, 2, 1].map fun n => (done ++ part).drop ((done ++ part).length - n)).find?
        isUnfinished with
    | none =>
      refine (hpart.resolve_right fun hpart => ?_).symm
      refine List.find?_eq_none.mp hfound part (List.mem_map.mpr ⟨_, length_of_isUnfinished hpart, ?_⟩) hpart
      simp
    | some t =>
      obtain ⟨n, -, rfl⟩ := List.mem_map.mp (List.mem_of_find?_eq_some hfound)
      exact unfinished_eq hdone hpart (List.take_append_drop _ _) (List.find?_some hfound)
  have hstart : (done ++ part).take ((done ++ part).length - part.length) = done := by simp
  rw [decodeStart, htail, hstart, hdone.decode]
  rfl

namespace Decoder

variable {bytes : List UInt8} {d next : Decoder} {wanted : Nat}

/-- What lies before the bytes that are left has been decoded, up to the start of a character. -/
def Follows (bytes : List UInt8) (d : Decoder) : Prop :=
  ∃ done chars, bytes = done ++ (d.unfinished ++ d.bytes) ∧ Decodes done chars

lemma bytes_of_take_eq_nil (h : (d.bytes.take (d.pieceSize wanted)).isEmpty) : d.bytes = [] := by
  have hsize : d.pieceSize wanted ≠ 0 := by
    rw [pieceSize]
    split <;> exact Nat.ne_of_gt (Nat.lt_of_lt_of_le (by decide : 0 < leastPiece) (Nat.le_max_left ..))
  exact (List.take_eq_nil_iff.mp (List.isEmpty_iff.mp h)).resolve_left hsize

lemma Follows.exists_nextPiece (h : d.Follows bytes) (hbytes : Decodes bytes chars) (wanted : Nat) :
    ∃ next more, d.nextPiece wanted = some (next, more) ∧ next.Follows bytes := by
  obtain ⟨done, start, rfl, hdone⟩ := h
  obtain ⟨rest, hrest, -⟩ := Option.map_eq_some_iff.mp (hdone.decode_append.symm.trans hbytes.decode)
  unfold nextPiece
  extract_lets size piece final jp
  split
  case isTrue hfinal =>
    have hempty := bytes_of_take_eq_nil hfinal
    rw [hempty, List.append_nil] at hrest
    rw [hrest]
    refine ⟨_, _, rfl, done ++ d.unfinished, _, ?_, hdone.trans (decodes_of_decodeUtf8 hrest)⟩
    simp [hempty]
  case isFalse =>
    rw [← List.take_append_drop size d.bytes, ← List.append_assoc] at hrest
    obtain ⟨middle, part, start', hmiddle, hdecodes, hstart⟩ :=
      (decodes_of_decodeUtf8 hrest).exists_decodeStart
    rw [hstart]
    refine ⟨_, _, rfl, done ++ middle, _, ?_, hdone.trans hdecodes⟩
    rw [List.append_assoc, ← List.append_assoc middle, ← hmiddle, List.append_assoc d.unfinished,
      List.take_append_drop]

lemma Follows.exists_take (h : d.Follows bytes) (hbytes : Decodes bytes chars) (fuel wanted : Nat) :
    ∃ taken next, take fuel wanted d = some (taken, next) ∧ next.Follows bytes := by
  induction fuel generalizing wanted d with
  | zero => exact ⟨[], d, rfl, h⟩
  | succ fuel ih =>
    rw [take]
    split
    · exact ⟨_, _, rfl, h⟩
    have hready : Follows bytes { d with ready := d.ready.drop wanted } := h
    obtain ⟨next, more, hnext, hfollows⟩ :=
      hready.exists_nextPiece hbytes (wanted - (d.ready.take wanted).length)
    rw [hnext]
    cases more with
    | false => exact ⟨_, next, rfl, hfollows⟩
    | true =>
      obtain ⟨taken, last, hlast, hend⟩ := ih hfollows (wanted - (d.ready.take wanted).length)
      refine ⟨d.ready.take wanted ++ taken, last, ?_, hend⟩
      show (take fuel _ next >>= fun out => some (d.ready.take wanted ++ out.1, out.2)) = _
      rw [hlast]
      rfl

lemma Follows.blocks_eq_false (h : d.Follows bytes) (hbytes : Decodes bytes chars) (fuel : Nat) :
    (blocks fuel d).2 = false := by
  induction fuel generalizing d with
  | zero => rfl
  | succ fuel ih =>
    obtain ⟨taken, next, htake, hfollows⟩ := h.exists_take hbytes (d.bytes.length + 3) blockSize
    rw [blocks, htake]
    cases taken with
    | nil => rfl
    | cons => exact ih hfollows

end Decoder

theorem decodeBlocks_of_decodeUtf8 {bytes : List UInt8} (h : decodeUtf8 bytes = some chars) :
    (decodeBlocks bytes).2 = false :=
  Decoder.Follows.blocks_eq_false (d := { bytes }) ⟨[], [], rfl, .nil⟩ (decodes_of_decodeUtf8 h) _

end SlideDeck.Text
