import Mathlib.Data.List.Chain
import Mathlib.Data.List.Infix
import SlideDeck.Markup
import SlideDeck.Proofs.Markup

/-! The pairs of equal marks that a text holds. A text is cut at its pairs in exactly one way, and a scan
replaces each pair of this cut. -/

namespace SlideDeck.Markup

/-- A text cut at its pairs of marks: the bodies of the pairs, each after the gap before it, and the gap
behind the last pair. -/
structure Pairing where
  pairs : List (List Char × List Char)
  last : List Char

namespace Pairing

def fill (write : List Char → List Char) (p : Pairing) : List Char :=
  p.pairs.flatMap (fun pair => pair.1 ++ write pair.2) ++ p.last

def gaps (p : Pairing) : List (List Char) := p.pairs.map Prod.fst ++ [p.last]

def cons (c : Char) : Pairing → Pairing
  | ⟨[], last⟩ => ⟨[], c :: last⟩
  | ⟨(gap, body) :: pairs, last⟩ => ⟨(c :: gap, body) :: pairs, last⟩

variable {write write' : List Char → List Char}

lemma fill_pair (gap body : List Char) (pairs : List (List Char × List Char)) (last : List Char) :
    fill write ⟨(gap, body) :: pairs, last⟩ = gap ++ write body ++ fill write ⟨pairs, last⟩ := by
  simp [fill]

lemma gaps_pair (gap body : List Char) (pairs : List (List Char × List Char)) (last : List Char) :
    gaps ⟨(gap, body) :: pairs, last⟩ = gap :: gaps ⟨pairs, last⟩ := rfl

lemma fill_cons (c : Char) (p : Pairing) : (p.cons c).fill write = c :: p.fill write := by
  obtain ⟨_ | ⟨⟨gap, body⟩, pairs⟩, last⟩ := p <;> rfl

lemma measure_fill {μ : List Char → ℕ} (hadd : ∀ left right, μ (left ++ right) = μ left + μ right) {k : ℕ}
    {p : Pairing} (hbody : ∀ pair ∈ p.pairs, μ (write pair.2) = μ (write' pair.2) + k) :
    μ (p.fill write) = μ (p.fill write') + k * p.pairs.length := by
  obtain ⟨pairs, last⟩ := p
  induction pairs with
  | nil => simp [fill]
  | cons pair pairs ih =>
    obtain ⟨gap, body⟩ := pair
    have hhere : μ (write body) = μ (write' body) + k := hbody (gap, body) (by simp)
    have hrest := ih fun pair hpair => hbody pair (List.mem_cons_of_mem _ hpair)
    simp only [fill_pair, hadd, hhere, hrest, List.length_cons, Nat.mul_succ]
    omega

end Pairing

lemma split_unique {c : Char} {left left' right right' : List Char} (hleft : c ∉ left) (hleft' : c ∉ left')
    (h : left ++ c :: right = left' ++ c :: right') : left = left' ∧ right = right' := by
  induction left generalizing left' with
  | nil =>
    cases left' with
    | nil => exact ⟨rfl, (List.cons.inj h).2⟩
    | cons d left' => exact absurd (List.cons.inj h).1 (List.ne_of_not_mem_cons hleft')
  | cons d left ih =>
    cases left' with
    | nil => exact absurd (List.cons.inj h).1.symm (List.ne_of_not_mem_cons hleft)
    | cons d' left' =>
      obtain ⟨rfl, hrest⟩ := List.cons.inj h
      have hparts := ih (List.not_mem_of_not_mem_cons hleft) (List.not_mem_of_not_mem_cons hleft') hrest
      exact ⟨by rw [hparts.1], hparts.2⟩

namespace Delimiter

variable (d : Delimiter)

def enclose (body : List Char) : List Char := d.mark :: body ++ [d.mark]

def IsBody (body : List Char) : Prop := body ≠ [] ∧ d.mark ∉ body

def HoldsPair (text : List Char) : Prop := ∃ body, d.IsBody body ∧ d.enclose body <:+: text

/-- How a text is cut at its pairs from left to right. In a gap before a pair a mark stands only right
before a mark, be it the next one of the gap or the first one of the pair. -/
structure Reads (text : List Char) (p : Pairing) : Prop where
  text_eq : p.fill d.enclose = text
  bodies : ∀ pair ∈ p.pairs, d.IsBody pair.2
  gaps : ∀ pair ∈ p.pairs, (pair.1 ++ [d.mark]).IsChain fun c next => c = d.mark → next = d.mark
  last : ¬ d.HoldsPair p.last

variable {d} {c : Char} {text : List Char} {p q : Pairing}

lemma HoldsPair.mono {inner : List Char} (h : d.HoldsPair inner) (hinner : inner <:+: text) :
    d.HoldsPair text := by
  obtain ⟨body, hbody, hin⟩ := h
  exact ⟨body, hbody, hin.trans hinner⟩

lemma HoldsPair.of_cons (h : d.HoldsPair (c :: text)) (hnext : c = d.mark → text.head? ≠ some d.mark →
    d.mark ∉ text) : d.HoldsPair text := by
  obtain ⟨body, ⟨hne, hmark⟩, hin⟩ := h
  rcases List.infix_cons_iff.mp hin with hstart | hlater
  · -- a pair at the start would have to be closed by a mark of the text
    obtain ⟨after, hafter⟩ := hstart
    obtain ⟨rfl, rfl⟩ := List.cons.inj hafter
    obtain ⟨first, more, rfl⟩ := List.exists_cons_of_ne_nil hne
    have hfirst : first ≠ d.mark := fun h => hmark (by simp [h])
    exact absurd (by simp) (hnext rfl (by simpa using hfirst))
  · exact ⟨body, ⟨hne, hmark⟩, hlater⟩

lemma not_holdsPair_nil : ¬ d.HoldsPair [] := by
  rintro ⟨body, -, hin⟩
  simp [enclose] at hin

lemma not_holdsPair_of_not_mem (h : d.mark ∉ text) : ¬ d.HoldsPair text := by
  rintro ⟨body, -, hin⟩
  exact h (hin.subset (by simp [enclose]))

lemma enclose_infix (gap body rest : List Char) : d.enclose body <:+: gap ++ d.enclose body ++ rest :=
  ⟨gap, rest, rfl⟩

lemma Reads.holdsPair_iff (h : d.Reads text p) : d.HoldsPair text ↔ p.pairs ≠ [] := by
  obtain ⟨_ | ⟨⟨gap, body⟩, pairs⟩, last⟩ := p
  · have htext : last = text := by simpa [Pairing.fill] using h.text_eq
    simpa [← htext] using h.last
  · have hbody : d.IsBody body := h.bodies (gap, body) (by simp)
    have htext := h.text_eq
    rw [Pairing.fill_pair] at htext
    simpa using ⟨body, hbody, htext ▸ enclose_infix gap body _⟩

lemma Reads.cons (h : d.Reads text p) (hnext : c = d.mark → text.head? = some d.mark) :
    d.Reads (c :: text) (p.cons c) := by
  obtain ⟨_ | ⟨⟨gap, body⟩, pairs⟩, last⟩ := p
  · have hlast : last = text := by simpa [Pairing.fill] using h.text_eq
    refine ⟨by rw [Pairing.fill_cons, h.text_eq], by simp [Pairing.cons], by simp [Pairing.cons], ?_⟩
    exact fun hpair => h.last (hpair.of_cons fun hc hne => absurd (hlast ▸ hnext hc) hne)
  · obtain ⟨hbody, hbodies⟩ := List.forall_mem_cons.mp h.bodies
    obtain ⟨hgap, hgaps⟩ := List.forall_mem_cons.mp h.gaps
    refine ⟨by rw [Pairing.fill_cons, h.text_eq], List.forall_mem_cons.mpr ⟨hbody, hbodies⟩,
      List.forall_mem_cons.mpr ⟨?_, hgaps⟩, h.last⟩
    have htext : (gap ++ [d.mark]).head? = text.head? := by
      rw [← h.text_eq, Pairing.fill_pair, enclose]
      cases gap <;> rfl
    rw [List.cons_append, List.isChain_cons, htext]
    exact ⟨fun next hmem hc => by simpa [hnext hc] using hmem.symm, hgap⟩

lemma Reads.consPair {body : List Char} (hbody : d.IsBody body) (h : d.Reads text p) :
    d.Reads (d.enclose body ++ text) ⟨([], body) :: p.pairs, p.last⟩ where
  text_eq := by rw [Pairing.fill_pair, List.nil_append, ← h.text_eq]
  bodies := List.forall_mem_cons.mpr ⟨hbody, h.bodies⟩
  gaps := List.forall_mem_cons.mpr ⟨.singleton _, h.gaps⟩
  last := h.last

lemma reads_of_not_holdsPair (h : ¬ d.HoldsPair text) : d.Reads text ⟨[], text⟩ :=
  ⟨rfl, by simp, by simp, h⟩

lemma Scans.exists_reads {out : List Char} (h : d.Scans text out) :
    ∃ p, d.Reads text p ∧ out = p.fill d.wrap := by
  induction h with
  | nil => exact ⟨⟨[], []⟩, reads_of_not_holdsPair not_holdsPair_nil, rfl⟩
  | @unclosed body hbody =>
    have hlone : ¬ d.HoldsPair (d.mark :: body) := fun h =>
      not_holdsPair_of_not_mem hbody (h.of_cons fun _ _ => hbody)
    exact ⟨⟨[], d.mark :: body⟩, reads_of_not_holdsPair hlone, rfl⟩
  | @keep c _ _ hnext _ ih =>
    obtain ⟨p, hreads, hout⟩ := ih
    exact ⟨p.cons c, hreads.cons hnext, by rw [Pairing.fill_cons, hout]⟩
  | @pair body _ _ hne hbody _ ih =>
    obtain ⟨p, hreads, hout⟩ := ih
    exact ⟨_, hreads.consPair ⟨hne, hbody⟩, by rw [Pairing.fill_pair, hout]; rfl⟩

section

variable {gap gap' body body' rest rest' : List Char}

lemma head?_after_mark (hgap : (d.mark :: gap ++ [d.mark]).IsChain fun c next => c = d.mark → next = d.mark) :
    (gap ++ d.enclose body ++ rest).head? = some d.mark := by
  cases gap with
  | nil => rfl
  | cons c gap => simpa using (List.isChain_cons_cons.mp hgap).1 rfl

lemma IsBody.head?_append (hbody : d.IsBody body) : (body ++ rest).head? ≠ some d.mark := by
  obtain ⟨c, body, rfl⟩ := List.exists_cons_of_ne_nil hbody.1
  simpa using (List.ne_of_not_mem_cons hbody.2).symm

lemma pair_unique (hgap : (gap ++ [d.mark]).IsChain fun c next => c = d.mark → next = d.mark)
    (hgap' : (gap' ++ [d.mark]).IsChain fun c next => c = d.mark → next = d.mark)
    (hbody : d.IsBody body) (hbody' : d.IsBody body')
    (h : gap ++ d.enclose body ++ rest = gap' ++ d.enclose body' ++ rest') :
    gap = gap' ∧ body = body' ∧ rest = rest' := by
  induction gap generalizing gap' with
  | nil =>
    cases gap' with
    | nil =>
      have hinner : body ++ d.mark :: rest = body' ++ d.mark :: rest' := by simpa [enclose] using h
      exact ⟨rfl, split_unique hbody.2 hbody'.2 hinner⟩
    | cons c gap' =>
      obtain ⟨rfl, hinner⟩ : d.mark = c ∧ body ++ d.mark :: rest = gap' ++ d.enclose body' ++ rest' := by
        simpa [enclose] using h
      exact absurd (hinner ▸ head?_after_mark hgap') hbody.head?_append
  | cons c gap ih =>
    cases gap' with
    | nil =>
      obtain ⟨rfl, hinner⟩ : c = d.mark ∧ gap ++ d.enclose body ++ rest = body' ++ d.mark :: rest' := by
        simpa [enclose] using h
      exact absurd (hinner ▸ head?_after_mark hgap) hbody'.head?_append
    | cons c' gap' =>
      obtain ⟨rfl, hinner⟩ := List.cons.inj h
      obtain ⟨rfl, hparts⟩ := ih (List.isChain_cons.mp hgap).2 (List.isChain_cons.mp hgap').2 hinner
      exact ⟨rfl, hparts⟩

end

lemma Reads.unique (hp : d.Reads text p) (hq : d.Reads text q) : p = q := by
  obtain ⟨pairs, last⟩ := p
  induction pairs generalizing text q with
  | nil =>
    have hnone : q.pairs = [] := by simpa [hp.holdsPair_iff] using hq.holdsPair_iff
    obtain ⟨pairs, last'⟩ := q
    obtain rfl := hnone
    simpa [Pairing.fill] using hp.text_eq.trans hq.text_eq.symm
  | cons pair pairs ih =>
    have hsome : q.pairs ≠ [] := by simpa [hp.holdsPair_iff] using hq.holdsPair_iff
    obtain ⟨_ | ⟨⟨gap', body'⟩, pairs'⟩, last'⟩ := q
    · exact absurd rfl hsome
    obtain ⟨gap, body⟩ := pair
    obtain ⟨hbody, hbodies⟩ := List.forall_mem_cons.mp hp.bodies
    obtain ⟨hbody', hbodies'⟩ := List.forall_mem_cons.mp hq.bodies
    obtain ⟨hgap, hgaps⟩ := List.forall_mem_cons.mp hp.gaps
    obtain ⟨hgap', hgaps'⟩ := List.forall_mem_cons.mp hq.gaps
    have htexts := hp.text_eq.trans hq.text_eq.symm
    rw [Pairing.fill_pair, Pairing.fill_pair] at htexts
    obtain ⟨rfl, rfl, hrest⟩ := pair_unique hgap hgap' hbody hbody' htexts
    have hrests : (⟨pairs, last⟩ : Pairing) = ⟨pairs', last'⟩ :=
      ih ⟨rfl, hbodies', hgaps', hq.last⟩ ⟨hrest, hbodies, hgaps, hp.last⟩
    simpa using hrests

lemma exists_reads (text : List Char) : ∃ p, d.Reads text p := by
  obtain ⟨p, hreads, -⟩ := (d.scans_apply text).exists_reads
  exact ⟨p, hreads⟩

lemma Reads.apply_eq (h : d.Reads text p) : d.apply text = p.fill d.wrap := by
  obtain ⟨q, hreads, hout⟩ := (d.scans_apply text).exists_reads
  rw [h.unique hreads]
  exact hout

end Delimiter

end SlideDeck.Markup
