import SlideDeck.Proofs.Script.History
import SlideDeck.Proofs.Script.Locality
import SlideDeck.Proofs.Store.Additions

/-! Listings that are supplied with source code and with nothing else. -/

namespace SlideDeck

namespace Store

variable {s t u : Store} {n m : NodeId} {touched : List NodeId}

def KeepsRaw (s t : Store) (n : NodeId) : Prop :=
  ∀ text, (s.node n).content = .raw text → (t.node n).content = .raw text

lemma KeepsRaw.refl (s : Store) (n : NodeId) : s.KeepsRaw s n := fun _ h => h

lemma KeepsRaw.trans (h : s.KeepsRaw t n) (h' : t.KeepsRaw u n) : s.KeepsRaw u n :=
  fun text htext => h' text (h text htext)

lemma lt_size_of_raw {text : String} (h : (s.node n).content = .raw text) : n < s.size := by
  by_contra hn
  rw [node_of_size_le s n (Nat.le_of_not_lt hn)] at h
  cases h

lemma Spares.keepsRaw (h : s.Spares t touched) (hn : n ∉ touched) : s.KeepsRaw t n := by
  intro text htext
  have hkept := congrArg Node.content (h.node n (lt_size_of_raw htext) hn)
  exact hkept.trans htext

lemma keepsRaw_link (s : Store) (c : NodeId) (place : Place) : s.KeepsRaw (s.link c m place) n := by
  intro text htext
  rw [node_link]
  exact htext

lemma keepsRaw_plantAll (s : Store) (ps : List Planting) : s.KeepsRaw (s.plantAll ps) n := by
  induction ps generalizing s with
  | nil => exact .refl s n
  | cons p ps ih =>
    have hcreated : s.KeepsRaw (s.create p.draft).1 n := ((Spares.refl s []).create p.draft).keepsRaw List.not_mem_nil
    have hplanted : s.KeepsRaw (s.plant p) n := by
      rw [plant, createIn_fst]
      exact hcreated.trans (keepsRaw_link _ _ _)
    exact hplanted.trans (ih _)

lemma keepsRaw_createAllIn (s : Store) (c : NodeId) (drafts : List Draft) :
    s.KeepsRaw (s.createAllIn c drafts) n := by
  rw [createAllIn_eq_plantAll]
  exact keepsRaw_plantAll s _

lemma keepsRaw_setTitle (s : Store) (d : Deck) (title author : String) (date? subtitle? : Option String) :
    s.KeepsRaw (d.setTitle s title author date? subtitle?) n := by
  rw [Deck.setTitle_eq]
  exact keepsRaw_plantAll s _

lemma keepsRaw_modify {f : Node → Node} (hf : ∀ text, (s.node n).content = .raw text → n = m →
    (f (s.node n)).content = .raw text) : s.KeepsRaw (s.modify m f) n := by
  intro text htext
  rw [node_modify]
  split
  · next h => exact hf text htext h.1.symm
  · exact htext

def Lists (s : Store) (c : NodeId) (sources : List String) : Prop :=
  (s.children c).map (fun n => (s.node n).content) = sources.map fun source => .raw (Text.trim source ++ "\n")

variable {c : NodeId} {sources : List String}

lemma Lists.exists_raw (h : s.Lists c sources) (hn : n ∈ s.children c) :
    ∃ text, (s.node n).content = .raw text := by
  have hmem : (s.node n).content ∈ (s.children c).map fun n => (s.node n).content := List.mem_map_of_mem hn
  rw [h] at hmem
  obtain ⟨source, -, heq⟩ := List.mem_map.mp hmem
  exact ⟨_, heq.symm⟩

lemma Lists.keep (h : s.Lists c sources) (hchildren : t.children c = s.children c)
    (hraw : ∀ n ∈ s.children c, s.KeepsRaw t n) : t.Lists c sources := by
  rw [Lists, hchildren, ← h]
  refine List.map_congr_left fun n hn => ?_
  obtain ⟨text, htext⟩ := h.exists_raw hn
  rw [hraw n hn text htext, htext]

lemma Lists.add (h : s.Lists c sources) (hc : c < s.size) (source : String) :
    (s.createAllIn c [.raw (Text.trim source ++ "\n")]).Lists c (sources ++ [source]) := by
  let t := s.createAllIn c [.raw (Text.trim source ++ "\n")]
  have hnode (m : NodeId) : t.node m = _ := node_createIn .last hc rfl m
  have hchildren : t.children c = s.children c ++ [s.size] := by
    have hroot := hnode c
    rw [if_neg (Nat.ne_of_lt hc), if_pos rfl] at hroot
    exact congrArg Node.children hroot
  have hnew : (t.node s.size).content = .raw (Text.trim source ++ "\n") := by
    have hsize := hnode s.size
    rw [if_pos rfl] at hsize
    exact congrArg Node.content hsize
  have hold : (s.children c).map (fun n => (t.node n).content) = (s.children c).map fun n => (s.node n).content :=
    List.map_congr_left fun n hn => by
      obtain ⟨text, htext⟩ := h.exists_raw hn
      rw [s.keepsRaw_createAllIn c _ text htext, htext]
  rw [Lists, hchildren, List.map_append, List.map_append, hold, h]
  exact congrArg (_ ++ ·) (congrArg (fun content => [content]) hnew)

end Store

lemma Node.content_of_assign? {x y : Node} {name text : String} {value : Atom}
    (h : x.assign? name value = some y) (hraw : x.content = .raw text) (hname : name ≠ "text") :
    y.content = .raw text := by
  have hnone : (Content.raw text).assign? name value = none := by
    simp only [Content.assign?]
    split <;> simp_all
  rw [Node.assign?, hraw, hnone] at h
  split_ifs at h
  · cases h
    rfl
  · cases h
  · cases h

namespace Script

variable {s t : Session} {e x : Entity} {n : NodeId}

namespace Session

lemma keepsRaw_modifyArguments (s : Session) (a : ArgumentsRef) (f : Arguments → Arguments) :
    s.store.KeepsRaw (s.modifyArguments a f).store n := by
  cases a with
  | ofNode m =>
    refine Store.keepsRaw_modify fun text htext _ => ?_
    rw [Node.mapArguments, Node.mapContent, htext]
    rfl
  | free i => exact .refl _ n

lemma keepsRaw_changeArguments {method : Method} {f : Arguments → Arguments}
    (h : s.changeArguments e method f = .ok (t, x)) : s.store.KeepsRaw t.store n := by
  obtain ⟨a, -, h⟩ := bind_eq_ok_iff.mp h
  cases h
  exact s.keepsRaw_modifyArguments a f

lemma keepsRaw_change {c : Change} (h : s.change e c = .ok (t, x)) : s.store.KeepsRaw t.store n := by
  cases changes h with
  | headings hc => exact s.store.keepsRaw_createAllIn _ _
  | @setTitle i d title author date? subtitle? hd => exact s.store.keepsRaw_setTitle d title author date? subtitle?
  | addOption h => exact keepsRaw_changeArguments h
  | setComment h => exact keepsRaw_changeArguments h
  | addSlideQualifier => exact Store.keepsRaw_modify fun text htext _ => htext
  | addSource hcode => exact s.store.keepsRaw_createAllIn _ _

lemma keepsRaw_set {name : String} {value : Atom} (h : s.set e name value = .ok t)
    (hname : name = "text" → e ≠ .node n) : s.store.KeepsRaw t.store n := by
  obtain ⟨o, rfl, hassigns⟩ := exists_assigns h
  cases hassigns with
  | node hnode =>
    refine Store.keepsRaw_modify fun text htext heq => ?_
    subst heq
    exact Node.content_of_assign? hnode htext fun htextual => hname htextual rfl
  | comment a => exact s.keepsRaw_modifyArguments a _
  | outlineTitle | mark => exact .refl _ n

end Session

lemma Action.keepsRaw_run (action : Action)
    (htext : ∀ on value, action = .assign on "text" value → s.lookup on ≠ .ok (.node n)) :
    s.store.KeepsRaw (action.run s).session.store n := by
  have hleads := action.leads s
  have hspares := action.run_spares s
  generalize (action.run s).session = t at hleads hspares ⊢
  cases hleads with
  | change hon h => exact Session.keepsRaw_change h
  | @assign on field value e t hon h =>
    refine Session.keepsRaw_set h ?_
    rintro rfl rfl
    exact htext on value rfl hon
  | pushArgument hon ha => exact s.keepsRaw_modifyArguments _ _
  | make | makeDeck | makeCodeHeader | assignSetting => exact hspares.keepsRaw List.not_mem_nil
  | stay | makeArguments | load | setUpLog => exact .refl _ n

lemma Construction.keepsRaw_start {construction : Construction} {p : Pending}
    (h : construction.start s = .ok (t, p)) : s.store.KeepsRaw t.store n := by
  cases begins h with
  | deck hmake => exact (Session.spares_makeDeck hmake).keepsRaw List.not_mem_nil
  | child hon hc => exact ((Store.Spares.refl _ []).create _).keepsRaw List.not_mem_nil
  | adopt | head => exact .refl _ n

lemma Pending.keepsRaw_finish {p : Pending} (h : p.finish s = .ok t) : s.store.KeepsRaw t.store n := by
  have heq := Pending.finish_eq h
  split at heq
  · exact heq ▸ .refl s.store n
  · obtain ⟨-, rfl⟩ := heq
    exact Store.keepsRaw_link _ _ _

structure Action.Passes (action : Action) (s : Session) (c : NodeId) : Prop where
  attachments : ∀ a ∈ action.attachments s, a.container ≠ c
  texts : ∀ on value n, action = .assign on "text" value → s.lookup on = .ok (.node n) → n ∉ s.store.children c

inductive Supplies (listing : NodeId) : Point → List String → Point → Prop
  | source {s : Session} {on title language : String} {c : NodeId} (pending : List Pending) (source : String)
      (result? : Option String) (hon : s.lookup on = .ok (.node c))
      (hc : (s.store.node c).content = .code title language listing) :
      Supplies listing ⟨s, pending⟩ [source]
        ⟨(s.answer result? ((Action.change on (.addSource source)).run s)).1, pending⟩
  | act {s : Session} {action : Action} (pending : List Pending) (result? : Option String)
      (h : action.Passes s listing) :
      Supplies listing ⟨s, pending⟩ [] ⟨(s.answer result? (action.run s)).1, pending⟩
  | start {s t : Session} {construction : Construction} {p : Pending} (pending : List Pending)
      (subject? : Option String) (h : construction.start s = .ok (t, p))
      (hnone : ∀ a ∈ construction.attachments s, a.container ≠ listing) :
      Supplies listing ⟨s, pending⟩ [] ⟨t.bind subject? p.subject, p :: pending⟩
  | enter {s : Session} {on : String} {n : NodeId} (pending : List Pending) (subject? : Option String)
      (h : s.lookup on = .ok (.node n)) : Supplies listing ⟨s, pending⟩ [] ⟨s.bind subject? (.node n), pending⟩
  | abandon (s : Session) (p : Pending) (pending : List Pending) :
      Supplies listing ⟨s, p :: pending⟩ [] ⟨s, pending⟩
  | complete {s t : Session} {p : Pending} (pending : List Pending) (result? : Option String)
      (h : p.finish s = .ok t) (hnone : ∀ a ∈ p.attachment?, a.container ≠ listing) :
      Supplies listing ⟨s, p :: pending⟩ [] ⟨(t.conclude result? p.subject).1, pending⟩

/-- The points of scripts at which these sources, in this order, are all that has been put into a listing. -/
inductive Supplied (listing : NodeId) : List String → Point → Prop
  | start : Supplied listing [] ⟨{}, []⟩
  | move {sources more : List String} {p q : Point} (h : Supplied listing sources p)
      (hmove : Supplies listing p more q) : Supplied listing (sources ++ more) q

section Run

variable {listing c : NodeId} {sources more : List String} {p q : Point}

lemma Receives.children_of_ne {s t : Store} {log : List Attachment} (h : Receives s log t)
    (hne : ∀ a ∈ log, a.container ≠ c) : t.children c = s.children c := by
  have hnil (place : Place) : putIn log c place = [] :=
    List.filterMap_eq_nil_iff.mpr fun a ha => if_neg fun heq => hne a ha heq.1
  rw [h c, hnil, hnil, List.reverse_nil, List.nil_append, List.append_nil]

lemma Supplies.exists_move (h : Supplies listing p more q) : ∃ a?, Move p a? q := by
  cases h with
  | source pending source result? hon hc => exact ⟨none, .act _ pending _ result?⟩
  | act pending result? h => exact ⟨none, .act _ pending _ result?⟩
  | start pending subject? h hnone => exact ⟨none, .start pending _ subject? h⟩
  | enter pending subject? h => exact ⟨none, .enter pending subject? h⟩
  | abandon s p pending => exact ⟨none, .abandon s p pending⟩
  | complete pending result? h hnone => exact ⟨_, .complete pending result? h⟩

lemma Supplied.reached (h : Supplied listing sources p) : p.Reached := by
  induction h with
  | start => exact .refl
  | move _ hmove ih => exact ih.tail hmove.exists_move

lemma Supplies.lists (hp : p.WellFormed) (h : Supplies listing p more q)
    (hlists : p.session.store.Lists listing sources) : q.session.store.Lists listing (sources ++ more) := by
  cases h with
  | @source s on title language c pending source result? hon hc =>
    have hrun : ((Action.change on (.addSource source)).run s).session = s.addSource listing source := by
      simp only [Action.run, hon, bind, Except.bind, Session.change, Entity.node, hc, Effect.ofResult]
    rw [Session.store_answer, hrun]
    exact hlists.add (hp.session.listing_container hc).lt_size source
  | @act s action pending result? hpasses =>
    rw [List.append_nil, Session.store_answer]
    exact hlists.keep ((action.receives_run hp.session).children_of_ne hpasses.attachments) fun n hn =>
      action.keepsRaw_run fun on value haction hon => hpasses.texts on value n haction hon hn
  | start pending subject? hstart hnone =>
    rw [List.append_nil, Session.store_bind]
    exact hlists.keep ((Construction.receives_start hstart).children_of_ne hnone) fun n _ =>
      Construction.keepsRaw_start hstart
  | enter pending subject? hon =>
    rw [List.append_nil, Session.store_bind]
    exact hlists
  | abandon s x pending =>
    rw [List.append_nil]
    exact hlists
  | @complete s t x pending result? hfinish hnone =>
    rw [List.append_nil, Session.store_conclude]
    have hreceives := Pending.receives_finish (hp.pending x List.mem_cons_self) hfinish
    exact hlists.keep (hreceives.children_of_ne fun a ha => hnone a (Option.mem_toList.mp ha)) fun n _ =>
      Pending.keepsRaw_finish hfinish

theorem Supplied.lists (h : Supplied listing sources p) : p.session.store.Lists listing sources := by
  induction h with
  | start => rfl
  | move h hmove ih => exact hmove.lists h.reached.wellFormed ih

variable {s : Session} {pending : List Pending}

lemma Supplied.run_source (h : Supplied listing sources ⟨s, pending⟩) (on source : String) (result? : Option String)
    {title language : String} (hon : s.lookup on = .ok (.node c))
    (hc : (s.store.node c).content = .code title language listing) : Supplied listing (sources ++ [source])
      ⟨((Step.act (.change on (.addSource source)) result?).run s).1, pending⟩ := by
  rw [Step.run]
  exact h.move (.source pending source result? hon hc)

lemma Supplied.run_act (h : Supplied listing sources ⟨s, pending⟩) (action : Action) (result? : Option String)
    (hpasses : action.Passes s listing) :
    Supplied listing sources ⟨((Step.act action result?).run s).1, pending⟩ := by
  rw [Step.run, ← List.append_nil sources]
  exact h.move (.act pending result? hpasses)

lemma Supplied.run_build (h : Supplied listing sources ⟨s, pending⟩) (construction : Construction)
    (result? : Option String) (hnone : ∀ a ∈ (Step.build construction result?).history s, a.container ≠ listing) :
    Supplied listing sources ⟨((Step.build construction result?).run s).1, pending⟩ := by
  rw [Step.run, Construction.run]
  rw [Step.history] at hnone
  cases hstart : construction.start s with
  | error fault => exact h
  | ok begun =>
    obtain ⟨t, x⟩ := begun
    simp only [hstart, List.forall_mem_append] at hnone
    have hbegun := h.move (.start pending none hstart hnone.1)
    simp only
    rw [← List.append_nil sources, ← List.append_nil (sources ++ [])]
    cases hfinish : x.finish t with
    | error fault => exact hbegun.move (.abandon t x pending)
    | ok u =>
      rw [Pending.attachments, hfinish] at hnone
      exact hbegun.move (.complete pending result? hfinish fun a ha => hnone.2 a (Option.mem_toList.mpr ha))

end Run

end Script

end SlideDeck
