import SlideDeck.Proofs.Script.Looking
import SlideDeck.Proofs.Script.Relocating

/-! Questions show the same of corresponding objects in tied sessions. -/

namespace SlideDeck.Script

def Sight.relocate (r : Relocation) (sight : Sight) : Sight :=
  { sight with outcome := sight.outcome.map (Entity.relocate r) }

lemma Sight.relocate_ofRendering (r : Relocation) (rendering : Rendering) :
    (ofRendering rendering).relocate r = ofRendering rendering := by
  rw [relocate, ofRendering]
  cases rendering.outcome <;> rfl

lemma Sight.relocate_write (r : Relocation) (s : Session) (e : Entity) (step : String) :
    (s.write e step).relocate r = s.write e step := by
  rw [Session.write_eq]
  split
  · exact relocate_ofRendering r _
  · split
    · exact relocate_ofRendering r _
    · rfl
  · rfl

lemma Sight.relocate_print (r : Relocation) (s : Session) (e : Entity) : (s.print e).relocate r = s.print e := by
  rw [Session.print_eq]
  split
  · exact relocate_write r s _ _
  · exact relocate_write r s _ _
  all_goals rfl

def Entity.length? : Entity → Option ℕ
  | .nodes _ members => some members.length
  | .value (.list _ items) => some items.length
  | _ => none

lemma Entity.length?_relocate (r : Relocation) (e : Entity) : (e.relocate r).length? = e.length? := by
  cases e with
  | nodes form members => simp [relocate, length?]
  | _ => rfl

lemma Session.count?_eq (s : Session) {e : Entity} (hother : ∀ i, e ≠ .object (.settings i)) :
    s.count? e = (s.members? e).bind Entity.length? := by
  rw [Session.count?.eq_def]
  split
  · exact absurd rfl (hother _)
  · cases s.members? _ with
    | none => rfl
    | some x =>
      cases x with
      | value v => cases v <;> rfl
      | _ => rfl

namespace Session.Tied

variable {T : Tie} {s t : Session}

section

variable (h : s.Tied T t)

include h

lemma accountField? (n : NodeId) (node : Node) (name : String) :
    Script.accountField? t (T.node n) (node.rename T.node) name = Script.accountField? s n node name := by
  have harguments (part : Part) : argumentValues (node.rename T.node) part = argumentValues node part := by
    simp only [argumentValues, Node.rename, Content.arguments?_rename]
  have hmarked (name : String) : t.marked? (.node (T.node n)) name = s.marked? (.node n) name :=
    h.marked? (.node n) name
  rw [Script.accountField?.eq_def, Script.accountField?.eq_def]
  simp only [harguments, hmarked, Node.field?_rename]

end

mutual

theorem accountTree (h : s.Tied T t) : ∀ tree : Tree,
    Script.accountTree t (tree.rename T.node) = Script.accountTree s tree
  | .node n root children => by
    have href : t.reference (.node (T.node n)) = s.reference (.node n) := h.reference (.node n)
    have hparent : ((root.rename T.node).parent?.map fun p => (t.store.kind p).typeName) =
        root.parent?.map fun p => (s.store.kind p).typeName := by
      simp only [Node.rename, Option.map_map, Function.comp_def, h.kind]
    rw [Tree.rename, Script.accountTree, Script.accountTree, href, hparent, Node.kind_rename,
      accountForest h children]
    simp only [h.accountField?]
    rfl

theorem accountForest (h : s.Tied T t) : ∀ children : Forest,
    Script.accountForest t (Forest.rename T.node children) = Script.accountForest s children
  | [] => rfl
  | tree :: rest => by
    rw [Forest.rename, Script.accountForest, Script.accountForest, accountTree h tree, accountForest h rest]

end

section

variable (h : s.Tied T t)

include h

lemma account (e : Entity) : t.account (e.relocate T) = (s.account e).map (Entity.relocate T) := by
  have hrest : (do let _ ← t.get (e.relocate T) "slides"; t.missing (e.relocate T) "parent" : Except Fault Entity) =
      (do let _ ← s.get e "slides"; s.missing e "parent" : Except Fault Entity).map (Entity.relocate T) := by
    rw [h.get e "slides" fun o _ i _ hname => absurd hname (by decide)]
    cases s.get e "slides" with
    | error fault => rfl
    | ok x => exact h.missing e "parent"
  cases e with
  | object o =>
    cases o with
    | node n =>
      simp only [Session.account, Entity.relocate, Object.relocate, h.store.tree?]
      cases s.store.tree? n with
      | none => rfl
      | some tree => simp only [Option.map_some, h.accountTree]; rfl
    | arguments a =>
      simp only [Session.account, Entity.relocate, Object.relocate, h.argumentsAt]
      rfl
    | _ => exact hrest
  | _ => exact hrest

lemma describeNode (n : NodeId) :
    Script.describeNode (t.store.node (T.node n)) = Script.describeNode (s.store.node n) := by
  rw [h.store.node]
  generalize s.store.node n = node
  have hshown (name : String) : describeNode.shown (node.rename T.node) name = describeNode.shown node name := by
    rw [describeNode.shown, describeNode.shown, Node.field?_rename]
  obtain ⟨content, foreign?, parent?, slides?, children, odd⟩ := node
  simp only [Node.rename] at hshown
  cases content <;> simp [Script.describeNode, Node.rename, Content.rename, Node.kind, ← hshown]

lemma describe (e : Entity) : t.describe (e.relocate T) = s.describe e := by
  cases e with
  | object o =>
    cases o with
    | node n => exact h.describeNode n
    | arguments a => exact congrArg (fun a => some (Arguments.describe a)) (h.argumentsAt a)
    | _ => rfl
  | _ => rfl

lemma describeItem (n : NodeId) : t.describeItem (T.node n) = s.describeItem n := by
  rw [Session.describeItem, Session.describeItem, h.describeNode, h.kind]

lemma members? (e : Entity) (hshows : Shows T s t e) :
    t.members? (e.relocate T) = (s.members? e).map (Entity.relocate T) := by
  cases e with
  | object o =>
    cases o with
    | node n =>
      simp only [Session.members?, Entity.relocate, Object.relocate, h.kind, h.store.children]
      split <;> rfl
    | settings i =>
      have hsettings := hshows i rfl
      simp only [Session.members?, Entity.relocate, Object.relocate, hsettings]
      rfl
    | _ => rfl
  | part owner part =>
    simp only [Session.members?, Entity.relocate, h.argumentsAt]
    rfl
  | nodes form members => rfl
  | value v =>
    cases v with
    | atom a => cases a <;> rfl
    | _ => rfl

lemma count? (e : Entity) : t.count? (e.relocate T) = s.count? e := by
  have hcount (hother : ∀ i, e ≠ .object (.settings i)) (hother' : ∀ i, e.relocate T ≠ .object (.settings i)) :
      t.count? (e.relocate T) = s.count? e := by
    rw [s.count?_eq hother, t.count?_eq hother', h.members? e fun i hi => absurd hi (hother i), Option.bind_map]
    exact congrArg _ (funext (Entity.length?_relocate T))
  cases e with
  | object o =>
    cases o with
    | settings i => rfl
    | _ => exact hcount (by simp) (by simp [Entity.relocate, Object.relocate])
  | _ => exact hcount (by simp) (by simp [Entity.relocate])

lemma isFalse (e : Entity) : t.isFalse (e.relocate T) = s.isFalse e := by
  have hcount : (t.count? (e.relocate T) == some 0) = (s.count? e == some 0) := by rw [h.count?]
  cases e with
  | value v =>
    cases v with
    | atom a => rfl
    | _ => exact hcount
  | _ => exact hcount

lemma sameObject (o p : Object) (ho : Shows T s t (.object o)) (hp : Shows T s t (.object p)) :
    t.sameObject (o.relocate T) (p.relocate T) = s.sameObject o p := by
  have hrest : (o.relocate T == p.relocate T) = (o == p) := by
    rw [Bool.eq_iff_iff, beq_iff_eq, beq_iff_eq, Object.relocate_inj]
  cases o with
  | arguments a =>
    cases p with
    | arguments b => simp only [Session.sameObject, Object.relocate, h.argumentsAt]
    | _ => exact hrest
  | settings i =>
    cases p with
    | settings j => simp only [Session.sameObject, Object.relocate, ho i rfl, hp j rfl]
    | _ => exact hrest
  | _ => exact hrest

lemma equal (e f : Entity) (he : Shows T s t e) (hf : Shows T s t f) :
    t.equal (e.relocate T) (f.relocate T) = s.equal e f := by
  have hpe := h.present e he
  have hpf := h.present f hf
  cases e with
  | object o =>
    cases f with
    | object p =>
      have hsame := h.sameObject o p he hf
      cases o with
      | kind k => exact congrArg (Value.same (.kind k)) hpf
      | _ =>
        cases p with
        | kind k => exact congrArg (Value.same (.kind k)) hpe
        | _ => exact hsame
    | _ =>
      cases o with
      | kind k => exact congrArg (Value.same (.kind k)) hpf
      | _ => rfl
  | nodes form xs =>
    cases f with
    | object p =>
      cases p with
      | kind k => exact congrArg (Value.same (.kind k)) hpe
      | _ => rfl
    | nodes other ys =>
      have hmap : (xs.map T.node == ys.map T.node) = (xs == ys) := by
        rw [Bool.eq_iff_iff, beq_iff_eq, beq_iff_eq, (List.map_injective_iff.mpr T.node.injective).eq_iff]
      simp only [Session.equal, Entity.relocate, hmap]
    | _ => exact congrArg₂ Value.same hpe hpf
  | _ =>
    cases f with
    | object p =>
      cases p with
      | kind k => exact congrArg (Value.same (.kind k)) hpe
      | _ => rfl
    | _ => exact congrArg₂ Value.same hpe hpf

lemma has (e : Entity) (label : String) : t.has (e.relocate T) label = (s.has e label).map (Entity.relocate T) := by
  have hsearch (n : NodeId) : t.has (.object (.node (T.node n))) label =
      (s.has (.object (.node n)) label).map (Entity.relocate T) := by
    simp only [Session.has, h.store.has?]
    cases Kind.ofLabel? label with
    | none => rfl
    | some kind =>
      simp only
      cases s.store.has? kind n <;> rfl
  cases e with
  | object o =>
    cases o with
    | node n =>
      exact hsearch n
    | deck i =>
      have hmissing : (t.missing ((Entity.object (.deck i)).relocate T) "has" : Except Fault Entity) =
          s.missing (.object (.deck i)) "has" := h.missing _ "has"
      simp only [Session.has, Entity.relocate, Object.relocate] at hmissing ⊢
      obtain ⟨hd, he⟩ | ⟨d, e, hd, he, heq, -⟩ := h.deck?_cases i
      · simp only [hd, he]
        exact hmissing
      · simp only [hd, he]
        rw [heq]
        exact hsearch _
    | _ => exact h.missing _ "has"
  | _ => exact h.missing _ "has"

lemma deckRendering {i : ℕ} {d e : Deck} (hdeck : T.Decks i d e) : t.deckRendering e = s.deckRendering d := by
  obtain ⟨heq, -⟩ := hdeck
  have hsettings := (h.settingsAt d.settings).1
  rw [heq]
  exact Deck.rendering_embeds h.store rfl rfl rfl hsettings.step? hsettings.comment?

lemma write (e : Entity) (step : String) : t.write (e.relocate T) step = s.write e step := by
  have hmissing : ({ outcome := t.missing (e.relocate T) "kind" } : Sight) = { outcome := s.missing e "kind" } := by
    rw [h.missing]
  cases e with
  | object o =>
    cases o with
    | node n =>
      simp only [Session.write_eq, Entity.relocate, Object.relocate]
      exact congrArg Sight.ofRendering (h.store.rendering _ n)
    | deck i =>
      simp only [Session.write_eq, Entity.relocate, Object.relocate] at hmissing ⊢
      obtain ⟨hd, he⟩ | ⟨d, e, hd, he, hdeck⟩ := h.deck?_cases i
      · simp only [hd, he]
        exact hmissing
      · simp only [hd, he]
        exact congrArg Sight.ofRendering (h.deckRendering hdeck)
    | _ => exact hmissing
  | _ => exact hmissing

lemma print (e : Entity) (hshows : Shows T s t e) : t.print (e.relocate T) = s.print e := by
  have hpresent := h.present e hshows
  cases e with
  | object o =>
    cases o with
    | node n => exact h.write (.object (.node n)) standardIndent
    | deck i => exact h.write (.object (.deck i)) standardIndent
    | arguments a => exact congrArg (fun a => Sight.ofText (Arguments.describe a)) (h.argumentsAt a)
    | settings i => exact congrArg (fun x => Sight.ofText (LooseSettings.describe x)) (hshows i rfl)
    | kind k => rfl
  | nodes form members =>
    simp only [Session.print_eq, Entity.relocate, List.map_map, Function.comp_def, h.describeItem]
  | part owner part => exact congrArg (fun v => Sight.ofText (Value.write v)) hpresent
  | value v =>
    cases v with
    | atom a => cases a <;> rfl
    | _ => rfl

def Asks (T : Tie) (s : Session) (e : Entity) : Look → Prop
  | .equal other => s.Reads T other
  | .field name => ∀ o, e = .object o → T.Keeps o name
  | _ => True

lemma look {e : Entity} (hshows : Shows T s t e) {question : Look} (hasks : Asks T s e question) :
    t.look (e.relocate T) question = (s.look e question).relocate T := by
  cases question with
  | has label => exact congrArg (fun x => ({ outcome := x } : Sight)) (h.has e label)
  | field name => exact congrArg (fun x => ({ outcome := x } : Sight)) (h.get e name hasks)
  | count =>
    simp only [Session.look, Session.ask, h.count?]
    cases s.count? e <;> rfl
  | list =>
    simp only [Session.look, Session.ask, h.members? e hshows]
    cases s.members? e <;> rfl
  | dump => exact congrArg (fun x => ({ outcome := x } : Sight)) (h.account e)
  | describe => simp only [Session.look, Session.ask, h.describe]; rfl
  | equal other =>
    simp only [Session.look, Session.ask, h.lookup hasks]
    cases hf : s.lookup other with
    | error fault => rfl
    | ok f =>
      have hequal := h.equal e f hshows (h.shows_of_reads hasks hf)
      simp only [Except.map, hequal]
      rfl
  | print => exact (h.print e hshows).trans (Sight.relocate_print T.toRelocation s e).symm
  | write step? => exact (h.write e _).trans (Sight.relocate_write T.toRelocation s e _).symm

end

end Session.Tied

end SlideDeck.Script
