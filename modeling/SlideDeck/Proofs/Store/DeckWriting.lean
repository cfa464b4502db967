import SlideDeck.Proofs.Store.Reading
import SlideDeck.Proofs.Writing

/-! Writing a presentation is writing its parts one after the other. The nodes that are made for the line that loads the
listing package are gone afterwards. -/

namespace SlideDeck

namespace Rendering

def map (g : String → String) (r : Rendering) : Rendering := { r with outcome := r.outcome.map g }

lemma map_id (r : Rendering) : r.map id = r := by
  obtain ⟨records, outcome⟩ := r
  cases outcome <;> rfl

lemma map_followedBy (g : String → String) (first second : Rendering) : (first.followedBy second).map g =
    match first.outcome with
    | .error cause => { records := first.records, outcome := .error cause }
    | .ok text => {
        records := first.records ++ second.records
        outcome := second.outcome.map fun rest => g (text ++ rest) } := by
  rw [followedBy]
  cases hfirst : first.outcome with
  | error cause => simp [map, hfirst, Except.map]
  | ok text => cases hsecond : second.outcome <;> simp [map, Except.map]

end Rendering

namespace Writing

variable {w : Writing String} {f : String → Writing String} {s : Store} {first second : Rendering} {g : String → String}

lemma renders_pure (text : String) : Renders (pure text) s (.ofText text) :=
  fun d _ => ⟨d.lists, d.output, by simp only [Rendering.ofText, List.append_nil]; rfl⟩

lemma Renders.bind (hw : w.Renders s first) (hf : ∀ text, (f text).Renders s (second.map fun rest => g (text ++ rest))) :
    (w >>= f).Renders s ((first.followedBy second).map g) := by
  intro d hd
  obtain ⟨lists, output, heq⟩ := hw d hd
  rw [bind_run, heq, Rendering.map_followedBy]
  cases hfirst : first.outcome with
  | error cause => exact ⟨lists, output, rfl⟩
  | ok text =>
    obtain ⟨lists', output', heq'⟩ := hf text { d with lists, output, records := d.records ++ first.records } hd
    refine ⟨lists', output', ?_⟩
    simp only [heq', List.append_assoc]
    rfl

lemma Renders.bind_pure {r : Rendering} (hw : w.Renders s r) (f : String → String) :
    (w >>= fun text => pure (f text)).Renders s (r.map f) := by
  intro d hd
  obtain ⟨lists, output, heq⟩ := hw d hd
  refine ⟨lists, output, ?_⟩
  rw [bind_run, heq, Rendering.map]
  cases r.outcome <;> rfl

end Writing

namespace Deck

variable {s : Store}

lemma makeCodeHeader_fst (s : Store) (comment? : Option String) :
    (makeCodeHeader s comment?).1 = ((s.push { content := .header }).push
      { content := .package "usepackage" { required := [listingName], comment? } }).link s.size (s.size + 1) .last := by
  simp only [makeCodeHeader, Store.createAllIn, Store.createIn, Store.create, Draft.listing?, Draft.content,
    List.foldl_cons, List.foldl_nil, Store.size_push]

lemma node_makeCodeHeader (s : Store) (comment? : Option String) (m : NodeId) :
    (makeCodeHeader s comment?).1.node m =
      if m = s.size then { content := .header, children := [s.size + 1] }
      else if m = s.size + 1 then
        { content := .package "usepackage" { required := [listingName], comment? }, parent? := some s.size }
      else s.node m := by
  rw [makeCodeHeader_fst, Store.node_link]
  rcases eq_or_ne m s.size with rfl | hheader
  · simp [Store.children, Store.parent?, Store.node_push, Place.insert]
  rcases eq_or_ne m (s.size + 1) with rfl | hpackage
  · simp [Store.children, Store.node_push]
  · simp [Store.children, Store.parent?, Store.node_push, hheader, hpackage, hheader.symm, hpackage.symm]

lemma size_makeCodeHeader (s : Store) (comment? : Option String) :
    (makeCodeHeader s comment?).1.size = s.size + 2 := by
  simp [makeCodeHeader_fst]

lemma take_makeCodeHeader (s : Store) (comment? : Option String) :
    (makeCodeHeader s comment?).1.take s.size = s := by
  have hsize := size_makeCodeHeader s comment?
  refine Store.ext_node ?_ fun m => ?_
  · rw [Store.size] at hsize
    simp [Store.take, Store.size, hsize]
  rw [Store.node_take, node_makeCodeHeader]
  split_ifs with hlt hheader hpackage
  · exact absurd hheader (Nat.ne_of_lt hlt)
  · exact absurd hpackage (Nat.ne_of_lt (Nat.lt_succ_of_lt hlt))
  · rfl
  · exact (Store.node_of_size_le _ _ (Nat.le_of_not_lt hlt)).symm

lemma rendering_makeCodeHeader (s : Store) (step? comment? : Option String) :
    (makeCodeHeader s comment?).1.rendering step? s.size =
      { records := [Renderer.record .header], outcome := .ok ((codeHeader comment?).render (step?.getD "")) } := by
  have hheader : (makeCodeHeader s comment?).1.node s.size = { content := .header, children := [s.size + 1] } := by
    rw [node_makeCodeHeader, if_pos rfl]
  have hpackage : (makeCodeHeader s comment?).1.node (s.size + 1) =
      { content := .package "usepackage" { required := [listingName], comment? }, parent? := some s.size } := by
    rw [node_makeCodeHeader, if_neg (Nat.succ_ne_self _), if_pos rfl]
  have hkind : (makeCodeHeader s comment?).1.kind s.size = .header := by rw [Store.kind, hheader]; rfl
  rw [Store.rendering, hkind, size_makeCodeHeader, Store.sketch, Store.children, hheader, Layout.gather, Store.sketch]
  simp only [Store.sketchAround, Store.codeBelow, hheader, hpackage]
  rfl

lemma renders_codeHeader (s : Store) (settings : LooseSettings) : (renderCodeHeader settings).Renders s
    { records := [Renderer.record .header]
      outcome := .ok ((codeHeader settings.comment?).render (settings.step?.getD "")) } := by
  rintro d rfl
  let made := (makeCodeHeader d.store settings.comment?).1
  obtain ⟨lists, output, heq⟩ := Renderer.renders settings.step? made d.store.size { d with store := made } rfl
  rw [rendering_makeCodeHeader] at heq
  refine ⟨lists, output, ?_⟩
  have hrun : renderCodeHeader settings d = (Renderer.render settings.step? d.store.size >>= fun text => do
      modify fun d' => { d' with store := d'.store.take d.store.size }
      return text) { d with store := made } := rfl
  rw [hrun, Writing.bind_run, heq]
  let left (store : Store) : Desk := { d with store, lists, output, records := d.records ++ [Renderer.record .header] }
  exact congrArg (fun store => EStateM.Result.ok _ (left store)) (take_makeCodeHeader d.store settings.comment?)

lemma renders_listingLine (d : Deck) (s : Store) (settings : LooseSettings) :
    (d.renderListingLine settings).Renders s (d.codeRendering s settings) := by
  rintro desk rfl
  have hholds : Writing.holds .code d.document desk =
      (desk.store.has? .code d.document).elim (.error .unending desk) (.ok · desk) := by
    rw [Writing.holds, Writing.bind_run, Writing.get_run]
    simp only
    cases desk.store.has? .code d.document <;> rfl
  rw [renderListingLine, Writing.bind_run, hholds, codeRendering]
  cases desk.store.has? .code d.document with
  | none => exact ⟨desk.lists, desk.output, by simp⟩
  | some found =>
    cases found with
    | false => exact Writing.renders_pure "" desk rfl
    | true =>
      obtain ⟨lists, output, heq⟩ :=
        renders_codeHeader desk.store settings { desk with records := desk.records ++ [codeRecord] } rfl
      refine ⟨lists, output, ?_⟩
      simp only [List.append_assoc, List.singleton_append] at heq
      exact heq

theorem renders (d : Deck) (s : Store) (settings : LooseSettings) :
    (d.render settings).Renders s (d.rendering s settings) := by
  have hwrite := Renderer.renders settings.step? s
  have hbreak (r : Rendering) (g : String → String) :
      ((Rendering.ofText "\n").followedBy r).map g = r.map fun rest => g ("\n" ++ rest) := by
    rw [Rendering.map_followedBy]
    rfl
  rw [← Rendering.map_id (d.rendering s settings)]
  refine (hwrite d.preamble).bind fun preamble => ?_
  refine (renders_listingLine d s settings).bind fun line => ?_
  refine (hwrite d.header).bind fun header => ?_
  rw [hbreak]
  refine (congrArg (Writing.Renders · s _) ?_).mp ((hwrite d.document).bind_pure _)
  simp only [id, String.append_assoc]

end Deck

end SlideDeck
