import SlideDeck.Proofs.Tree

/-! Frames that are made fragile, as code below them makes them. -/

namespace SlideDeck

def Node.makeFragile (holdsCode : Bool) (n : Node) : Node :=
  if n.seeksCode ∧ ¬ holdsCode then n.mapArguments (·.addOption fragile) else n

mutual

def Tree.fragileTo (c : NodeId) : Tree → Tree
  | .node id root children =>
    if c ∈ id :: Forest.ids children then
      .node id (root.makeFragile (Forest.holds .code children)) (Forest.fragileTo c children)
    else .node id root children

def Forest.fragileTo (c : NodeId) : Forest → Forest
  | [] => []
  | tree :: rest => tree.fragileTo c :: Forest.fragileTo c rest

end

variable {c : NodeId} {t : Tree}

lemma Tree.fragileTo_of_not_mem {t : Tree} (h : c ∉ t.ids) : t.fragileTo c = t := by
  cases t with
  | node id root children =>
    rw [Tree.ids] at h
    rw [Tree.fragileTo, if_neg h]

lemma Forest.fragileTo_of_not_mem {f : Forest} (h : c ∉ Forest.ids f) : Forest.fragileTo c f = f := by
  induction f with
  | nil => rfl
  | cons t rest ih =>
    rw [Forest.ids, List.mem_append, not_or] at h
    rw [Forest.fragileTo, Tree.fragileTo_of_not_mem h.1, ih h.2]

lemma Node.kind_makeFragile (holdsCode : Bool) (n : Node) : (n.makeFragile holdsCode).kind = n.kind := by
  rw [Node.makeFragile]
  split_ifs
  · exact Content.kind_mapArguments _ _
  · rfl

lemma Layout.node_makeFragile (n : Node) (holdsCode : Bool) (body : List Piece) :
    Layout.node (n.makeFragile holdsCode) holdsCode body = Layout.node n true body := by
  obtain ⟨content, foreign?, parent?, slides?, children, odd⟩ := n
  cases content with
  | environment form name a =>
    cases form with
    | frame =>
      by_cases ha : fragile ∈ a.options
      · simp [Node.makeFragile, Node.seeksCode, ha, Layout.node, Layout.environmentOptions]
      · cases holdsCode <;> simp [Node.makeFragile, Node.seeksCode, ha, Layout.node,
          Layout.environmentOptions, Node.mapArguments, Node.mapContent, Content.mapArguments,
          Arguments.addOption, Layout.environment, Layout.plainEnvironment]
    | _ => simp [Node.makeFragile, Node.seeksCode, Layout.node, Layout.environmentOptions]
  | _ => simp [Node.makeFragile, Node.seeksCode, Layout.node]

mutual

theorem Tree.kind_fragileTo : ∀ t : Tree, (t.fragileTo c).kind = t.kind
  | .node id root children => by
    rw [Tree.fragileTo]
    split
    · exact Node.kind_makeFragile _ _
    · rfl

theorem Tree.holds_fragileTo (kind : Kind) : ∀ t : Tree, (t.fragileTo c).holds kind = t.holds kind
  | .node id root children => by
    rw [Tree.fragileTo]
    split
    · rw [Tree.holds, Tree.holds, Forest.holds_fragileTo kind children]
    · rfl

theorem Forest.holds_fragileTo (kind : Kind) :
    ∀ f : Forest, Forest.holds kind (Forest.fragileTo c f) = Forest.holds kind f
  | [] => rfl
  | t :: rest => by
    rw [Forest.fragileTo, Forest.holds, Forest.holds, Tree.kind_fragileTo t,
      Tree.holds_fragileTo kind t, Forest.holds_fragileTo kind rest]

end

def Node.readied (code holdsCode : Bool) (n : Node) : Node :=
  if code then n.makeFragile holdsCode else n

def Tree.readied (code : Bool) (c : NodeId) (t : Tree) : Tree := if code then t.fragileTo c else t

def Forest.readied (code : Bool) (c : NodeId) (f : Forest) : Forest :=
  if code then Forest.fragileTo c f else f

lemma Node.kind_readied (code holdsCode : Bool) (n : Node) : (n.readied code holdsCode).kind = n.kind := by
  cases code with
  | false => rfl
  | true => exact n.kind_makeFragile holdsCode

lemma Layout.node_readied (code holdsCode : Bool) (n : Node) (body : List Piece) :
    Layout.node (n.readied code holdsCode) holdsCode body = Layout.node n (holdsCode || code) body := by
  cases code with
  | false => rw [Bool.or_false]; rfl
  | true => rw [Bool.or_true]; exact Layout.node_makeFragile n holdsCode body

lemma Tree.readied_of_not_mem {code : Bool} (h : c ∉ t.ids) : t.readied code c = t := by
  cases code with
  | false => rfl
  | true => exact Tree.fragileTo_of_not_mem h

lemma Forest.readied_of_not_mem {code : Bool} {f : Forest} (h : c ∉ Forest.ids f) :
    Forest.readied code c f = f := by
  cases code with
  | false => rfl
  | true => exact Forest.fragileTo_of_not_mem h

lemma Forest.readied_cons (code : Bool) (rest : Forest) :
    Forest.readied code c (t :: rest) = t.readied code c :: Forest.readied code c rest := by
  cases code <;> rfl

lemma Forest.holds_readied (code : Bool) (kind : Kind) (f : Forest) :
    Forest.holds kind (Forest.readied code c f) = Forest.holds kind f := by
  cases code with
  | false => rfl
  | true => exact Forest.holds_fragileTo kind f

lemma Tree.readied_node {code : Bool} {id : NodeId} {root : Node} {children : Forest}
    (h : c ∈ id :: Forest.ids children) : (Tree.node id root children).readied code c =
      .node id (root.readied code (Forest.holds .code children)) (Forest.readied code c children) := by
  cases code with
  | false => rfl
  | true =>
    rw [Tree.readied, if_pos rfl, Tree.fragileTo, if_pos h]
    rfl

end SlideDeck
