/-
**Trees.** A label over trees, in order.

* `Tree.walk` visits trees with a stack of those still to visit; `Tree.preorder` does so by
  recursion.
* `Tree.walk_eq_preorder` — both visit the same trees in the same order.
-/

namespace TestOutline

/-- A label over trees, in order. -/
inductive Tree (α : Type) where
  | mk (label : α) (children : List (Tree α))
  deriving Inhabited

namespace Tree

variable {α β : Type}

def label : Tree α → α
  | .mk label _ => label

def children : Tree α → List (Tree α)
  | .mk _ children => children

mutual

/-- The number of labels in a tree. -/
def count : Tree α → Nat
  | .mk _ children => 1 + countAll children

/-- The number of labels in some trees. -/
def countAll : List (Tree α) → Nat
  | [] => 0
  | tree :: rest => count tree + countAll rest

end

mutual

/-- The tree and the trees below its top, upper ones first and neighbours in order. -/
def preorder : Tree α → List (Tree α)
  | .mk label children => .mk label children :: preorderAll children

/-- The trees of some trees, one after the other. -/
def preorderAll : List (Tree α) → List (Tree α)
  | [] => []
  | tree :: rest => preorder tree ++ preorderAll rest

end

mutual

/-- The tree with a function applied to its labels. -/
def map (change : α → β) : Tree α → Tree β
  | .mk label children => .mk (change label) (mapAll change children)

/-- Trees with a function applied to their labels. -/
def mapAll (change : α → β) : List (Tree α) → List (Tree β)
  | [] => []
  | tree :: rest => map change tree :: mapAll change rest

end

theorem countAll_append (left right : List (Tree α)) :
    countAll (left ++ right) = countAll left + countAll right := by
  induction left with
  | nil => simp [countAll]
  | cons tree rest ih =>
    rw [List.cons_append, countAll, countAll, ih]
    omega

theorem count_eq (tree : Tree α) : count tree = 1 + countAll tree.children := by
  cases tree
  rw [count, children]

/-- Visits trees from a stack: the top one first, then those below it before the rest of the
stack. -/
def walk : List (Tree α) → List (Tree α)
  | [] => []
  | tree :: rest => tree :: walk (tree.children ++ rest)
termination_by stack => countAll stack
decreasing_by
  rw [countAll_append, countAll, count_eq]
  omega

theorem preorderAll_append (left right : List (Tree α)) :
    preorderAll (left ++ right) = preorderAll left ++ preorderAll right := by
  induction left with
  | nil => simp [preorderAll]
  | cons tree rest ih => rw [List.cons_append, preorderAll, preorderAll, ih, List.append_assoc]

theorem preorder_eq (tree : Tree α) : preorder tree = tree :: preorderAll tree.children := by
  cases tree
  rw [preorder, children]

theorem mem_preorder {inner tree : Tree α} :
    inner ∈ preorder tree ↔ inner = tree ∨ inner ∈ preorderAll tree.children := by
  rw [preorder_eq, List.mem_cons]

theorem mem_preorderAll_cons {inner tree : Tree α} {rest : List (Tree α)} :
    inner ∈ preorderAll (tree :: rest) ↔ inner ∈ preorder tree ∨ inner ∈ preorderAll rest := by
  rw [preorderAll, List.mem_append]

/-- Visiting trees from a stack gives the recursive order. -/
theorem walk_eq_preorderAll (stack : List (Tree α)) : walk stack = preorderAll stack := by
  fun_induction walk stack with
  | case1 => rw [preorderAll]
  | case2 tree rest ih =>
    rw [ih, preorderAll_append, preorderAll, preorder_eq, List.cons_append]

/-- Visiting one tree from a stack gives its recursive order. -/
theorem walk_eq_preorder (tree : Tree α) : walk [tree] = preorder tree := by
  rw [walk_eq_preorderAll, preorderAll, preorderAll, List.append_nil]

theorem walk_append (left right : List (Tree α)) :
    walk (left ++ right) = walk left ++ walk right := by
  rw [walk_eq_preorderAll, walk_eq_preorderAll, walk_eq_preorderAll, preorderAll_append]

/-- What is on the stack is visited. -/
theorem mem_walk_of_mem {tree : Tree α} {stack : List (Tree α)} (member : tree ∈ stack) :
    tree ∈ walk stack := by
  obtain ⟨before, behind, rfl⟩ := List.append_of_mem member
  rw [walk_append, walk]
  exact List.mem_append_right _ List.mem_cons_self

/-- What lies below a tree that is visited is visited too. -/
theorem mem_walk_of_below {inner tree : Tree α} {stack : List (Tree α)}
    (visited : tree ∈ walk stack) (below : inner ∈ walk tree.children) : inner ∈ walk stack := by
  fun_induction walk stack with
  | case1 => cases visited
  | case2 top rest ih =>
    rcases List.mem_cons.mp visited with rfl | later
    · rw [walk_append]
      exact List.mem_cons_of_mem _ (List.mem_append_left _ below)
    · exact List.mem_cons_of_mem _ (ih later)

@[simp] theorem label_map (change : α → β) (tree : Tree α) :
    (map change tree).label = change tree.label := by
  cases tree
  rw [map, label, label]

@[simp] theorem children_map (change : α → β) (tree : Tree α) :
    (map change tree).children = mapAll change tree.children := by
  cases tree
  rw [map, children, children]

theorem mapAll_append (change : α → β) (left right : List (Tree α)) :
    mapAll change (left ++ right) = mapAll change left ++ mapAll change right := by
  induction left with
  | nil => rw [List.nil_append, mapAll, List.nil_append]
  | cons tree rest ih => rw [List.cons_append, mapAll, mapAll, ih, List.cons_append]

mutual

/-- Functions that agree on the labels of a tree change it alike. -/
theorem map_congr {first second : α → β} : (tree : Tree α) →
    (∀ inner ∈ preorder tree, first inner.label = second inner.label) →
    map first tree = map second tree
  | .mk label children, same => by
    rw [map, map,
      mapAll_congr children fun inner member => same inner (mem_preorder.mpr (.inr member))]
    congr 1
    exact same _ (mem_preorder.mpr (.inl rfl))

/-- Functions that agree on the labels of some trees change them alike. -/
theorem mapAll_congr {first second : α → β} : (trees : List (Tree α)) →
    (∀ inner ∈ preorderAll trees, first inner.label = second inner.label) →
    mapAll first trees = mapAll second trees
  | [], _ => rfl
  | tree :: rest, same => by
    rw [mapAll, mapAll,
      map_congr tree fun inner member => same inner (mem_preorderAll_cons.mpr (.inl member)),
      mapAll_congr rest fun inner member => same inner (mem_preorderAll_cons.mpr (.inr member))]

end

mutual

theorem map_map {γ : Type} (second : β → γ) (first : α → β) : (tree : Tree α) →
    map second (map first tree) = map (fun label => second (first label)) tree
  | .mk label children => by rw [map, map, map, mapAll_mapAll second first children]

/-- Two changes of labels are one. -/
theorem mapAll_mapAll {γ : Type} (second : β → γ) (first : α → β) : (trees : List (Tree α)) →
    mapAll second (mapAll first trees) = mapAll (fun label => second (first label)) trees
  | [] => rfl
  | tree :: rest =>
    by rw [mapAll, mapAll, mapAll, map_map second first tree, mapAll_mapAll second first rest]

end

/-- Changing labels does not change what is visited. -/
theorem walk_mapAll (change : α → β) (stack : List (Tree α)) :
    walk (mapAll change stack) = (walk stack).map (map change) := by
  fun_induction walk stack with
  | case1 => rw [mapAll, walk, List.map_nil]
  | case2 tree rest ih => rw [mapAll, walk, children_map, ← mapAll_append, ih, List.map_cons]

/-- The labels that are visited are those that were visited before they were changed. -/
theorem labels_walk_mapAll (change : α → β) (stack : List (Tree α)) :
    (walk (mapAll change stack)).map label = ((walk stack).map label).map change := by
  rw [walk_mapAll, List.map_map, List.map_map]
  exact List.map_congr_left fun tree _ => label_map change tree

end Tree

end TestOutline
