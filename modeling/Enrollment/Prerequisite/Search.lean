import Enrollment.Prerequisite.Graph

/-! # The search for a chain

A chain from one subject to another is searched for breadth first. A queue holds the subjects whose
arrows have yet to be followed. Each subject that is met is entered in a tree, under the subject
from which it was met, and joins the end of the queue. As soon as the subject that is looked for has
been met, the way to it is read off the tree from below.

* `IsTree.depth_lt`: a parent was entered before its child, so a way up the tree comes to an end.
* `Search.load_visit_le`: what joins the queue has been new, so in any graph, with cycles or
  without, the search comes to an end. -/

namespace Enrollment

namespace Search

/-- The subjects that have parents, and the root. -/
def known (root : Uuid) (parents : List (Uuid × Uuid)) : List Uuid := parents.map Prod.fst ++ [root]

/-- Subjects and their parents, the latest first, make a tree: each parent is known before its child
is, and no subject is entered twice. -/
inductive IsTree (root : Uuid) : List (Uuid × Uuid) → Prop
  | root : IsTree root []
  | enter {parents : List (Uuid × Uuid)} {a parent : Uuid} (h : IsTree root parents)
      (hparent : parent ∈ known root parents) (ha : a ∉ known root parents) :
      IsTree root ((a, parent) :: parents)

/-- How many subjects had been entered when a subject was, with itself. -/
def depth (parents : List (Uuid × Uuid)) (a : Uuid) : Nat :=
  (parents.dropWhile (·.1 ≠ a)).length

theorem depth_le_length (parents : List (Uuid × Uuid)) (a : Uuid) :
    depth parents a ≤ parents.length :=
  (List.dropWhile_suffix _).length_le

theorem depth_cons_self (parents : List (Uuid × Uuid)) (a b : Uuid) :
    depth ((a, b) :: parents) a = parents.length + 1 := by
  simp [depth]

theorem depth_cons_of_ne {parents : List (Uuid × Uuid)} {a b c : Uuid} (h : c ≠ a) :
    depth ((a, b) :: parents) c = depth parents c := by
  simp [depth, h.symm]

namespace IsTree

variable {root a b : Uuid} {parents : List (Uuid × Uuid)}

theorem mem_known (h : IsTree root parents) (hp : parents.lookup a = some b) :
    b ∈ known root parents := by
  induction h with
  | root => cases hp
  | @enter parents c parent h hparent hc ih =>
    refine List.mem_cons_of_mem _ ?_
    rw [List.lookup_cons] at hp
    split at hp
    · exact Option.some.inj hp ▸ hparent
    · exact ih hp

/-- **A parent was entered before its child.** -/
theorem depth_lt (h : IsTree root parents) (hp : parents.lookup a = some b) :
    depth parents b < depth parents a := by
  induction h with
  | root => cases hp
  | @enter parents c parent h hparent hc ih =>
    have hne : ∀ x ∈ known root parents, x ≠ c := fun x hx hxc => hc (hxc ▸ hx)
    rw [List.lookup_cons] at hp
    split at hp <;> rename_i hac
    · obtain rfl := Option.some.inj hp
      obtain rfl : a = c := by simpa using hac
      rw [depth_cons_self, depth_cons_of_ne (hne _ hparent)]
      exact Nat.lt_succ_of_le (depth_le_length _ _)
    · have hac : a ≠ c := by simpa using hac
      rw [depth_cons_of_ne hac, depth_cons_of_ne (hne _ (h.mem_known hp))]
      exact ih hp

end IsTree

/-- The subjects that a search has met from its root, each under the one from which it was met. -/
structure Tree (root : Uuid) where
  parents : List (Uuid × Uuid)
  isTree : IsTree root parents

namespace Tree

variable {root : Uuid}

def start (root : Uuid) : Tree root := ⟨[], .root⟩

/-- A subject that is not known is entered under one that is. -/
def enter (t : Tree root) {a parent : Uuid} (hparent : parent ∈ known root t.parents)
    (ha : a ∉ known root t.parents) : Tree root :=
  ⟨(a, parent) :: t.parents, t.isTree.enter hparent ha⟩

/-- The way up from a subject to the root, from parent to parent. -/
def ascend (t : Tree root) (cursor : Uuid) : List Uuid :=
  match h : t.parents.lookup cursor with
  | none => [cursor]
  | some parent =>
    have := t.isTree.depth_lt h
    cursor :: t.ascend parent
termination_by depth t.parents cursor

end Tree

end Search

open Search in
/-- What a search has met, and the subjects among them whose arrows have yet to be followed. -/
structure Search (root : Uuid) where
  tree : Tree root
  queue : List Uuid
  queue_known : ∀ a ∈ queue, a ∈ known root tree.parents

namespace Search

variable {root : Uuid}

/-- The root has been met, and its arrows come first. -/
def start (root : Uuid) : Search root := ⟨.start root, [root], fun _ h => h⟩

theorem head_known (s : Search root) {node : Uuid} {queue : List Uuid}
    (h : s.queue = node :: queue) : node ∈ known root s.tree.parents :=
  s.queue_known node (h ▸ List.mem_cons_self)

/-- The head is taken off the queue. -/
def pop (s : Search root) {node : Uuid} {queue : List Uuid} (h : s.queue = node :: queue) :
    Search root :=
  ⟨s.tree, queue, fun a ha => s.queue_known a (h ▸ List.mem_cons_of_mem node ha)⟩

/-- A subject that is met for the first time is entered, and joins the end of the queue. -/
def meet (s : Search root) {node next : Uuid} (hnode : node ∈ known root s.tree.parents)
    (hnext : next ∉ known root s.tree.parents) : Search root where
  tree := s.tree.enter hnode hnext
  queue := s.queue ++ [next]
  queue_known a ha := by
    rcases List.mem_append.mp ha with ha | ha
    · exact List.mem_cons_of_mem _ (s.queue_known a ha)
    · exact List.mem_cons.mpr (.inl (List.mem_singleton.mp ha))

/-- The subjects to which the arrows of a subject lead are met in order. Either the one that is
looked for is among them, and then the way to it has been found, or the search goes on. -/
def visit (goal : Uuid) (s : Search root) {node : Uuid} (hnode : node ∈ known root s.tree.parents) :
    List Uuid → List Uuid ⊕ Search root
  | [] => .inr s
  | next :: rest =>
    if hnext : next ∈ known root s.tree.parents then s.visit goal hnode rest
    else if next = goal then .inl ((s.meet hnode hnext).tree.ascend goal).reverse
    else (s.meet hnode hnext).visit goal (List.mem_cons_of_mem _ hnode) rest

/-- What keeps a search from its end: its queue, and the arrows to what it has not met. -/
def load (g : Graph) (s : Search root) : Nat :=
  g.unseen (known root s.tree.parents) + s.queue.length

theorem load_visit_le {g : Graph} {goal : Uuid} {s s' : Search root} {node : Uuid}
    {hnode : node ∈ known root s.tree.parents} {nexts : List Uuid}
    (harrows : ∀ a ∈ nexts, ∃ p ∈ g.arrows, p.2 = a) (h : s.visit goal hnode nexts = .inr s') :
    s'.load g ≤ s.load g := by
  induction nexts generalizing s with
  | nil =>
    obtain rfl := Sum.inr.inj h
    exact Nat.le_refl _
  | cons next rest ih =>
    have hrest : ∀ a ∈ rest, ∃ p ∈ g.arrows, p.2 = a := fun a ha =>
      harrows a (List.mem_cons_of_mem _ ha)
    unfold visit at h
    split at h <;> rename_i hnext
    · exact ih hrest h
    · split at h
      · cases h
      · have hlt : g.unseen (next :: known root s.tree.parents) <
            g.unseen (known root s.tree.parents) :=
          Graph.unseen_cons_lt hnext (harrows next List.mem_cons_self)
        have hmeet : (s.meet hnode hnext).load g =
            g.unseen (next :: known root s.tree.parents) + (s.queue.length + 1) := by
          simp only [load, meet, Tree.enter, known, List.map_cons, List.cons_append,
            List.length_append, List.length_singleton]
        have hle := ih hrest h
        rw [hmeet] at hle
        unfold load at hle ⊢
        omega

/-- The search goes on from the head of its queue, until the way to a subject has been found, or
there is nothing left whose arrows have not been followed. -/
def run (g : Graph) (goal : Uuid) (s : Search root) : Option (List Uuid) :=
  match hqueue : s.queue with
  | [] => none
  | node :: queue =>
    match hvisit : (s.pop hqueue).visit goal (s.head_known hqueue) (g.targets node) with
    | .inl path => some path
    | .inr s' =>
      have : s'.load g ≤ (s.pop hqueue).load g :=
        load_visit_le (fun a ha => ⟨(node, a), Graph.mem_targets_iff.mp ha, rfl⟩) hvisit
      s'.run g goal
termination_by s.load g
decreasing_by
  simp only [load, pop, hqueue, List.length_cons] at this ⊢
  omega

end Search

namespace Graph

/-- A shortest chain from one subject to another, with both ends. -/
def path (g : Graph) (a b : Uuid) : Option (List Uuid) :=
  if a = b then some [a] else (Search.start a).run g b

/-- The cycle that an arrow from `a` to `b` would close, from `a` back to `a`. -/
def cycleThrough (g : Graph) (a b : Uuid) : Option (List Uuid) := (g.path b a).map (a :: ·)

end Graph

end Enrollment
