import Enrollment.Proofs.Prerequisite.Chains
import Enrollment.Proofs.Sample
import Mathlib.Data.List.Chain
import Mathlib.Data.List.Nodup

/-! # Shortest chains

A search keeps a queue, and the subjects in it lie in two layers: the ways to those in front are of
one length, and the ways to those behind them have one arrow more. Whatever a shorter chain leads to
has been met before, so each way up the tree is as short as any chain between its ends. A shortest
chain comes to no subject twice, since what lies between could be left out.

* `Leads.concat`, `Leads.cases`: a chain grows at its end, one arrow at a time.
* `Leads.nodup_of_least`: a shortest chain comes to no subject twice.
* `Layered.enter`, `Layered.leave`, `Layered.sink`: how the layers change as the search goes on.
* `path_shortest`: a chain is found iff there is one, and then it is a shortest one.
* `closing_eq_none_iff`: a new requirement closes no cycle iff no chain leads back. -/

namespace Enrollment

namespace Graph

variable {g : Graph} {a b c : Uuid} {p q : List Uuid}

/-- The subjects of a chain of arrows from one subject to another, in order and with both ends. -/
structure Leads (g : Graph) (a b : Uuid) (p : List Uuid) : Prop where
  head : p.head? = some a
  last : p.getLast? = some b
  arrows : p.IsChain g.Arrow

/-- A chain that comes to no subject twice, and that no chain between its ends is shorter than. -/
structure IsShortest (g : Graph) (a b : Uuid) (p : List Uuid) : Prop where
  leads : g.Leads a b p
  nodup : p.Nodup
  least : ∀ q, g.Leads a b q → p.length ≤ q.length

/-! ### Chains -/

theorem leads_singleton (g : Graph) (a : Uuid) : g.Leads a a [a] := ⟨rfl, rfl, .singleton a⟩

theorem Leads.ne_nil (h : g.Leads a b p) : p ≠ [] := by
  rintro rfl
  cases h.head

theorem Leads.concat (h : g.Leads a b p) (hbc : g.Arrow b c) : g.Leads a c (p ++ [c]) where
  head := by rw [List.head?_append, h.head]; rfl
  last := List.getLast?_concat
  arrows := by
    refine List.isChain_append.mpr ⟨h.arrows, .singleton c, fun x hx y hy => ?_⟩
    rw [h.last] at hx
    obtain rfl := Option.some.inj hx
    obtain rfl := Option.some.inj hy
    exact hbc

theorem Leads.cases (h : g.Leads a c q) :
    q = [c] ∧ a = c ∨ ∃ b p, q = p ++ [c] ∧ g.Leads a b p ∧ g.Arrow b c := by
  obtain ⟨p, rfl⟩ := List.getLast?_eq_some_iff.mp h.last
  rcases List.eq_nil_or_concat p with rfl | ⟨l, b, rfl⟩
  · exact .inl ⟨rfl, (Option.some.inj h.head).symm⟩
  · rw [List.concat_eq_append] at h ⊢
    obtain ⟨hl, -, hlast⟩ := List.isChain_append.mp h.arrows
    have hhead : (l ++ [b]).head? = some a := by
      have hne : l ++ [b] ≠ [] := by simp
      rw [← h.head, List.head?_append_of_ne_nil _ hne]
    exact .inr ⟨b, l ++ [b], rfl, ⟨hhead, List.getLast?_concat, hl⟩,
      hlast b (by simp) c rfl⟩

/-- What lies between two visits to a subject may be left out of a chain. -/
theorem Leads.cut {before between after : List Uuid}
    (h : g.Leads a b (before ++ c :: between ++ c :: after)) :
    g.Leads a b (before ++ c :: after) where
  head := by
    have hhead := h.head
    simp only [List.append_assoc, List.cons_append, List.head?_append, List.head?_cons] at hhead ⊢
    exact hhead
  last := by
    have hlast := h.last
    rw [List.getLast?_append_cons] at hlast ⊢
    exact hlast
  arrows := by
    have harrows := h.arrows
    rw [List.append_assoc, List.cons_append] at harrows
    obtain ⟨hbefore, hrest⟩ := List.isChain_split.mp harrows
    rw [← List.cons_append] at hrest
    obtain ⟨-, hafter, -⟩ := List.isChain_append.mp hrest
    exact List.isChain_split.mpr ⟨hbefore, hafter⟩

/-- **A shortest chain comes to no subject twice.** -/
theorem Leads.nodup_of_least (h : g.Leads a b p)
    (hleast : ∀ q, g.Leads a b q → p.length ≤ q.length) : p.Nodup := by
  refine List.nodup_iff_sublist.mpr fun x hx => ?_
  obtain ⟨l, r, rfl, hl, hr⟩ := List.cons_sublist_iff.mp hx
  obtain ⟨before, between, rfl⟩ := List.append_of_mem hl
  obtain ⟨middle, after, rfl⟩ := List.append_of_mem (List.singleton_sublist.mp hr)
  rw [← List.append_assoc, List.append_assoc before, List.cons_append] at h hleast
  have hle := hleast _ h.cut
  simp only [List.length_append, List.length_cons] at hle
  omega

theorem Leads.reaches (h : g.Leads a b p) : g.Reaches a b := by
  obtain ⟨l, rfl⟩ := List.head?_eq_some_iff.mp h.head
  have hlast : (a :: l).getLast (List.cons_ne_nil a l) = b :=
    Option.some.inj ((List.getLast?_eq_some_getLast _).symm.trans h.last)
  exact List.relationReflTransGen_of_exists_isChain_cons l h.arrows hlast

end Graph

/-! ### Ways up the tree -/

namespace Search.Tree

variable {root a b parent : Uuid} {t : Tree root}

theorem ascend_of_parent (h : t.parents.lookup a = some parent) :
    t.ascend a = a :: t.ascend parent := by
  rw [ascend]
  split <;> rename_i h'
  · cases h.symm.trans h'
  · rw [Option.some.inj (h.symm.trans h')]

theorem ascend_of_lookup_eq_none (h : t.parents.lookup a = none) : t.ascend a = [a] := by
  rw [ascend]
  split <;> rename_i h'
  · rfl
  · cases h.symm.trans h'

theorem ascend_enter_self {hparent : parent ∈ known root t.parents}
    {ha : a ∉ known root t.parents} (hold : (t.enter hparent ha).ascend parent = t.ascend parent) :
    (t.enter hparent ha).ascend a = a :: t.ascend parent := by
  rw [← hold]
  exact ascend_of_parent List.lookup_cons_self

theorem ascend_enter_of_known {hparent : parent ∈ known root t.parents}
    {ha : a ∉ known root t.parents} (hb : b ∈ known root t.parents) :
    (t.enter hparent ha).ascend b = t.ascend b := by
  have hlookup : ∀ x ∈ known root t.parents,
      (t.enter hparent ha).parents.lookup x = t.parents.lookup x := by
    intro x hx
    have hne : x ≠ a := fun hxa => ha (hxa ▸ hx)
    rw [enter, List.lookup_cons, beq_false_of_ne hne]
  fun_induction t.ascend b with
  | case1 b h => exact ascend_of_lookup_eq_none ((hlookup b hb).trans h)
  | case2 b parent h hlt ih =>
    rw [ascend_of_parent ((hlookup b hb).trans h), ih (t.isTree.mem_known h)]

end Search.Tree

namespace Graph

open Search

variable {g : Graph} {a b root goal node next : Uuid} {p front back nexts : List Uuid} {n : Nat}

/-! ### Layers -/

/-- The queue of a search in two layers: the ways to the subjects in front are of one length, and
those to the subjects behind them are longer by one arrow. All ways up the tree are shortest chains,
whatever a chain no longer than those in front leads to is known, and so is whatever arrows lead to
from a known subject, unless it is in the queue. -/
structure Layered (g : Graph) (t : Tree root) (n : Nat) (front back : List Uuid) : Prop where
  met : ∀ x ∈ front ++ back, x ∈ known root t.parents
  shortest : ∀ x ∈ known root t.parents, g.IsShortest root x (t.ascend x).reverse
  front_length : ∀ x ∈ front, (t.ascend x).length = n + 1
  back_length : ∀ x ∈ back, (t.ascend x).length = n + 2
  within : ∀ x q, g.Leads root x q → q.length ≤ n + 1 → x ∈ known root t.parents
  closed : ∀ x ∈ known root t.parents, x ∉ front ++ back → ∀ y, g.Arrow x y →
    y ∈ known root t.parents

theorem isShortest_singleton (g : Graph) (a : Uuid) : g.IsShortest a a [a] :=
  ⟨leads_singleton g a, List.nodup_singleton a, fun _ hq => List.length_pos_of_ne_nil hq.ne_nil⟩

theorem layered_start (g : Graph) (root : Uuid) : g.Layered (.start root) 0 [root] [] where
  met x hx := hx
  shortest x hx := by
    obtain rfl := List.mem_singleton.mp hx
    rw [Tree.ascend_of_lookup_eq_none rfl]
    exact isShortest_singleton g x
  front_length x _ := by rw [Tree.ascend_of_lookup_eq_none rfl]; rfl
  back_length x hx := absurd hx List.not_mem_nil
  within x q hq hlength := by
    rcases hq.cases with ⟨-, rfl⟩ | ⟨y, p, rfl, hp, -⟩
    · exact List.mem_singleton_self root
    · have hpos := List.length_pos_of_ne_nil hp.ne_nil
      rw [List.length_append, List.length_singleton] at hlength
      omega
  closed x hx hx' := absurd hx hx'

/-- **A subject that is met for the first time** from the front joins the back. -/
theorem Layered.enter {t : Tree root} (h : g.Layered t n (node :: front) back)
    (hnode : node ∈ known root t.parents) (hnext : next ∉ known root t.parents)
    (harrow : g.Arrow node next) :
    g.Layered (t.enter hnode hnext) n (node :: front) (back ++ [next]) := by
  have hold : ∀ x ∈ known root t.parents, (t.enter hnode hnext).ascend x = t.ascend x :=
    fun x hx => Tree.ascend_enter_of_known hx
  have hway : (t.enter hnode hnext).ascend next = next :: t.ascend node :=
    Tree.ascend_enter_self (hold node hnode)
  have hlength : (t.ascend node).length = n + 1 := h.front_length node List.mem_cons_self
  refine ⟨fun x hx => ?_, fun x hx => ?_, fun x hx => ?_, fun x hx => ?_, fun x q hq hle => ?_,
    fun x hx hx' y hxy => ?_⟩
  · rw [← List.append_assoc, List.mem_append, List.mem_singleton] at hx
    rcases hx with hx | rfl
    · exact List.mem_cons_of_mem _ (h.met x hx)
    · exact List.mem_cons_self
  · rcases List.mem_cons.mp hx with rfl | hx
    · have hleads : g.Leads root x ((t.enter hnode hnext).ascend x).reverse := by
        rw [hway, List.reverse_cons]
        exact (h.shortest node hnode).leads.concat harrow
      have hleast : ∀ q, g.Leads root x q →
          ((t.enter hnode hnext).ascend x).reverse.length ≤ q.length := by
        intro q hq
        rw [hway, List.length_reverse, List.length_cons, hlength]
        -- what a shorter chain led to would have been known
        by_contra hlt
        exact hnext (h.within x q hq (by omega))
      exact ⟨hleads, hleads.nodup_of_least hleast, hleast⟩
    · rw [hold x hx]
      exact h.shortest x hx
  · rw [hold x (h.met x (List.mem_append_left _ hx))]
    exact h.front_length x hx
  · rcases List.mem_append.mp hx with hx | hx
    · rw [hold x (h.met x (List.mem_append_right _ hx))]
      exact h.back_length x hx
    · rw [List.mem_singleton.mp hx, hway, List.length_cons, hlength]
  · exact List.mem_cons_of_mem _ (h.within x q hq hle)
  · rw [← List.append_assoc, List.mem_append, List.mem_singleton, not_or] at hx'
    have hx : x ∈ known root t.parents := (List.mem_cons.mp hx).resolve_left hx'.2
    exact List.mem_cons_of_mem _ (h.closed x hx hx'.1 y hxy)

theorem Layered.leave {t : Tree root} (h : g.Layered t n (node :: front) back)
    (hnode : ∀ y, g.Arrow node y → y ∈ known root t.parents) : g.Layered t n front back where
  met x hx := h.met x (List.mem_cons_of_mem _ hx)
  shortest := h.shortest
  front_length x hx := h.front_length x (List.mem_cons_of_mem _ hx)
  back_length := h.back_length
  within := h.within
  closed x hx hx' y hxy := by
    by_cases hxnode : x = node
    · exact hnode y (hxnode ▸ hxy)
    · refine h.closed x hx (fun hmem => ?_) y hxy
      exact (List.mem_cons.mp hmem).elim hxnode hx'

/-- **The next layer**: when nothing is left in front, the back comes to the front. -/
theorem Layered.sink {t : Tree root} (h : g.Layered t n [] back) :
    g.Layered t (n + 1) back [] where
  met x hx := h.met x (by simpa using hx)
  shortest := h.shortest
  front_length := h.back_length
  back_length x hx := absurd hx List.not_mem_nil
  within x q hq hlength := by
    rcases hq.cases with ⟨rfl, rfl⟩ | ⟨y, p, rfl, hp, hyx⟩
    · exact h.within root [root] hq (Nat.le_add_left 1 n)
    · rw [List.length_append, List.length_singleton] at hlength
      have hy : y ∈ known root t.parents := h.within y p hp (by omega)
      have hleast : (t.ascend y).length ≤ p.length := by
        have hle := (h.shortest y hy).least p hp
        rwa [List.length_reverse] at hle
      -- what is still in the queue is too far off to be the last but one
      have hqueue : y ∉ back := fun hmem => by
        have hlong := h.back_length y hmem
        omega
      exact h.closed y hy hqueue x hyx
  closed x hx hx' := h.closed x hx (by simpa using hx')

/-- The head of the queue is in front, if not of this layer, then of the next. -/
theorem Layered.exists_front {t : Tree root} {queue : List Uuid} (h : g.Layered t n front back)
    (hqueue : node :: queue = front ++ back) :
    ∃ m front' back', g.Layered t m (node :: front') back' ∧ queue = front' ++ back' := by
  cases front with
  | nil =>
    rw [List.nil_append] at hqueue
    exact ⟨n + 1, queue, [], hqueue ▸ h.sink, (List.append_nil queue).symm⟩
  | cons x front =>
    obtain ⟨rfl, rfl⟩ := List.cons.inj hqueue
    exact ⟨n, front, back, h, rfl⟩

/-! ### The search -/

/-- What is found among the subjects that arrows lead to from the front has been reached on a
shortest chain. -/
theorem Layered.isShortest_of_visit {s : Search root} {hnode : node ∈ known root s.tree.parents}
    (h : g.Layered s.tree n (node :: front) back) (harrows : ∀ y ∈ nexts, g.Arrow node y)
    (hvisit : s.visit goal hnode nexts = .inl p) : g.IsShortest root goal p := by
  induction nexts generalizing s back with
  | nil => cases hvisit
  | cons next rest ih =>
    have hrest : ∀ y ∈ rest, g.Arrow node y := fun y hy => harrows y (List.mem_cons_of_mem _ hy)
    unfold Search.visit at hvisit
    split at hvisit <;> rename_i hnext
    · exact ih h hrest hvisit
    · have henter := h.enter hnode hnext (harrows next List.mem_cons_self)
      split at hvisit
      · rename_i hfound
        obtain rfl := Sum.inl.inj hvisit
        exact henter.shortest goal (hfound ▸ List.mem_cons_self)
      · exact ih henter hrest hvisit

/-- If nothing is found there, the search goes on, and what the arrows lead to is known. -/
theorem Layered.exists_of_visit {s s' : Search root} {hnode : node ∈ known root s.tree.parents}
    (h : g.Layered s.tree n (node :: front) back) (hqueue : s.queue = front ++ back)
    (hgoal : goal ∉ known root s.tree.parents) (harrows : ∀ y ∈ nexts, g.Arrow node y)
    (hvisit : s.visit goal hnode nexts = .inr s') :
    ∃ back', g.Layered s'.tree n (node :: front) back' ∧ s'.queue = front ++ back' ∧
      goal ∉ known root s'.tree.parents ∧
      ∀ y, y ∈ known root s.tree.parents ∨ y ∈ nexts → y ∈ known root s'.tree.parents := by
  induction nexts generalizing s back with
  | nil =>
    obtain rfl := Sum.inr.inj hvisit
    exact ⟨back, h, hqueue, hgoal, fun y hy => hy.resolve_right List.not_mem_nil⟩
  | cons next rest ih =>
    have hrest : ∀ y ∈ rest, g.Arrow node y := fun y hy => harrows y (List.mem_cons_of_mem _ hy)
    unfold Search.visit at hvisit
    split at hvisit <;> rename_i hnext
    · obtain ⟨back', h', hqueue', hgoal', hknown⟩ := ih h hqueue hgoal hrest hvisit
      refine ⟨back', h', hqueue', hgoal', fun y hy => hknown y ?_⟩
      rcases hy with hy | hy
      · exact .inl hy
      · rcases List.mem_cons.mp hy with rfl | hy
        · exact .inl hnext
        · exact .inr hy
    · have henter := h.enter hnode hnext (harrows next List.mem_cons_self)
      split at hvisit
      · cases hvisit
      · rename_i hother
        have hqueue' : (s.meet hnode hnext).queue = front ++ (back ++ [next]) := by
          rw [← List.append_assoc, ← hqueue]
          rfl
        have hgoal' : goal ∉ known root (s.meet hnode hnext).tree.parents := fun hmem =>
          (List.mem_cons.mp hmem).elim (fun heq => hother heq.symm) hgoal
        obtain ⟨back', h', hqueue', hgoal', hknown⟩ := ih henter hqueue' hgoal' hrest hvisit
        refine ⟨back', h', hqueue', hgoal', fun y hy => hknown y ?_⟩
        rcases hy with hy | hy
        · exact .inl (List.mem_cons_of_mem _ hy)
        · rcases List.mem_cons.mp hy with rfl | hy
          · exact .inl List.mem_cons_self
          · exact .inr hy

/-- A search whose queue is empty knows all that chains lead to. -/
theorem Layered.mem_known {t : Tree root} (h : g.Layered t n [] []) (hreach : g.Reaches root a) :
    a ∈ known root t.parents := by
  induction hreach with
  | refl => exact List.mem_append_right _ (List.mem_singleton_self root)
  | tail _ hxy ih => exact h.closed _ ih List.not_mem_nil _ hxy

/-- The right answer to the question for a chain: a shortest one, or none if there is none. -/
def Answers (g : Graph) (a b : Uuid) : Option (List Uuid) → Prop
  | none => ¬ g.Reaches a b
  | some p => g.IsShortest a b p

/-- **The search comes to the right answer**, from wherever it has come to. -/
theorem answers_run {s : Search root} (h : g.Layered s.tree n front back)
    (hqueue : s.queue = front ++ back) (hgoal : goal ∉ known root s.tree.parents) :
    g.Answers root goal (s.run g goal) := by
  fun_induction Search.run g goal s generalizing n front back with
  | case1 s hempty =>
    obtain ⟨rfl, rfl⟩ := List.append_eq_nil_iff.mp (hqueue.symm.trans hempty)
    exact fun hreach => hgoal (h.mem_known hreach)
  | case2 s node queue hhead path hvisit =>
    obtain ⟨m, front', back', hfront, -⟩ := h.exists_front (hhead.symm.trans hqueue)
    exact Layered.isShortest_of_visit (s := s.pop hhead) hfront
      (fun y hy => mem_targets_iff.mp hy) hvisit
  | case3 s node queue hhead s' hvisit hle ih =>
    obtain ⟨m, front', back', hfront, hrest⟩ := h.exists_front (hhead.symm.trans hqueue)
    obtain ⟨back'', h', hqueue', hgoal', hmet⟩ :=
      Layered.exists_of_visit (s := s.pop hhead) hfront hrest hgoal
        (fun y hy => mem_targets_iff.mp hy) hvisit
    exact ih (h'.leave fun y hy => hmet y (.inr (mem_targets_iff.mpr hy))) hqueue' hgoal'

theorem answers_path (g : Graph) (a b : Uuid) : g.Answers a b (g.path a b) := by
  unfold path
  split <;> rename_i hab
  · exact hab ▸ isShortest_singleton g a
  · exact answers_run (layered_start g a) rfl fun hb => hab (List.mem_singleton.mp hb).symm

theorem isShortest_of_path (h : g.path a b = some p) : g.IsShortest a b p := by
  have hanswers := answers_path g a b
  rwa [h] at hanswers

theorem isSome_path_iff : (g.path a b).isSome = true ↔ g.Reaches a b := by
  have hanswers := answers_path g a b
  cases hpath : g.path a b with
  | none => rw [hpath] at hanswers; exact iff_of_false Bool.false_ne_true hanswers
  | some p => rw [hpath] at hanswers; exact iff_of_true rfl hanswers.leads.reaches

/-- **The search for a chain**, in any graph, with cycles or without. It comes to nothing iff no
chain leads from the one subject to the other, and what it finds is a shortest chain. So an arrow
closes a cycle iff a chain leads back, and the cycle that is found is that arrow and a shortest
chain back. -/
theorem path_shortest (g : Graph) (a b : Uuid) :
    (g.path a b = none ↔ ¬ g.Reaches a b) ∧
    (∀ p, g.path a b = some p → g.IsShortest a b p) ∧
    ((g.cycleThrough b a).isSome = true ↔ g.Reaches a b) ∧
    ∀ c, g.cycleThrough b a = some c → ∃ p, c = b :: p ∧ g.IsShortest a b p := by
  refine ⟨?_, fun p hp => isShortest_of_path hp, ?_, fun c hc => ?_⟩
  · rw [← isSome_path_iff, Option.not_isSome_iff_eq_none]
  · rw [cycleThrough, Option.isSome_map, isSome_path_iff]
  · obtain ⟨p, hp, rfl⟩ := Option.map_eq_some_iff.mp hc
    exact ⟨p, rfl, isShortest_of_path hp⟩

/-- A graph has no cycle iff none of its arrows is on one. -/
theorem acyclic_iff_path : g.Acyclic ↔ ∀ e ∈ g.arrows, g.path e.2 e.1 = none := by
  simp only [← Option.not_isSome_iff_eq_none, isSome_path_iff]
  constructor
  · exact fun h e he hback => h e.1 (.head' he hback)
  · intro h a ha
    obtain ⟨b, hab, hba⟩ := Relation.TransGen.head'_iff.mp ha
    exact h (a, b) hab hba

instance (g : Graph) : Decidable g.Acyclic := decidable_of_iff _ acyclic_iff_path.symm

namespace Sample

open Enrollment.Sample

/-- Two branches that meet again, one of them through a cycle. -/
def branching : Graph :=
  ⟨[(1, 2), (2, 1), (2, 3), (1, 4), (3, 5), (4, 5), (5, 5), (5, 6)].map fun (a, b) =>
    (ident a, ident b)⟩

end Sample

theorem path_of_branching :
    Sample.branching.path (Sample.ident 1) (Sample.ident 6) =
      some [Sample.ident 1, Sample.ident 4, Sample.ident 5, Sample.ident 6] ∧
    Sample.branching.IsShortest (Sample.ident 1) (Sample.ident 6)
      [Sample.ident 1, Sample.ident 4, Sample.ident 5, Sample.ident 6] :=
  have hpath : Sample.branching.path (Sample.ident 1) (Sample.ident 6) =
      some [Sample.ident 1, Sample.ident 4, Sample.ident 5, Sample.ident 6] := by decide +kernel
  ⟨hpath, (path_shortest Sample.branching (Sample.ident 1) (Sample.ident 6)).2.1 _ hpath⟩

end Graph

namespace Prerequisite

/-- **A new requirement closes no cycle iff no chain leads back.** -/
theorem closing_eq_none_iff {l : Lookup} {subject required : Uuid} :
    closing l subject required = none ↔
      ¬ (Graph.ofPrerequisites l.prerequisites).Reaches required subject := by
  rw [closing, Graph.cycleThrough, Option.map_eq_none_iff, ← Graph.reaches_reach_iff,
    ← Graph.isSome_path_iff, Option.not_isSome_iff_eq_none]

end Prerequisite

end Enrollment
