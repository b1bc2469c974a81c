import Mathlib.Data.List.Nodup
import Mathlib.Data.List.Perm.Subperm
import Mathlib.Data.Nat.Find

namespace Dosm

universe u

/-! Forests given by the parent of each node.

When no node is its own ancestor, walking down from the roots meets every node
once. A node may be moved under any node that is not below it.
-/

section Forest

variable {Node : Type u} {nodes : List Node} {parent other : Node → Option Node}
  {node first second root : Node} {steps more rounds : Nat}

def ancestor (parent : Node → Option Node) : Nat → Node → Option Node
  | 0, node => some node
  | steps + 1, node => (parent node).bind (ancestor parent steps)

def Acyclic (parent : Node → Option Node) : Prop :=
  ∀ node steps, ancestor parent (steps + 1) node ≠ some node

theorem ancestor_add : ancestor parent (steps + more) node =
    (ancestor parent steps node).bind (ancestor parent more) := by
  induction steps generalizing node with
  | zero => rw [Nat.zero_add]; rfl
  | succ steps ih =>
      rw [Nat.add_right_comm, ancestor, ancestor]
      cases parent node with
      | none => rfl
      | some above => exact ih

theorem ancestor_succ : ancestor parent (steps + 1) node = (ancestor parent steps node).bind parent := by
  rw [ancestor_add]
  congr 1
  funext above
  simp [ancestor]

theorem ancestor_trans (lower : ancestor parent steps node = some first)
    (upper : ancestor parent more first = some second) : ancestor parent (steps + more) node = some second := by
  rw [ancestor_add, lower]
  exact upper

theorem ancestor_sub (lower : ancestor parent steps node = some first)
    (upper : ancestor parent more node = some second) (within : steps ≤ more) :
    ancestor parent (more - steps) first = some second := by
  have split : more = steps + (more - steps) := by omega
  rw [split, ancestor_add, lower] at upper
  exact upper

theorem ancestor_mono (fewer : ∀ node above, other node = some above → parent node = some above)
    (reached : ancestor other steps node = some first) : ancestor parent steps node = some first := by
  induction steps generalizing node with
  | zero => exact reached
  | succ steps ih =>
      obtain ⟨above, step, rest⟩ := Option.bind_eq_some_iff.mp reached
      rw [ancestor, fewer node above step]
      exact ih rest

theorem Acyclic.mono (acyclic : Acyclic parent)
    (fewer : ∀ node above, other node = some above → parent node = some above) : Acyclic other :=
  fun node steps cycle => acyclic node steps (ancestor_mono fewer cycle)

section Reparent

variable [DecidableEq Node] {target : Option Node}

theorem ancestor_update (reached : ancestor (Function.update parent node target) steps first = some second) :
    (∃ early ≤ steps, ancestor (Function.update parent node target) early first = some node ∧
      ancestor parent early first = some node) ∨ ancestor parent steps first = some second := by
  induction steps generalizing first with
  | zero => exact .inr reached
  | succ steps ih =>
      by_cases same : first = node
      · exact .inl ⟨0, Nat.zero_le _, congrArg some same, congrArg some same⟩
      · obtain ⟨above, step, rest⟩ := Option.bind_eq_some_iff.mp reached
        have before : parent first = some above := by
          rwa [Function.update_of_ne same] at step
        rcases ih rest with ⟨early, within, passed, passedBefore⟩ | unmoved
        · refine .inl ⟨early + 1, by omega, ?_, ?_⟩
          · rw [ancestor, step]
            exact passed
          · rw [ancestor, before]
            exact passedBefore
        · refine .inr ?_
          rw [ancestor, before]
          exact unmoved

theorem Acyclic.update (acyclic : Acyclic parent)
    (above : ∀ moved, target = some moved → ∀ steps, ancestor parent steps moved ≠ some node) :
    Acyclic (Function.update parent node target) := by
  have through : ∀ steps, ancestor (Function.update parent node target) (steps + 1) node ≠ some node := by
    intro steps cycle
    obtain ⟨moved, step, rest⟩ := Option.bind_eq_some_iff.mp cycle
    rw [Function.update_self] at step
    rcases ancestor_update rest with ⟨early, -, -, before⟩ | before
    · exact above moved step early before
    · exact above moved step steps before
  intro first steps cycle
  rcases ancestor_update cycle with ⟨early, within, passed, -⟩ | before
  · have onward := ancestor_sub passed cycle within
    have turned := ancestor_trans onward passed
    rw [Nat.sub_add_cancel within] at turned
    exact through steps turned
  · exact acyclic first steps before

end Reparent

section Walk

def rootsIn (nodes : List Node) (parent : Node → Option Node) : List Node :=
  nodes.filter fun node => parent node = none

theorem mem_rootsIn : node ∈ rootsIn nodes parent ↔ node ∈ nodes ∧ parent node = none := by
  simp [rootsIn]

def ClosedIn (nodes : List Node) (parent : Node → Option Node) : Prop :=
  ∀ node ∈ nodes, ∀ above, parent node = some above → above ∈ nodes

theorem ClosedIn.ancestor_mem (closed : ClosedIn nodes parent) (member : node ∈ nodes)
    (reached : ancestor parent steps node = some first) : first ∈ nodes := by
  induction steps generalizing node with
  | zero =>
      obtain rfl := Option.some.inj reached
      exact member
  | succ steps ih =>
      obtain ⟨above, step, rest⟩ := Option.bind_eq_some_iff.mp reached
      exact ih (closed node member above step) rest

theorem ancestor_unique (acyclic : Acyclic parent) (siblings : parent first = parent second)
    (one : ancestor parent steps node = some first) (two : ancestor parent more node = some second) :
    first = second := by
  have ordered : ∀ {steps more first second}, parent first = parent second → steps < more →
      ancestor parent steps node = some first → ancestor parent more node = some second → False := by
    intro steps more first second siblings below one two
    have onward := ancestor_sub one two (by omega)
    obtain ⟨gap, distance⟩ : ∃ gap, more - steps = gap + 1 := ⟨more - steps - 1, by omega⟩
    rw [distance] at onward
    obtain ⟨above, step, rest⟩ := Option.bind_eq_some_iff.mp onward
    have turned : ancestor parent (gap + 1) above = some above := by
      rw [ancestor_succ, rest]
      exact siblings.symm.trans step
    exact acyclic above gap turned
  rcases Nat.lt_trichotomy steps more with below | rfl | above
  · exact (ordered siblings below one two).elim
  · exact Option.some.inj (one.symm.trans two)
  · exact (ordered siblings.symm above two one).elim

theorem Acyclic.steps_unique (acyclic : Acyclic parent) (one : ancestor parent steps node = some first)
    (two : ancestor parent more node = some first) : steps = more := by
  have ordered : ∀ {steps more}, steps < more → ancestor parent steps node = some first →
      ancestor parent more node = some first → False := by
    intro steps more below one two
    have cycle := ancestor_sub one two (by omega)
    obtain ⟨gap, distance⟩ : ∃ gap, more - steps = gap + 1 := ⟨more - steps - 1, by omega⟩
    exact acyclic first gap (distance ▸ cycle)
  rcases Nat.lt_trichotomy steps more with below | same | above
  · exact (ordered below one two).elim
  · exact same
  · exact (ordered above two one).elim

theorem root_above (acyclic : Acyclic parent) (closed : ClosedIn nodes parent) (member : node ∈ nodes) :
    ∃ steps < nodes.length, ∃ root ∈ rootsIn nodes parent, ancestor parent steps node = some root := by
  have ends : ∃ steps, steps ≤ nodes.length ∧ ancestor parent steps node = none := by
    by_contra endless
    have alive : ∀ steps ≤ nodes.length, ∃ above, ancestor parent steps node = some above := by
      intro steps within
      exact Option.ne_none_iff_exists'.mp fun ended => endless ⟨steps, within, ended⟩
    let met := (List.range (nodes.length + 1)).map fun steps => (ancestor parent steps node).getD node
    have unique : met.Nodup := by
      refine List.Nodup.map_on ?_ List.nodup_range
      intro one oneWithin two twoWithin same
      obtain ⟨first, reachedOne⟩ := alive one (by have := List.mem_range.mp oneWithin; omega)
      obtain ⟨second, reachedTwo⟩ := alive two (by have := List.mem_range.mp twoWithin; omega)
      rw [reachedOne, reachedTwo, Option.getD_some, Option.getD_some] at same
      subst same
      exact acyclic.steps_unique reachedOne reachedTwo
    have inside : met ⊆ nodes := by
      intro above listed
      obtain ⟨steps, within, rfl⟩ := List.mem_map.mp listed
      obtain ⟨first, reached⟩ := alive steps (by have := List.mem_range.mp within; omega)
      rw [reached]
      exact closed.ancestor_mem member reached
    have short : met.length ≤ nodes.length := (List.subperm_of_subset unique inside).length_le
    have long : met.length = nodes.length + 1 := by simp [met]
    omega
  have least := Nat.find_spec ends
  obtain ⟨last, count⟩ : ∃ last, Nat.find ends = last + 1 := by
    cases zero : Nat.find ends with
    | zero =>
        rw [zero] at least
        cases least.2
    | succ last => exact ⟨last, rfl⟩
  rw [count] at least
  have before : ancestor parent last node ≠ none := by
    intro ended
    exact Nat.find_min ends (by omega) ⟨by omega, ended⟩
  obtain ⟨root, reached⟩ := Option.ne_none_iff_exists'.mp before
  refine ⟨last, by omega, root, mem_rootsIn.mpr ⟨closed.ancestor_mem member reached, ?_⟩, reached⟩
  have ended := least.2
  rw [ancestor_succ, reached] at ended
  exact ended

variable [DecidableEq Node]

def childrenIn (nodes : List Node) (parent : Node → Option Node) (node : Node) : List Node :=
  nodes.filter fun child => parent child = some node

def preorder (nodes : List Node) (parent : Node → Option Node) : Nat → Node → List Node
  | 0, _ => []
  | rounds + 1, node => node :: (childrenIn nodes parent node).flatMap (preorder nodes parent rounds)

theorem mem_childrenIn : first ∈ childrenIn nodes parent node ↔ first ∈ nodes ∧ parent first = some node := by
  simp [childrenIn]

theorem mem_preorder (closed : ClosedIn nodes parent) (member : node ∈ nodes) :
    first ∈ preorder nodes parent rounds node ↔
      first ∈ nodes ∧ ∃ steps < rounds, ancestor parent steps first = some node := by
  induction rounds generalizing node with
  | zero => simp [preorder]
  | succ rounds ih =>
      rw [preorder, List.mem_cons, List.mem_flatMap]
      constructor
      · rintro (rfl | ⟨child, below, walked⟩)
        · exact ⟨member, 0, Nat.succ_pos _, rfl⟩
        · obtain ⟨childMember, childParent⟩ := mem_childrenIn.mp below
          obtain ⟨inside, steps, within, reached⟩ := (ih childMember).mp walked
          refine ⟨inside, steps + 1, by omega, ?_⟩
          rw [ancestor_succ, reached]
          exact childParent
      · rintro ⟨inside, steps, within, reached⟩
        cases steps with
        | zero => exact .inl (Option.some.inj reached)
        | succ steps =>
            rw [ancestor_succ] at reached
            obtain ⟨child, walked, childParent⟩ := Option.bind_eq_some_iff.mp reached
            have childMember := closed.ancestor_mem inside walked
            exact .inr ⟨child, mem_childrenIn.mpr ⟨childMember, childParent⟩,
              (ih childMember).mpr ⟨inside, steps, by omega, walked⟩⟩

theorem nodup_walks {tops : List Node} {above : Option Node} (acyclic : Acyclic parent)
    (closed : ClosedIn nodes parent) (distinct : tops.Nodup) (within : ∀ top ∈ tops, top ∈ nodes)
    (siblings : ∀ top ∈ tops, parent top = above)
    (each : ∀ top ∈ tops, (preorder nodes parent rounds top).Nodup) :
    (tops.flatMap (preorder nodes parent rounds)).Nodup := by
  refine List.nodup_flatMap.mpr ⟨each, ?_⟩
  refine distinct.pairwise_of_forall_ne fun one oneMember two twoMember differ => ?_
  intro node inOne inTwo
  obtain ⟨-, steps, -, reachedOne⟩ := (mem_preorder closed (within one oneMember)).mp inOne
  obtain ⟨-, more, -, reachedTwo⟩ := (mem_preorder closed (within two twoMember)).mp inTwo
  have same := (siblings one oneMember).trans (siblings two twoMember).symm
  exact differ (ancestor_unique acyclic same reachedOne reachedTwo)

theorem nodup_preorder (acyclic : Acyclic parent) (closed : ClosedIn nodes parent) (distinct : nodes.Nodup)
    (member : node ∈ nodes) : (preorder nodes parent rounds node).Nodup := by
  induction rounds generalizing node with
  | zero => exact List.nodup_nil
  | succ rounds ih =>
      rw [preorder, List.nodup_cons]
      constructor
      · intro again
        obtain ⟨child, below, walked⟩ := List.mem_flatMap.mp again
        obtain ⟨childMember, childParent⟩ := mem_childrenIn.mp below
        obtain ⟨-, steps, -, reached⟩ := (mem_preorder closed childMember).mp walked
        refine acyclic node steps ?_
        rw [ancestor_succ, reached]
        exact childParent
      · exact nodup_walks acyclic closed (distinct.filter _) (fun child below => (mem_childrenIn.mp below).1)
          (fun child below => (mem_childrenIn.mp below).2)
          fun child below => ih (mem_childrenIn.mp below).1

theorem forest_perm_of_reached (acyclic : Acyclic parent) (closed : ClosedIn nodes parent)
    (distinct : nodes.Nodup) (reaches : ∀ node ∈ nodes, ∃ steps < rounds, ∃ root ∈ rootsIn nodes parent,
      ancestor parent steps node = some root) :
    ((rootsIn nodes parent).flatMap (preorder nodes parent rounds)).Perm nodes := by
  have walks : ((rootsIn nodes parent).flatMap (preorder nodes parent rounds)).Nodup :=
    nodup_walks acyclic closed (distinct.filter _) (fun root member => (mem_rootsIn.mp member).1)
      (fun root member => (mem_rootsIn.mp member).2)
      fun root member => nodup_preorder acyclic closed distinct (mem_rootsIn.mp member).1
  refine (List.perm_ext_iff_of_nodup walks distinct).mpr fun node => ?_
  rw [List.mem_flatMap]
  constructor
  · rintro ⟨root, rootMember, walked⟩
    exact ((mem_preorder closed (mem_rootsIn.mp rootMember).1).mp walked).1
  · intro member
    obtain ⟨steps, within, root, rootMember, reached⟩ := reaches node member
    exact ⟨root, rootMember, (mem_preorder closed (mem_rootsIn.mp rootMember).1).mpr
      ⟨member, steps, within, reached⟩⟩

theorem forest_perm (acyclic : Acyclic parent) (closed : ClosedIn nodes parent) (distinct : nodes.Nodup)
    (enough : nodes.length ≤ rounds) :
    ((rootsIn nodes parent).flatMap (preorder nodes parent rounds)).Perm nodes := by
  refine forest_perm_of_reached acyclic closed distinct fun node member => ?_
  obtain ⟨steps, within, reached⟩ := root_above acyclic closed member
  exact ⟨steps, Nat.lt_of_lt_of_le within enough, reached⟩

def levels (nodes : List Node) (parent : Node → Option Node) : Nat → List Node → Option (List Node)
  | 0, _ => none
  | rounds + 1, frontier =>
      let next := nodes.filter fun node => (parent node).any (· ∈ frontier)
      if next = [] then some [] else (levels nodes parent rounds next).map (next ++ ·)

theorem mem_next {frontier : List Node} :
    node ∈ (nodes.filter fun node => (parent node).any (· ∈ frontier)) ↔
      node ∈ nodes ∧ ∃ top ∈ frontier, parent node = some top := by
  simp only [List.mem_filter, Option.any_eq_true, decide_eq_true_eq]
  constructor
  · rintro ⟨member, top, isParent, listed⟩
    exact ⟨member, top, listed, isParent⟩
  · rintro ⟨member, top, listed, isParent⟩
    exact ⟨member, top, isParent, listed⟩

theorem mem_levels {frontier below : List Node} (closed : ClosedIn nodes parent)
    (found : levels nodes parent rounds frontier = some below) : node ∈ below ↔
      node ∈ nodes ∧ ∃ steps, ∃ top ∈ frontier, ancestor parent (steps + 1) node = some top := by
  induction rounds generalizing frontier below with
  | zero => cases found
  | succ rounds ih =>
      rw [levels] at found
      by_cases none : (nodes.filter fun node => (parent node).any (· ∈ frontier)) = []
      · simp only [none, ↓reduceIte, Option.some.injEq] at found
        subst found
        refine iff_of_false List.not_mem_nil ?_
        rintro ⟨member, steps, top, listed, reached⟩
        rw [ancestor_succ] at reached
        obtain ⟨middle, above, isParent⟩ := Option.bind_eq_some_iff.mp reached
        have inNext := mem_next.mpr ⟨closed.ancestor_mem member above, top, listed, isParent⟩
        rw [none] at inNext
        cases inNext
      · simp only [none, ↓reduceIte] at found
        obtain ⟨deeper, foundDeeper, rfl⟩ := Option.map_eq_some_iff.mp found
        rw [List.mem_append, mem_next, ih foundDeeper]
        constructor
        · rintro (⟨member, top, listed, isParent⟩ | ⟨member, steps, middle, inNext, above⟩)
          · exact ⟨member, 0, top, listed, by rw [ancestor_succ]; exact isParent⟩
          · obtain ⟨_, top, listed, isParent⟩ := mem_next.mp inNext
            refine ⟨member, steps + 1, top, listed, ?_⟩
            rw [ancestor_succ, above]
            exact isParent
        · rintro ⟨member, steps, top, listed, reached⟩
          rw [ancestor_succ] at reached
          obtain ⟨middle, above, isParent⟩ := Option.bind_eq_some_iff.mp reached
          cases steps with
          | zero =>
              cases above
              exact .inl ⟨member, top, listed, isParent⟩
          | succ steps =>
              refine .inr ⟨member, steps, middle, ?_, above⟩
              exact mem_next.mpr ⟨closed.ancestor_mem member above, top, listed, isParent⟩

theorem levels_some {frontier : List Node} (nonempty : frontier ≠ [])
    (short : ∀ top ∈ frontier, ∀ node steps, ancestor parent steps node = some top → steps < rounds) :
    ∃ below, levels nodes parent rounds frontier = some below := by
  induction rounds generalizing frontier with
  | zero =>
      obtain ⟨top, listed⟩ := List.exists_mem_of_ne_nil frontier nonempty
      exact absurd (short top listed top 0 rfl) (Nat.not_lt_zero 0)
  | succ rounds ih =>
      rw [levels]
      by_cases none : (nodes.filter fun node => (parent node).any (· ∈ frontier)) = []
      · exact ⟨[], if_pos none⟩
      · have deeper := ih none fun middle inNext node steps above => by
          obtain ⟨_, top, listed, isParent⟩ := mem_next.mp inNext
          have reached : ancestor parent (steps + 1) node = some top := by
            rw [ancestor_succ, above]
            exact isParent
          exact Nat.lt_of_succ_lt_succ (short top listed node (steps + 1) reached)
        obtain ⟨below, found⟩ := deeper
        exact ⟨_, by rw [if_neg none, found, Option.map_some]⟩

end Walk

end Forest

end Dosm
