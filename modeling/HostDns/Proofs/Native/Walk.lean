import HostDns.Native.Chain
import Mathlib.Data.Fintype.Card
import Mathlib.Data.List.FinRange

/-!
Where links lead, and what a walk along them answers.

Links are arbitrary: they may end, lead back to the head, into the middle, or from a node to itself.
`follow` says where a number of links leads without any memory of visited nodes, and `Visits` names
the distinct nodes in the order in which `follow` first comes to them. A walk answers exactly these
nodes, then a cycle if the links do not end, then nothing any more.
-/

namespace HostDns.Native

variable {α : Type}

/-- The node that a number of links leads to from a head, as long as there is one. -/
def follow (link : α → Option α) (head : Option α) : Nat → Option α
  | 0 => head
  | n + 1 => (follow link head n).bind link

/-- The links lead to a null link. -/
def Ends (link : α → Option α) (head : Option α) : Prop := ∃ n, follow link head n = none

/-- The links lead to a node that they have led to before. -/
def Cyclic (link : α → Option α) (head : Option α) : Prop :=
  ∃ i j node, i < j ∧ follow link head i = some node ∧ follow link head j = some node

/-- The distinct nodes that links lead to, in the order of the first visit. -/
structure Visits (link : α → Option α) (head : Option α) (path : List α) : Prop where
  nodup : path.Nodup
  follow_eq : ∀ i (h : i < path.length), follow link head i = some path[i]
  mem_of_follow : ∀ i node, follow link head i = some node → node ∈ path

/-- The links lead through these nodes, each once, and then end. -/
structure Lists (link : α → Option α) (head : Option α) (nodes : List α) : Prop where
  nodup : nodes.Nodup
  follow_eq : ∀ i ≤ nodes.length, follow link head i = nodes[i]?

section Follow

variable {link : α → Option α} {head : Option α}

theorem follow_eq_none_of_le {i j : Nat} (hij : i ≤ j) (h : follow link head i = none) :
    follow link head j = none := by
  induction j, hij using Nat.le_induction with
  | base => exact h
  | succ j _ ih => rw [follow, ih, Option.bind_none]

theorem follow_add_congr {i j : Nat} (h : follow link head i = follow link head j) :
    ∀ n, follow link head (i + n) = follow link head (j + n)
  | 0 => h
  | n + 1 => by
    rw [← Nat.add_assoc, ← Nat.add_assoc, follow, follow, follow_add_congr h n]

/-- Links that come back to a node never end. -/
theorem Cyclic.not_ends (h : Cyclic link head) : ¬ Ends link head := by
  classical
  intro hend
  obtain ⟨i, j, node, hij, hi, hj⟩ := h
  have hnone := Nat.find_spec hend
  set n := Nat.find hend with hn
  have hjn : j < n := by
    by_contra hle
    rw [follow_eq_none_of_le (Nat.le_of_not_lt hle) hnone] at hj
    cases hj
  -- the node at `j` stood at `i` already, so the end is met `j - i` links earlier
  have hearly : follow link head (i + (n - j)) = none := by
    rw [follow_add_congr (hi.trans hj.symm), Nat.add_sub_cancel' hjn.le, hnone]
  exact Nat.find_min hend (show i + (n - j) < n by omega) hearly

/-- After `n` links there is no new node: the links have ended or come back to an earlier node. -/
def Settled (link : α → Option α) (head : Option α) (n : Nat) : Prop :=
  follow link head n = none ∨ ∃ i < n, follow link head i = follow link head n

/-- All nodes are met before the links settle. -/
theorem Settled.exists_lt {n : Nat} (h : Settled link head n) (i : Nat) (node : α)
    (hi : follow link head i = some node) : ∃ k < n, follow link head k = some node := by
  induction i using Nat.strong_induction_on with
  | _ i ih =>
    rcases Nat.lt_or_ge i n with hlt | hle
    · exact ⟨i, hlt, hi⟩
    rcases h with hnone | ⟨k, hk, heq⟩
    · rw [follow_eq_none_of_le hle hnone] at hi
      cases hi
    · -- the links from `k` on repeat those from `n` on
      refine ih (k + (i - n)) (by omega) ?_
      rw [follow_add_congr heq, Nat.add_sub_cancel' hle, hi]

/-- Before the links settle they lead to one new node after the other. -/
theorem exists_visits {n : Nat} (h : Settled link head n) :
    ∃ path, Visits link head path ∧ path.length ≤ n := by
  classical
  have hex : ∃ n, Settled link head n := ⟨n, h⟩
  have hlen : Nat.find hex ≤ n := Nat.find_min' hex h
  have hspec := Nat.find_spec hex
  have hmin := fun i (hi : i < Nat.find hex) => Nat.find_min hex hi
  generalize Nat.find hex = len at hlen hspec hmin
  have hsome : ∀ i, i < len → ∃ node, follow link head i = some node := fun i hi =>
    Option.ne_none_iff_exists'.mp fun hnone => hmin i hi (Or.inl hnone)
  choose node hnode using hsome
  refine ⟨List.ofFn fun i : Fin len => node i i.isLt, ⟨?_, ?_, ?_⟩, by simpa using hlen⟩
  · rw [List.nodup_ofFn]
    intro i j hij
    have heq : follow link head i = follow link head j := by
      rw [hnode i i.isLt, hnode j j.isLt]; exact congrArg some hij
    rcases lt_trichotomy i j with hlt | rfl | hlt
    · exact absurd (Or.inr ⟨i, hlt, heq⟩) (hmin j j.isLt)
    · rfl
    · exact absurd (Or.inr ⟨j, hlt, heq.symm⟩) (hmin i i.isLt)
  · intro i hi
    rw [List.getElem_ofFn]
    exact hnode i (by simpa using hi)
  · intro i a ha
    obtain ⟨k, hk, hka⟩ := Settled.exists_lt hspec i a ha
    rw [List.mem_ofFn]
    exact ⟨⟨k, hk⟩, Option.some.inj ((hnode k hk).symm.trans hka)⟩

/-- More positions than nodes hold some node twice. -/
theorem exists_repeat {nodes : Finset α} {bound : Nat} (hcard : nodes.card < bound)
    (hmem : ∀ i < bound, ∃ node ∈ nodes, follow link head i = some node) :
    ∃ j < bound, ∃ i < j, follow link head i = follow link head j := by
  choose node hnode using hmem
  obtain ⟨i, _, j, _, hne, heq⟩ := Finset.exists_ne_map_eq_of_card_lt_of_maps_to
    (s := Finset.univ) (by simpa using hcard)
    fun (i : Fin bound) _ => Finset.mem_coe.mpr (hnode i i.isLt).1
  have hfollow : follow link head i = follow link head j := by
    rw [(hnode i i.isLt).2, (hnode j j.isLt).2, heq]
  rcases lt_or_gt_of_ne hne with hlt | hlt
  · exact ⟨j, j.isLt, i, hlt, hfollow⟩
  · exact ⟨i, i.isLt, j, hlt, hfollow.symm⟩

/-- Links within finitely many nodes settle after at most as many links. -/
theorem settled_of_closed {nodes : Finset α} (hhead : ∀ a, head = some a → a ∈ nodes)
    (hlink : ∀ a ∈ nodes, ∀ b, link a = some b → b ∈ nodes) :
    ∃ n ≤ nodes.card, Settled link head n := by
  have hmem : ∀ i a, follow link head i = some a → a ∈ nodes := by
    intro i
    induction i with
    | zero => exact hhead
    | succ i ih =>
      intro a ha
      obtain ⟨b, hb, hba⟩ := Option.bind_eq_some_iff.mp ha
      exact hlink b (ih b hb) a hba
  by_contra hnot
  push Not at hnot
  have hsome : ∀ i < nodes.card + 1, ∃ a ∈ nodes, follow link head i = some a := by
    intro i hi
    obtain ⟨a, ha⟩ := Option.ne_none_iff_exists'.mp fun hnone =>
      hnot i (Nat.le_of_lt_succ hi) (Or.inl hnone)
    exact ⟨a, hmem i a ha, ha⟩
  obtain ⟨j, hj, i, hij, heq⟩ := exists_repeat (Nat.lt_succ_self nodes.card) hsome
  exact hnot j (Nat.le_of_lt_succ hj) (Or.inr ⟨i, hij, heq⟩)

/-- Links that only finitely many nodes have settle one link later. -/
theorem settled_of_finite_links {nodes : Finset α} (hlink : ∀ a b, link a = some b → a ∈ nodes) :
    ∃ n ≤ nodes.card + 1, Settled link head n := by
  by_contra hnot
  push Not at hnot
  have hsome : ∀ i < nodes.card + 1, ∃ a ∈ nodes, follow link head i = some a := by
    intro i hi
    obtain ⟨b, hb⟩ := Option.ne_none_iff_exists'.mp fun hnone =>
      hnot (i + 1) hi (Or.inl hnone)
    obtain ⟨a, ha, hab⟩ := Option.bind_eq_some_iff.mp hb
    exact ⟨a, hlink a b hab, ha⟩
  obtain ⟨j, hj, i, hij, heq⟩ := exists_repeat (Nat.lt_succ_self nodes.card) hsome
  exact hnot j hj.le (Or.inr ⟨i, hij, heq⟩)

namespace Visits

variable {path : List α}

theorem length_le (hv : Visits link head path) {path' : List α} (hv' : Visits link head path') :
    path.length ≤ path'.length := by
  refine (List.subperm_of_subset hv.nodup fun a ha => ?_).length_le
  obtain ⟨i, hi, rfl⟩ := List.getElem_of_mem ha
  exact hv'.mem_of_follow i _ (hv.follow_eq i hi)

theorem unique (hv : Visits link head path) {path' : List α} (hv' : Visits link head path') :
    path = path' := by
  refine List.ext_getElem (le_antisymm (hv.length_le hv') (hv'.length_le hv)) fun i hi hi' => ?_
  exact Option.some.inj ((hv.follow_eq i hi).symm.trans (hv'.follow_eq i hi'))

theorem follow_length (hv : Visits link head path) :
    follow link head path.length = none ∨
      ∃ node ∈ path, follow link head path.length = some node := by
  cases hf : follow link head path.length with
  | none => exact Or.inl rfl
  | some node => exact Or.inr ⟨node, hv.mem_of_follow _ _ hf, rfl⟩

/-- A node that stands behind the distinct nodes is one that came before. -/
theorem cyclic_of_follow_length (hv : Visits link head path) {node : α}
    (h : follow link head path.length = some node) : Cyclic link head := by
  obtain ⟨i, hi, heq⟩ := List.getElem_of_mem (hv.mem_of_follow _ _ h)
  exact ⟨i, path.length, node, hi, by rw [hv.follow_eq i hi, heq], h⟩

theorem ends_iff (hv : Visits link head path) :
    Ends link head ↔ follow link head path.length = none := by
  refine ⟨fun hend => ?_, fun h => ⟨_, h⟩⟩
  rcases hv.follow_length with h | ⟨node, _, h⟩
  · exact h
  · exact absurd hend (hv.cyclic_of_follow_length h).not_ends

theorem cyclic_iff_not_ends (hv : Visits link head path) : Cyclic link head ↔ ¬ Ends link head := by
  refine ⟨Cyclic.not_ends, fun h => ?_⟩
  rcases hv.follow_length with hnone | ⟨node, _, hnode⟩
  · exact absurd ⟨_, hnone⟩ h
  · exact hv.cyclic_of_follow_length hnode

theorem lists (hv : Visits link head path) (hend : Ends link head) : Lists link head path := by
  refine ⟨hv.nodup, fun i hi => ?_⟩
  rcases hi.lt_or_eq with hlt | rfl
  · rw [hv.follow_eq i hlt, List.getElem?_eq_getElem hlt]
  · rw [hv.ends_iff.mp hend, List.getElem?_eq_none le_rfl]

theorem exists_link_of_cyclic (hv : Visits link head path) (hcyc : Cyclic link head) :
    ∀ a ∈ path, ∃ b, link a = some b := by
  intro a ha
  obtain ⟨i, hi, rfl⟩ := List.getElem_of_mem ha
  obtain ⟨b, hb⟩ := Option.ne_none_iff_exists'.mp fun hnone => hcyc.not_ends ⟨i + 1, hnone⟩
  rw [follow, hv.follow_eq i hi, Option.bind_some] at hb
  exact ⟨b, hb⟩

/-- A cycle has no more nodes than there are nodes with a link. -/
theorem length_le_of_cyclic (hv : Visits link head path) (hcyc : Cyclic link head)
    {nodes : Finset α} (hlink : ∀ a b, link a = some b → a ∈ nodes) :
    path.length ≤ nodes.card := by
  classical
  rw [← List.toFinset_card_of_nodup hv.nodup]
  refine Finset.card_le_card fun a ha => ?_
  obtain ⟨b, hb⟩ := hv.exists_link_of_cyclic hcyc a (List.mem_toFinset.mp ha)
  exact hlink a b hb

end Visits

namespace Lists

variable {nodes : List α}

theorem ends (hl : Lists link head nodes) : Ends link head :=
  ⟨nodes.length, by rw [hl.follow_eq _ le_rfl, List.getElem?_eq_none le_rfl]⟩

/-- The nodes up to the end are all distinct nodes. -/
theorem visits (hl : Lists link head nodes) : Visits link head nodes := by
  refine ⟨hl.nodup, fun i hi => ?_, fun i node hnode => ?_⟩
  · rw [hl.follow_eq i hi.le, List.getElem?_eq_getElem hi]
  · rcases le_total i nodes.length with hi | hi
    · rw [hl.follow_eq i hi] at hnode
      exact List.mem_of_getElem? hnode
    · have hlast : follow link head nodes.length = none := by
        rw [hl.follow_eq _ le_rfl, List.getElem?_eq_none le_rfl]
      rw [follow_eq_none_of_le hi hlast] at hnode
      cases hnode

end Lists

end Follow

namespace Walk

variable [DecidableEq α] {link : α → Option α} {head : Option α} {path : List α} {list : String}

/-- The walk that has answered the first `k` nodes of a path. -/
def along (link : α → Option α) (head : Option α) (path : List α) (k : Nat) : Walk α :=
  ⟨follow link head k, (path.take k).reverse, false⟩

/-- A walk comes from each distinct node to the next one. -/
theorem next_along (hv : Visits link head path) {k : Nat} (hk : k < path.length) :
    (along link head path k).next link list =
      (some (.ok path[k]), along link head path (k + 1)) := by
  have hnew : path[k] ∉ (path.take k).reverse := by
    rw [List.mem_reverse, List.mem_take_iff_getElem]
    rintro ⟨i, hi, heq⟩
    have := (List.Nodup.getElem_inj_iff hv.nodup).mp heq
    omega
  simp only [along, next, hv.follow_eq k hk, hnew, if_false, follow, Option.bind_some,
    List.take_succ_eq_append_getElem hk, List.reverse_append, List.reverse_singleton,
    List.singleton_append]

theorem next_of_none {visited : List α} {ended : Bool} :
    next link list ⟨none, visited, ended⟩ = (none, ⟨none, visited, ended⟩) := by
  cases ended <;> rfl

theorem next_of_ended {current : Option α} {visited : List α} :
    next link list ⟨current, visited, true⟩ = (none, ⟨current, visited, true⟩) := rfl

theorem next_of_repeat {node : α} {visited : List α} (h : node ∈ visited) :
    next link list ⟨some node, visited, false⟩ =
      (some (.error ⟨list, visited.length⟩), ⟨some node, visited, true⟩) := by
  simp only [next, h, if_true]

theorem calls_succ (w : Walk α) (n : Nat) :
    w.calls link list (n + 1) =
      (w.next link list).1 :: (w.next link list).2.calls link list n := rfl

theorem calls_of_fixed {w : Walk α} (h : w.next link list = (none, w)) :
    ∀ n, w.calls link list n = List.replicate n none
  | 0 => rfl
  | n + 1 => by rw [calls_succ, h, calls_of_fixed h n, List.replicate_succ]

/-- The first answers of a walk are the distinct nodes in order. -/
theorem calls_along (hv : Visits link head path) (n : Nat) : ∀ k ≤ path.length,
    (along link head path (path.length - k)).calls link list (k + n) =
      (path.drop (path.length - k)).map (some ∘ .ok) ++
        (along link head path path.length).calls link list n
  | 0, _ => by simp
  | k + 1, hk => by
    have hlt : path.length - (k + 1) < path.length := by omega
    have hnext : path.length - (k + 1) + 1 = path.length - k := by omega
    rw [Nat.succ_add, calls_succ, next_along hv hlt, List.drop_eq_getElem_cons hlt, hnext,
      calls_along hv n k (by omega)]
    rfl

/-- The first answers of a walk from its start are the distinct nodes in order. -/
theorem calls_start (hv : Visits link head path) (n : Nat) :
    (start head).calls link list (path.length + n) =
      path.map (some ∘ .ok) ++ (along link head path path.length).calls link list n := by
  have h : _ = _ ++ (along link head path path.length).calls link list n :=
    calls_along hv n path.length le_rfl
  rw [Nat.sub_self, List.drop_zero] at h
  exact h

/-- Where the links end, a walk answers nothing behind the distinct nodes. -/
theorem calls_of_ends (hv : Visits link head path) (hend : Ends link head) (n : Nat) :
    (start head).calls link list (path.length + n) =
      path.map (some ∘ .ok) ++ List.replicate n none := by
  rw [calls_start hv, along, hv.ends_iff.mp hend, calls_of_fixed next_of_none]

/-- Where the links do not end, a walk reports one cycle behind the distinct nodes, and then answers
nothing. -/
theorem calls_of_cyclic (hv : Visits link head path) (hcyc : Cyclic link head) (n : Nat) :
    (start head).calls link list (path.length + (n + 1)) =
      path.map (some ∘ .ok) ++ some (.error ⟨list, path.length⟩) :: List.replicate n none := by
  obtain ⟨node, hmem, hnode⟩ : ∃ node ∈ path, follow link head path.length = some node :=
    hv.follow_length.resolve_left fun h => hcyc.not_ends ⟨_, h⟩
  rw [calls_start hv, along, hnode, List.take_length, calls_succ,
    next_of_repeat (List.mem_reverse.mpr hmem), List.length_reverse, calls_of_fixed next_of_ended]

theorem map_some_items : ∀ (n : Nat) (w : Walk α),
    (w.items link list n).map some = (w.calls link list n).takeWhile Option.isSome
  | 0, _ => rfl
  | n + 1, w => by
    rw [calls_succ, items]
    rcases hw : w.next link list with ⟨_ | item, w'⟩
    · rfl
    · rw [List.map_cons, map_some_items n w']; rfl

theorem items_eq_of_calls {n k : Nat} {w : Walk α} {answers : List (Except Cycle α)}
    (h : w.calls link list n = answers.map some ++ List.replicate (k + 1) none) :
    w.items link list n = answers := by
  apply List.map_injective_iff.mpr (Option.some_injective _)
  rw [map_some_items, h, List.takeWhile_append_of_pos (by simp), List.replicate_succ]
  simp

/-- Where the links end, a walk that is called often enough answers the distinct nodes. -/
theorem items_of_ends (hv : Visits link head path) (hend : Ends link head) {n : Nat}
    (hn : path.length < n) : (start head).items link list n = path.map .ok := by
  obtain ⟨k, rfl⟩ := Nat.exists_eq_add_of_lt hn
  refine items_eq_of_calls (k := k) ?_
  rw [Nat.add_assoc, calls_of_ends hv hend, List.map_map]

/-- Where the links do not end, a walk that is called often enough answers the distinct nodes and the
cycle. -/
theorem items_of_cyclic (hv : Visits link head path) (hcyc : Cyclic link head) {n : Nat}
    (hn : path.length + 1 < n) :
    (start head).items link list n = path.map .ok ++ [.error ⟨list, path.length⟩] := by
  obtain ⟨k, rfl⟩ := Nat.exists_eq_add_of_lt hn
  refine items_eq_of_calls (k := k) ?_
  rw [show path.length + 1 + k + 1 = path.length + (k + 1 + 1) by omega, calls_of_cyclic hv hcyc,
    List.map_append, List.map_map, List.append_assoc]
  rfl

/-- A walk over finitely many nodes, each linked to one of them or to nothing, answers the nodes on
the way to a null link and then nothing any more; if there is no null link on the way, it answers each
node it can reach once, in the order of the first visit, then one cycle with the number of these
nodes, and then nothing any more. At the latest the call after the last node and a cycle answers
nothing. -/
theorem calls_of_finite (nodes : Finset α) (link : α → Option α)
    (hlink : ∀ a ∈ nodes, ∀ b, link a = some b → b ∈ nodes) (head : Option α)
    (hhead : ∀ a, head = some a → a ∈ nodes) (list : String) :
    (Ends link head ∨ Cyclic link head) ∧
    (Ends link head → ∃ path : List α, Lists link head path ∧
      ∀ n, (start head).calls link list (path.length + n) =
        path.map (some ∘ .ok) ++ List.replicate n none) ∧
    (Cyclic link head → ∃ path : List α, Visits link head path ∧
      ∀ n, (start head).calls link list (path.length + (n + 1)) =
        path.map (some ∘ .ok) ++ some (.error ⟨list, path.length⟩) :: List.replicate n none) ∧
    none ∈ (start head).calls link list (nodes.card + 2) := by
  obtain ⟨n, hn, hsettled⟩ := settled_of_closed hhead hlink
  obtain ⟨path, hv, hlen⟩ := exists_visits hsettled
  have hcases : Ends link head ∨ Cyclic link head := by
    rw [hv.cyclic_iff_not_ends]; exact em _
  refine ⟨hcases, fun hend => ⟨path, hv.lists hend, calls_of_ends hv hend⟩,
    fun hcyc => ⟨path, hv, calls_of_cyclic hv hcyc⟩, ?_⟩
  rcases hcases with hend | hcyc
  · rw [show nodes.card + 2 = path.length + (nodes.card - path.length + 2) by omega,
      calls_of_ends hv hend]
    simp
  · rw [show nodes.card + 2 = path.length + (nodes.card - path.length + 1 + 1) by omega,
      calls_of_cyclic hv hcyc]
    simp

/-- Three nodes of which the last leads back to the second: three answers, the cycle after three nodes,
and nothing any more. -/
theorem calls_of_finite_tail_and_loop :
    let link : Nat → Option Nat := fun a => if a = 3 then some 2 else some (a + 1)
    (∀ a ∈ ({1, 2, 3} : Finset Nat), ∀ b, link a = some b → b ∈ ({1, 2, 3} : Finset Nat)) ∧
    (∀ a, some 1 = some a → a ∈ ({1, 2, 3} : Finset Nat)) ∧ Cyclic link (some 1) ∧
    (∃ path : List Nat, Visits link (some 1) path ∧
      ∀ n, (start (some 1)).calls link "prefix" (path.length + (n + 1)) =
        path.map (some ∘ .ok) ++ some (.error ⟨"prefix", path.length⟩) :: List.replicate n none) ∧
    none ∈ (start (some 1)).calls link "prefix" 5 := by
  intro link
  have hlink : ∀ a ∈ ({1, 2, 3} : Finset Nat), ∀ b, link a = some b →
      b ∈ ({1, 2, 3} : Finset Nat) := by
    intro a ha b hb
    simp only [Finset.mem_insert, Finset.mem_singleton] at ha ⊢
    rcases ha with rfl | rfl | rfl <;> cases hb <;> decide
  have hhead : ∀ a, some 1 = some a → a ∈ ({1, 2, 3} : Finset Nat) := by
    rintro a ⟨⟩
    decide
  have hcyc : Cyclic link (some 1) := ⟨1, 3, 2, by decide, rfl, rfl⟩
  have h := calls_of_finite {1, 2, 3} link hlink (some 1) hhead "prefix"
  exact ⟨hlink, hhead, hcyc, h.2.2.1 hcyc, h.2.2.2⟩

end Walk

end HostDns.Native
