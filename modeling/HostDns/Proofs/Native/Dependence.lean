import HostDns.Proofs.Native.Content

/-!
Reading a block depends on its content alone.

Lists are walked to the same nodes where the links of these nodes agree, however many calls are made
as long as they are enough. An adapter with a list that runs into itself ends the reading, so what
stands behind that list does not count: neither the further lists nor the adapters that follow.
-/

namespace HostDns

namespace Native

/-- Nodes that a head is among and that are linked to one another only are all that is met. -/
theorem Meets.mem_of_closed {α : Type} {link : α → Option α} {goesOn : α → Prop} {nodes : List α}
    (hlink : ∀ a ∈ nodes, ∀ b ∈ link a, b ∈ nodes) {head : Option α} {a : α}
    (h : Meets link goesOn head a) (hhead : ∀ b ∈ head, b ∈ nodes) : a ∈ nodes := by
  induction h with
  | here a => exact hhead a rfl
  | later _ _ ih => exact ih (hlink _ (hhead _ rfl))

theorem exceptBind_congr {ε β γ : Type} {x x' : Except ε β} {f f' : β → Except ε γ} (hx : x' = x)
    (hf : ∀ b, x = .ok b → f' b = f b) : x' >>= f' = x >>= f := by
  subst hx
  rcases x' with _ | b
  · rfl
  · exact hf b rfl

namespace Walk

variable {α : Type} [DecidableEq α] {list : String}

/-- More calls answer nothing more behind a call that answers nothing. -/
theorem items_add {link : α → Option α} (k : Nat) : ∀ (n : Nat) (w : Walk α),
    none ∈ w.calls link list n → w.items link list (n + k) = w.items link list n
  | 0, _, h => absurd h List.not_mem_nil
  | n + 1, w, h => by
    rw [calls_succ] at h
    rw [Nat.succ_add, items, items]
    rcases hw : w.next link list with ⟨_ | item, w'⟩
    · rfl
    · rw [hw] at h
      have hrest : none ∈ w'.calls link list n := by simpa using h
      simp only [items_add k n w' hrest]

/-- Walks along links that agree on all nodes that are met are read to the same. -/
theorem mapM_items_congr {β : Type} {link link' : α → Option α} {goesOn : α → Prop}
    {f f' : α → Except Cycle β} (hgoes : ∀ a b, f a = .ok b → goesOn a) :
    ∀ (n : Nat) (w : Walk α),
      (∀ a, Meets link goesOn w.current a → link' a = link a ∧ f' a = f a) →
      (w.items link' list n).mapM (· >>= f') = (w.items link list n).mapM (· >>= f)
  | 0, _, _ => rfl
  | n + 1, ⟨current, visited, ended⟩, h => by
    rcases ended with _ | _
    · rcases current with _ | a
      · rfl
      by_cases hvisited : a ∈ visited
      · rw [items, items, next_of_repeat hvisited, next_of_repeat hvisited, List.mapM_cons,
          List.mapM_cons]
        rfl
      · obtain ⟨hlink, hf⟩ := h a (.here a)
        have hnext : ∀ l : α → Option α, next l list ⟨some a, visited, false⟩ =
            (some (.ok a), ⟨l a, a :: visited, false⟩) := fun l => by
          simp only [next, hvisited, if_false]
        rw [items, items, hnext, hnext, List.mapM_cons, List.mapM_cons, hlink]
        have hfa : (Except.ok a >>= f') = (Except.ok a >>= f) := hf
        refine exceptBind_congr hfa fun b hb => ?_
        rw [mapM_items_congr hgoes n ⟨link a, a :: visited, false⟩ fun b' hb' =>
          h b' (.later (hgoes a b hb) hb')]
    · rfl
end Walk

namespace Memory

/-! ### Lists are walked and read the same -/

section Lists

variable {m m' : Memory}

/-- The answers of a walk do not depend on the number of calls as long as it is enough. -/
theorem nodeAnswers_eq_items (m : Memory) (layout : Layout) (name : String) (head : Option Nat)
    (k : Nat) : m.nodeAnswers (layout.offset "next") name head =
      (Walk.start head).items (m.links layout) name (m.extent + 2 + k) :=
  (Walk.items_add k _ _ (m.none_mem_calls ⟨name, layout, head⟩)).symm

/-- Lists whose nodes agree as far as they are met are read to the same. -/
theorem mapM_nodeAnswers_congr {β : Type} {layout : Layout} {head : Option Nat}
    {goesOn : Nat → Prop} {f f' : Nat → Except Cycle β} (hgoes : ∀ a b, f a = .ok b → goesOn a)
    (h : ∀ a, Meets (m.links layout) goesOn head a →
      m'.links layout a = m.links layout a ∧ f' a = f a) (name : String) :
    (m'.nodeAnswers (layout.offset "next") name head).mapM (· >>= f') =
      (m.nodeAnswers (layout.offset "next") name head).mapM (· >>= f) := by
  have hcalls : m'.extent + 2 + m.extent = m.extent + 2 + m'.extent := by omega
  rw [nodeAnswers_eq_items m' layout name head m.extent,
    nodeAnswers_eq_items m layout name head m'.extent, hcalls]
  exact Walk.mapM_items_congr hgoes _ _ h

/-- Answers may be read at once or when all of them are there. -/
theorem mapM_ok_eq_bind {β : Type} (read : Nat → β) (answers : List (Except Cycle Nat)) :
    answers.mapM (· >>= fun n => .ok (read n)) =
      answers.mapM id >>= fun nodes => .ok (nodes.map read) := by
  induction answers with
  | nil => rfl
  | cons answer answers ih =>
    rw [List.mapM_cons, List.mapM_cons, ih]
    rcases answer with c | n
    · rfl
    · rcases answers.mapM id with c | nodes <;> rfl

/-- The values of a list are those of its nodes as they are answered. -/
theorem collect_eq_bind {β : Type} (m : Memory) (layout : Layout) (name : String)
    (head : Option Nat) (read : Nat → Option β) :
    m.collect layout name head read =
      (m.nodeAnswers (layout.offset "next") name head).mapM (· >>= fun n => .ok (read n)) >>=
        fun values => .ok (values.filterMap id) := by
  rw [collect, mapM_ok_eq_bind, bind_assoc]
  refine bind_congr fun nodes => ?_
  change Except.ok _ = Except.ok _
  rw [List.filterMap_map, Function.id_comp]

/-- The values of a list are read the same. -/
theorem SameList.collect {β : Type} {layout : Layout} {address : Nat} {same : Nat → Prop}
    (h : m.SameList m' layout address same) {read read' : Nat → Option β}
    (hsame : ∀ n, same n → m'.links layout n = m.links layout n ∧ read' n = read n)
    (name : String) :
    m'.collect layout name (m'.pointer address) read' =
      m.collect layout name (m.pointer address) read := by
  obtain ⟨hpointer, hnodes⟩ := h
  rw [hpointer.pointer, collect_eq_bind, collect_eq_bind,
    mapM_nodeAnswers_congr (fun _ _ _ => trivial) fun a ha => ?_]
  obtain ⟨hlink, hread⟩ := hsame a (hnodes a ha)
  exact ⟨hlink, congrArg Except.ok hread⟩

/-- A list that is read does not run into itself. -/
theorem not_isCyclic_of_collect {β : Type} {layout : Layout} {name : String} {head : Option Nat}
    {read : Nat → Option β} {values : List β} (h : m.collect layout name head read = .ok values) :
    ¬ m.IsCyclic ⟨name, layout, head⟩ := by
  rcases walks_collect layout name head read (m := m) with ⟨_, _, _, hfine⟩ | ⟨c, herror, _⟩
  · exact hfine _ List.mem_cons_self
  · rw [h] at herror
    cases herror

theorem ListsEnd.succ {node count : Nat} (h : m.ListsEnd node count)
    (hcount : count < (m.listsOf node).length) (hfine : ¬ m.IsCyclic (m.listsOf node)[count]) :
    m.ListsEnd node (count + 1) := by
  intro l hl
  rw [List.take_succ_eq_append_getElem hcount, List.mem_append, List.mem_singleton] at hl
  rcases hl with hl | rfl
  · exact h l hl
  · exact hfine

theorem SameAddress.links_eq {node : Nat} (h : m.SameAddress m' node) {layout : Layout}
    (hoffset : layout.offset "next" = 8) : m'.links layout node = m.links layout node := by
  rw [links, links, hoffset, h.next.pointer]

theorem SameSuffix.links_eq {node : Nat} (h : m.SameSuffix m' node) :
    m'.links suffixNode node = m.links suffixNode node := by
  rw [links, links, show suffixNode.offset "next" = 0 from rfl, Nat.add_zero, h.next.pointer]

theorem SameAdapter.links_eq {node : Nat} (h : m.SameAdapter m' node) :
    m'.links adapterNode node = m.links adapterNode node := by
  rw [links, links, show adapterNode.offset "next" = 8 from rfl, h.next.pointer]

theorem SameList.sockets {second : String} {address : Nat}
    (h : m.SameList m' (addressNode second) address (m.SameAddress m'))
    (hlink : (addressNode second).offset "next" = 8)
    (haddress : (addressNode second).offset "address" = 16) (name : String) :
    m'.sockets second name (m'.pointer address) = m.sockets second name (m.pointer address) :=
  h.collect (fun _ hn => ⟨hn.links_eq hlink, hn.socketAt second haddress⟩) name

/-- An adapter is read the same with all its lists, or runs into the same cycle. -/
theorem SameAdapter.adapter {node : Nat} (h : m.SameAdapter m' node) :
    m'.adapter node = m.adapter node := by
  have hunicastNodes := fun n (hn : m.SameUnicast m' n) =>
    And.intro (show m'.links unicastNode n = m.links unicastNode n from hn.links_eq rfl) hn.unicast
  have hprefixNodes := fun n (hn : m.SamePrefix m' n) =>
    And.intro (show m'.links prefixNode n = m.links prefixNode n from hn.links_eq rfl)
      hn.addressPrefix
  have hsuffixNodes := fun n (hn : m.SameSuffix m' n) => And.intro hn.links_eq hn.suffix
  simp only [Memory.adapter]
  -- a list counts only if those before it have been read, so none of them runs into itself
  have h0 : m.ListsEnd node 0 := fun l hl => absurd hl List.not_mem_nil
  refine exceptBind_congr (h.unicast.collect hunicastNodes _) fun _ hunicast => ?_
  have h1 := h0.succ (show 0 < 8 by decide) (not_isCyclic_of_collect hunicast)
  refine exceptBind_congr ((h.anycast h1).sockets rfl rfl _) fun _ hanycast => ?_
  have h2 := h1.succ (show 1 < 8 by decide) (not_isCyclic_of_collect hanycast)
  refine exceptBind_congr ((h.multicast h2).sockets rfl rfl _) fun _ hmulticast => ?_
  have h3 := h2.succ (show 2 < 8 by decide) (not_isCyclic_of_collect hmulticast)
  refine exceptBind_congr ((h.dnsServers h3).sockets rfl rfl _) fun _ hdnsServers => ?_
  have h4 := h3.succ (show 3 < 8 by decide) (not_isCyclic_of_collect hdnsServers)
  refine exceptBind_congr ((h.prefixes h4).collect hprefixNodes _) fun _ hprefixes => ?_
  have h5 := h4.succ (show 4 < 8 by decide) (not_isCyclic_of_collect hprefixes)
  refine exceptBind_congr ((h.winsServers h5).sockets rfl rfl _) fun _ hwinsServers => ?_
  have h6 := h5.succ (show 5 < 8 by decide) (not_isCyclic_of_collect hwinsServers)
  refine exceptBind_congr ((h.gateways h6).sockets rfl rfl _) fun _ hgateways => ?_
  have h7 := h6.succ (show 6 < 8 by decide) (not_isCyclic_of_collect hgateways)
  refine exceptBind_congr ((h.dnsSuffixes h7).collect hsuffixNodes _) fun _ _ => ?_
  rw [h.adapterAlone]

theorem not_isCyclic_of_adapter (node : Nat) (r : Adapter) (h : m.adapter node = .ok r) :
    ∀ l ∈ m.listsOf node, ¬ m.IsCyclic l := by
  rcases m.walks_adapter node with ⟨_, _, _, hfine⟩ | ⟨c, herror, _⟩
  · exact hfine
  · rw [h] at herror
    cases herror

theorem SameText.of_pointer {address : Nat} {text : Nat → Prop} (target : Option Nat)
    (h : m.Same m' address 8) (hpointer : m.pointer address = target)
    (htext : ∀ t ∈ target, text t) : m.SameText m' address text :=
  ⟨h, hpointer ▸ htext⟩

theorem SameList.of_closed {layout : Layout} {address : Nat} {same : Nat → Prop}
    (nodes : List Nat) (hpointer : m.Same m' address 8)
    (hhead : ∀ b ∈ m.pointer address, b ∈ nodes)
    (hlink : ∀ a ∈ nodes, ∀ b ∈ m.links layout a, b ∈ nodes) (hsame : ∀ a ∈ nodes, same a) :
    m.SameList m' layout address same :=
  ⟨hpointer, fun _ hn => hsame _ (hn.mem_of_closed hlink hhead)⟩

end Lists

/-- A block is read by its content alone: memories that agree on that are read to the same records
or the same cycle from every head, whatever their other bytes are. -/
theorem adapters_eq_of_sameBlock (m m' : Memory) (head : Option Nat) (h : m.SameBlock m' head) :
    m'.adapters head = m.adapters head :=
  mapM_nodeAnswers_congr not_isCyclic_of_adapter
    (fun a ha => ⟨(h a ha).links_eq, (h a ha).adapter⟩) "adapter"

/-- An adapter with a unicast and an anycast address, a server of an unknown family, DHCP servers
without a length that covers a family and without a pointer, and a suffix. -/
def plainPieces : List (Nat × List UInt8) := [
  (4100, leBytes 4 7), (4112, leBytes 8 4544), (4120, leBytes 8 4560 ++ leBytes 8 4640),
  (4144, leBytes 8 4704), (4168, leBytes 8 4552), (4176, [1, 2, 3]), (4184, leBytes 4 3),
  (4328, leBytes 8 4744 ++ leBytes 4 1), (4524, leBytes 4 500), (4536, leBytes 8 4752),
  (4544, narrowBytes "A"), (4552, wideBytes "A"),
  (4576, leBytes 8 4624 ++ leBytes 4 16), (4616, [24]),
  (4624, socketBytes (.v4 ⟨10, 0, 0, 1⟩ 53)),
  (4656, leBytes 8 4672 ++ leBytes 4 28),
  (4672, socketBytes (.v6 ⟨#v[0xFE80, 0, 0, 0, 0, 0, 0, 9]⟩ 53 0x01020304 7)),
  (4720, leBytes 8 4736 ++ leBytes 4 28), (4736, leBytes 2 5), (4760, wideBytes "a")]

/-- Bytes that no record tells of: lengths, flags, reserved and unused ones, a length without a
pointer, and what follows an address, a text, a family or a buffer. -/
def strayPieces : List (Nat × List UInt8) := [
  (4096, [1, 2, 3, 4]), (4179, [1, 2, 3, 4, 5]), (4340, [1, 2, 3, 4]), (4384, [1, 2, 3, 4]),
  (4522, [1, 2]), (4546, [1, 2]), (4556, [1, 2]), (4560, [1, 2, 3, 4]), (4588, [1, 2, 3, 4]),
  (4617, [1, 2, 3, 4, 5, 6, 7]), (4632, [1, 2, 3, 4, 5, 6, 7, 8]),
  (4640, [1, 2, 3, 4, 5, 6, 7, 8]), (4700, [1, 2, 3, 4]), (4704, [1, 2, 3, 4, 5, 6, 7, 8]),
  (4738, [1, 2, 3, 4]), (4744, [1, 2]), (4764, [1, 2]), (5272, [1, 2])]

/-- The block without stray bytes. -/
def plainMemory : Memory := .ofPieces plainPieces

/-- The block with stray bytes. -/
def strayMemory : Memory := .ofPieces (strayPieces ++ plainPieces)

/-- The stray bytes differ everywhere, and the block is read the same. -/
theorem adapters_eq_of_sameBlock_stray :
    (∀ p ∈ strayPieces, ∀ i < p.2.length,
      strayMemory.byte (p.1 + i) ≠ plainMemory.byte (p.1 + i)) ∧
    plainMemory.SameBlock strayMemory (some 4096) ∧
    strayMemory.adapters (some 4096) = plainMemory.adapters (some 4096) := by
  have hunicast : plainMemory.SameUnicast strayMemory 4560 :=
    ⟨⟨by decide +kernel, by decide +kernel⟩, by decide +kernel, by decide +kernel⟩
  have hanycast : plainMemory.SameAddress strayMemory 4640 :=
    ⟨by decide +kernel, by decide +kernel⟩
  have hserver : plainMemory.SameAddress strayMemory 4704 :=
    ⟨by decide +kernel, by decide +kernel⟩
  have hsuffix : plainMemory.SameSuffix strayMemory 4752 :=
    ⟨by decide +kernel, Or.inr ⟨1, by decide, by decide +kernel, by decide +kernel⟩⟩
  have hname : plainMemory.SameText strayMemory 4112 (plainMemory.SameBytesToNul strayMemory) :=
    .of_pointer (some 4544) (by decide +kernel) (by decide +kernel)
      (by rintro _ ⟨⟩; exact ⟨1, by decide +kernel, by decide +kernel⟩)
  have hfriendly :
      plainMemory.SameText strayMemory 4168 (plainMemory.SameUnitsToNul strayMemory) :=
    .of_pointer (some 4552) (by decide +kernel) (by decide +kernel)
      (by rintro _ ⟨⟩; exact ⟨1, by decide +kernel, by decide +kernel⟩)
  have hadapter : plainMemory.SameAdapter strayMemory 4096 := by
    constructor
    case adapterName => exact hname
    case friendlyName => exact hfriendly
    case dnsSuffix | description =>
      exact .of_pointer none (by decide +kernel) (by decide +kernel) (by simp)
    case unicast =>
      exact .of_closed [4560] (by decide +kernel) (by decide +kernel) (by decide +kernel)
        (by simpa using hunicast)
    case anycast =>
      exact fun _ => .of_closed [4640] (by decide +kernel) (by decide +kernel) (by decide +kernel)
        (by simpa using hanycast)
    case dnsServers =>
      exact fun _ => .of_closed [4704] (by decide +kernel) (by decide +kernel) (by decide +kernel)
        (by simpa using hserver)
    case dnsSuffixes =>
      exact fun _ => .of_closed [4752] (by decide +kernel) (by decide +kernel) (by decide +kernel)
        (by simpa using hsuffix)
    case multicast | prefixes | winsServers | gateways =>
      exact fun _ => .of_closed [] (by decide +kernel) (by decide +kernel) (by simp) (by simp)
    all_goals decide +kernel
  have h : plainMemory.SameBlock strayMemory (some 4096) := by
    intro node hnode
    have hchain : node ∈ [4096] := hnode.mem_of_closed (by decide +kernel) (by decide)
    obtain rfl := List.mem_singleton.mp hchain
    exact hadapter
  exact ⟨by decide +kernel, h, adapters_eq_of_sameBlock _ _ _ h⟩

end Memory

end Native

end HostDns
