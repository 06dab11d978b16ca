import HostDns.Native.Block
import HostDns.Proofs.Native.Walk

/-!
What reading the adapters of a block comes to.

A block may link its nodes in any way and share them between lists. It is read without an error
exactly if no list that is walked runs into itself, and then every list holds what its own nodes are
read to. Otherwise the error is the first cycle in the order in which the lists are walked to their
end: the lists of each adapter as they are read, and the adapters' own list behind all of these.
-/

namespace HostDns

/-- What an adapter holds beside its lists. -/
def Adapter.withoutLists (r : Adapter) : Adapter :=
  { r with
    unicast := [], anycast := [], multicast := [], dnsServers := [], prefixes := []
    winsServers := [], gateways := [], dnsSuffixes := [] }

namespace Native

/-- A list of a block: what reports call it, how its nodes are laid out, and its first node. -/
structure NativeList where
  name : String
  layout : Layout
  head : Option Nat

namespace Memory

/-- Where a node of a layout links to. -/
def links (m : Memory) (layout : Layout) (address : Nat) : Option Nat :=
  m.pointer (address + layout.offset "next")

/-- The list runs into itself. -/
def IsCyclic (m : Memory) (l : NativeList) : Prop := Cyclic (m.links l.layout) l.head

/-- These are the distinct nodes of the list, in order. -/
def HasNodes (m : Memory) (l : NativeList) (nodes : List Nat) : Prop :=
  Visits (m.links l.layout) l.head nodes

/-- The lists of an adapter in the order in which they are read. -/
def listsOf (m : Memory) (node : Nat) : List NativeList :=
  let first (field : String) := m.pointer (node + adapterNode.offset field)
  [⟨"unicast", unicastNode, first "first_unicast_address"⟩,
    ⟨"anycast", addressNode "flags", first "first_anycast_address"⟩,
    ⟨"multicast", addressNode "flags", first "first_multicast_address"⟩,
    ⟨"dns server", addressNode "reserved", first "first_dns_server_address"⟩,
    ⟨"prefix", prefixNode, first "first_prefix"⟩,
    ⟨"wins server", addressNode "reserved", first "first_wins_server_address"⟩,
    ⟨"gateway", addressNode "reserved", first "first_gateway_address"⟩,
    ⟨"dns suffix", suffixNode, first "first_dns_suffix"⟩]

/-- The lists of a block with these adapters, in the order in which they are walked to their end. -/
def listsOfBlock (m : Memory) (head : Option Nat) (chain : List Nat) : List NativeList :=
  chain.flatMap m.listsOf ++ [⟨"adapter", adapterNode, head⟩]

/-- The first list of several that runs into itself, reported with the number of its nodes. -/
inductive FirstCycle (m : Memory) : List NativeList → Cycle → Prop
  | here {l : NativeList} {rest : List NativeList} {nodes : List Nat} (hcyc : m.IsCyclic l)
      (hnodes : m.HasNodes l nodes) : FirstCycle m (l :: rest) ⟨l.name, nodes.length⟩
  | later {l : NativeList} {rest : List NativeList} {c : Cycle} (hfine : ¬ m.IsCyclic l)
      (hrest : FirstCycle m rest c) : FirstCycle m (l :: rest) c

/-- Values are what the nodes of a list are read to, in order and without those that have no value.
The list ends. -/
def ReadsTo {β : Type} (m : Memory) (layout : Layout) (head : Option Nat) (read : Nat → Option β)
    (values : List β) : Prop :=
  ∃ nodes : List Nat, Lists (m.links layout) head nodes ∧ values = nodes.filterMap read

/-- A record holds what its node tells, and in each list what the nodes of that list are read to: one
value for every node whose socket can be read, or whose suffix has a text. -/
structure IsRecord (m : Memory) (node : Nat) (r : Adapter) : Prop where
  alone : r.withoutLists = m.adapterAlone node
  unicast : m.ReadsTo unicastNode (m.pointer (node + adapterNode.offset "first_unicast_address"))
    m.unicast r.unicast
  unicastSockets :
    m.ReadsTo unicastNode (m.pointer (node + adapterNode.offset "first_unicast_address"))
      (fun n => m.socketAt (n + unicastNode.offset "address")) (r.unicast.map (·.address))
  anycast :
    m.ReadsTo (addressNode "flags") (m.pointer (node + adapterNode.offset "first_anycast_address"))
      (fun n => m.socketAt (n + (addressNode "flags").offset "address")) r.anycast
  multicast :
    m.ReadsTo (addressNode "flags")
      (m.pointer (node + adapterNode.offset "first_multicast_address"))
      (fun n => m.socketAt (n + (addressNode "flags").offset "address")) r.multicast
  dnsServers :
    m.ReadsTo (addressNode "reserved")
      (m.pointer (node + adapterNode.offset "first_dns_server_address"))
      (fun n => m.socketAt (n + (addressNode "reserved").offset "address")) r.dnsServers
  prefixes : m.ReadsTo prefixNode (m.pointer (node + adapterNode.offset "first_prefix"))
    m.addressPrefix r.prefixes
  prefixSockets : m.ReadsTo prefixNode (m.pointer (node + adapterNode.offset "first_prefix"))
    (fun n => m.socketAt (n + prefixNode.offset "address")) (r.prefixes.map (·.address))
  winsServers :
    m.ReadsTo (addressNode "reserved")
      (m.pointer (node + adapterNode.offset "first_wins_server_address"))
      (fun n => m.socketAt (n + (addressNode "reserved").offset "address")) r.winsServers
  gateways :
    m.ReadsTo (addressNode "reserved")
      (m.pointer (node + adapterNode.offset "first_gateway_address"))
      (fun n => m.socketAt (n + (addressNode "reserved").offset "address")) r.gateways
  dnsSuffixes : m.ReadsTo suffixNode (m.pointer (node + adapterNode.offset "first_dns_suffix"))
    (fun n => Option.guard (· ≠ "") (m.bufferText (n + suffixNode.offset "string") suffixCapacity))
    r.dnsSuffixes

/-- A reading of lists in order: a value with a property if all of them end, else the first cycle. -/
def Walks {β : Type} (m : Memory) (lists : List NativeList) (x : Except Cycle β) (P : β → Prop) :
    Prop :=
  (∃ b, x = .ok b ∧ P b ∧ ∀ l ∈ lists, ¬ m.IsCyclic l) ∨
    ∃ c, x = .error c ∧ m.FirstCycle lists c

section Combine

variable {β γ : Type} {m : Memory} {P : β → Prop} {Q : γ → Prop}

/-- A list that comes before all others and has no cycle does not change which cycle is the first. -/
theorem FirstCycle.append_right {c : Cycle} {lists rest : List NativeList}
    (h : m.FirstCycle lists c) : m.FirstCycle (lists ++ rest) c := by
  induction h with
  | here hcyc hnodes => exact .here hcyc hnodes
  | later hfine _ ih => exact .later hfine ih

/-- Lists without a cycle do not change which cycle is the first behind them. -/
theorem FirstCycle.append_left {c : Cycle} {rest : List NativeList} (h : m.FirstCycle rest c) :
    ∀ lists : List NativeList, (∀ l ∈ lists, ¬ m.IsCyclic l) → m.FirstCycle (lists ++ rest) c
  | [], _ => h
  | l :: lists, hfine =>
    .later (hfine l List.mem_cons_self)
      (append_left h lists fun l' hl' => hfine l' (List.mem_cons_of_mem _ hl'))

/-- The first cycle is a cycle. -/
theorem FirstCycle.exists_isCyclic {c : Cycle} {lists : List NativeList}
    (h : m.FirstCycle lists c) : ∃ l ∈ lists, m.IsCyclic l := by
  induction h with
  | here hcyc _ => exact ⟨_, List.mem_cons_self, hcyc⟩
  | later _ _ ih =>
    obtain ⟨l, hl, hcyc⟩ := ih
    exact ⟨l, List.mem_cons_of_mem _ hl, hcyc⟩

theorem Walks.pure {b : β} (h : P b) : m.Walks [] (pure b) P :=
  Or.inl ⟨b, rfl, h, fun _ hl => absurd hl List.not_mem_nil⟩

/-- A reading goes on with further lists only where it met no cycle. -/
theorem Walks.bind {lists rest : List NativeList} {x : Except Cycle β} {f : β → Except Cycle γ}
    (hx : m.Walks lists x P) (hf : ∀ b, P b → m.Walks rest (f b) Q) :
    m.Walks (lists ++ rest) (x >>= f) Q := by
  rcases hx with ⟨b, rfl, hb, hfine⟩ | ⟨c, rfl, hc⟩
  · rcases hf b hb with ⟨d, hd, hq, hrest⟩ | ⟨c, hd, hc⟩
    · exact Or.inl ⟨d, hd, hq, fun l hl => (List.mem_append.mp hl).elim (hfine l) (hrest l)⟩
    · exact Or.inr ⟨c, hd, hc.append_left lists hfine⟩
  · exact Or.inr ⟨c, rfl, hc.append_right⟩

theorem Walks.cons_bind {l : NativeList} {rest : List NativeList} {x : Except Cycle β}
    {f : β → Except Cycle γ} (hx : m.Walks [l] x P) (hf : ∀ b, P b → m.Walks rest (f b) Q) :
    m.Walks (l :: rest) (x >>= f) Q :=
  hx.bind hf

/-- A reading that succeeds has met no cycle. -/
theorem Walks.mono {lists : List NativeList} {x : Except Cycle β} {P' : β → Prop}
    (hx : m.Walks lists x P) (h : ∀ b, P b → (∀ l ∈ lists, ¬ m.IsCyclic l) → P' b) :
    m.Walks lists x P' := by
  rcases hx with ⟨b, hb, hp, hfine⟩ | hc
  · exact Or.inl ⟨b, hb, h b hp hfine, hfine⟩
  · exact Or.inr hc

end Combine

section Lists

variable (m : Memory)

/-- Behind the extent all numbers are zero. -/
theorem littleEndian_bytes_of_extent_le {address : Nat} (h : m.extent ≤ address) :
    ∀ n, littleEndian (m.bytes address n) = 0 := by
  have hzero : ∀ n, m.bytes address n = List.replicate n 0 := fun n =>
    List.eq_replicate_iff.mpr ⟨by simp [bytes], fun b hb => by
      obtain ⟨i, _, rfl⟩ := List.mem_map.mp hb
      exact m.zero_of_le _ (by omega)⟩
  intro n
  rw [hzero]
  induction n with
  | zero => rfl
  | succ n ih => rw [List.replicate_succ, littleEndian, ih]; rfl

theorem lt_extent_of_links {layout : Layout} (a b : Nat) (h : m.links layout a = some b) :
    a ∈ Finset.range m.extent := by
  rw [Finset.mem_range]
  by_contra hle
  have hzero := m.littleEndian_bytes_of_extent_le
    (show m.extent ≤ a + layout.offset "next" by omega) 8
  simp only [links, pointer, hzero] at h
  cases h

/-- Every list has finitely many distinct nodes, and none of them but the last lies behind the
extent. -/
theorem exists_hasNodes (l : NativeList) :
    ∃ nodes, m.HasNodes l nodes ∧ nodes.length ≤ m.extent + 1 := by
  have hsettles : ∃ n ≤ (Finset.range m.extent).card + 1, Settled (m.links l.layout) l.head n :=
    settled_of_finite_links m.lt_extent_of_links
  obtain ⟨n, hn, hsettled⟩ := hsettles
  obtain ⟨nodes, hv, hlen⟩ := exists_visits hsettled
  rw [Finset.card_range] at hn
  exact ⟨nodes, hv, hlen.trans hn⟩

variable {m}

/-- A list without a null link has all its nodes below the extent. -/
theorem HasNodes.length_le_extent {l : NativeList} {nodes : List Nat} (hv : m.HasNodes l nodes)
    (hcyc : m.IsCyclic l) : nodes.length ≤ m.extent := by
  have hlen := hv.length_le_of_cyclic hcyc m.lt_extent_of_links
  rwa [Finset.card_range] at hlen

theorem HasNodes.ends {l : NativeList} {nodes : List Nat} (hv : m.HasNodes l nodes)
    (hfine : ¬ m.IsCyclic l) : Ends (m.links l.layout) l.head :=
  by_contra fun hend => hfine (hv.cyclic_iff_not_ends.mpr hend)

variable (m)

/-- Reading a list makes enough calls: the last one is answered by nothing. -/
theorem none_mem_calls (l : NativeList) :
    none ∈ (Walk.start l.head).calls (m.links l.layout) l.name (m.extent + 2) := by
  obtain ⟨nodes, hv, hlen⟩ := m.exists_hasNodes l
  by_cases hcyc : m.IsCyclic l
  · have hle := hv.length_le_extent hcyc
    rw [show m.extent + 2 = nodes.length + (m.extent - nodes.length + 1 + 1) by omega,
      Walk.calls_of_cyclic hv hcyc]
    simp
  · rw [show m.extent + 2 = nodes.length + (m.extent + 1 - nodes.length + 1) by omega,
      Walk.calls_of_ends hv (hv.ends hcyc)]
    simp

/-- A list is answered as its distinct nodes, and the cycle if it runs into itself. -/
theorem nodeAnswers_eq (l : NativeList) : ∃ nodes, m.HasNodes l nodes ∧
    ((¬ m.IsCyclic l ∧ m.nodeAnswers (l.layout.offset "next") l.name l.head = nodes.map .ok) ∨
      (m.IsCyclic l ∧ m.nodeAnswers (l.layout.offset "next") l.name l.head =
        nodes.map .ok ++ [.error ⟨l.name, nodes.length⟩])) := by
  obtain ⟨nodes, hv, hlen⟩ := m.exists_hasNodes l
  refine ⟨nodes, hv, ?_⟩
  by_cases hcyc : m.IsCyclic l
  · have hle := hv.length_le_extent hcyc
    exact Or.inr ⟨hcyc, Walk.items_of_cyclic hv hcyc (by omega)⟩
  · exact Or.inl ⟨hcyc, Walk.items_of_ends hv (hv.ends hcyc) (by omega)⟩

end Lists

section Read

variable {m : Memory} {β : Type}

/-- Nodes are read one after the other, each with the lists that belong to it, and then the rest. -/
theorem walks_nodes {f : Nat → Except Cycle β} {sub : Nat → List NativeList} {P : Nat → β → Prop}
    (hf : ∀ node, m.Walks (sub node) (f node) (P node)) {rest : List (Except Cycle Nat)}
    {lists : List NativeList} (hrest : m.Walks lists (rest.mapM (· >>= f)) (· = [])) :
    ∀ nodes : List Nat, m.Walks (nodes.flatMap sub ++ lists)
      ((nodes.map Except.ok ++ rest).mapM (· >>= f)) (List.Forall₂ P nodes)
  | [] => hrest.mono fun _ h _ => h ▸ .nil
  | node :: nodes => by
    rw [List.flatMap_cons, List.append_assoc, List.map_cons, List.cons_append, List.mapM_cons]
    refine (hf node).bind fun b hb => ?_
    have hnodes := walks_nodes hf hrest nodes
    rw [← List.append_nil (nodes.flatMap sub ++ lists)]
    exact hnodes.bind fun bs hbs => Walks.pure (.cons hb hbs)

/-- A list is read node by node, and all its nodes are read before it is known to end. -/
theorem walks_list (l : NativeList) {f : Nat → Except Cycle β} {sub : Nat → List NativeList}
    {P : Nat → β → Prop} (hf : ∀ node, m.Walks (sub node) (f node) (P node)) :
    ∃ nodes, m.HasNodes l nodes ∧ m.Walks (nodes.flatMap sub ++ [l])
      ((m.nodeAnswers (l.layout.offset "next") l.name l.head).mapM (· >>= f))
      (List.Forall₂ P nodes) := by
  obtain ⟨nodes, hv, ⟨hfine, heq⟩ | ⟨hcyc, heq⟩⟩ := m.nodeAnswers_eq l
  · have hrest : m.Walks [l] (([] : List (Except Cycle Nat)).mapM (· >>= f)) (· = []) :=
      Or.inl ⟨[], rfl, rfl, by simpa using hfine⟩
    have hall := walks_nodes hf hrest nodes
    rw [List.append_nil, ← heq] at hall
    exact ⟨nodes, hv, hall⟩
  · have hrest : m.Walks [l] ([.error ⟨l.name, nodes.length⟩].mapM (· >>= f)) (· = []) :=
      Or.inr ⟨_, rfl, .here hcyc hv⟩
    have hall := walks_nodes hf hrest nodes
    rw [← heq] at hall
    exact ⟨nodes, hv, hall⟩

/-- The values of a list are what its nodes are read to. -/
theorem walks_collect (layout : Layout) (name : String) (head : Option Nat)
    (read : Nat → Option β) :
    m.Walks [⟨name, layout, head⟩] (m.collect layout name head read)
      (m.ReadsTo layout head read) := by
  have hone : ∀ node : Nat, m.Walks [] (pure node : Except Cycle Nat) (node = ·) :=
    fun node => Walks.pure rfl
  obtain ⟨nodes, hv, hall⟩ := walks_list ⟨name, layout, head⟩ hone
  have hnodes : m.Walks [⟨name, layout, head⟩]
      ((m.nodeAnswers (layout.offset "next") name head).mapM id)
      (fun ns => ns = nodes ∧ Lists (m.links layout) head nodes) := by
    simp only [bind_pure, List.flatMap_eq_nil_iff.mpr fun _ _ => rfl, List.nil_append] at hall
    refine hall.mono fun ns hns hfine => ⟨?_, ?_⟩
    · exact (List.forall₂_eq_eq_eq ▸ hns : nodes = ns).symm
    · exact hv.lists (hv.ends (hfine _ List.mem_cons_self))
  refine hnodes.cons_bind fun ns hns => Walks.pure ⟨nodes, hns.2, ?_⟩
  rw [hns.1]

theorem walks_sockets (second : String) (name : String) (head : Option Nat) :
    m.Walks [⟨name, addressNode second, head⟩] (m.sockets second name head)
      (m.ReadsTo (addressNode second) head
        fun n => m.socketAt (n + (addressNode second).offset "address")) :=
  walks_collect _ _ _ _

end Read

theorem unicast_map_address (m : Memory) (node : Nat) :
    (m.unicast node).map (·.address) = m.socketAt (node + unicastNode.offset "address") := by
  simp only [unicast]
  cases m.socketAt (node + unicastNode.offset "address") <;> rfl

theorem addressPrefix_map_address (m : Memory) (node : Nat) :
    (m.addressPrefix node).map (·.address) = m.socketAt (node + prefixNode.offset "address") := by
  simp only [addressPrefix]
  cases m.socketAt (node + prefixNode.offset "address") <;> rfl

/-- A suffix node is left out exactly if its text is empty. -/
theorem suffix_eq_guard (m : Memory) (node : Nat) :
    (m.suffix node).map id =
      Option.guard (· ≠ "") (m.bufferText (node + suffixNode.offset "string") suffixCapacity) := by
  simp only [suffix, Option.guard, decide_not, Option.map_id, id_eq]
  by_cases h : m.bufferText (node + suffixNode.offset "string") suffixCapacity = "" <;> simp [h]

theorem ReadsTo.map {β γ : Type} {m : Memory} {layout : Layout} {head : Option Nat}
    {read : Nat → Option β} {read' : Nat → Option γ} {values : List β} {g : β → γ}
    (h : m.ReadsTo layout head read values) (hread : ∀ n, (read n).map g = read' n) :
    m.ReadsTo layout head read' (values.map g) := by
  obtain ⟨nodes, hl, rfl⟩ := h
  refine ⟨nodes, hl, ?_⟩
  rw [List.map_filterMap]
  exact congrArg (nodes.filterMap ·) (funext hread)

/-- An adapter is read with all its lists, one after the other. -/
theorem walks_adapter (m : Memory) (node : Nat) :
    m.Walks (m.listsOf node) (m.adapter node) (m.IsRecord node) := by
  simp only [listsOf, adapter]
  refine Walks.cons_bind (walks_collect ..) fun unicast hunicast => ?_
  refine Walks.cons_bind (walks_sockets ..) fun anycast hanycast => ?_
  refine Walks.cons_bind (walks_sockets ..) fun multicast hmulticast => ?_
  refine Walks.cons_bind (walks_sockets ..) fun dnsServers hdnsServers => ?_
  refine Walks.cons_bind (walks_collect ..) fun prefixes hprefixes => ?_
  refine Walks.cons_bind (walks_sockets ..) fun winsServers hwinsServers => ?_
  refine Walks.cons_bind (walks_sockets ..) fun gateways hgateways => ?_
  refine Walks.cons_bind (walks_collect ..) fun dnsSuffixes hdnsSuffixes => ?_
  apply Walks.pure
  exact {
    alone := by dsimp only [Adapter.withoutLists, adapterAlone]
    unicast := hunicast
    unicastSockets := hunicast.map m.unicast_map_address
    anycast := hanycast
    multicast := hmulticast
    dnsServers := hdnsServers
    prefixes := hprefixes
    prefixSockets := hprefixes.map m.addressPrefix_map_address
    winsServers := hwinsServers
    gateways := hgateways
    dnsSuffixes := by simpa using hdnsSuffixes.map m.suffix_eq_guard }

/-- Reading a block ends for every memory and head: each of its walks answers nothing at the last
call that is made. It gives records exactly if none of the lists that are walked runs into itself, one
for each distinct adapter in the order of the adapters' list; else it gives the first cycle in the
order in which the lists are walked to their end. -/
theorem adapters_outcome (m : Memory) (head : Option Nat) :
    ∃ chain, m.HasNodes ⟨"adapter", adapterNode, head⟩ chain ∧
      (∀ l ∈ m.listsOfBlock head chain,
        none ∈ (Walk.start l.head).calls (m.links l.layout) l.name (m.extent + 2)) ∧
      ((∃ records, m.adapters head = .ok records) ↔
        ∀ l ∈ m.listsOfBlock head chain, ¬ m.IsCyclic l) ∧
      (∀ records, m.adapters head = .ok records → List.Forall₂ m.IsRecord chain records) ∧
      ∀ c, m.adapters head = .error c → m.FirstCycle (m.listsOfBlock head chain) c := by
  obtain ⟨chain, hv, hall⟩ := walks_list ⟨"adapter", adapterNode, head⟩ m.walks_adapter
  refine ⟨chain, hv, fun l _ => m.none_mem_calls l, ?_⟩
  rcases hall with ⟨records, hok, hrecords, hfine⟩ | ⟨c, herror, hfirst⟩
  · have hok : m.adapters head = .ok records := hok
    refine ⟨⟨fun _ => hfine, fun _ => ⟨records, hok⟩⟩, fun rs hrs => ?_, fun c hc => ?_⟩
    · rw [hok, Except.ok.injEq] at hrs
      exact hrs ▸ hrecords
    · rw [hok] at hc
      cases hc
  · have herror : m.adapters head = .error c := herror
    refine ⟨⟨?_, fun hfine => ?_⟩, fun rs hrs => ?_, fun c' hc' => ?_⟩
    · rintro ⟨rs, hrs⟩
      rw [herror] at hrs
      cases hrs
    · obtain ⟨l, hl, hcyc⟩ := hfirst.exists_isCyclic
      exact absurd hcyc (hfine l hl)
    · rw [herror] at hrs
      cases hrs
    · rw [herror, Except.error.injEq] at hc'
      exact hc' ▸ hfirst

end Memory

end Native

end HostDns
