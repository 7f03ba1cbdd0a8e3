import Mathlib.Data.Finset.Card
import Mathlib.Data.Finset.Image
import Mathlib.Data.List.Lemmas
import OsdMigration.MiniCluster.Basic
import OsdMigration.Proofs.Gates

set_option autoImplicit false

/-! # Hosts and nodes

A pod has the name of its node from the moment it is given to one, and the address of the host only
once it was started there. A count of hosts goes by the address, or else by the name, or else by the
empty text. What the pods of a listing say may fit together (`Consistent`); then every pod is on a
certain node or on none (`nodeOf?`), and the count differs from the number of nodes in three ways:

* a node is counted twice if some of its pods have an address and some have not (`halfFilled`);
* the pods on no node are counted as one host (`unscheduled`);
* two nodes are counted as one if the address of one is the name of the other (`confused`).

The wait for block devices, which compares the count with the number of nodes, inherits all three.
-/

namespace OsdMigration.Osd

open Cluster (Pod)
open Job (Course)

/-! ## Where a pod is -/

/-- The address of the host of a pod. -/
def address? (p : Pod) : Option String :=
  (p.status.bind fun s => s.hostAddress).filter (· ≠ "")

/-- The name of the node of a pod. -/
def nodeName? (p : Pod) : Option String := (p.spec.bind fun s => s.node).filter (· ≠ "")

/-- A count of hosts goes by the address, or else by the name, or else by the empty text. -/
theorem hostOf_eq (p : Pod) : hostOf p = ((address? p).or (nodeName? p)).getD "" := by
  unfold hostOf address? nodeName?
  cases (p.status.bind fun s => s.hostAddress).filter (· ≠ "") with
  | some address => rfl
  | none =>
      cases p.spec.bind fun s => s.node with
      | none => rfl
      | some name =>
          by_cases h : name = ""
          · subst h
            rfl
          · have hkept : Option.filter (fun n => decide (n ≠ "")) (some name) = some name := by
              simp [h]
            rw [hkept]
            rfl

theorem address_ne_empty {p : Pod} {a : String} (h : address? p = some a) : a ≠ "" := by
  simpa using (Option.filter_eq_some_iff.1 h).2

theorem nodeName_ne_empty {p : Pod} {n : String} (h : nodeName? p = some n) : n ≠ "" := by
  simpa using (Option.filter_eq_some_iff.1 h).2

/-- What pods say fits together: the same node always has the same address, and two nodes never
have. -/
structure Consistent (pods : List Pod) : Prop where
  address_unique : ∀ p ∈ pods, ∀ q ∈ pods, ∀ n ∈ nodeName? p, n ∈ nodeName? q →
    ∀ a ∈ address? p, ∀ b ∈ address? q, a = b
  name_unique : ∀ p ∈ pods, ∀ q ∈ pods, ∀ a ∈ address? p, a ∈ address? q →
    ∀ n ∈ nodeName? p, ∀ m ∈ nodeName? q, n = m

/-- A node as the pods of a listing know it: by its name, or by its address alone if none of them
says the name. -/
inductive NodeId where
  | named (name : String)
  | unnamed (address : String)
deriving DecidableEq, Repr

/-- The name of the node with an address, if a pod tells it. -/
def nameAt? (pods : List Pod) (a : String) : Option String :=
  pods.findSome? fun p => if address? p = some a then nodeName? p else none

/-- The node with an address. -/
def nodeAt (pods : List Pod) (a : String) : NodeId :=
  match nameAt? pods a with
  | some n => .named n
  | none => .unnamed a

/-- The node that a pod of a listing is on. -/
def nodeOf? (pods : List Pod) (p : Pod) : Option NodeId :=
  match nodeName? p with
  | some n => some (.named n)
  | none => (address? p).map (nodeAt pods)

section

variable {pods : List Pod} {p : Pod} {a b n : String}

theorem nameAt_some (h : nameAt? pods a = some n) :
    ∃ p ∈ pods, address? p = some a ∧ nodeName? p = some n := by
  obtain ⟨p, hp, hn⟩ := List.exists_of_findSome?_eq_some h
  split at hn
  · exact ⟨p, hp, ‹_›, hn⟩
  · cases hn

/-- A pod with an address is on the node with that address. -/
theorem nodeOf_of_address (h : Consistent pods) (hp : p ∈ pods) (ha : address? p = some a) :
    nodeOf? pods p = some (nodeAt pods a) := by
  unfold nodeOf? nodeAt
  cases hn : nodeName? p with
  | none => simp [ha]
  | some n =>
      cases hm : nameAt? pods a with
      | some m =>
          obtain ⟨q, hq, haq, hmq⟩ := nameAt_some hm
          rw [h.name_unique p hp q hq a ha haq n hn m hmq]
      | none =>
          have := List.findSome?_eq_none_iff.1 hm p hp
          rw [if_pos ha, hn] at this
          cases this

/-- Different addresses are those of different nodes. -/
theorem nodeAt_injective (h : Consistent pods) (hab : nodeAt pods a = nodeAt pods b) : a = b := by
  unfold nodeAt at hab
  cases ha : nameAt? pods a with
  | none =>
      cases hb : nameAt? pods b with
      | none =>
          rw [ha, hb] at hab
          exact NodeId.unnamed.inj hab
      | some m =>
          rw [ha, hb] at hab
          cases hab
  | some n =>
      cases hb : nameAt? pods b with
      | none =>
          rw [ha, hb] at hab
          cases hab
      | some m =>
          rw [ha, hb] at hab
          cases hab
          obtain ⟨p, hp, hap, hnp⟩ := nameAt_some ha
          obtain ⟨q, hq, hbq, hnq⟩ := nameAt_some hb
          exact h.address_unique p hp q hq n hnp hnq a hap b hbq

/-- A pod without an address is on the node that it names. -/
theorem nodeOf_of_no_address (ha : address? p = none) :
    nodeOf? pods p = (nodeName? p).map .named := by
  unfold nodeOf?
  cases nodeName? p <;> simp [ha]

end

/-! ## The nodes with block devices -/

section

variable (s : Settings) (pods : List Pod)

/-- The pods of OSDs on block devices. -/
def blockPods : List Pod := pods.filter fun p => !mounts p s.hostpathMount

/-- Those of them that have the address of their host. -/
def started : List Pod := (blockPods s pods).filter fun p => (address? p).isSome

/-- Those of them that have not. -/
def starting : List Pod := (blockPods s pods).filter fun p => (address? p).isNone

/-- The nodes that run an OSD on a block device. -/
def blockNodes : Finset NodeId := ((blockPods s pods).filterMap (nodeOf? pods)).toFinset

/-- The nodes of which some of these pods have the address and some have not. -/
def halfFilled : Finset NodeId :=
  ((started s pods).filterMap (nodeOf? pods)).toFinset ∩
    ((starting s pods).filterMap (nodeOf? pods)).toFinset

/-- The texts that are the address of one of these pods and the name of the node of one that has no
address. -/
def confused : Finset String :=
  ((started s pods).filterMap address?).toFinset ∩ ((starting s pods).filterMap nodeName?).toFinset

/-- Whether some of these pods are on no node, as a number of hosts. -/
def unscheduled : Nat :=
  if ∃ p ∈ blockPods s pods, address? p = none ∧ nodeName? p = none then 1 else 0

end

section

variable {s : Settings} {pods : List Pod}

theorem mem_of_blockPods {p : Pod} (h : p ∈ blockPods s pods) : p ∈ pods := List.mem_of_mem_filter h

theorem mem_started {p : Pod} :
    p ∈ started s pods ↔ p ∈ blockPods s pods ∧ ∃ a, address? p = some a := by
  simp [started, Option.isSome_iff_exists]

theorem mem_starting {p : Pod} :
    p ∈ starting s pods ↔ p ∈ blockPods s pods ∧ address? p = none := by
  simp [starting]

theorem blockNodes_eq :
    blockNodes s pods = ((started s pods).filterMap (nodeOf? pods)).toFinset ∪
      ((starting s pods).filterMap (nodeOf? pods)).toFinset := by
  ext v
  simp only [blockNodes, Finset.mem_union, List.mem_toFinset, List.mem_filterMap, mem_started,
    mem_starting]
  constructor
  · rintro ⟨p, hp, hv⟩
    cases ha : address? p with
    | some a => exact .inl ⟨p, ⟨hp, a, ha⟩, hv⟩
    | none => exact .inr ⟨p, ⟨hp, ha⟩, hv⟩
  · rintro (⟨p, ⟨hp, _⟩, hv⟩ | ⟨p, ⟨hp, _⟩, hv⟩) <;> exact ⟨p, hp, hv⟩

/-- There are as many nodes with an address as there are addresses. -/
theorem card_started_nodes (h : Consistent pods) :
    ((started s pods).filterMap (nodeOf? pods)).toFinset.card =
      ((started s pods).filterMap address?).toFinset.card := by
  -- these nodes are the image of the addresses, and different addresses give different nodes
  rw [← Finset.card_image_of_injective _ fun _ _ => nodeAt_injective h]
  congr 1
  ext v
  simp only [List.mem_toFinset, List.mem_filterMap, Finset.mem_image]
  constructor
  · rintro ⟨p, hp, hv⟩
    obtain ⟨hb, a, ha⟩ := mem_started.1 hp
    rw [nodeOf_of_address h (mem_of_blockPods hb) ha] at hv
    exact ⟨a, ⟨p, hp, ha⟩, Option.some.inj hv⟩
  · rintro ⟨a, ⟨p, hp, ha⟩, rfl⟩
    exact ⟨p, hp, nodeOf_of_address h (mem_of_blockPods (mem_started.1 hp).1) ha⟩

/-- There are as many nodes with a pod without an address as there are names. -/
theorem card_starting_nodes :
    ((starting s pods).filterMap (nodeOf? pods)).toFinset.card =
      ((starting s pods).filterMap nodeName?).toFinset.card := by
  rw [← Finset.card_image_of_injective _ fun _ _ => NodeId.named.inj]
  congr 1
  ext v
  simp only [List.mem_toFinset, List.mem_filterMap, Finset.mem_image]
  constructor
  · rintro ⟨p, hp, hv⟩
    rw [nodeOf_of_no_address (mem_starting.1 hp).2] at hv
    obtain ⟨n, hn, rfl⟩ := Option.map_eq_some_iff.1 hv
    exact ⟨n, ⟨p, hp, hn⟩, rfl⟩
  · rintro ⟨n, ⟨p, hp, hn⟩, rfl⟩
    refine ⟨p, hp, ?_⟩
    rw [nodeOf_of_no_address (mem_starting.1 hp).2, hn]
    rfl

/-! ## The count -/

theorem length_eraseDups (l : List String) : l.eraseDups.length = l.toFinset.card := by
  -- on the length, since the head is filtered out of the rest before the recursion
  induction hn : l.length using Nat.strong_induction_on generalizing l with
  | _ n ih =>
    cases l with
    | nil => rfl
    | cons a l =>
        subst hn
        have hrest : (l.filter fun b => !b == a).toFinset = l.toFinset.erase a := by
          ext b
          simp [and_comm]
        rw [List.eraseDups_cons, List.length_cons,
          ih _ (Nat.lt_succ_of_le (List.length_filter_le ..)) _ rfl, hrest, List.toFinset_cons,
          ← Finset.card_erase_add_one (Finset.mem_insert_self a _), Finset.erase_insert_eq_erase]

/-- The hosts with block devices are counted over their pods. -/
theorem block_eq_card {devices : List Device} (h : ofPods s pods = .ok devices) :
    (countHosts devices).block = ((blockPods s pods).map hostOf).toFinset.card := by
  change (hosts .block devices).length = _
  rw [hosts, length_eraseDups]
  congr 2
  rw [← List.filterMap_eq_map, ← List.filterMap_eq_map, blockPods, List.filterMap_filter,
    List.filterMap_filter]
  refine filterMap_devices h fun p d hd => ?_
  obtain ⟨_, hhost, hb⟩ := ofPod_ok hd
  cases hm : mounts p s.hostpathMount with
  | true => simp [hb.2 hm]
  | false =>
      have hblock : d.backing = .block := by
        cases hd : d.backing with
        | block => rfl
        | hostpath => rw [hb.1 hd] at hm; cases hm
      simp [hblock, hhost]

/-- The texts by which these hosts are counted: addresses, names, and perhaps the empty text. -/
theorem card_hosts :
    ((blockPods s pods).map hostOf).toFinset.card =
      (((started s pods).filterMap address?).toFinset ∪
        ((starting s pods).filterMap nodeName?).toFinset).card + unscheduled s pods := by
  -- a host is an address, the node of a pod without one, or the empty text for all the others
  have hmem : ∀ x, x ∈ ((blockPods s pods).map hostOf).toFinset ↔
      (x ∈ ((started s pods).filterMap address?).toFinset ∪
        ((starting s pods).filterMap nodeName?).toFinset) ∨
      x = "" ∧ ∃ p ∈ blockPods s pods, address? p = none ∧ nodeName? p = none := by
    intro x
    simp only [List.mem_toFinset, List.mem_map, List.mem_filterMap, Finset.mem_union, hostOf_eq,
      mem_started, mem_starting]
    constructor
    · rintro ⟨p, hp, rfl⟩
      cases ha : address? p with
      | some a => exact .inl (.inl ⟨p, ⟨hp, a, ha⟩, by simp [ha]⟩)
      | none =>
          cases hn : nodeName? p with
          | some n => exact .inl (.inr ⟨p, ⟨hp, ha⟩, by simp [hn]⟩)
          | none => exact .inr ⟨rfl, p, hp, ha, hn⟩
    · rintro ((⟨p, ⟨hp, _⟩, ha⟩ | ⟨p, ⟨hp, ha⟩, hn⟩) | ⟨rfl, p, hp, ha, hn⟩)
      · exact ⟨p, hp, by simp [ha]⟩
      · exact ⟨p, hp, by simp [ha, hn]⟩
      · exact ⟨p, hp, by simp [ha, hn]⟩
  have hempty : "" ∉ ((started s pods).filterMap address?).toFinset ∪
      ((starting s pods).filterMap nodeName?).toFinset := by
    simp only [Finset.mem_union, List.mem_toFinset, List.mem_filterMap]
    rintro (⟨p, _, ha⟩ | ⟨p, _, hn⟩)
    · exact address_ne_empty ha rfl
    · exact nodeName_ne_empty hn rfl
  -- so the empty text is one host more, if some pod has neither
  unfold unscheduled
  split
  · rename_i hu
    rw [← Finset.card_insert_of_notMem hempty]
    congr 1
    ext x
    rw [hmem, Finset.mem_insert]
    tauto
  · rename_i hu
    rw [Nat.add_zero]
    congr 1
    ext x
    rw [hmem]
    exact ⟨fun h => h.resolve_right fun h => hu h.2, .inl⟩

/-- The count of hosts and the number of nodes, whatever a consistent listing leaves out. -/
theorem block_add_confused (h : Consistent pods) {devices : List Device}
    (hd : ofPods s pods = .ok devices) :
    (countHosts devices).block + (confused s pods).card =
      (blockNodes s pods).card + (halfFilled s pods).card + unscheduled s pods := by
  rw [block_eq_card hd, card_hosts, confused, halfFilled, blockNodes_eq,
    Finset.card_union_add_card_inter, card_started_nodes h, card_starting_nodes,
    ← Finset.card_union_add_card_inter]
  omega

end

/-! ## Whether there are enough -/

/-- A listing of the pods of OSDs. -/
def ListsPods (s : Settings) (pods : List Pod) (seen : List Event) : Prop :=
  ∃ t u, seen = [.called t (.listPods s.space s.osdSelector),
    .answered u (.listPods s.space s.osdSelector) (.ok pods)]

/-- The nodes were listed, and then the OSDs; the events end with the second listing. -/
def Compared (s : Settings) (nodes : List Cluster.Node) (pods : List Pod) (seen : List Event) :
    Prop :=
  ∃ before u between listing, ListsPods s pods listing ∧
    seen = before ++ .answered u .listNodes (.ok nodes) :: between ++ listing

/-- As many hosts are wanted as there are nodes, up to the maximum; what is in the way of counting
nodes stands on either side. -/
def Enough (s : Settings) (nodes : List Cluster.Node) (pods : List Pod) : Prop :=
  min nodes.length s.maxBlockHosts.toNat + (confused s pods).card ≤
    (blockNodes s pods).card + (halfFilled s pods).card + unscheduled s pods

theorem le_block_iff {s : Settings} {pods : List Pod} (h : Consistent pods)
    {devices : List Device} (hd : ofPods s pods = .ok devices) (nodes : List Cluster.Node) :
    min nodes.length s.maxBlockHosts.toNat ≤ (countHosts devices).block ↔ Enough s nodes pods := by
  have hcount := block_add_confused h hd
  unfold Enough
  omega

theorem course_hasEnoughBlockHosts_ok {s : Settings} {seen : List Event} {b : Bool}
    (h : Course (hasEnoughBlockHosts s) seen (some (.ok b))) :
    ∃ nodes pods, Compared s nodes pods seen ∧
      (Consistent pods → (b = true ↔ Enough s nodes pods)) := by
  obtain ⟨wanted, counted, _, rfl, hc, h₁⟩ := (Job.course_bind_ok ..).1 h
  obtain ⟨counts, listing, _, rfl, hl, rfl, hb⟩ := (Job.course_bind_ok ..).1 h₁
  obtain ⟨n, first, _, rfl, hn, rfl, hwanted⟩ := (Job.course_bind_ok ..).1 hc
  obtain ⟨nodes, first, _, rfl, ha, rfl, hlen⟩ := (Job.course_bind_ok ..).1 hn
  obtain ⟨t, u, rfl⟩ := (Job.course_ask_ok ..).1 ((Job.course_during_ok ..).1 ha)
  obtain ⟨v, w, pods, devices, rfl, hd, rfl⟩ :=
    course_countHostsNow_ok ((Job.course_during_ok ..).1 hl)
  obtain rfl : n = nodes.length := Except.ok.inj (Option.some.inj hlen)
  obtain rfl : wanted = wantedBlockHosts nodes.length s.maxBlockHosts.toNat :=
    Except.ok.inj (Option.some.inj hwanted)
  obtain rfl : b = decide (_ ≤ _) := Except.ok.inj (Option.some.inj hb)
  refine ⟨nodes, pods, ⟨[.called t .listNodes], u, [], _, ⟨v, w, rfl⟩, by simp⟩, fun hpods => ?_⟩
  rw [decide_eq_true_iff]
  exact le_block_iff hpods hd nodes

theorem course_awaitBlockHosts_compared {c : Context} {seen : List Event}
    (h : Course (awaitBlockHosts c) seen (some (.ok ()))) :
    ∃ nodes pods, Compared c.settings nodes pods seen ∧
      (Consistent pods → Enough c.settings nodes pods) := by
  obtain ⟨a, u, nodes, b, listing, devices, rfl, ⟨v, w, pods, hl, hd⟩, hle⟩ :=
    course_awaitBlockHosts_ok h
  exact ⟨nodes, pods, ⟨a, u, b, listing, ⟨v, w, hl⟩, rfl⟩,
    fun hpods => (le_block_iff hpods hd nodes).1 hle⟩

/-- What the count of hosts with block devices says about nodes. -/
structure HostsByNodes {σ : Type} (server : Server σ) (cancelAt : Option Nat) (c : Context) :
    Prop where
  /-- The count of a listing whose pods fit together, and the number of nodes. -/
  count : ∀ pods devices, ofPods c.settings pods = .ok devices → Consistent pods →
    (countHosts devices).block + (confused c.settings pods).card =
      (blockNodes c.settings pods).card + (halfFilled c.settings pods).card +
        unscheduled c.settings pods
  /-- They are the same just if what is counted too often and what is not counted make up for each
  other. -/
  same_iff : ∀ pods devices, ofPods c.settings pods = .ok devices → Consistent pods →
    ((countHosts devices).block = (blockNodes c.settings pods).card ↔
      (halfFilled c.settings pods).card + unscheduled c.settings pods =
        (confused c.settings pods).card)
  /-- So they are if every pod of an OSD on a block device has the address of its host. -/
  same_of_started : ∀ pods devices, ofPods c.settings pods = .ok devices → Consistent pods →
    (∀ p ∈ blockPods c.settings pods, ∃ a, address? p = some a) →
      (countHosts devices).block = (blockNodes c.settings pods).card
  /-- Whether there are enough is a comparison with the count of the listing that was made. -/
  enough : ∀ now s b seen,
    (hasEnoughBlockHosts c.settings).attempt.watch server cancelAt now s = (.done (.ok b), seen) →
      ∃ nodes pods, Compared c.settings nodes pods seen ∧
        (Consistent pods → (b = true ↔ Enough c.settings nodes pods))
  /-- A wait for enough of them ends well only after such a listing. -/
  awaited : ∀ now s seen,
    (awaitBlockHosts c).attempt.watch server cancelAt now s = (.done (.ok ()), seen) →
      ∃ nodes pods, Compared c.settings nodes pods seen ∧
        (Consistent pods → Enough c.settings nodes pods)

theorem starting_eq_nil {s : Settings} {pods : List Pod}
    (h : ∀ p ∈ blockPods s pods, ∃ a, address? p = some a) :
    starting s pods = [] ∧ unscheduled s pods = 0 := by
  refine ⟨List.eq_nil_iff_forall_not_mem.2 fun p hp => ?_, if_neg ?_⟩
  · obtain ⟨hb, hnone⟩ := mem_starting.1 hp
    obtain ⟨a, ha⟩ := h p hb
    rw [hnone] at ha
    cases ha
  · rintro ⟨p, hp, hnone, _⟩
    obtain ⟨a, ha⟩ := h p hp
    rw [hnone] at ha
    cases ha

/-- Hosts with block devices are counted by what the pods say, however the cluster behaves. -/
theorem hosts_by_nodes {σ : Type} (server : Server σ) (cancelAt : Option Nat) (c : Context) :
    HostsByNodes server cancelAt c where
  count pods devices hd h := block_add_confused h hd
  same_iff pods devices hd h := by
    have := block_add_confused h hd
    omega
  same_of_started pods devices hd h hstarted := by
    obtain ⟨hnil, hscheduled⟩ := starting_eq_nil hstarted
    have hcount := block_add_confused h hd
    have hhalf : halfFilled c.settings pods = ∅ := by simp [halfFilled, hnil]
    have hconfused : confused c.settings pods = ∅ := by simp [confused, hnil]
    rw [hhalf, hconfused, hscheduled] at hcount
    exact hcount
  enough now s b seen hrun := by
    have hc := Procedure.course_watch server cancelAt
      (hasEnoughBlockHosts c.settings).attempt now s
    rw [hrun] at hc
    exact course_hasEnoughBlockHosts_ok hc
  awaited now s seen hrun := by
    have hc := Procedure.course_watch server cancelAt (awaitBlockHosts c).attempt now s
    rw [hrun] at hc
    exact course_awaitBlockHosts_compared hc

/-! ## A node that is counted twice -/

/-- The pod of an OSD on a block device of the first node. -/
def blockPodOnFirst (osd : UInt32) (address : Option String) : Pod :=
  let p := MiniCluster.osdPod osd "" false
  { p with
    spec := p.spec.map fun spec => { spec with node := some "node-1" }
    status := some { hostAddress := address } }

/-- Two pods on one node, of which only one was started. -/
def halfStarted : List Pod := [blockPodOnFirst 0 (some "10.0.0.1"), blockPodOnFirst 1 none]

/-- Two nodes, of which the second runs nothing. -/
def twoNodes : List Cluster.Node :=
  ["node-1", "node-2"].map fun name => { metadata := { name := some name } }

/-- A cluster that answers listings with these nodes and pods. -/
def halfStartedCluster : Server Unit where
  receive _ _ s := (some 0, s)
  answer
    | _, .listNodes, s => (some (.ok twoNodes), s)
    | _, .listPods _ _, s => (some (.ok halfStarted), s)
    | _, _, s => (none, s)

/-- A node of which one pod has the address and another has not is counted twice, and passes for two
nodes. -/
theorem one_node_counted_twice :
    Consistent halfStarted ∧
      (∃ devices, ofPods Settings.standard halfStarted = .ok devices ∧
        (countHosts devices).block = 2) ∧
      (blockNodes Settings.standard halfStarted).card = 1 ∧
      ∃ seen, (hasEnoughBlockHosts Settings.standard).attempt.watch halfStartedCluster none 0 () =
          (.done (.ok true), seen) ∧
        Compared Settings.standard twoNodes halfStarted seen ∧
        min twoNodes.length Settings.standard.maxBlockHosts.toNat = 2 := by
  have hpods : Consistent halfStarted := ⟨by decide +kernel, by decide +kernel⟩
  have hcount : (countHosts [⟨0, "10.0.0.1", .block⟩, ⟨1, "node-1", .block⟩]).block = 2 := by
    decide +kernel
  have hnodes : (blockNodes Settings.standard halfStarted).card = 1 := by decide +kernel
  exact ⟨hpods, ⟨_, rfl, hcount⟩, hnodes, _, rfl, ⟨[_], 0, [], _, ⟨0, 0, rfl⟩, rfl⟩, rfl⟩

end OsdMigration.Osd
