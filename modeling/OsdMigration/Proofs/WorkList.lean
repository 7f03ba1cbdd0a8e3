import OsdMigration.Proofs.ExitCode
import OsdMigration.Proofs.Nodes

set_option autoImplicit false

/-! # The early exit and the work list

Whether there is anything to migrate is told by a count of hosts, and what there is to migrate by a
list of OSDs. Both are made from a listing of pods. The listing is read pod by pod, up to the first
one that carries no number (`ofPods_error_iff`), so that both fail together; and when they do not,
the count is zero just if the list is empty (`early_exit_agrees`).
-/

namespace OsdMigration

namespace Text

/-- The numeral of a natural number: ASCII digits, which a plus sign may precede. -/
inductive Unsigned (n : Nat) : List Char → Prop
  | bare {ds : List Char} (ne : ds ≠ []) (denotes : Denotes ds n) : Unsigned n ds
  | plus {ds : List Char} (ne : ds ≠ []) (denotes : Denotes ds n) : Unsigned n ('+' :: ds)

theorem natural?_eq_some {cs : List Char} {n : Nat} : natural? cs = some n ↔ Unsigned n cs := by
  constructor
  · intro h
    unfold natural? at h
    split at h
    · obtain ⟨hne, hd⟩ := digits?_eq_some.1 h
      exact .plus hne hd
    · obtain ⟨hne, hd⟩ := digits?_eq_some.1 h
      exact .bare hne hd
  · rintro (⟨hne, hd⟩ | ⟨hne, hd⟩)
    · obtain ⟨c, cs, rfl⟩ := List.exists_cons_of_ne_nil hne
      obtain ⟨hplus, _⟩ := hd.ne_sign
      simp [natural?, hplus, digits?_eq_some.2 ⟨hne, hd⟩]
    · exact digits?_eq_some.2 ⟨hne, hd⟩

theorem uint32?_eq_none {s : String} :
    uint32? s = none ↔ ¬ ∃ n, n < UInt32.size ∧ Unsigned n s.toList := by
  rw [uint32?, Option.bind_eq_none_iff]
  constructor
  · rintro h ⟨n, hlt, hn⟩
    have hnone := h n (natural?_eq_some.2 hn)
    rw [if_pos hlt] at hnone
    cases hnone
  · intro h n hn
    by_cases hlt : n < UInt32.size
    · exact absurd ⟨n, hlt, natural?_eq_some.1 hn⟩ h
    · rw [if_neg hlt]

end Text

namespace Osd

open Cluster (Pod)

variable {s : Settings} {pods : List Pod} {devices : List Device} {p : Pod}

/-! ## Pods without a number -/

/-- A pod carries the number of an OSD: the label is there, and its value is the numeral of a
number of the 32-bit range. -/
def Labelled (s : Settings) (p : Pod) : Prop :=
  ∃ value n, p.labels.get? s.osdLabel = some value ∧ n < UInt32.size ∧
    Text.Unsigned n value.toList

/-- The failure to find the number of a pod. It says what the label is, which is nothing if there
is no label. -/
def unlabelled (s : Settings) (p : Pod) : Failure :=
  .osdLabel (p.metadata.name.getD "") ((p.labels.get? s.osdLabel).getD "")

/-- The first pod of a listing that carries no number. -/
def FirstUnlabelled (s : Settings) (pods : List Pod) (p : Pod) : Prop :=
  ¬ Labelled s p ∧ ∃ before after, pods = before ++ p :: after ∧ ∀ q ∈ before, Labelled s q

theorem labelled_iff :
    Labelled s p ↔ ∃ osd, Text.uint32? ((p.labels.get? s.osdLabel).getD "") = some osd := by
  -- no label is read as an empty one, and that is no numeral
  have hempty : Text.uint32? "" = none := by decide +kernel
  unfold Labelled
  rw [← Option.isSome_iff_exists, Option.isSome_iff_ne_none]
  cases hl : p.labels.get? s.osdLabel with
  | none => simp [hempty]
  | some value =>
      rw [Option.getD_some, Ne, Text.uint32?_eq_none, not_not]
      simp

theorem ofPod_of_labelled (h : Labelled s p) :
    ∃ d, Device.ofPod s.osdLabel s.hostpathMount p = .ok d := by
  obtain ⟨osd, hosd⟩ := labelled_iff.1 h
  exact ⟨_, by rw [Device.ofPod, hosd]⟩

theorem ofPod_of_not_labelled (h : ¬ Labelled s p) :
    Device.ofPod s.osdLabel s.hostpathMount p = .error (unlabelled s p) := by
  have hnone : Text.uint32? ((p.labels.get? s.osdLabel).getD "") = none := by
    rw [Option.eq_none_iff_forall_ne_some]
    exact fun osd hosd => h (labelled_iff.2 ⟨osd, hosd⟩)
  rw [Device.ofPod, hnone]
  rfl

/-! ## Reading a listing -/

theorem ofPods_cons_error {f : Failure}
    (h : Device.ofPod s.osdLabel s.hostpathMount p = .error f) :
    ofPods s (p :: pods) = .error f := by
  rw [ofPods, List.mapM_cons, h]
  rfl

theorem ofPods_cons_ok {d : Device} (h : Device.ofPod s.osdLabel s.hostpathMount p = .ok d) :
    ofPods s (p :: pods) = (ofPods s pods).map (d :: ·) := by
  rw [ofPods, List.mapM_cons, h, ofPods]
  cases List.mapM (Device.ofPod s.osdLabel s.hostpathMount) pods <;> rfl

/-- If every pod carries a number, the listing is read. -/
theorem exists_ofPods (h : ∀ p ∈ pods, Labelled s p) : ∃ devices, ofPods s pods = .ok devices := by
  induction pods with
  | nil => exact ⟨[], rfl⟩
  | cons p pods ih =>
      obtain ⟨hp, hpods⟩ := List.forall_mem_cons.1 h
      obtain ⟨d, hd⟩ := ofPod_of_labelled hp
      obtain ⟨devices, hdevices⟩ := ih hpods
      refine ⟨d :: devices, ?_⟩
      rw [ofPods_cons_ok hd, hdevices]
      rfl

/-- Of a listing that is read every pod carries a number. -/
theorem labelled_of_ofPods (h : ofPods s pods = .ok devices) : ∀ p ∈ pods, Labelled s p := by
  induction pods generalizing devices with
  | nil => simp
  | cons p pods ih =>
      obtain ⟨first, others, hp, hpods, _⟩ := ofPods_cons h
      refine List.forall_mem_cons.2 ⟨?_, ih hpods⟩
      exact labelled_iff.2 ⟨first.osd, (ofPod_ok hp).1⟩

theorem firstUnlabelled_cons {q : Pod} (h : Labelled s p) :
    FirstUnlabelled s (p :: pods) q ↔ FirstUnlabelled s pods q := by
  refine and_congr_right fun hq => ?_
  constructor
  · rintro ⟨before, after, he, hbefore⟩
    cases before with
    | nil =>
        cases he
        exact absurd h hq
    | cons p' before =>
        cases he
        exact ⟨before, after, rfl, fun r hr => hbefore r (List.mem_cons_of_mem _ hr)⟩
  · rintro ⟨before, after, rfl, hbefore⟩
    exact ⟨p :: before, after, rfl, List.forall_mem_cons.2 ⟨h, hbefore⟩⟩

theorem firstUnlabelled_cons_self {q : Pod} (h : ¬ Labelled s p) :
    FirstUnlabelled s (p :: pods) q ↔ q = p := by
  constructor
  · rintro ⟨_, before, after, he, hbefore⟩
    cases before with
    | nil =>
        cases he
        rfl
    | cons p' before =>
        cases he
        exact absurd (hbefore p List.mem_cons_self) h
  · rintro rfl
    exact ⟨h, [], pods, rfl, by simp⟩

/-- A listing is not read just if some pod carries no number. The first of them is the reason,
however many pods stand in front of it. -/
theorem ofPods_error_iff {f : Failure} :
    ofPods s pods = .error f ↔ ∃ p, FirstUnlabelled s pods p ∧ f = unlabelled s p := by
  induction pods with
  | nil =>
      constructor
      · intro h
        cases h
      · rintro ⟨p, ⟨_, before, after, he, _⟩, _⟩
        cases before <;> cases he
  | cons p pods ih =>
      by_cases hp : Labelled s p
      · obtain ⟨d, hd⟩ := ofPod_of_labelled hp
        have hmap : (ofPods s pods).map (d :: ·) = .error f ↔ ofPods s pods = .error f := by
          cases ofPods s pods <;> simp [Except.map]
        rw [ofPods_cons_ok hd, hmap, ih]
        exact exists_congr fun q => and_congr_left' (firstUnlabelled_cons hp).symm
      · rw [ofPods_cons_error (ofPod_of_not_labelled hp)]
        constructor
        · intro h
          exact ⟨p, (firstUnlabelled_cons_self hp).2 rfl, (Except.error.inj h).symm⟩
        · rintro ⟨q, hq, rfl⟩
          rw [(firstUnlabelled_cons_self hp).1 hq]

/-! ## The count and the list -/

/-- Each host counts once. -/
theorem length_hosts (backing : Backing) (devices : List Device) :
    (hosts backing devices).length =
      ((devices.filter fun d => d.backing = backing).map Device.host).toFinset.card :=
  length_eraseDups _

theorem hostpath_eq_zero_iff (devices : List Device) :
    (countHosts devices).hostpath = 0 ↔ onHostpath devices = [] := by
  show (hosts .hostpath devices).length = 0 ↔ _
  rw [length_hosts, Finset.card_eq_zero, List.toFinset_eq_empty_iff, onHostpath,
    List.map_eq_nil_iff, List.map_eq_nil_iff]

theorem hostpath_le (devices : List Device) :
    (countHosts devices).hostpath ≤ (onHostpath devices).length := by
  calc (hosts .hostpath devices).length
      = ((devices.filter fun d => d.backing = .hostpath).map Device.host).toFinset.card :=
        length_hosts _ _
    _ ≤ ((devices.filter fun d => d.backing = .hostpath).map Device.host).length :=
        List.toFinset_card_le _
    _ = (onHostpath devices).length := by rw [onHostpath, List.length_map, List.length_map]

/-- The counts depend only on which OSDs there are, not on their order or how often they stand in
the list. -/
theorem countHosts_congr {devices' : List Device} (h : ∀ d, d ∈ devices ↔ d ∈ devices') :
    countHosts devices = countHosts devices' := by
  have hsame : ∀ backing,
      (hosts backing devices).length = (hosts backing devices').length := by
    intro backing
    rw [length_hosts, length_hosts]
    congr 1
    ext host
    simp only [List.mem_toFinset, List.mem_map, List.mem_filter, h]
  unfold countHosts
  rw [hsame, hsame]

/-! ## Both of a listing -/

/-- The counts of the hosts of a listing. -/
def countsOf (s : Settings) (pods : List Pod) : Attempt HostCounts := (ofPods s pods).map countHosts

/-- The numbers of the OSDs of a listing that are on host directories. -/
def numbersOf (s : Settings) (pods : List Pod) : Attempt (List UInt32) :=
  (ofPods s pods).map onHostpath

/-- The procedure that asks for a listing of the pods of OSDs, and makes something of it. -/
def ofListing {α : Type} (s : Settings) (found : List Pod → Attempt α) : Procedure (Attempt α) :=
  .call (.listPods s.space s.osdSelector) fun answer =>
    .pure ((answer.during "unable to list OSD pods").bind found)

/-- Whatever is made of the OSDs is made of the one listing that is asked for. -/
theorem attempt_inventory {α : Type} (s : Settings) (g : List Device → α) :
    Job.attempt (do let devices ← inventory s; pure (g devices)) =
      ofListing s fun pods => (ofPods s pods).map g := by
  refine congrArg (Procedure.call _) (funext fun answer => ?_)
  cases answer with
  | error f => rfl
  | ok pods =>
      show Job.attempt (do let devices ← Job.ofAttempt (ofPods s pods); pure (g devices)) =
        .pure ((ofPods s pods).map g)
      cases ofPods s pods <;> rfl

theorem map_eq_error_iff {α β ε : Type} {a : Except ε α} {g : α → β} {f : ε} :
    a.map g = .error f ↔ a = .error f := by
  cases a <;> simp [Except.map]

theorem map_eq_ok_iff {α β ε : Type} {a : Except ε α} {g : α → β} {b : β} :
    a.map g = .ok b ↔ ∃ x, a = .ok x ∧ g x = b := by
  cases a <;> simp [Except.map]

/-- The count that decides whether there is anything to migrate and the list of what there is
agree. -/
structure Agree (s : Settings) : Prop where
  /-- Both ask for a listing once, and what they answer they make of this listing. -/
  counts : (countHostsNow s).attempt = ofListing s (countsOf s)
  numbers : (hostpathOsds s).attempt = ofListing s (numbersOf s)
  /-- The count fails just if some pod carries no number, because of the first such pod, -/
  counts_error : ∀ pods f,
    countsOf s pods = .error f ↔ ∃ p, FirstUnlabelled s pods p ∧ f = unlabelled s p
  /-- and the list fails just then and for the same reason. -/
  numbers_error : ∀ pods f,
    numbersOf s pods = .error f ↔ ∃ p, FirstUnlabelled s pods p ∧ f = unlabelled s p
  /-- If every pod carries a number there are both. No host is counted just if no OSD is listed,
  and not more hosts are counted than OSDs are listed. -/
  found : ∀ pods, (∀ p ∈ pods, Labelled s p) → ∃ counts numbers, countsOf s pods = .ok counts ∧
    numbersOf s pods = .ok numbers ∧ (counts.hostpath = 0 ↔ numbers = []) ∧
    counts.hostpath ≤ numbers.length
  /-- A listing of the same pods, in another order or with some of them again, has the same
  counts. -/
  counts_same : ∀ pods pods', (∀ p, p ∈ pods' ↔ p ∈ pods) → ∀ counts,
    countsOf s pods = .ok counts → countsOf s pods' = .ok counts

theorem early_exit_agrees (s : Settings) : Agree s where
  counts := attempt_inventory s countHosts
  numbers := attempt_inventory s onHostpath
  counts_error _ _ := map_eq_error_iff.trans ofPods_error_iff
  numbers_error _ _ := map_eq_error_iff.trans ofPods_error_iff
  found pods h := by
    obtain ⟨devices, hdevices⟩ := exists_ofPods h
    refine ⟨countHosts devices, onHostpath devices, ?_, ?_, hostpath_eq_zero_iff devices,
      hostpath_le devices⟩
    · rw [countsOf, hdevices]
      rfl
    · rw [numbersOf, hdevices]
      rfl
  counts_same pods pods' hsame counts hcounts := by
    obtain ⟨devices, hdevices, rfl⟩ := map_eq_ok_iff.1 hcounts
    -- the same pods are read wherever they stand
    have hlabelled := labelled_of_ofPods hdevices
    obtain ⟨devices', hdevices'⟩ := exists_ofPods fun p hp => hlabelled p ((hsame p).1 hp)
    have hmem : ∀ d, d ∈ devices ↔ d ∈ devices' := by
      intro d
      rw [mem_devices_iff hdevices', mem_devices_iff hdevices]
      simp only [hsame]
    rw [countsOf, hdevices', countHosts_congr hmem]
    rfl

end Osd

end OsdMigration
