import Mathlib.Algebra.BigOperators.Group.Finset.Piecewise
import Mathlib.Algebra.Order.BigOperators.Group.Finset
import Mathlib.Algebra.Ring.Nat
import OsdMigration.Proofs.Verdict

set_option autoImplicit false

/-! # Counts of placement groups

A report lists counts of placement groups, each for a state, and a state may be listed again. How
many groups are in a state is the sum of its counts (`countOf`), and the sums for all states that
are listed make up the sum of all counts (`sum_countOf`). The program's own answer is this sum as
long as that is in the range of the counts (`Status.counted_in_range`). When it is not, a build that
checks its sums crashes, and one that does not answers with less (`Status.crowded_miscounted`).
-/

namespace OsdMigration.Ceph

open Json (Along At Field Given)

/-! ## What a report says -/

/-- A part of a count. -/
def StateCount.part (name : String) : Field := ⟨["state_name", "count"], name⟩

/-- A value gives a state and a count for it, and nothing else in their places. -/
structure IsCount (v : Json) (entry : String × Nat) : Prop where
  state : ∀ w, At (StateCount.part "state_name") v w ↔ w = .str entry.1
  count : ∀ w, At (StateCount.part "count") v w ↔ w = .ofNat entry.2

/-- A list of counts. -/
inductive AreCounts : Json → List (String × Nat) → Prop
  | arr {items : List Json} {entries : List (String × Nat)}
      (each : List.Forall₂ IsCount items entries) : AreCounts (.arr items) entries

/-- The counts of a report, in their order; none if it does not speak of them. -/
def SaysCounts (j : Json) (entries : List (String × Nat)) : Prop :=
  Given (Along (ofGroups "pgs_by_state") j) AreCounts [] entries

/-! ## Reading -/

/-- A count as a state with a number. -/
def StateCount.entry (c : StateCount) : String × Nat := (c.state, c.count.toNat)

/-- The counts in their order. -/
def PlacementGroups.entries (g : PlacementGroups) : List (String × Nat) :=
  g.byState.map StateCount.entry

theorem StateCount.says_of_ofJson? {v : Json} {c : StateCount} (h : ofJson? v = some c) :
    IsCount v c.entry := by
  unfold ofJson? at h
  obtain ⟨slots, hslots, h⟩ := Option.bind_eq_some_iff.1 h
  have hall := Json.slots_of_record? (by decide) hslots
  split at h
  · simp only [List.forall₂_cons] at hall
    simp only [Option.bind_eq_bind, Option.bind_eq_some_iff, Option.pure_def,
      Option.some.injEq] at h
    obtain ⟨_, hstate, _, hcount, rfl⟩ := h
    obtain ⟨w, rfl, hw⟩ := Option.bind_eq_some_iff.1 hstate
    obtain ⟨n, rfl, hn⟩ := Option.bind_eq_some_iff.1 hcount
    -- what stands in a place is what was read there
    constructor
    · intro v'
      apply (hall.1 v').trans
      rw [Json.text?_eq_some_iff.1 hw, Option.some.injEq, eq_comm]
      rfl
    · intro v'
      apply (hall.2.1 v').trans
      rw [Json.uint32?_eq_some_iff.1 hn, Option.some.injEq, eq_comm]
      rfl
  · cases h

theorem PlacementGroups.counts_of_ofJson? {k : Json} {g : PlacementGroups}
    (hk : ofJson? k = some g) :
    Given (Along [part "pgs_by_state"] k) AreCounts [] g.entries := by
  unfold ofJson? at hk
  obtain ⟨slots, hslots, hk⟩ := Option.bind_eq_some_iff.1 hk
  have hall := Json.slots_of_record? (by decide) hslots
  split at hk
  · simp only [List.forall₂_cons] at hall
    simp only [Option.bind_eq_bind, Option.bind_eq_some_iff, Option.pure_def,
      Option.some.injEq] at hk
    obtain ⟨byState, hbyState, _, _, _, _, _, _, _, _, _, _, _, _, _, _, rfl⟩ := hk
    refine (Json.given_of_field? hall.1 hbyState).last.map (List.map StateCount.entry) ?_ rfl
    intro v counts hv
    cases v with
    | arr items =>
        have hread := Json.forall₂_of_mapM hv
        refine .arr ?_
        rw [List.forall₂_map_right_iff]
        exact hread.imp fun _ _ => StateCount.says_of_ofJson?
    | _ => cases hv
  · cases hk

theorem Status.saysCounts_of_ofJson? {j : Json} {s : Status} (h : ofJson? j = some s) :
    SaysCounts j s.groups.entries :=
  (given_of_ofJson? h).2.field PlacementGroups.entries
    (fun _ _ hk => PlacementGroups.counts_of_ofJson? hk) rfl

/-! ## Sums of counts -/

/-- The sum of all counts for a state. -/
def countOf (entries : List (String × Nat)) (state : String) : Nat :=
  ((entries.filter fun e => e.1 = state).map Prod.snd).sum

/-- The sum of all counts. -/
def countAll (entries : List (String × Nat)) : Nat := (entries.map Prod.snd).sum

/-- The states that are listed. -/
def listed (entries : List (String × Nat)) : Finset String := (entries.map Prod.fst).toFinset

theorem countOf_cons (e : String × Nat) (entries : List (String × Nat)) (state : String) :
    countOf (e :: entries) state = (if e.1 = state then e.2 else 0) + countOf entries state := by
  unfold countOf
  by_cases h : e.1 = state
  · simp [h]
  · simp [h]

theorem countOf_of_not_listed {entries : List (String × Nat)} {state : String}
    (h : state ∉ listed entries) : countOf entries state = 0 := by
  have hnone : (entries.filter fun e => e.1 = state) = [] := by
    refine List.filter_eq_nil_iff.2 fun e he heq => h ?_
    rw [listed, List.mem_toFinset, ← of_decide_eq_true heq]
    exact List.mem_map_of_mem he
  rw [countOf, hnone]
  rfl

/-- Whichever states are summed over, if all that are listed are among them. -/
theorem sum_countOf_of_subset {entries : List (String × Nat)} {states : Finset String}
    (h : listed entries ⊆ states) : ∑ state ∈ states, countOf entries state = countAll entries := by
  induction entries with
  | nil => simp [countOf, countAll]
  | cons e entries ih =>
      have he : e.1 ∈ states := h (by simp [listed])
      have hrest : listed entries ⊆ states := by
        intro state hs
        apply h
        rw [listed, List.map_cons, List.toFinset_cons]
        exact Finset.mem_insert_of_mem hs
      calc ∑ state ∈ states, countOf (e :: entries) state
          = ∑ state ∈ states, ((if e.1 = state then e.2 else 0) + countOf entries state) := by
            simp only [countOf_cons]
        _ = (∑ state ∈ states, if e.1 = state then e.2 else 0)
              + ∑ state ∈ states, countOf entries state := Finset.sum_add_distrib
        _ = e.2 + countAll entries := by rw [Finset.sum_ite_eq, if_pos he, ih hrest]
        _ = countAll (e :: entries) := by simp [countAll]

/-- Every count is one for a state that is listed. -/
theorem sum_countOf (entries : List (String × Nat)) :
    ∑ state ∈ listed entries, countOf entries state = countAll entries :=
  sum_countOf_of_subset (Finset.Subset.refl _)

/-! ## The program's own answers -/

theorem sum_counts (g : PlacementGroups) (state : String) :
    ((g.byState.filter fun c => c.state = state).map fun c => c.count.toNat).sum =
      countOf g.entries state := by
  rw [countOf, PlacementGroups.entries, List.filter_map, List.map_map]
  rfl

theorem ofNat_toNat_add (a b : UInt32) : UInt32.ofNat (a.toNat + b.toNat) = a + b := by
  rw [UInt32.ofNat_add, UInt32.ofNat_toNat, UInt32.ofNat_toNat]

/-- Where sums are checked, a sum that is in the range in the end was so all the time. -/
theorem foldlM_checked (counts : List StateCount) (n : UInt32) :
    counts.foldlM (fun n c => Arithmetic.checked.add n c.count) n =
      if n.toNat + (counts.map fun c => c.count.toNat).sum < UInt32.size then
        .ok (UInt32.ofNat (n.toNat + (counts.map fun c => c.count.toNat).sum))
      else .error Arithmetic.overflow := by
  induction counts generalizing n with
  | nil =>
      have hn : n.toNat + (([] : List StateCount).map fun c => c.count.toNat).sum = n.toNat := rfl
      rw [hn, if_pos n.toNat_lt, UInt32.ofNat_toNat]
      rfl
  | cons c counts ih =>
      rw [List.foldlM_cons, List.map_cons, List.sum_cons, ← Nat.add_assoc, Arithmetic.add]
      by_cases hfits : n.toNat + c.count.toNat < UInt32.size
      · have hadd : (n + c.count).toNat = n.toNat + c.count.toNat := by
          rw [← ofNat_toNat_add, UInt32.toNat_ofNat_of_lt' hfits]
        rw [if_pos hfits]
        show counts.foldlM _ (n + c.count) = _
        rw [ih, hadd]
      · rw [if_neg hfits, if_neg (by omega)]
        rfl

theorem foldlM_wrapping (counts : List StateCount) (n : UInt32) :
    counts.foldlM (fun n c => Arithmetic.wrapping.add n c.count) n =
      .ok (UInt32.ofNat (n.toNat + (counts.map fun c => c.count.toNat).sum)) := by
  induction counts generalizing n with
  | nil => exact congrArg Except.ok UInt32.ofNat_toNat.symm
  | cons c counts ih =>
      rw [List.foldlM_cons, List.map_cons, List.sum_cons, ← Nat.add_assoc, Arithmetic.add]
      show counts.foldlM _ (n + c.count) = _
      rw [ih, UInt32.ofNat_add, UInt32.ofNat_toNat, UInt32.ofNat_add (n.toNat + _),
        ofNat_toNat_add]

theorem inState_checked (g : PlacementGroups) (state : String) :
    g.inState .checked state =
      if countOf g.entries state < UInt32.size then .ok (UInt32.ofNat (countOf g.entries state))
      else .error Arithmetic.overflow := by
  have hzero : (0 : UInt32).toNat = 0 := rfl
  rw [PlacementGroups.inState, foldlM_checked, sum_counts, hzero, Nat.zero_add]

theorem inState_wrapping (g : PlacementGroups) (state : String) :
    g.inState .wrapping state = .ok (UInt32.ofNat (countOf g.entries state)) := by
  have hzero : (0 : UInt32).toNat = 0 := rfl
  rw [PlacementGroups.inState, foldlM_wrapping, sum_counts, hzero, Nat.zero_add]

/-- In every build the answer on a state whose counts are in the range is their sum. -/
theorem inState_of_lt (arithmetic : Arithmetic) {g : PlacementGroups} {state : String}
    (h : countOf g.entries state < UInt32.size) :
    g.inState arithmetic state = .ok (UInt32.ofNat (countOf g.entries state)) := by
  cases arithmetic with
  | checked => rw [inState_checked, if_pos h]
  | wrapping => exact inState_wrapping g state

/-- Every answer is the sum modulo the range. -/
theorem toNat_of_inState {arithmetic : Arithmetic} {g : PlacementGroups} {state : String}
    {n : UInt32} (h : g.inState arithmetic state = .ok n) :
    n.toNat = countOf g.entries state % UInt32.size := by
  have hn : n = UInt32.ofNat (countOf g.entries state) := by
    cases arithmetic with
    | checked =>
        rw [inState_checked] at h
        split at h
        · exact (Except.ok.inj h).symm
        · cases h
    | wrapping =>
        rw [inState_wrapping] at h
        exact (Except.ok.inj h).symm
  rw [hn, UInt32.toNat_ofNat']

/-- The program has an answer on each of some states. -/
def Answers (arithmetic : Arithmetic) (g : PlacementGroups) (states : Finset String)
    (answer : String → UInt32) : Prop :=
  ∀ state ∈ states, g.inState arithmetic state = .ok (answer state)

/-- What the answers on states say of the counts. -/
structure CountedInRange (g : PlacementGroups) : Prop where
  /-- In every build the answer on a state is the sum of its counts just if that is in the range. -/
  exact_iff : ∀ arithmetic state,
    (∃ n, g.inState arithmetic state = .ok n ∧ n.toNat = countOf g.entries state) ↔
      countOf g.entries state < UInt32.size
  /-- Otherwise a build that checks its sums crashes, -/
  checked : ∀ state, UInt32.size ≤ countOf g.entries state →
    g.inState .checked state = .error Arithmetic.overflow
  /-- and the answer of one that does not is the sum modulo the range. -/
  wrapping : ∀ state, ∃ n, g.inState .wrapping state = .ok n ∧
    n.toNat = countOf g.entries state % UInt32.size
  /-- The answers on all states make up the sum of all counts just if each of them is exact. -/
  all_iff : ∀ arithmetic,
    (∃ answer, Answers arithmetic g (listed g.entries) answer ∧
      ∑ state ∈ listed g.entries, (answer state).toNat = countAll g.entries) ↔
        ∀ state, countOf g.entries state < UInt32.size

theorem countedInRange (g : PlacementGroups) : CountedInRange g := by
  have hpos : 0 < UInt32.size := by decide
  have hexact : ∀ {arithmetic state n}, g.inState arithmetic state = .ok n →
      (n.toNat = countOf g.entries state ↔ countOf g.entries state < UInt32.size) := by
    intro arithmetic state n h
    rw [toNat_of_inState h]
    exact Nat.mod_eq_iff_lt (Nat.ne_of_gt hpos)
  refine ⟨fun arithmetic state => ⟨?_, fun h => ?_⟩, fun state h => ?_, fun state => ?_,
    fun arithmetic => ⟨?_, fun h => ?_⟩⟩
  · rintro ⟨n, hn, hsum⟩
    exact (hexact hn).1 hsum
  · have hn := inState_of_lt arithmetic h
    exact ⟨_, hn, (hexact hn).2 h⟩
  · rw [inState_checked, if_neg (Nat.not_lt_of_le h)]
  · exact ⟨_, inState_wrapping g state, toNat_of_inState (inState_wrapping g state)⟩
  · rintro ⟨answer, hanswer, hsum⟩ state
    have hle : ∀ state ∈ listed g.entries, (answer state).toNat ≤ countOf g.entries state := by
      intro state hs
      rw [toNat_of_inState (hanswer state hs)]
      exact Nat.mod_le _ _
    rw [← sum_countOf, Finset.sum_eq_sum_iff_of_le hle] at hsum
    by_cases hs : state ∈ listed g.entries
    · exact (hexact (hanswer state hs)).1 (hsum state hs)
    · rw [countOf_of_not_listed hs]
      exact hpos
  · refine ⟨fun state => UInt32.ofNat (countOf g.entries state),
      fun state _ => inState_of_lt arithmetic (h state), ?_⟩
    rw [← sum_countOf]
    exact Finset.sum_congr rfl fun state _ => UInt32.toNat_ofNat_of_lt' (h state)

namespace Status

/-- The counts of a report are those that its document lists, and the answers on its states are
their sums as far as these are in the range. -/
theorem counted_in_range {text : String} {s : Status} (h : parse? text = some s) :
    ∃ j, Json.parse? text = some j ∧ SaysCounts j s.groups.entries ∧ CountedInRange s.groups := by
  obtain ⟨j, hj, hs⟩ := Option.bind_eq_some_iff.1 h
  exact ⟨j, hj, saysCounts_of_ofJson? hs, countedInRange s.groups⟩

/-- A report that lists a state twice, once as an object and once as an array. -/
def crowded : String :=
  "\x7b\"pgmap\":\x7b\"pgs_by_state\":[\x7b\"count\":4294967295,\"state_name\":\"active\"\x7d,"
    ++ "[\"active\",1],\x7b\"state_name\":\"peering\",\"count\":7\x7d]\x7d\x7d"

theorem crowded_counted : ∃ s j, parse? crowded = some s ∧ Json.parse? crowded = some j ∧
    SaysCounts j s.groups.entries ∧ CountedInRange s.groups := by
  have hread : (parse? crowded).isSome = true := by decide +kernel
  obtain ⟨s, hs⟩ := Option.isSome_iff_exists.1 hread
  obtain ⟨j, h⟩ := counted_in_range hs
  exact ⟨s, j, hs, h⟩

/-- Its groups in that state are one more than a count has room for: a build that checks its sums
crashes, and another one answers that there are none. -/
theorem crowded_miscounted : ∃ s, parse? crowded = some s ∧
    s.groups.entries = [("active", 4294967295), ("active", 1), ("peering", 7)] ∧
    countOf s.groups.entries "active" = 4294967296 ∧
    s.groups.inState .checked "active" = .error Arithmetic.overflow ∧
    s.groups.inState .wrapping "active" = .ok 0 ∧ s.groups.inState .wrapping "peering" = .ok 7 ∧
    countAll s.groups.entries = 4294967303 := by
  have hread : (parse? crowded).map (fun s => s.groups.byState) =
      some [⟨"active", 4294967295⟩, ⟨"active", 1⟩, ⟨"peering", 7⟩] := by decide +kernel
  obtain ⟨s, hs, hb⟩ := Option.map_eq_some_iff.1 hread
  have hentries : s.groups.entries = [("active", 4294967295), ("active", 1), ("peering", 7)] := by
    rw [PlacementGroups.entries, hb]
    rfl
  refine ⟨s, hs, hentries, ?_, ?_, ?_, ?_, ?_⟩
  all_goals simp only [inState_checked, inState_wrapping, hentries]
  all_goals decide +kernel

end Status

end OsdMigration.Ceph
