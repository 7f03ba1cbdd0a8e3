import OsdMigration.Proofs.Removal.Obliging

set_option autoImplicit false

/-! # What the wait for a missing OSD shows

Between the scaling down of an OSD's deployment and its purge a report is read in which some OSD is
down. Which one it is, and since when, the wait does not ask: it compares the two counts of one
report and never that report with an earlier one. So the count of OSDs that are up need not have
dropped since the scaling down, and the exact condition under which it may not have is
`LetThrough`.
-/

namespace OsdMigration.Removal

open Ceph (Command Status)

/-- What is seen of the removal of an OSD or of a migration. -/
inductive Observed (c : Context) : List Event → Prop
  | removal {σ : Type} (server : Server σ) (cancelAt : Option Nat) (now : Nat) (s : σ)
      (osd : UInt32) : Observed c ((removeOsd c osd).attempt.watch server cancelAt now s).2
  | migration {σ : Type} (server : Server σ) (cancelAt : Option Nat) (now : Nat) (s : σ) :
      Observed c ((migrate c).attempt.watch server cancelAt now s).2

/-- The purge of an OSD is sent, and this was seen until then. -/
def PurgeSent (c : Context) (osd : UInt32) (front : List Event) : Prop :=
  ∃ t space pod container after,
    Observed c (front ++ .called t (.exec space pod container (Command.purge osd).argv) :: after)

/-- The reports on both sides of the last time that the deployment of an OSD was scaled down: the
last one before, and all since. -/
def Stopped (c : Context) (osd : UInt32) (b : Status) (rs : List Status) (front : List Event) :
    Prop :=
  ∃ before u between,
    front = before ++ .answered u (scaleDownRequest c.settings osd) (.ok ()) :: between ∧
    (∀ v, .answered v (scaleDownRequest c.settings osd) (.ok ()) ∉ between) ∧
    (reports before).getLast? = some b ∧ reports between = rs

/-- Three reports in the light of which a purge may pass although no fewer OSDs are up after the
scaling down than before: a healthy one before, and after it one with an OSD down and a healthy
one. -/
structure LetThrough (b d a : Status) : Prop where
  readable : Readable b ∧ Readable d ∧ Readable a
  healthy : b.verdict.1 = true ∧ a.verdict.1 = true
  someDown : d.osds.up < d.osds.total
  noFewer : b.osds.up ≤ d.osds.up ∧ b.osds.up ≤ a.osds.up

/-! ## What is always seen -/

theorem Observed.guarded {c : Context} {seen : List Event} (h : Observed c seen) :
    PurgeGuarded c seen := by
  cases h with
  | removal server cancelAt now s osd =>
      exact removeOsd_guarded c osd _ _ (Procedure.course_watch server cancelAt _ now s)
  | migration server cancelAt now s =>
      exact migrate_guarded c _ _ (Procedure.course_watch server cancelAt _ now s)

theorem PurgeSent.gate {c : Context} {osd : UInt32} {front : List Event}
    (h : PurgeSent c osd front) : ∃ earlier gate, front = earlier ++ gate ∧ Gate c osd gate := by
  obtain ⟨t, space, pod, container, after, h⟩ := h
  exact h.guarded.gated osd t space pod container front after rfl

/-- What the gate shows of the reports on both sides of the scaling down. -/
theorem reports_of_gate {c : Context} {osd : UInt32} {gate : List Event} (h : Gate c osd gate) :
    ∃ before u between rs b,
      gate = before ++ .answered u (scaleDownRequest c.settings osd) (.ok ()) :: between ∧
      Asking (· ≠ scaleDownRequest c.settings osd) between ∧
      reports before = rs ++ [b] ∧ Readable b ∧ b.verdict.1 = true ∧
      (∃ d ∈ reports between, Readable d ∧ d.osds.up < d.osds.total) ∧
      ∃ a ∈ reports between, Readable a ∧ a.verdict.1 = true := by
  obtain @⟨weighed, settled, _, confirmed, _, resettled, ready, _, hs, ⟨t, u, v, m, rfl⟩, _,
    ⟨earlier, report, d, rfl, hr, hd⟩, hs', _, honce⟩ := h
  obtain ⟨rs, b, hb, hread, hv⟩ := Settled.last_report hs (confirmations_pos _)
  obtain ⟨rs', a, ha, hread', hv'⟩ := Settled.last_report hs' (confirmations_pos _)
  refine ⟨weighed ++ settled ++ [.told t m, .called u (scaleDownRequest c.settings osd)], v,
    confirmed ++ (earlier ++ report) ++ resettled ++ ready, reports weighed ++ rs, b, by simp,
    honce, ?_, hread, hv, ⟨d, ?_, Reported.readable hr, hd⟩, a, ?_, hread', hv'⟩
  · have hq : reports [.told t m, .called u (scaleDownRequest c.settings osd)] = [] := rfl
    rw [reports_append, reports_append, hq, hb]
    simp
  · simp [reports_of_reported hr]
  · simp [ha]

/-- The last element with a property stands in one place only. -/
theorem eq_of_last {α : Type} {p : α → Prop} {a b before between : List α} {e e' : α}
    (h : a ++ e :: b = before ++ e' :: between) (he : p e) (he' : p e') (hb : ∀ x ∈ b, ¬ p x)
    (hbetween : ∀ x ∈ between, ¬ p x) : a = before ∧ b = between := by
  rcases append_eq_append_cons h with ⟨rest, _, rfl⟩ | ⟨front, rfl, hs⟩
  · exact absurd he (hbetween e (List.mem_append_right _ List.mem_cons_self))
  · cases front with
    | nil => exact ⟨(List.append_nil a).symm, (List.cons.inj hs).2⟩
    | cons x front =>
        rw [(List.cons.inj hs).2] at hb
        exact absurd he' (hb e' (List.mem_append_right _ List.mem_cons_self))

/-- The last time that the deployment was scaled down is one, and so are the reports around it. -/
theorem Stopped.unique {c : Context} {osd : UInt32} {b b' : Status} {rs rs' : List Status}
    {front : List Event} (h : Stopped c osd b rs front) (h' : Stopped c osd b' rs' front) :
    b = b' ∧ rs = rs' := by
  obtain ⟨before, u, between, rfl, hlast, hb, rfl⟩ := h
  obtain ⟨before', u', between', hsplit, hlast', hb', rfl⟩ := h'
  obtain ⟨rfl, rfl⟩ := eq_of_last
    (p := fun e => ∃ v, e = .answered v (scaleDownRequest c.settings osd) (.ok ()))
    hsplit ⟨u, rfl⟩ ⟨u', rfl⟩ (fun e he ⟨v, hv⟩ => hlast v (hv ▸ he))
    (fun e he ⟨v, hv⟩ => hlast' v (hv ▸ he))
  exact ⟨Option.some.inj (hb.symm.trans hb'), rfl⟩

/-- Before a purge the deployment was scaled down, in the light of a healthy report; since then an
OSD was down in one report and all was well in one. -/
theorem PurgeSent.stopped {c : Context} {osd : UInt32} {front : List Event}
    (h : PurgeSent c osd front) :
    ∃ b rs, Stopped c osd b rs front ∧ Readable b ∧ b.verdict.1 = true ∧
      (∃ d ∈ rs, Readable d ∧ d.osds.up < d.osds.total) ∧
      ∃ a ∈ rs, Readable a ∧ a.verdict.1 = true := by
  obtain ⟨earlier, gate, rfl, hg⟩ := h.gate
  obtain ⟨before, u, between, rs, b, rfl, honce, hb, hread, hv, hdown, hhealthy⟩ :=
    reports_of_gate hg
  refine ⟨b, reports between, ⟨earlier ++ before, u, between, by simp, ?_, by simp [hb], rfl⟩,
    hread, hv, hdown, hhealthy⟩
  exact fun v hm => honce _ hm _ rfl rfl

/-! ## What need not be seen -/

/-- In the light of such reports a purge does pass. -/
theorem stopped_of_letThrough {b d a : Status} (h : LetThrough b d a) :
    ∃ c osd front, PurgeSent c osd front ∧ Stopped c osd b [d, a] front := by
  obtain ⟨⟨⟨first, hb⟩, ⟨second, hd⟩, ⟨third, ha⟩⟩, ⟨hvb, hva⟩, hdown, _⟩ := h
  have hclock : 0 + 600000 < Clock.length := by decide
  obtain ⟨before, u, between, t, space, pod, container, after, hw, hrb, hrs, honce⟩ :=
    purge_sent hb hvb hd hdown ha hva 0 hclock
  have hobs := Observed.removal (c := hasty) obliging none 0 [first, second, third] 0
  rw [hw] at hobs
  refine ⟨hasty, 0, before ++ .answered u (scaleDownRequest hasty.settings 0) (.ok ()) :: between,
    ⟨t, space, pod, container, after, by simpa using hobs⟩, before, u, between, rfl, ?_, ?_, hrs⟩
  · exact fun v hm => honce _ hm _ rfl rfl
  · rw [hrb]
    rfl

/-- Before every purge some OSD was down in a report since the scaling down. That fewer OSDs are up
in one than right before the scaling down is certain just if the reports that the cluster gives do
not let the purge through. -/
theorem drop_seen_iff (given : Status → Status → Prop) :
    (∀ c osd front, PurgeSent c osd front → ∃ b rs, Stopped c osd b rs front ∧
      (∃ d ∈ rs, d.osds.up < d.osds.total) ∧
      ((∀ r ∈ rs, given b r) → ∃ r ∈ rs, r.osds.up < b.osds.up)) ↔
    ∀ b d a, given b d → given b a → ¬ LetThrough b d a := by
  constructor
  · intro h b d a hd ha hlet
    obtain ⟨c, osd, front, hsent, hs⟩ := stopped_of_letThrough hlet
    obtain ⟨b', rs, hs', _, hdrop⟩ := h c osd front hsent
    obtain ⟨rfl, rfl⟩ := hs.unique hs'
    obtain ⟨r, hr, hlt⟩ := hdrop (by simp [hd, ha])
    have hle : b.osds.up ≤ r.osds.up := by
      rcases List.mem_cons.1 hr with rfl | hr
      · exact hlet.noFewer.1
      · rw [List.mem_singleton.1 hr]
        exact hlet.noFewer.2
    exact absurd hlt (UInt32.not_lt.2 hle)
  · intro hnone c osd front hsent
    obtain ⟨b, rs, hs, hread, hv, ⟨d, hd, hreadd, hdown⟩, a, ha, hreada, hva⟩ := hsent.stopped
    refine ⟨b, rs, hs, ⟨d, hd, hdown⟩, fun hgiven => ?_⟩
    by_cases hlt : ∃ r ∈ rs, r.osds.up < b.osds.up
    · exact hlt
    · have hle : ∀ r ∈ rs, b.osds.up ≤ r.osds.up := fun r hr =>
        UInt32.not_lt.1 fun h => hlt ⟨r, hr, h⟩
      exact absurd ⟨⟨hread, hreadd, hreada⟩, ⟨hv, hva⟩, hdown, hle d hd, hle a ha⟩
        (hnone b d a (hgiven d hd) (hgiven a ha))

/-- A cluster of four OSDs that is healthy though one of them was down all the time: its report
lets the purge of another through. -/
theorem purged_without_drop :
    ∃ c osd front b rs, PurgeSent c osd front ∧ Stopped c osd b rs front ∧
      ∀ r ∈ rs, ¬ r.osds.up < b.osds.up := by
  have hread : ((Status.parse? ("\x7b\"health\":\x7b\"status\":\"HEALTH_OK\"\x7d,\"osdmap\":"
      ++ "\x7b\"osdmap\":\x7b\"num_osds\":4,\"num_up_osds\":3\x7d\x7d\x7d")).map fun s =>
      (s.verdict.1, s.osds.up, s.osds.total)) = some (true, 3, 4) := by decide +kernel
  obtain ⟨b, hb, hs⟩ := Option.map_eq_some_iff.1 hread
  obtain ⟨hv, hup, htotal⟩ : b.verdict.1 = true ∧ b.osds.up = 3 ∧ b.osds.total = 4 := by
    simpa using hs
  have hlet : LetThrough b b b := by
    refine ⟨⟨⟨_, hb⟩, ⟨_, hb⟩, ⟨_, hb⟩⟩, ⟨hv, hv⟩, ?_, UInt32.le_refl _, UInt32.le_refl _⟩
    rw [hup, htotal]
    decide
  obtain ⟨c, osd, front, hsent, hs⟩ := stopped_of_letThrough hlet
  refine ⟨c, osd, front, b, [b, b], hsent, hs, fun r hr => ?_⟩
  obtain rfl : r = b := by simpa using hr
  exact UInt32.lt_irrefl _

end OsdMigration.Removal
