import OsdMigration.Proofs.Completion.Commands
import OsdMigration.Proofs.MiniCluster.Departure
import OsdMigration.Proofs.Removal.Stages

set_option autoImplicit false

/-! # Removals that succeed

On a cluster in memory that answers every command, the waits end with the last confirmation they
want, if their settings leave them the time for it (`Context.Ample`) and the clock goes on for the
time that they are given (`Context.Lasts`). So the steps of a removal succeed one after the other,
and an OSD that the cluster runs is removed: what is left is the cluster without it
(`brings_removeOsd`), whichever OSDs are removed before and after (`brings_removeAll`).
-/

namespace OsdMigration

open Ceph (Command Status)
open Cluster
open Job (Brings)
open MiniCluster (Answering Runs osdDeployment)
open Osd (Device)

/-- How long it takes to confirm that the cluster is healthy, -/
def Context.confirming (c : Context) : Nat :=
  (confirmations c.settings.healthConfirmations - 1) * c.settings.interval.toNat

/-- and how long, that an OSD can go. -/
def Context.settling (c : Context) : Nat :=
  (confirmations c.settings.safeConfirmations - 1) * c.settings.interval.toNat

/-- There are polls and time enough for every wait of a migration. -/
structure Context.Ample (c : Context) : Prop where
  healthPolls : confirmations c.settings.healthConfirmations ≤ c.polls
  safePolls : confirmations c.settings.safeConfirmations ≤ c.polls
  healthTime : c.confirming < Settings.seconds c.settings.healthTimeout
  scaleTime : 0 < c.settings.scaleTimeout
  downTime : 0 < c.settings.osdDownTimeout

/-- The clock goes on for all the time that so many removals give to the scale of a deployment and
to an OSD to go down, if the first of them begins at an instant. -/
def Context.Lasts (c : Context) (now removals : Nat) : Prop :=
  ∀ k < removals, ∀ timeout ∈ [c.settings.scaleTimeout, c.settings.osdDownTimeout],
    Clock.Reaches (now + (2 * k + 1) * c.settling) (some (Settings.seconds timeout))

theorem Context.Lasts.next {c : Context} {now n : Nat} (h : c.Lasts now (n + 1)) :
    c.Lasts (now + 2 * c.settling) n := by
  intro k hk timeout hm
  have htime : now + 2 * c.settling + (2 * k + 1) * c.settling =
      now + (2 * (k + 1) + 1) * c.settling := by
    ring
  rw [htime]
  exact h (k + 1) (Nat.succ_lt_succ hk) timeout hm

theorem one_le_confirmations (n : UInt32) : 1 ≤ confirmations n := Nat.le_max_right ..

theorem Context.Ample.one_le_polls {c : Context} (h : c.Ample) : 1 ≤ c.polls :=
  Nat.le_trans (one_le_confirmations _) h.healthPolls

theorem seconds_pos {n : UInt64} (h : 0 < n) : 0 < Settings.seconds n := by
  have hn : 0 < n.toNat := UInt64.lt_iff_toNat_lt.1 h
  rw [Settings.seconds]
  omega

section

variable {c : Context} {m : MiniCluster} {status : Status} {t : Nat}

/-! ## Waits for confirmations -/

/-- A cluster that is always found healthy is so as often as is wanted. -/
theorem brings_awaitHealth (hstatus : ∀ t, Brings (Monitor.fetchStatus c) t m status t m)
    (hverdict : status.verdict.1 = true)
    (hpolls : confirmations c.settings.healthConfirmations ≤ c.polls) {timeout : Option Nat}
    (htime : ∀ d ∈ timeout, c.confirming < d) (hclock : Clock.Reaches t timeout) :
    Brings (awaitHealth c timeout) t m () (t + c.confirming) m := by
  obtain ⟨wanted, hwanted⟩ :
      ∃ r, confirmations c.settings.healthConfirmations = r + 1 :=
    Nat.exists_eq_add_of_le' (one_le_confirmations _)
  rw [Context.confirming, hwanted, Nat.add_sub_cancel] at htime ⊢
  refine (Brings.start _ hclock).bind ((Brings.report _).bind (Brings.wait_streak
    (fun r w => w.streak + r = wanted) ?met ?again (r := wanted) (by omega) (by simp) ?time))
  case met =>
    intro t w hw hd
    have hlast : wanted + 1 ≤ w.streak + 1 := by omega
    have hobserve : HealthWait.observe (wanted + 1) w (.ok status) = .ok .met := by
      simp only [HealthWait.observe, hverdict, if_true, if_pos hlast]
    rw [hwanted]
    exact (Brings.guarded hd (hstatus t)).bind (.ofAttempt hobserve)
  case again =>
    intro t w r hw hd
    have hmore : ¬ wanted + 1 ≤ w.streak + 1 := by omega
    have hobserve : HealthWait.observe (wanted + 1) w (.ok status) =
        .ok (.again { w with budget := w.budget.succeed, streak := w.streak + 1 } none) := by
      simp only [HealthWait.observe, hverdict, if_true, if_neg hmore]
    rw [hwanted]
    exact ⟨_, none, by simp only; omega,
      (Brings.guarded hd (hstatus t)).bind (.ofAttempt hobserve)⟩
  case time =>
    intro d hd
    obtain ⟨d', hd', rfl⟩ := Option.map_eq_some_iff.1 hd
    exact Nat.add_lt_add_left (htime d' hd') t

/-- An OSD that can always go can do so as soon as this was seen as often as is wanted. -/
theorem brings_awaitRemovable (hstatus : ∀ t, Brings (Monitor.fetchStatus c) t m status t m)
    (hverdict : status.verdict.1 = true) {osd : UInt32} {words : String}
    (hanswer : ∀ t, Brings (Monitor.askRemovability c osd) t m ⟨.safe, words⟩ t m)
    (hpolls : confirmations c.settings.safeConfirmations ≤ c.polls) :
    Brings (awaitRemovable c osd none) t m () (t + c.settling) m := by
  obtain ⟨wanted, hwanted⟩ :
      ∃ r, confirmations c.settings.safeConfirmations = r + 1 :=
    Nat.exists_eq_add_of_le' (one_le_confirmations _)
  -- every poll finds the cluster healthy and the OSD safe, so the streak grows until it is enough
  have hpoll : ∀ {t p w next}, (∀ d ∈ p.deadline, t < d) →
      RemovalWait.observe osd (wanted + 1) w (.asked (.ok ⟨.safe, words⟩)) = .ok next →
      Brings (RemovalWait.poll c osd (wanted + 1) p w) t m next t m := by
    intro t p w next hd hobserve
    refine (Brings.guarded hd (hstatus t)).bind ?_
    simp only [hverdict, if_true]
    exact (Brings.guarded hd (hanswer t)).bind (.ofAttempt hobserve)
  rw [awaitRemovable, Context.settling, hwanted, Nat.add_sub_cancel]
  refine (Brings.start _ (Clock.reaches_none t)).bind (Brings.wait_streak
    (fun r w => w.streak + r = wanted) ?met ?again (r := wanted) (by omega) (by simp) nofun)
  case met =>
    intro t w hw hd
    have hlast : wanted + 1 ≤ w.streak + 1 := by omega
    refine hpoll hd ?_
    simp only [RemovalWait.observe, if_pos hlast]
  case again =>
    intro t w r hw hd
    have hmore : ¬ wanted + 1 ≤ w.streak + 1 := by omega
    have hobserve : ∃ w' passing, w'.streak = w.streak + 1 ∧
        RemovalWait.observe osd (wanted + 1) w (.asked (.ok ⟨.safe, words⟩)) =
          .ok (.again w' passing) := by
      simp only [RemovalWait.observe, if_neg hmore]
      exact ⟨_, _, rfl, rfl⟩
    obtain ⟨w', passing, hstreak, hobserve⟩ := hobserve
    exact ⟨w', passing, by omega, hpoll hd hobserve⟩

/-! ## Waits for something that has happened -/

/-- A deployment that has come to a scale is found there. -/
theorem brings_awaitScale {name : String} {d : Deployment} {scale : Int}
    (hget : m.deployments.get? name = some d) (hwanted : d.wanted? = some scale)
    (hscale : d.atScale scale = true) {timeout : Nat} (ht : 0 < timeout)
    (hclock : Clock.Reaches t (some timeout)) (hpolls : 1 ≤ c.polls) :
    Brings (awaitScale c name scale timeout) t m () t m := by
  obtain ⟨polls, hpolls⟩ := Nat.exists_eq_add_of_le' hpolls
  rw [awaitScale, hpolls]
  refine (Brings.report _).bind ((Brings.start _ hclock).bind (Brings.wait ?_))
  have hd : ∀ d ∈ (some timeout).map (t + ·), t < d := by
    intro d hd
    obtain rfl := Option.some.inj hd
    exact Nat.lt_add_of_pos_right ht
  have hask : Brings (Job.ask (.getDeployment c.settings.space name)) t m (some d) t m :=
    hget ▸ brings_getDeployment _ _
  have hsame : (some scale).filter (· ≠ scale) = none := by simp
  refine (Brings.guarded hd hask).bind (.ofAttempt ?_)
  simp only [ScaleWait.observe, hwanted, hsame, hscale, if_true]

/-- An OSD that is down is noticed. -/
theorem brings_awaitOsdDown (hstatus : Brings (Monitor.fetchStatus c) t m status t m)
    (hdown : status.osds.someDown = true) {timeout : Nat} (ht : 0 < timeout)
    (hclock : Clock.Reaches t (some timeout)) (hpolls : 1 ≤ c.polls) :
    Brings (awaitOsdDown c (some timeout)) t m () t m := by
  obtain ⟨polls, hpolls⟩ := Nat.exists_eq_add_of_le' hpolls
  rw [awaitOsdDown, hpolls]
  refine (Brings.start _ hclock).bind (Brings.wait ?_)
  have hd : ∀ d ∈ (some timeout).map (t + ·), t < d := by
    intro d hd
    obtain rfl := Option.some.inj hd
    exact Nat.lt_add_of_pos_right ht
  refine (Brings.guarded hd hstatus).bind (.ofAttempt ?_)
  simp only [DownWait.observe, hdown, if_true]

end

/-! ## The removal of an OSD -/

namespace Removal

variable {s : Settings} {polls t : Nat} {m : MiniCluster} {devices : List Device} {d : Device}

/-- A cluster with an OSD scaled down still answers. -/
theorem answering_halted (h : Answering m) (hr : Runs m devices) (d : Device) :
    Answering (m.halted d) := by
  have hne : "rook-ceph-tools" ≠ osdDeployment d.osd :=
    MiniCluster.ne_osdDeployment d.osd (by decide)
  exact h.of_eq rfl rfl rfl rfl h.few (NameMap.get?_insert_of_ne _ _ hne)
    (MiniCluster.toolbox_sparing hr.toKept d.osd)

/-- An OSD that was scaled down is forgotten by Ceph, and its deployment is deleted. -/
theorem brings_conclude (h : Answering m) (hr : Runs m devices) (d : Device) :
    Brings (conclude ⟨s.stockNamed, polls⟩ d.osd) t (m.halted d) () t (m.without d.osd) := by
  have hpurge : Brings (Step.purge.perform ⟨s.stockNamed, polls⟩ d.osd) t (m.halted d) () t
      { m.halted d with osds := m.osds.erase d.osd } := by
    have hrun := brings_run (s := s) (t := t) (answering_halted h hr d) (.purge d.osd)
    rw [(ownReply_command _ _).2] at hrun
    exact (Brings.report _).bind ((Brings.during _ hrun).bind (Brings.pure ()))
  have hclean : Brings (Step.cleanUp.perform ⟨s.stockNamed, polls⟩ d.osd) t
      { m.halted d with osds := m.osds.erase d.osd } () t (m.without d.osd) := by
    refine Brings.during _ (Brings.ask fun log =>
      ⟨.deleteDeployment s.stockNamed.space (osdDeployment d.osd) :: log, ?_⟩)
    have hdelete := MiniCluster.delete_halted { m with
      log := .deleteDeployment s.stockNamed.space (osdDeployment d.osd) :: log } d
    exact congrArg (fun r => (some r.1, r.2)) hdelete
  exact hpurge.bind (hclean.bind (Brings.report _))

/-- The cluster is found healthy, and the OSD can go. -/
theorem brings_settle (h : Answering m) (hc : Context.Ample ⟨s.stockNamed, polls⟩) (osd : UInt32) :
    Brings (awaitRemovable ⟨s.stockNamed, polls⟩ osd none) t m ()
      (t + Context.settling ⟨s.stockNamed, polls⟩) m := by
  obtain ⟨status, hverdict, _, _, hstatus⟩ := brings_fetchStatus (s := s) polls h
  obtain ⟨⟨removability, words⟩, hsafe, hanswer⟩ :=
    brings_askRemovability (s := s) polls h osd
  obtain rfl : removability = .safe := hsafe
  exact brings_awaitRemovable hstatus hverdict hanswer hc.safePolls

/-- The deployment of an OSD is scaled down. -/
theorem brings_scaleDown (hr : Runs m devices) (hd : d ∈ devices) :
    Brings (Step.scaleDown.perform ⟨s.stockNamed, polls⟩ d.osd) t m () t (m.halted d) := by
  refine (Brings.tell _).bind (Brings.during _ (Brings.ask fun log =>
    ⟨scaleDownRequest s.stockNamed d.osd :: log, ?_⟩))
  have hruns : Runs { m with log := scaleDownRequest s.stockNamed d.osd :: log } devices :=
    hr.of_eq rfl rfl rfl rfl
  exact congrArg (fun r => (some r.1, r.2)) (MiniCluster.patch_down hruns hd)

/-- Once it is scaled down, fewer OSDs are up than Ceph knows. -/
theorem someDown_halted (hr : Runs m devices) (hd : d ∈ devices) {osds : Ceph.OsdCounts}
    (hfew : m.osds.members.length < UInt32.size)
    (htotal : osds.total = UInt32.ofNat m.osds.members.length)
    (hup : osds.up = UInt32.ofNat (m.osds.members.filter (m.halted d).isUp).length) :
    osds.someDown = true := by
  have hknown : d.osd ∈ m.osds.members := (hr.known d.osd).2 (List.mem_map_of_mem hd)
  have hless : (m.osds.members.filter (m.halted d).isUp).length < m.osds.members.length := by
    refine List.length_filter_lt_length_iff_exists.2 ⟨d.osd, hknown, ?_⟩
    rw [MiniCluster.isUp_halted]
    exact Bool.false_ne_true
  have hlt : UInt32.ofNat (m.osds.members.filter (m.halted d).isUp).length <
      UInt32.ofNat m.osds.members.length := by
    rw [UInt32.lt_iff_toNat_lt, UInt32.toNat_ofNat_of_lt' hfew,
      UInt32.toNat_ofNat_of_lt' (Nat.lt_trans hless hfew)]
    exact hless
  rw [Ceph.OsdCounts.someDown, htotal, hup]
  exact decide_eq_true hlt

/-- An OSD that is scaled down is waited for. -/
theorem brings_awaitDown (h : Answering m) (hr : Runs m devices) (hd : d ∈ devices)
    (hc : Context.Ample ⟨s.stockNamed, polls⟩)
    (hclock : Clock.Reaches t (some (Settings.seconds s.osdDownTimeout))) :
    Brings (Step.awaitDown.perform ⟨s.stockNamed, polls⟩ d.osd) t (m.halted d) () t
      (m.halted d) := by
  obtain ⟨status, _, htotal, hup, hstatus⟩ :=
    brings_fetchStatus (s := s) polls (answering_halted h hr d)
  have hdown := someDown_halted hr hd h.few htotal hup
  exact (Brings.tell _).bind ((Brings.during _ (brings_awaitOsdDown (hstatus t) hdown
    (seconds_pos hc.downTime) hclock hc.one_le_polls)).bind (Brings.tell _))

/-- An OSD that the cluster runs is removed. -/
theorem brings_removeOsd (h : Answering m) (hr : Runs m devices) (hd : d ∈ devices)
    (hc : Context.Ample ⟨s.stockNamed, polls⟩) {n : Nat}
    (hlasts : Context.Lasts ⟨s.stockNamed, polls⟩ t (n + 1)) :
    Brings (removeOsd ⟨s.stockNamed, polls⟩ d.osd) t m ()
      (t + 2 * Context.settling ⟨s.stockNamed, polls⟩) (m.without d.osd) := by
  have hhalted := answering_halted h hr d
  have hclock := hlasts 0 (Nat.succ_pos n)
  rw [Nat.mul_zero, Nat.zero_add, Nat.one_mul] at hclock
  have hreweight : Brings (Step.reweight.perform ⟨s.stockNamed, polls⟩ d.osd) t m () t m :=
    (Brings.report _).bind ((Brings.during _ (brings_run h (.reweight d.osd))).bind (.pure ()))
  have hsettled := brings_settle (t := t) h hc d.osd
  have hscaled : (m.halted d).deployments.get? (osdDeployment d.osd) = some (MiniCluster.idle d) :=
    NameMap.get?_insert_self ..
  have hconfirm : Brings (Step.confirmScale.perform ⟨s.stockNamed, polls⟩ d.osd)
      (t + Context.settling ⟨s.stockNamed, polls⟩) (m.halted d) ()
      (t + Context.settling ⟨s.stockNamed, polls⟩) (m.halted d) :=
    Brings.during _ (brings_awaitScale hscaled (MiniCluster.wanted?_idle d)
      (MiniCluster.atScale_idle d) (seconds_pos hc.scaleTime) (hclock _ List.mem_cons_self)
      hc.one_le_polls)
  have hdown := brings_awaitDown h hr hd hc
    (hclock _ (List.mem_cons_of_mem _ List.mem_cons_self))
  have hresettled := brings_settle
    (t := t + Context.settling ⟨s.stockNamed, polls⟩) hhalted hc d.osd
  rw [Nat.two_mul, ← Nat.add_assoc, removeOsd_eq]
  exact hreweight.bind (((Brings.report _).bind (hsettled.during _)).bind
    ((brings_scaleDown hr hd).bind (hconfirm.bind (hdown.bind
      ((hresettled.during _).bind (brings_conclude h hr d))))))

/-! ## The removal of several OSDs -/

/-- A cluster without an OSD still answers. -/
theorem answering_without (h : Answering m) (hr : Runs m devices) (osd : UInt32) :
    Answering (m.without osd) := by
  have hne : ¬ "rook-ceph-tools" = osdDeployment osd :=
    MiniCluster.ne_osdDeployment osd (by decide)
  have hfew : (m.osds.members.filter (· ≠ osd)).length < UInt32.size :=
    Nat.lt_of_le_of_lt (List.length_filter_le ..) h.few
  refine h.of_eq rfl rfl rfl rfl hfew ?_ (MiniCluster.toolbox_sparing hr.toKept osd)
  rw [MiniCluster.without, NameMap.get?_erase, if_neg hne]

/-- The OSDs that are left after some were removed. -/
theorem filter_without (devices : List Device) (osd : UInt32) (osds : List UInt32) :
    (devices.filter fun d => d.osd ≠ osd).filter (fun d => d.osd ∉ osds) =
      devices.filter fun d => d.osd ∉ osd :: osds := by
  rw [List.filter_filter]
  refine List.filter_congr fun d _ => ?_
  simp [Bool.and_comm]

/-- OSDs that the cluster runs are removed one after the other. -/
theorem brings_removeAll (h : Answering m) (hr : Runs m devices)
    (hc : Context.Ample ⟨s.stockNamed, polls⟩) {osds : List UInt32} (hnodup : osds.Nodup)
    (hosds : ∀ n ∈ osds, n ∈ devices.map Device.osd)
    (hlasts : Context.Lasts ⟨s.stockNamed, polls⟩ t osds.length) :
    ∃ later m', Brings (Migration.removeAll ⟨s.stockNamed, polls⟩ osds) t m () later m' ∧
      Answering m' ∧ Runs m' (devices.filter fun d => d.osd ∉ osds) := by
  induction osds generalizing m devices t with
  | nil =>
      have hall : (devices.filter fun d => d.osd ∉ ([] : List UInt32)) = devices := by simp
      exact ⟨t, m, Brings.pure (), h, hall.symm ▸ hr⟩
  | cons n osds ih =>
      obtain ⟨hn, hrest⟩ := List.nodup_cons.1 hnodup
      obtain ⟨d, hd, rfl⟩ := List.mem_map.1 (hosds n List.mem_cons_self)
      have hremove := brings_removeOsd h hr hd hc hlasts
      have hleft : ∀ n ∈ osds, n ∈ (devices.filter fun d' => d'.osd ≠ d.osd).map Device.osd := by
        intro n hm
        obtain ⟨d', hd', rfl⟩ := List.mem_map.1 (hosds n (List.mem_cons_of_mem _ hm))
        have hne : d'.osd ≠ d.osd := fun he => hn (he ▸ hm)
        exact List.mem_map_of_mem (List.mem_filter.2 ⟨hd', by simpa using hne⟩)
      obtain ⟨later, m', hothers, ha, hruns⟩ :=
        ih (answering_without h hr d.osd) (hr.without d.osd) hrest hleft hlasts.next
      rw [filter_without] at hruns
      exact ⟨later, m', (hremove.during _).bind hothers, ha, hruns⟩

end Removal

end OsdMigration
