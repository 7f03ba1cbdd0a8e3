import OsdMigration.Proofs.HealthWait
import OsdMigration.Proofs.Inventory
import OsdMigration.Proofs.Removal.Gate
import OsdMigration.Proofs.Removal.Order

set_option autoImplicit false

/-! # Nothing is touched before its gate

A migration passes three gates. Before the cluster was seen healthy it only keeps the toolbox up and
asks for reports. Before an OSD on a host directory was listed it does not touch the cluster object
or the operator. And before block devices are in use on enough hosts it does not touch an OSD.
Every run of a migration is one of four kinds (`Gates`), told by the gates that it passed.
-/

namespace OsdMigration

open Cluster (Request)
open Job (Always Course Sends sends_ask)
open Osd (Device countHosts)
open Removal (OsdChange append_eq_append_cons)

/-! ## Requests and what came before them -/

namespace Job

variable {α β : Type} {P : List Event → Request → Prop} {before : List Event}

/-- Every request of a job is as it should be after what was seen before it. -/
def Meets (P : List Event → Request → Prop) (before : List Event) (job : Job α) : Prop :=
  ∀ seen o, Course job seen o → ∀ front t r back, seen = front ++ .called t r :: back →
    P (before ++ front) r

theorem Meets.bind {job : Job α} {f : α → Job β} (hj : Meets P before job)
    (hf : ∀ a first, Course job first (some (.ok a)) → Meets P (before ++ first) (f a)) :
    Meets P before (job >>= f) := by
  intro seen o h front t r back hs
  rcases (course_bind ..).1 h with ⟨a, first, rest, rfl, ha, hn⟩ | ⟨e, h, _⟩ | ⟨h, _⟩
  · rcases append_eq_append_cons hs with ⟨mid, hfirst, _⟩ | ⟨mid, rfl, hrest⟩
    · exact hj _ _ ha front t r mid hfirst
    · rw [← List.append_assoc]
      exact hf a first ha _ _ hn mid t r back hrest
  · exact hj _ _ h front t r back hs
  · exact hj _ _ h front t r back hs

theorem Meets.during (step : String) {job : Job α} (h : Meets P before job) :
    Meets P before (job.during step) := by
  intro seen o hc
  obtain ⟨o', hc, _⟩ := (course_during ..).1 hc
  exact h _ _ hc

/-- Requests that are always as they should be. -/
theorem Sends.meets {allowed : Request → Prop} {job : Job α} (h : Sends allowed job)
    (hP : ∀ front r, Asking allowed front → allowed r → P (before ++ front) r) :
    Meets P before job := by
  rintro seen o hc front t r back rfl
  obtain ⟨hfront, hback⟩ := asking_append.1 (h _ _ hc)
  exact hP front r hfront (hback.called List.mem_cons_self)

/-- A job that sends nothing. -/
theorem Sends.meets_quiet {job : Job α} (h : Sends (fun _ => False) job) : Meets P before job :=
  h.meets fun _ _ _ => False.elim

theorem meets_ask {r : Request} (h : P before r) : Meets P before (ask r) := by
  intro seen o hc front t r' back hs
  rcases (course_ask ..).1 hc with ⟨u, rfl, _⟩ | ⟨u, v, a, rfl, _⟩
  · cases front with
    | nil =>
        cases hs
        rwa [List.append_nil]
    | cons e front => cases front <;> cases hs
  · cases front with
    | nil =>
        cases hs
        rwa [List.append_nil]
    | cons e front =>
        cases front with
        | nil => cases hs
        | cons e' front => cases front <;> cases hs

end Job

open Job (Meets)

/-! ## The gates -/

/-- The cluster was seen healthy: after a wait for health was begun, the last polls were healthy, as
many in a row as are wanted, and all of them before the deadline of the wait. -/
def HealthGate (c : Context) (seen : List Event) : Prop :=
  ∃ before start waited,
    seen = before ++ .told start (.line "Waiting for Rook-Ceph to be healthy") :: waited ∧
    Streak (HealthyPoll c) (confirmations c.settings.healthConfirmations) waited ∧
    ∀ e ∈ waited, e.time < start + Settings.seconds c.settings.healthTimeout

/-- The OSDs that run were listed. -/
def ListsOsds (s : Settings) (devices : List Device) (seen : List Event) : Prop :=
  ∃ t u pods, seen = [.called t (.listPods s.space s.osdSelector),
      .answered u (.listPods s.space s.osdSelector) (.ok pods)] ∧
    Osd.ofPods s pods = .ok devices

/-- The change that lets the cluster use block devices succeeded, and this was seen since. -/
def DevicesUsed (s : Settings) (seen since : List Event) : Prop :=
  ∃ before u, seen =
    before ++ .answered u (Provisioning.change s Cluster.useAllDevicesPatch) (.ok ()) :: since

/-- Since block devices may be used, a listing of OSDs showed no host with one. -/
def NoBlockHost (s : Settings) (seen : List Event) : Prop :=
  ∃ a listing b devices, DevicesUsed s seen (a ++ listing ++ b) ∧ ListsOsds s devices listing ∧
    (countHosts devices).block = 0

/-- Since block devices may be used, a listing of OSDs showed as many hosts with them as are wanted
for the nodes that were listed. -/
def EnoughBlockHosts (s : Settings) (seen : List Event) : Prop :=
  ∃ a u nodes b listing d devices,
    DevicesUsed s seen (a ++ .answered u .listNodes (.ok nodes) :: b ++ listing ++ d) ∧
    ListsOsds s devices listing ∧
    min nodes.length s.maxBlockHosts.toNat ≤ (countHosts devices).block

/-- A request that does not restart the operator, nor delete any other pods. -/
def KeepsPods (r : Request) : Prop := ∀ space selector, r ≠ .deletePods space selector

/-- What a request needs that comes after an OSD on a host directory was listed. -/
structure Due (s : Settings) (seen : List Event) (r : Request) : Prop where
  /-- Pods are deleted once at most, those of the operator, and where no host has a block device. -/
  restart : ∀ space selector, r = .deletePods space selector →
    space = s.space ∧ selector = s.operatorSelector ∧ Asking KeepsPods seen ∧ NoBlockHost s seen
  /-- An OSD is changed once block devices are in use on enough hosts. -/
  change : OsdChange.ofRequest? r ≠ none → EnoughBlockHosts s seen

/-- What is seen of a migration, and its result, by the gates that it passed. -/
inductive Gates (c : Context) : List Event → Option (Attempt Migration.Outcome) → Prop
  /-- The cluster was not seen healthy. -/
  | unhealthy {seen : List Event} {o : Option (Attempt Migration.Outcome)}
      (asks : Asking (Asks c.settings fun _ => False) seen) (failed : ∀ a, o ≠ some (.ok a)) :
      Gates c seen o
  /-- The cluster was seen healthy, but its OSDs could not be listed. -/
  | unlisted {gate listing : List Event} {o : Option (Attempt Migration.Outcome)}
      (asks : Asking (Asks c.settings fun _ => False) gate) (healthy : HealthGate c gate)
      (lists : Asking (· = .listPods c.settings.space c.settings.osdSelector) listing)
      (failed : ∀ a, o ≠ some (.ok a)) : Gates c (gate ++ listing) o
  /-- No OSD was listed on a host directory. -/
  | notRequired {gate said listing last : List Event} {devices : List Device}
      (asks : Asking (Asks c.settings fun _ => False) gate) (healthy : HealthGate c gate)
      (quiet : Quiet said) (lists : ListsOsds c.settings devices listing)
      (none : ∀ d ∈ devices, d.backing ≠ .hostpath) (nothing : Quiet last) :
      Gates c (gate ++ said ++ listing ++ last) (some (.ok .notRequired))
  /-- An OSD was listed on a host directory. -/
  | required {gate said listing rest : List Event} {devices : List Device} {d : Device}
      {o : Option (Attempt Migration.Outcome)}
      (asks : Asking (Asks c.settings fun _ => False) gate) (healthy : HealthGate c gate)
      (quiet : Quiet said) (lists : ListsOsds c.settings devices listing) (mem : d ∈ devices)
      (hostpath : d.backing = .hostpath)
      (due : ∀ front t r back, rest = front ++ .called t r :: back → Due c.settings front r) :
      Gates c (gate ++ said ++ listing ++ rest) o

/-! ## The first gate -/

section

variable {σ : Type} {server : Server σ} {cancelAt : Option Nat} {t u : Timeline σ} {c : Context}

theorem asks_prepare (c : Context) :
    Sends (Asks c.settings fun _ => False) (Migration.prepare c) := by
  have hA := cumulative_asking (Asks c.settings fun _ => False)
  exact hA.bind (hA.report _) fun _ =>
    hA.bind (Cumulative.during _ ((sends_ensureReady c).mono fun _ => .upkeep)) fun _ =>
      Cumulative.during _ (sends_awaitHealth c _)

/-- A migration that has prepared has passed the first gate. -/
theorem healthGate_of_prepare (ht : t.Past)
    (h : (Migration.prepare c).attempt.run server cancelAt t = (.done (.ok ()), u)) :
    HealthGate c u.seen.reverse := by
  have hu := Procedure.past_run server cancelAt (Migration.prepare c).attempt ht
  rw [h] at hu
  obtain ⟨_, t₁, _, h⟩ := Job.run_bind_ok h
  obtain ⟨_, t₂, _, h⟩ := Job.run_bind_ok h
  obtain ⟨hend, waited, hs, hstreak⟩ := run_awaitHealth_ok (Job.run_during_ok.1 h)
  refine ⟨t₂.seen.reverse, t₂.time, waited, hs, hstreak, fun e he => ?_⟩
  have hmem : e ∈ u.seen := by
    rw [← List.mem_reverse, hs]
    exact List.mem_append_right _ (List.mem_cons_of_mem _ he)
  exact Nat.lt_of_le_of_lt (hu e hmem) hend

end

/-! ## The third gate -/

theorem DevicesUsed.append {s : Settings} {seen since : List Event} (h : DevicesUsed s seen since)
    (before after : List Event) : DevicesUsed s (before ++ seen ++ after) (since ++ after) := by
  obtain ⟨front, u, rfl⟩ := h
  exact ⟨before ++ front, u, by simp⟩

theorem EnoughBlockHosts.append {s : Settings} {seen : List Event} (h : EnoughBlockHosts s seen)
    (after : List Event) : EnoughBlockHosts s (seen ++ after) := by
  obtain ⟨a, u, nodes, b, listing, d, devices, hused, hl, hle⟩ := h
  have hused := hused.append [] after
  exact ⟨a, u, nodes, b, listing, d ++ after, devices, by simpa using hused, hl, hle⟩

theorem course_enableBlock_ok {s : Settings} {seen : List Event}
    (h : Course (Provisioning.enableBlock s) seen (some (.ok ()))) :
    ∃ since, DevicesUsed s seen since := by
  obtain ⟨_, first, rest, rfl, hp, _⟩ := (Job.course_bind_ok ..).1 h
  obtain ⟨t, u, rfl⟩ := (Job.course_ask_ok ..).1 ((Job.course_during_ok ..).1 hp)
  exact ⟨rest, [_], u, rfl⟩

/-- A wait for block devices that ends well has listed the nodes, and then OSDs on enough hosts. -/
theorem course_awaitBlockHosts_ok {c : Context} {seen : List Event}
    (h : Course (awaitBlockHosts c) seen (some (.ok ()))) :
    ∃ a u nodes b listing devices, seen = a ++ .answered u .listNodes (.ok nodes) :: b ++ listing ∧
      ListsOsds c.settings devices listing ∧
      min nodes.length c.settings.maxBlockHosts.toNat ≤ (countHosts devices).block := by
  obtain ⟨wanted, counted, _, rfl, hc, h₁⟩ := (Job.course_bind_ok ..).1 h
  obtain ⟨p, _, rest, rfl, ⟨_, rfl, _⟩, hw⟩ := (Job.course_bind_ok ..).1 h₁
  obtain ⟨n, first, _, rfl, hn, rfl, hwanted⟩ := (Job.course_bind_ok ..).1 hc
  obtain ⟨nodes, first, _, rfl, hl, rfl, hlen⟩ := (Job.course_bind_ok ..).1 hn
  obtain ⟨t, u, rfl⟩ := (Job.course_ask_ok ..).1 ((Job.course_during_ok ..).1 hl)
  obtain rfl : n = nodes.length := Except.ok.inj (Option.some.inj hlen)
  obtain rfl : wanted = Osd.wantedBlockHosts nodes.length c.settings.maxBlockHosts.toNat :=
    Except.ok.inj (Option.some.inj hwanted)
  -- only the last poll matters: what was listed there was enough
  have hfound : ∃ b listing devices, rest = b ++ listing ∧ ListsOsds c.settings devices listing ∧
      min nodes.length c.settings.maxBlockHosts.toNat ≤ (countHosts devices).block := by
    refine wait_ok_induction (Q := fun _ seen => ∃ b listing devices, seen = b ++ listing ∧
      ListsOsds c.settings devices listing ∧
        min nodes.length c.settings.maxBlockHosts.toNat ≤ (countHosts devices).block) ?_ ?_ hw
    · intro w seen hp
      obtain ⟨answer, listing, _, rfl, ha, rfl, ho⟩ := (Job.course_bind_ok ..).1 hp
      replace ho := (Option.some.inj ho).symm
      unfold BlockHostWait.observe at ho
      split at ho
      · rename_i counts
        split at ho
        · rename_i hle
          obtain ⟨t, u, pods, devices, hs, hd, rfl⟩ :=
            Osd.course_countHostsNow_ok ((Job.course_guarded_ok ..).1 ha)
          exact ⟨[], listing, devices, by simp, ⟨t, u, pods, hs, hd⟩, hle⟩
        · cases ho
      · obtain ⟨budget, _, ho⟩ := bind_ok ho
        cases ho
    · rintro _ _ _ first pause rest _ _ ⟨b, listing, devices, rfl, h⟩
      exact ⟨first ++ pause ++ b, listing, devices, by simp, h⟩
  obtain ⟨b, listing, devices, rfl, hlist, hle⟩ := hfound
  exact ⟨[.called t .listNodes], u, nodes, b, listing, devices, by simp, hlist, hle⟩

/-! ## After the second gate -/

theorem Looks.keepsPods {s : Settings} {r : Request} (h : Looks s r) : KeepsPods r := by
  rintro space selector rfl
  cases h

theorem Reshapes.keepsPods {s : Settings} {r : Request} (h : Reshapes s r) : KeepsPods r := by
  rintro space selector hr
  cases h <;> cases hr

theorem Asks.keepsPods {s : Settings} {named : UInt32 → Prop} {r : Request} (h : Asks s named r) :
    KeepsPods r := by
  rintro space selector rfl
  cases h with
  | upkeep h => cases h

theorem sent_keepsPods {s : Settings} {osd : UInt32} {step : Removal.Step} {r : Request}
    (h : step.Sent s osd r) : KeepsPods r := by
  rcases h with h | h
  · rintro space selector rfl
    cases step with
    | reweight | purge =>
        obtain ⟨pod, container, h⟩ := h
        cases h
    | scaleDown | cleanUp => cases h
    | settleBefore | confirmScale | awaitDown | settleAfter => exact h
  · exact h.keepsPods

theorem sends_drain (c : Context) : Sends KeepsPods (Migration.drain c) := by
  have hA := cumulative_asking KeepsPods
  refine hA.bind (hA.report _) fun _ => hA.bind (Cumulative.during _ ?_) fun found =>
    hA.bind (hA.report _) fun _ => hA.bind ?_ fun _ => hA.pure _
  · exact (looks_hostpathOsds c).mono fun _ => Looks.keepsPods
  · exact (Removal.sends_removeAll c _).mono fun _ ⟨_, _, _, h⟩ => sent_keepsPods h

/-- Requests that neither delete pods nor change an OSD need nothing. -/
theorem due_of_prepares {s : Settings} {seen : List Event} {r : Request} (hk : KeepsPods r)
    (hp : Prepares s r) : Due s seen r :=
  ⟨fun space selector hr => absurd hr (hk space selector),
    fun h => absurd (Removal.prepares_no_change hp) h⟩

section

variable {c : Context} {before : List Event}

theorem quiet_report (text : String) : Sends (fun _ => False) (Job.report text) :=
  (cumulative_asking _).report text

/-- Where there are enough block devices every request of the removals is due. -/
theorem meets_drain (h : EnoughBlockHosts c.settings before) :
    Meets (Due c.settings) before (Migration.drain c) :=
  (sends_drain c).meets fun front _ _ hk =>
    ⟨fun space selector hr => absurd hr (hk space selector), fun _ => h.append front⟩

/-- The operator is restarted only if its change was made and no block device is in use. -/
theorem meets_nudgeOperator {since : List Event} (hk : Asking KeepsPods before)
    (hused : DevicesUsed c.settings before since) :
    Meets (Due c.settings) before (Provisioning.nudgeOperator c.settings) := by
  have hA := cumulative_asking KeepsPods
  refine Meets.bind ?_ fun counts listing hl => ?_
  · exact (looks_countHostsNow c).meets fun _ _ _ h => due_of_prepares h.keepsPods h.prepares
  have hlisting : Asking KeepsPods listing :=
    Asking.mono (looks_countHostsNow c _ _ hl) fun _ => Looks.keepsPods
  obtain ⟨t, u, pods, devices, hlist, hd, rfl⟩ := Osd.course_countHostsNow_ok hl
  split
  · exact Sends.meets_quiet ((cumulative_asking _).pure ())
  · rename_i hblock
    refine Meets.bind (quiet_report _).meets_quiet fun _ said hs => ?_
    have hsaid : Asking KeepsPods said := (quiet_report _ _ _ hs).mono fun _ => False.elim
    refine Meets.during _ (Job.meets_ask ⟨?_, fun hchange => absurd rfl hchange⟩)
    rintro space selector ⟨⟩
    refine ⟨rfl, rfl, hA.append (hA.append hk hlisting) hsaid, since, listing, said, devices, ?_,
      ⟨t, u, pods, hlist, hd⟩, by omega⟩
    have h := hused.append [] (listing ++ said)
    simpa using h

/-- All requests of the provision are due. -/
theorem meets_provision (hb : Asking KeepsPods before) :
    Meets (Due c.settings) before (Migration.provision c) := by
  have hA := cumulative_asking KeepsPods
  refine Meets.bind (quiet_report _).meets_quiet fun _ said hs => ?_
  have hsaid : Asking KeepsPods said := (quiet_report _ _ _ hs).mono fun _ => False.elim
  refine Meets.bind (Meets.during _ ?_) fun _ shaped hp => ?_
  · exact (reshapes_enableBlock c).meets fun _ _ _ h => due_of_prepares h.keepsPods h.prepares
  replace hp := (Job.course_during_ok ..).1 hp
  have hshaped : Asking KeepsPods shaped :=
    Asking.mono (reshapes_enableBlock c _ _ hp) fun _ => Reshapes.keepsPods
  obtain ⟨since, hused⟩ := course_enableBlock_ok hp
  replace hused : DevicesUsed c.settings (before ++ said ++ shaped) since := by
    have h := hused.append (before ++ said) []
    simpa using h
  refine Meets.bind (Meets.during _ ?_) fun _ nudged _ => ?_
  · exact meets_nudgeOperator (hA.append (hA.append hb hsaid) hshaped) hused
  · refine Meets.bind (quiet_report _).meets_quiet fun _ _ _ => Meets.during _ ?_
    exact (looks_awaitBlockHosts c).meets fun _ _ _ h => due_of_prepares h.keepsPods h.prepares

/-- A provision that succeeds has brought block devices into use on enough hosts. -/
theorem course_provision_ok {seen : List Event}
    (h : Course (Migration.provision c) seen (some (.ok ()))) :
    EnoughBlockHosts c.settings seen := by
  obtain ⟨_, said, _, rfl, _, h₁⟩ := (Job.course_bind_ok ..).1 h
  obtain ⟨_, shaped, _, rfl, hp, h₂⟩ := (Job.course_bind_ok ..).1 h₁
  obtain ⟨_, nudged, _, rfl, _, h₃⟩ := (Job.course_bind_ok ..).1 h₂
  obtain ⟨_, said', waited, rfl, _, hw⟩ := (Job.course_bind_ok ..).1 h₃
  obtain ⟨since, hused⟩ := course_enableBlock_ok ((Job.course_during_ok ..).1 hp)
  obtain ⟨a, u, nodes, b, listing, devices, rfl, hl, hle⟩ :=
    course_awaitBlockHosts_ok ((Job.course_during_ok ..).1 hw)
  refine ⟨since ++ nudged ++ said' ++ a, u, nodes, b, listing, [], devices, ?_, hl, hle⟩
  have h := hused.append said (nudged ++ said' ++ a ++ .answered u .listNodes (.ok nodes) :: b ++
    listing)
  simpa using h

end

/-! ## The second gate -/

/-- What a migration does once an OSD was seen on a host directory. -/
def replaceHostpath (c : Context) (counts : Osd.HostCounts) : Job Migration.Outcome := do
  Job.report (toString counts.hostpath ++ " nodes with directory OSDs exist, and "
    ++ toString counts.block
    ++ " nodes with block-based OSDs. Continuing with migration.")
  Migration.provision c
  let osds ← Migration.drain c
  Job.report "Migration completed successfully!"
  pure (.removed osds)

/-- What a migration does once the cluster was seen healthy. -/
def checkRequired (c : Context) : Job Migration.Outcome := do
  Job.report ("Rook is currently healthy, checking if a migration from directory-based storage "
    ++ "is required")
  let counts ← (Osd.countHostsNow c.settings).during
    "failed to determine how many OSDs needed migration"
  if counts.hostpath = 0 then
    Job.report "No directory OSDs exist, and so no migration is required."
    pure .notRequired
  else replaceHostpath c counts

theorem migrate_eq (c : Context) :
    migrate c = Migration.prepare c >>= fun _ => checkRequired c := rfl

theorem meets_replaceHostpath (c : Context) (counts : Osd.HostCounts) :
    Meets (Due c.settings) [] (replaceHostpath c counts) := by
  refine Meets.bind (quiet_report _).meets_quiet fun _ said hs => ?_
  have hsaid : Asking KeepsPods said := (quiet_report _ _ _ hs).mono fun _ => False.elim
  refine Meets.bind (meets_provision hsaid) fun _ provided hp => ?_
  refine Meets.bind (meets_drain ?_) fun _ _ _ =>
    Meets.bind (quiet_report _).meets_quiet fun _ _ _ => ?_
  · obtain ⟨a, u, nodes, b, listing, d, devices, hused, hl, hle⟩ := course_provision_ok hp
    have h := hused.append said []
    exact ⟨a, u, nodes, b, listing, d, devices, by simpa using h, hl, hle⟩
  · exact Sends.meets_quiet ((cumulative_asking _).pure _)

/-- If some host has an OSD on a directory, some OSD is on one. -/
theorem exists_hostpath_of_count {devices : List Device}
    (h : (countHosts devices).hostpath ≠ 0) : ∃ d ∈ devices, d.backing = .hostpath := by
  cases hd : devices.filter fun d => d.backing = .hostpath with
  | nil => exact absurd (by simp [countHosts, Osd.hosts, hd]) h
  | cons d rest =>
      have hmem : d ∈ devices.filter fun d => d.backing = .hostpath := hd ▸ List.mem_cons_self
      exact ⟨d, (List.mem_filter.1 hmem).1, of_decide_eq_true (List.mem_filter.1 hmem).2⟩

/-- Once the cluster was seen healthy the listing decides how a migration goes on. -/
theorem gates_of_check {c : Context} {gate rest : List Event}
    {o : Option (Attempt Migration.Outcome)} (asks : Asking (Asks c.settings fun _ => False) gate)
    (healthy : HealthGate c gate) (h : Course (checkRequired c) rest o) :
    Gates c (gate ++ rest) o := by
  have hA := cumulative_asking (· = .listPods c.settings.space c.settings.osdSelector)
  have hlists : Sends (· = .listPods c.settings.space c.settings.osdSelector)
      ((Osd.countHostsNow c.settings).during
        "failed to determine how many OSDs needed migration") :=
    Cumulative.during _ (hA.bind (hA.bind (Cumulative.during _ (sends_ask rfl))
      fun _ => hA.ofAttempt _) fun _ => hA.pure _)
  rcases (Job.course_bind ..).1 h with ⟨_, said, _, rfl, hs, h₁⟩ | ⟨_, hs, _⟩ | ⟨hs, _⟩
  · have hsaid := quiet_report _ _ _ hs
    rcases (Job.course_bind ..).1 h₁ with ⟨counts, listing, rest, rfl, hl, h₂⟩ | ⟨f, hl, rfl⟩ |
      ⟨hl, rfl⟩
    · obtain ⟨t, u, pods, devices, hlist, hd, rfl⟩ :=
        Osd.course_countHostsNow_ok ((Job.course_during_ok ..).1 hl)
      have hlist : ListsOsds c.settings devices listing := ⟨t, u, pods, hlist, hd⟩
      rw [← List.append_assoc, ← List.append_assoc]
      -- the count of the listing decides, and the gate says the same of the OSDs themselves
      split at h₂
      · rename_i hzero
        rcases (Job.course_bind ..).1 h₂ with ⟨_, last, _, rfl, hr, rfl, rfl⟩ | ⟨_, hr, _⟩ |
          ⟨hr, _⟩
        · rw [List.append_nil]
          exact .notRequired asks healthy hsaid hlist
            (fun d => Osd.no_hostpath_of_count hzero) (quiet_report _ _ _ hr)
        · cases ((Job.course_report ..).1 hr).2
        · cases ((Job.course_report ..).1 hr).2
      · rename_i hcount
        obtain ⟨d, hmem, hb⟩ := exists_hostpath_of_count hcount
        exact .required asks healthy hsaid hlist hmem hb (meets_replaceHostpath c _ _ _ h₂)
    · exact .unlisted asks healthy (hA.append (hsaid.mono fun _ => False.elim) (hlists _ _ hl)) nofun
    · exact .unlisted asks healthy (hA.append (hsaid.mono fun _ => False.elim) (hlists _ _ hl)) nofun
  · cases ((Job.course_report ..).1 hs).2
  · cases ((Job.course_report ..).1 hs).2

/-- Nothing is touched before its gate, however the cluster behaves and whenever the user cancels. -/
theorem touched_behind_gates {σ : Type} (server : Server σ) (cancelAt : Option Nat) (c : Context)
    (now : Nat) (s : σ) :
    Gates c ((migrate c).attempt.watch server cancelAt now s).2
      ((migrate c).attempt.watch server cancelAt now s).1.result? := by
  have hstart : (⟨now, s, []⟩ : Timeline σ).Past := fun _ => nofun
  change Gates c ((migrate c).attempt.run server cancelAt ⟨now, s, []⟩).2.seen.reverse
    ((migrate c).attempt.run server cancelAt ⟨now, s, []⟩).1.result?
  have hasks : Asking (Asks c.settings fun _ => False)
      ((Migration.prepare c).attempt.run server cancelAt ⟨now, s, []⟩).2.seen :=
    (asks_prepare c).run (cumulative_asking _).nil
  rw [migrate_eq]
  rcases Job.run_bind_cases server cancelAt (Migration.prepare c) (fun _ => checkRequired c)
    ⟨now, s, []⟩ with ⟨_, u, hu⟩ | ⟨hsame, hfailed⟩
  · rw [hu] at hasks
    obtain ⟨rest, hs, hc⟩ := Job.course_run server cancelAt (checkRequired c) u
    rw [Job.run_bind_of_ok hu, hs, List.reverse_append, List.reverse_reverse]
    exact gates_of_check (fun e he => hasks e (List.mem_reverse.1 he))
      (healthGate_of_prepare hstart hu) hc
  · rw [hsame]
    refine .unhealthy (fun e he => hasks e (List.mem_reverse.1 he)) fun outcome ho => ?_
    rcases he : ((Migration.prepare c >>= fun _ => checkRequired c).attempt.run server cancelAt
      ⟨now, s, []⟩).1 with a | _ | _ | _
    · rw [he] at ho
      exact hfailed outcome (he.trans (congrArg Ending.done (Option.some.inj ho)))
    all_goals
      rw [he] at ho
      cases ho

end OsdMigration
