import Mathlib.Algebra.Order.Floor.Div
import Mathlib.Data.List.Range
import OsdMigration.Proofs.Course.Bound
import OsdMigration.Proofs.Course.Crashes
import OsdMigration.Proofs.Course.Patience
import OsdMigration.Proofs.Watch.OneShot
import OsdMigration.Proofs.Watch.Removability
import OsdMigration.Proofs.Watch.Scale

set_option autoImplicit false

/-! # Waits and their deadlines

A wait that is given some time returns by then, whatever the cluster does: its polls and its pauses
end by the deadline (`Dated`), between two polls lies an interval, and so only so many polls fit in
(`Watch.Begins`). The time has to be on the clock: a wait whose deadline lies beyond the clock's end
crashes at its start, and so does the wait for the toolbox within a poll (`Procedure.CrashesLate`).
-/

namespace OsdMigration

namespace Watch

variable {σ ι : Type} (W : Watch ι) (server : Server σ) (cancelAt : Option Nat) (p : Pacer)
  (n : Nat) (t₀ : Timeline σ)

/-- A poll begins after these findings: it is due, and the wait is still open. -/
def Begins (h : List ι) : Prop :=
  ∃ t, W.Comes server cancelAt p n t₀ h t ∧ h.length < n ∧ p.Open cancelAt t.time

/-- A wait that is given so much time keeps to it. A wait within one of its polls is given no more
than `nested`. -/
structure Punctual (timeout nested : Nat) (run : Ending (Attempt Unit) × Timeline σ) : Prop
    extends W.GoesBy server cancelAt p n t₀ run where
  /-- It returns, at its deadline at the latest, or crashes before that in a poll, but only where a
  wait within the poll may go on until the end of the clock. -/
  returns : (∃ r u, run = (.done r, u) ∧ u.time ≤ t₀.time + timeout) ∨
    ∃ u, run = (.crashed Pacer.beyondClock, u) ∧ u.time < t₀.time + timeout ∧
      Clock.length ≤ u.time + nested
  /-- At most so many polls begin as there are intervals in the time, the last one included if it is
  not whole. -/
  polls : ∀ begun : List (List ι), begun.Nodup →
    (∀ h ∈ begun, W.Begins server cancelAt p n t₀ h) → begun.length ≤ timeout ⌈/⌉ p.interval
  /-- What a poll finds it finds before the deadline, -/
  found : ∀ h u, W.Finds server cancelAt p n t₀ h u → u.time < t₀.time + timeout
  /-- and so the wait ends well before the deadline only. -/
  ok : ∀ u, run = (.done (.ok ()), u) → u.time < t₀.time + timeout
  /-- The deadline itself makes it fail with a timeout at that instant. -/
  late : ∀ h u, W.Interrupted server cancelAt p n t₀ h .deadline u → W.Unsettled h →
    run = (.done (.error (.timeout (W.operation h) (W.last h))), u) ∧ u.time = t₀.time + timeout

variable {W server cancelAt p n t₀} {h : List ι} {t u : Timeline σ} {timeout : Nat}

/-- The polls are an interval apart. -/
theorem Comes.intervals_le (hc : W.Comes server cancelAt p n t₀ h t) :
    t₀.time + h.length * p.interval ≤ t.time := by
  induction hc with
  | first => simp
  | @next h x t u v _ _ found paused ih =>
      have hpoll : t.time ≤ u.time := by
        have hle := Procedure.le_time_run server cancelAt (W.look p) t
        rw [found] at hle
        exact hle
      have hpause : v.time = u.time + p.interval := by rw [run_pause_done paused]
      rw [List.length_cons, Nat.succ_mul]
      omega

/-- Whatever a wait with a deadline looks at, it does so by the deadline. -/
def KeepsTime (W : Watch ι) (server : Server σ) (cancelAt : Option Nat) (p : Pacer)
    (deadline : Nat) : Prop :=
  ∀ t, t.time ≤ deadline → Dated cancelAt deadline ((W.look p).run server cancelAt t)

section

variable {deadline : Nat}

theorem dated_pause (hp : p.deadline = some deadline) (h : List ι) (hu : u.time ≤ deadline) :
    Dated cancelAt deadline ((W.pause p h).run server cancelAt u) := by
  unfold pause
  cases W.telling h with
  | none => exact dated_guard hp _ hu
  | some text =>
      exact dated_guard (t := { u with seen := .told u.time (.passing text) :: u.seen }) hp _ hu

variable (hp : p.deadline = some deadline) (hk : W.KeepsTime server cancelAt p deadline)
  (hstart : t₀.time ≤ deadline)

include hp hk hstart

/-- A poll is due before the deadline, unless it is the first. -/
theorem Comes.time_le (hc : W.Comes server cancelAt p n t₀ h t) :
    t.time ≤ deadline ∧ (h ≠ [] → t.time < deadline) := by
  induction hc with
  | first => exact ⟨hstart, fun hne => absurd rfl hne⟩
  | @next h x t u v _ _ found paused ih =>
      have hpoll := hk t ih.1
      rw [found] at hpoll
      have hpause : Dated cancelAt deadline ((W.pause p (x :: h)).run server cancelAt u) :=
        dated_pause hp (x :: h) hpoll.time_le
      rw [paused] at hpause
      exact ⟨hpause.time_le, fun _ => hpause.lt_of_ok () rfl⟩

theorem Finds.time_lt (hf : W.Finds server cancelAt p n t₀ h u) : u.time < deadline := by
  obtain ⟨hc, _, found⟩ := hf
  have hpoll := hk _ (hc.time_le hp hk hstart).1
  rw [found] at hpoll
  exact hpoll.lt_of_ok _ rfl

/-- An interruption comes by the deadline, and if it is the deadline's own, at it. -/
theorem Interrupted.time {i : Interruption} (hi : W.Interrupted server cancelAt p n t₀ h i u) :
    u.time ≤ deadline ∧ (i = .deadline → u.time = deadline) := by
  have hdated : ∀ {α : Type} {e : Ending (Except Interruption α) × Timeline σ},
      Dated cancelAt deadline e → e = (.done (.error i), u) →
        u.time ≤ deadline ∧ (i = .deadline → u.time = deadline) := by
    rintro α e hd rfl
    refine ⟨hd.time_le, ?_⟩
    rintro rfl
    exact hd.late rfl
  cases hi with
  | inPoll hc _ cut => exact hdated (hk _ (hc.time_le hp hk hstart).1) cut
  | inPause finds cut =>
      exact hdated (dated_pause hp h (Nat.le_of_lt (finds.time_lt hp hk hstart))) cut

end

/-! ## Polls that begin -/

/-- So many polls came before a poll that begins that one more still fits. -/
theorem Begins.length_lt (hp : p.deadline = some (t₀.time + timeout)) (hi : 0 < p.interval)
    (hb : W.Begins server cancelAt p n t₀ h) : h.length < timeout ⌈/⌉ p.interval := by
  obtain ⟨t, hc, _, hopen⟩ := hb
  have hle := hc.intervals_le
  have hlt := hopen.2 _ hp
  by_contra hge
  have hover : timeout ≤ p.interval * h.length :=
    (ceilDiv_le_iff_le_mul hi).1 (Nat.le_of_not_lt hge)
  rw [Nat.mul_comm] at hover
  omega

/-- Polls are told apart by how many came before them. -/
theorem length_begun_le {begun : List (List ι)} (hp : p.deadline = some (t₀.time + timeout))
    (hi : 0 < p.interval) (hnodup : begun.Nodup)
    (hb : ∀ h ∈ begun, W.Begins server cancelAt p n t₀ h) :
    begun.length ≤ timeout ⌈/⌉ p.interval := by
  have hinj : ∀ h ∈ begun, ∀ g ∈ begun, h.length = g.length → h = g := by
    intro h hh g hg hlen
    obtain ⟨_, hc, _⟩ := hb h hh
    obtain ⟨_, gc, _⟩ := hb g hg
    exact (hc.unique gc hlen).1
  have hrange : begun.map List.length ⊆ List.range (timeout ⌈/⌉ p.interval) := by
    intro k hk
    obtain ⟨h, hh, rfl⟩ := List.mem_map.1 hk
    exact List.mem_range.2 ((hb h hh).length_lt hp hi)
  have hlen := (List.subperm_of_subset (hnodup.map_on hinj) hrange).length_le
  rwa [List.length_map, List.length_range] at hlen

/-! ## Runs -/

/-- What a wait looks at crashes only where the clock ends within so much time. -/
def CrashesLate (W : Watch ι) (server : Server σ) (cancelAt : Option Nat) (p : Pacer)
    (nested : Nat) : Prop :=
  (W.look p).CrashesLate server cancelAt nested

/-- The bound on the number of polls is not what ends a wait that is given less time than the polls
last. -/
theorem GoesBy.returns {run : Ending (Attempt Unit) × Timeline σ} {nested : Nat}
    (hg : W.GoesBy server cancelAt p n t₀ run) (hp : p.deadline = some (t₀.time + timeout))
    (hk : W.KeepsTime server cancelAt p (t₀.time + timeout)) (hn : 0 < n)
    (ht : timeout ≤ n * p.interval)
    (hpatient : ∀ t, ((W.look p).run server cancelAt t).1 = .exhausted →
      t.time + n * p.interval ≤ ((W.look p).run server cancelAt t).2.time)
    (hlate : W.CrashesLate server cancelAt p nested) :
    (∃ r u, run = (.done r, u)) ∨
      ∃ u, run = (.crashed Pacer.beyondClock, u) ∧ u.time < t₀.time + timeout ∧
        Clock.length ≤ u.time + nested := by
  have hstart : t₀.time ≤ t₀.time + timeout := Nat.le_add_right _ _
  by_cases hdone : ∃ r u, run = (.done r, u)
  · exact .inl hdone
  have hresult : ∀ r, run.1 ≠ .done r := fun r hr => hdone ⟨r, run.2, by rw [← hr]⟩
  -- a wait that does not return is in a poll that does not end, or has made all its polls
  cases hg.remains hresult with
  | @inPoll h t _ hc room _ endless asPoll =>
      have hpoll := hk t (hc.time_le hp hk hstart).1
      have hbegin := hc.intervals_le
      have hlast := hpatient t
      have habandoned := Procedure.run_ne_abandoned server cancelAt (W.look p) t
      have hcrash := hlate none 0 t
      change ∀ message u, (W.look p).run server cancelAt t = (.crashed message, u) → _ at hcrash
      have hsame := asPoll fun _ u => (.stuck, u)
      generalize (W.look p).run server cancelAt t = e
        at hpoll hlast endless habandoned hcrash hsame
      obtain ⟨o | ⟨cause, depth⟩ | _ | _ | message, u⟩ := e
      · exact absurd rfl (endless o)
      · exact absurd rfl (habandoned cause depth)
      · exact absurd rfl hpoll.answered
      · -- the polls of the poll itself have run out, which takes longer than there is time
        have hover := hlast rfl
        have hearly := hpoll.lt_of_exhausted rfl
        simp only at hover hearly
        omega
      · -- the poll has crashed, and the run with it
        obtain ⟨rfl, hend⟩ := hcrash message u rfl
        exact .inr ⟨u, hsame, hpoll.lt_of_crashed _ rfl, hend⟩
  | @polled h t hc all _ =>
      have hne : h ≠ [] := by
        rintro rfl
        rw [← all] at hn
        exact absurd hn (Nat.lt_irrefl 0)
      -- each poll begins an interval after the one before it, or later
      have hover := hc.intervals_le
      have hearly := (hc.time_le hp hk hstart).2 hne
      rw [all] at hover
      omega

/-- A wait whose polls keep time is punctual. -/
theorem GoesBy.punctual {run : Ending (Attempt Unit) × Timeline σ} {nested : Nat}
    (hg : W.GoesBy server cancelAt p n t₀ run) (hp : p.deadline = some (t₀.time + timeout))
    (hi : 0 < p.interval) (hk : W.KeepsTime server cancelAt p (t₀.time + timeout))
    (hreturns : (∃ r u, run = (.done r, u)) ∨
      ∃ u, run = (.crashed Pacer.beyondClock, u) ∧ u.time < t₀.time + timeout ∧
        Clock.length ≤ u.time + nested) :
    W.Punctual server cancelAt p n t₀ timeout nested run := by
  have hstart : t₀.time ≤ t₀.time + timeout := Nat.le_add_right _ _
  have hfound : ∀ h u, W.Finds server cancelAt p n t₀ h u → u.time < t₀.time + timeout :=
    fun h u hf => hf.time_lt hp hk hstart
  refine ⟨hg, ?returns, ?polls, hfound, ?ok, ?late⟩
  case returns =>
    refine hreturns.imp_left ?_
    rintro ⟨r, u, hr⟩
    obtain ⟨h, hends⟩ := (hg.result_iff r u).1 hr
    refine ⟨r, u, hr, ?_⟩
    cases hends with
    | settled finds _ _ => exact Nat.le_of_lt (hfound h u finds)
    | interrupted cut _ => exact (cut.time hp hk hstart).1
  case polls =>
    intro begun hnodup hb
    exact length_begun_le hp hi hnodup hb
  case ok =>
    intro u hr
    obtain ⟨h, hends⟩ := (hg.result_iff (.ok ()) u).1 hr
    cases hends with
    | settled finds _ _ => exact hfound h u finds
  case late =>
    intro h u cut unsettled
    exact ⟨(hg.result_iff _ u).2 ⟨h, .interrupted cut unsettled⟩, (cut.time hp hk hstart).2 rfl⟩

end Watch

/-! ## The waits -/

section

variable {σ : Type} (server : Server σ) (cancelAt : Option Nat) (c : Context) (timeout : Nat)
  (now : Nat)

theorem keepsTime_health : (healthWatch c).KeepsTime server cancelAt (c.pacer (some timeout) now)
    (now + timeout) := fun _ ht => dated_guard rfl _ ht

theorem keepsTime_down : (downWatch c).KeepsTime server cancelAt (c.pacer (some timeout) now)
    (now + timeout) := fun _ ht => dated_guard rfl _ ht

theorem keepsTime_scale (g : ScaleWait.Goal) : (scaleWatch c.settings g).KeepsTime server cancelAt
    (c.pacer (some timeout) now) (now + timeout) := fun _ ht => dated_guard rfl _ ht

theorem keepsTime_removal (osd : UInt32) : (removalWatch c osd).KeepsTime server cancelAt
    (c.pacer (some timeout) now) (now + timeout) := by
  intro t ht
  refine dated_bind (dated_guard rfl _ ht) (fun _ => rfl) fun report u hu => ?_
  rcases report with f | status
  · exact dated_ok _ hu
  · simp only
    split
    · exact dated_bind (dated_guard rfl _ (Nat.le_of_lt hu)) (fun _ => rfl)
        fun answer v hv => dated_ok _ hv
    · exact dated_ok _ hu

end

/-- What is done in a poll of a wait until an OSD can go has what its two questions have. -/
theorem Composing.removalLook {P : {α : Type} → Procedure α → Prop} (h : Composing P)
    {c : Context} (hstatus : P (Monitor.fetchStatus c).attempt) (osd : UInt32) (p : Pacer) :
    P ((removalWatch c osd).look p) := by
  refine h.bind (h.guard p hstatus) fun report => ?_
  rcases report with i | f | status
  · exact h.pure _
  · exact h.pure _
  · simp only
    split
    · exact h.bind (h.guard p (h.askRemovability osd)) fun _ => h.pure _
    · exact h.pure _

/-- A wait that is given some time from `start` on, with its first poll due at `t₀`, keeps its
deadline. The bound on its polls plays no part in that: with any larger one its run is the same. -/
structure KeepsDeadline {σ ι : Type} (W : Watch ι) (await : Context → Job Unit) (server : Server σ)
    (cancelAt : Option Nat) (c : Context) (timeout nested : Nat) (start t₀ t : Timeline σ) :
    Prop where
  punctual : Watch.Starts (some timeout) start (W.Punctual server cancelAt
    (c.pacer (some timeout) t.time) c.polls t₀ timeout nested)
    ((await c).attempt.run server cancelAt t)
  /-- It returns if the clock goes on for the time that it is given and for that of a wait within
  its last poll. -/
  returns : t.time + timeout + nested < Clock.length →
    ∃ r u, (await c).attempt.run server cancelAt t = (.done r, u) ∧ u.time ≤ t.time + timeout
  steady : ∀ polls, c.polls ≤ polls → (await { c with polls }).attempt.run server cancelAt t =
    (await c).attempt.run server cancelAt t

/-- The waits that may be given some time keep to it. In the polls of all but the last of them the
toolbox may have to be waited for. -/
structure WaitsKeepDeadlines {σ : Type} (server : Server σ) (cancelAt : Option Nat) (c : Context)
    (timeout : Nat) (t : Timeline σ) : Prop where
  health : KeepsDeadline (healthWatch c) (awaitHealth · (some timeout)) server cancelAt c timeout
    (Settings.seconds c.settings.toolboxTimeout) t t.healthPolling t
  removability : ∀ osd, KeepsDeadline (removalWatch c osd) (awaitRemovable · osd (some timeout))
    server cancelAt c timeout (Settings.seconds c.settings.toolboxTimeout) t t t
  osdDown : KeepsDeadline (downWatch c) (awaitOsdDown · (some timeout))
    server cancelAt c timeout (Settings.seconds c.settings.toolboxTimeout) t t t
  scale : ∀ name scale, KeepsDeadline (scaleWatch c.settings ⟨c.settings.space, name, scale⟩)
    (awaitScale · name scale timeout) server cancelAt c timeout 0
    (t.scalePolling ⟨c.settings.space, name, scale⟩)
    (t.scalePolling ⟨c.settings.space, name, scale⟩) t

section

variable {σ : Type} {server : Server σ} {cancelAt : Option Nat} {c : Context}

theorem keepsDeadline_of_starts {ι : Type} {W : Watch ι} {await : Context → Job Unit}
    {timeout nested : Nat} {start t₀ t : Timeline σ} (hi : 0 < c.settings.interval.toNat)
    (hn : 0 < c.polls) (ht : timeout ≤ c.pollTime) (hstart : start.time = t.time)
    (htime : t₀.time = t.time)
    (hg : Watch.Starts (some timeout) start
      (W.GoesBy server cancelAt (c.pacer (some timeout) t.time) c.polls t₀)
      ((await c).attempt.run server cancelAt t))
    (hk : W.KeepsTime server cancelAt (c.pacer (some timeout) t.time) (t.time + timeout))
    (hpatient : (W.look (c.pacer (some timeout) t.time)).Patient server cancelAt c.pollTime)
    (hlate : W.CrashesLate server cancelAt (c.pacer (some timeout) t.time) nested)
    (hextends : ∀ polls, c.polls ≤ polls →
      (await c).Extends server cancelAt (await { c with polls })) :
    KeepsDeadline W await server cancelAt c timeout nested start t₀ t := by
  have hp : (c.pacer (some timeout) t.time).deadline = some (t₀.time + timeout) := by
    rw [htime]
    rfl
  have hk : W.KeepsTime server cancelAt (c.pacer (some timeout) t.time) (t₀.time + timeout) := by
    rw [htime]
    exact hk
  have hends : ∀ hr : Clock.Reaches start.time (some timeout), _ := fun hr =>
    (hg.reached hr).returns hp hk hn ht (fun u hu => hpatient none 0 u nofun nofun hu) hlate
  have hpunctual := fun hr => (hg.reached hr).punctual hp hi hk (hends hr)
  refine ⟨⟨hpunctual, hg.beyond⟩, fun hclock => ?_, fun polls hle => ?_⟩
  · have hr : Clock.Reaches start.time (some timeout) := by
      rw [Clock.reaches_some, hstart]
      omega
    rcases (hpunctual hr).returns with ⟨r, u, hrun, hle⟩ | ⟨u, _, hearly, hend⟩
    · exact ⟨r, u, hrun, htime ▸ hle⟩
    · omega
  · refine hextends polls hle none 0 t ?_
    show ((await c).attempt.run server cancelAt t).1 ≠ .exhausted
    by_cases hr : Clock.Reaches start.time (some timeout)
    · rcases hends hr with ⟨r, u, hrun⟩ | ⟨u, hrun, _⟩ <;> rw [hrun] <;> exact nofun
    · rw [hg.beyond hr]
      exact nofun

/-- Whatever the cluster does, a wait that is given some time returns in it, if the interval between
polls is not zero, the bound on its polls leaves room for that time, and the clock goes on for as
long. -/
theorem waits_keep_deadlines (server : Server σ) (cancelAt : Option Nat) (c : Context)
    (timeout : Nat) (t : Timeline σ) (hi : 0 < c.settings.interval.toNat) (hn : 0 < c.polls)
    (ht : timeout ≤ c.pollTime) : WaitsKeepDeadlines server cancelAt c timeout t := by
  have hpatient := Procedure.composing_patient server cancelAt c.pollTime
  have hlate := Procedure.composing_crashesLate server cancelAt
    (Settings.seconds c.settings.toolboxTimeout)
  have hstatus := patient_fetchStatus server cancelAt c
  have hreport := crashesLate_fetchStatus server cancelAt c
  constructor
  case health =>
    exact keepsDeadline_of_starts hi hn ht rfl rfl
      (goesBy_awaitHealth c (some timeout) server cancelAt t) (keepsTime_health _ _ _ _ _)
      (hpatient.guard _ hstatus) (hlate.guard _ hreport) fun polls hp => extends_awaitHealth hp _
  case removability =>
    intro osd
    exact keepsDeadline_of_starts hi hn ht rfl rfl
      (goesBy_awaitRemovable c osd (some timeout) server cancelAt t)
      (keepsTime_removal _ _ _ _ _ osd) (hpatient.removalLook hstatus osd _)
      (hlate.removalLook hreport osd _) fun polls hp => extends_awaitRemovable hp _ _
  case osdDown =>
    exact keepsDeadline_of_starts hi hn ht rfl rfl
      (goesBy_awaitOsdDown c server cancelAt (some timeout) t) (keepsTime_down _ _ _ _ _)
      (hpatient.guard _ hstatus) (hlate.guard _ hreport) fun polls hp => extends_awaitOsdDown hp _
  case scale =>
    intro name scale
    have hask := Procedure.composing_crashesLate server cancelAt 0
    exact keepsDeadline_of_starts hi hn ht rfl rfl
      (goesBy_awaitScale c name scale timeout server cancelAt t) (keepsTime_scale _ _ _ _ _ _)
      (hpatient.guard _ (hpatient.call _)) (hask.guard _ (hask.call _))
      fun polls hp => extends_awaitScale hp _ _ _

end

/-- A cluster that never answers. -/
def mute : Server Unit where
  receive _ _ s := (none, s)
  answer _ _ s := (none, s)

/-- Stock settings, and room for twenty polls of a wait. -/
def roomy : Context := ⟨Settings.standard, 20⟩

/-- A cluster that never answers does not keep a wait of twenty seconds longer than that. -/
theorem mute_waits_keep_deadlines :
    (0 < roomy.settings.interval.toNat ∧ 0 < roomy.polls ∧ 20000 ≤ roomy.pollTime) ∧
      WaitsKeepDeadlines mute none roomy 20000 ⟨0, (), []⟩ :=
  ⟨by decide, waits_keep_deadlines mute none roomy 20000 ⟨0, (), []⟩ (by decide) (by decide)
    (by decide)⟩

/-- A wait that is given as many seconds as the settings have room for crashes at its start. -/
theorem longest_wait_crashes :
    ((awaitScale roomy "rook-ceph-tools" 1 (Settings.seconds 18446744073709551615)).attempt.run
      mute none ⟨0, (), []⟩).1 = .crashed Pacer.beyondClock := by
  have hbeyond := (goesBy_awaitScale roomy "rook-ceph-tools" 1
    (Settings.seconds 18446744073709551615) mute none ⟨0, (), []⟩).beyond (by decide)
  rw [hbeyond]

end OsdMigration
