import OsdMigration.Proofs.Watch.Scale

set_option autoImplicit false

/-! # What a deployment asks for, in a wait for a scale

A deployment that does not say how many pods it asks for asks for one. A wait for a scale takes it
to ask for the scale that is waited for: it goes by the counts of such a deployment alone
(`ScaleRun.Verdicts.unsaid`), so that a deployment of which nothing at all is said is down. The wait
accepts what asks for the scale, and refuses what asks for another one, exactly if it is for a scale
of one or every deployment that it fetches says what it asks for (`ScaleRun.Verdicts.byAsked_iff`).
-/

namespace OsdMigration

open Cluster (Deployment DeploymentStatus)

/-! ## Deployments -/

namespace Cluster.Deployment

/-- How many pods a deployment asks for; one if it does not say. -/
def asked (d : Deployment) : Int := d.wanted?.getD 1

/-- The ways of counting the pods of a deployment. -/
def counts : List (DeploymentStatus → Option Int) :=
  [DeploymentStatus.replicas, DeploymentStatus.ready, DeploymentStatus.available,
    DeploymentStatus.updated]

/-- Every count of the pods is the scale, where a count that is not given is zero. -/
def CountsAre (d : Deployment) (scale : Int) : Prop :=
  ∀ count ∈ counts, (d.status.bind count).getD 0 = scale

theorem atScale_iff {d : Deployment} {scale : Int} :
    d.atScale scale = true ↔ d.CountsAre scale := by
  unfold atScale CountsAre counts
  cases d.status with
  | none =>
      simp only [Option.bind_none, Option.getD_none, List.forall_mem_cons, beq_iff_eq]
      exact ⟨fun h => by simp [h], fun h => h.1.symm⟩
  | some s =>
      simp only [Option.bind_some, Bool.and_eq_true, beq_iff_eq, List.forall_mem_cons]
      constructor
      · rintro ⟨⟨⟨replicas, available⟩, ready⟩, updated⟩
        exact ⟨replicas, ready, available, updated, fun _ h => absurd h List.not_mem_nil⟩
      · rintro ⟨replicas, ready, available, updated, _⟩
        exact ⟨⟨⟨replicas, available⟩, ready⟩, updated⟩

end Cluster.Deployment

/-! ## Polls are told apart by what was seen -/

namespace Watch

variable {σ ι : Type} {W : Watch ι} {server : Server σ} {cancelAt : Option Nat} {p : Pacer}
  {n : Nat} {t₀ : Timeline σ}

/-- Whenever a poll finds something, something is seen of it. -/
def Leaves (W : Watch ι) (server : Server σ) (cancelAt : Option Nat) (p : Pacer) : Prop :=
  ∀ t x u, (W.look p).run server cancelAt t = (.done (.ok x), u) → t.seen.length < u.seen.length

/-- By the time a poll is due, at least as much was seen as when any poll before found something. -/
theorem Finds.seen_le {h g : List ι} {u s : Timeline σ} (hl : W.Leaves server cancelAt p)
    (hf : W.Finds server cancelAt p n t₀ h u) (gc : W.Comes server cancelAt p n t₀ g s)
    (hlen : h.length ≤ g.length) : u.seen.length ≤ s.seen.length := by
  obtain ⟨hc, _, found⟩ := hf
  induction gc with
  | first => exact absurd hlen (by simp)
  | @next g y s v w gc room found' paused ih =>
      have hw : v.seen.length ≤ w.seen.length := by
        rw [run_pause_done paused, List.length_append]
        exact Nat.le_add_left ..
      rcases Nat.lt_or_eq_of_le hlen with hlt | heq
      · have hle := ih (Nat.le_of_lt_succ hlt)
        exact Nat.le_trans hle (Nat.le_trans (Nat.le_of_lt (hl _ _ _ found')) hw)
      · -- it is the same poll
        obtain ⟨rfl, rfl⟩ := hc.unique gc (Nat.succ.inj heq)
        rw [found] at found'
        cases found'
        exact hw

/-- There is one list of findings at which a run has come to this point. -/
theorem Finds.unique {h g : List ι} {u : Timeline σ} (hl : W.Leaves server cancelAt p)
    (hf : W.Finds server cancelAt p n t₀ h u) (gf : W.Finds server cancelAt p n t₀ g u) :
    h = g := by
  -- what is found later is seen later
  have later : ∀ {h g : List ι}, W.Finds server cancelAt p n t₀ h u →
      W.Finds server cancelAt p n t₀ g u → ¬ h.length < g.length := by
    rintro h _ hf ⟨gc, _, found⟩ hlt
    have hle := hf.seen_le hl gc (Nat.le_of_lt_succ hlt)
    have hlast := hl _ _ _ found
    omega
  have hlen : h.length = g.length :=
    Nat.le_antisymm (Nat.le_of_not_lt (later gf hf)) (Nat.le_of_not_lt (later hf gf))
  obtain ⟨hc, _, found⟩ := hf
  obtain ⟨gc, _, found'⟩ := gf
  obtain ⟨rfl, rfl⟩ := hc.unique gc (Nat.succ.inj hlen)
  rw [found] at found'
  cases found'
  rfl

end Watch

/-! ## Runs of the wait -/

/-- A run of a wait for a scale: the server, the instant of a cancellation, what is waited for and
for how long, and the run before it. -/
structure ScaleRun (σ : Type) where
  server : Server σ
  cancelAt : Option Nat
  context : Context
  name : String
  scale : Int
  timeout : Nat
  start : Timeline σ

namespace ScaleRun

variable {σ : Type}

/-- How the run ends. -/
def outcome (w : ScaleRun σ) : Ending (Attempt Unit) × Timeline σ :=
  (awaitScale w.context w.name w.scale w.timeout).attempt.run w.server w.cancelAt w.start

/-- The wait by what its polls find. -/
def watch (w : ScaleRun σ) : Watch (Attempt (Option Deployment)) :=
  scaleWatch w.context.settings ⟨w.context.settings.space, w.name, w.scale⟩

/-- The run when its first poll is due. -/
def polling (w : ScaleRun σ) : Timeline σ :=
  w.start.scalePolling ⟨w.context.settings.space, w.name, w.scale⟩

/-- A poll of the wait fetches a deployment, after the wait has started and none of the answers
before has ended it. -/
structure Fetches (w : ScaleRun σ) (d : Deployment) (before : List (Attempt (Option Deployment)))
    (u : Timeline σ) : Prop where
  started : Clock.Reaches w.start.time (some w.timeout)
  finds : w.watch.Finds w.server w.cancelAt (w.context.pacer (some w.timeout) w.start.time)
    w.context.polls w.polling (.ok (some d) :: before) u
  unsettled : w.watch.Unsettled before

/-- The failure that a deployment asks for another scale. -/
def foreign (w : ScaleRun σ) (actual : Int) : Failure :=
  .foreignScale w.context.settings.space w.name actual w.scale

/-- The run goes by what deployments ask for: it ends well only if the last one that it fetched asks
for the scale and has it, and it fails at the first one that asks for another. -/
structure ByAsked (w : ScaleRun σ) : Prop where
  accepted : ∀ u, w.outcome = (.done (.ok ()), u) →
    ∃ d before, w.Fetches d before u ∧ d.asked = w.scale ∧ d.CountsAre w.scale
  refused : ∀ d before u, w.Fetches d before u → d.asked ≠ w.scale →
    w.outcome = (.done (.error (w.foreign d.asked)), u)

/-- What the run makes of the deployments that it fetches. -/
structure Verdicts (w : ScaleRun σ) : Prop where
  /-- It ends well where it fetches a deployment that has the scale and says of no other one that it
  asks for it, and only there. -/
  ok_iff : ∀ u, w.outcome = (.done (.ok ()), u) ↔
    ∃ d before, w.Fetches d before u ∧ d.CountsAre w.scale ∧ ∀ n ∈ d.wanted?, n = w.scale
  /-- It fails at the first deployment that says of another scale that it asks for it, whatever its
  counts are. -/
  said : ∀ d before u, w.Fetches d before u → ∀ n ∈ d.wanted?, n ≠ w.scale →
    w.outcome = (.done (.error (w.foreign n)), u)
  /-- Of a deployment that does not say what it asks for the counts decide: it is accepted, or the
  wait goes on. -/
  unsaid : ∀ d before u, w.Fetches d before u → d.wanted? = none →
    (d.CountsAre w.scale → w.outcome = (.done (.ok ()), u)) ∧
      (¬ d.CountsAre w.scale → w.watch.Unsettled (.ok (some d) :: before))
  /-- The run goes by what deployments ask for unless it fetches one that does not say so, in a wait
  for any scale but one. -/
  byAsked_iff : w.ByAsked ↔
    w.scale = 1 ∨ ∀ d before u, w.Fetches d before u → d.wanted? ≠ none

section

variable (w : ScaleRun σ)

theorem goesBy : Watch.Starts (some w.timeout) w.polling (w.watch.GoesBy w.server w.cancelAt
    (w.context.pacer (some w.timeout) w.start.time) w.context.polls w.polling) w.outcome :=
  goesBy_awaitScale ..

/-- A run that comes to a result has started. -/
theorem started_of_done {r : Attempt Unit} {u : Timeline σ} (h : w.outcome = (.done r, u)) :
    Clock.Reaches w.start.time (some w.timeout) := by
  refine Decidable.byContradiction fun hlate => ?_
  rw [w.goesBy.beyond hlate] at h
  cases h

/-- Of a poll that is answered something has been seen. -/
theorem leaves_watch (p : Pacer) : w.watch.Leaves w.server w.cancelAt p := by
  intro t x u h
  change (w.watch.look p).runWithin w.server w.cancelAt none 0 t = _ at h
  obtain ⟨seen, hseen, hc⟩ :=
    Procedure.course_runWithin w.server w.cancelAt (w.watch.look p) none 0 t
  rw [h] at hseen hc
  have hne : seen ≠ [] := by
    rintro rfl
    rcases hc with ⟨_, _, ho⟩ | ⟨_, first, _, happ, hw, _⟩ | ⟨_, _, _, _, _, _, ho⟩ | ⟨_, ho⟩
    · cases ho
    · -- it was answered, so the request and the answer have been seen
      obtain ⟨rfl, rfl⟩ := List.nil_eq_append_iff.1 happ
      rcases hw with ⟨_, hw, _⟩ | ⟨_, _, _, _, hw, _⟩ <;> cases hw
    · cases ho
    · cases ho
  rw [hseen, List.length_append, List.length_reverse]
  exact Nat.lt_add_of_pos_left (List.length_pos_iff.2 hne)

variable {w} {d : Deployment} {before : List (Attempt (Option Deployment))} {u : Timeline σ}
  {r : Attempt Unit}

theorem settles_said {n : Int} (hn : n ∈ d.wanted?) (hne : n ≠ w.scale) :
    w.watch.Settles (.ok (some d) :: before) r ↔ r = .error (w.foreign n) := by
  refine Question.decides_refused ?_
  have hforeign : d.wanted?.filter (· ≠ w.scale) = some n := by
    rw [hn]
    simp [hne]
  simp only [Settings.scaleQuestion, hforeign]
  rfl

theorem settles_unforeign (hn : ∀ n ∈ d.wanted?, n = w.scale) :
    w.watch.Settles (.ok (some d) :: before) r ↔ r = .ok () ∧ d.CountsAre w.scale := by
  have hjudge : (w.context.settings.scaleQuestion
      ⟨w.context.settings.space, w.name, w.scale⟩).judge (some d) = .ok (d.atScale w.scale) := by
    have hnone : d.wanted?.filter (· ≠ w.scale) = none :=
      Option.filter_eq_none_iff.2 fun n hmem => by simp [hn n hmem]
    simp only [Settings.scaleQuestion, hnone]
  rw [← Deployment.atScale_iff]
  cases hscale : d.atScale w.scale with
  | true =>
      rw [hscale] at hjudge
      refine (Question.decides_good hjudge).trans (and_congr_right fun _ => ?_)
      exact iff_of_true (Nat.le_add_left ..) rfl
  | false =>
      rw [hscale] at hjudge
      exact iff_of_false (Question.not_decides_other hjudge) fun h => Bool.false_ne_true h.2

/-- A result that a fetched deployment settles is the result of the run. -/
theorem Fetches.outcome_eq (hf : w.Fetches d before u)
    (hr : w.watch.Settles (.ok (some d) :: before) r) : w.outcome = (.done r, u) :=
  ((w.goesBy.reached hf.started).result_iff r u).2 ⟨_, .settled hf.finds hr hf.unsettled⟩

/-- A result that is not the failure of an interruption is settled by what was found last. -/
theorem settled_of_outcome (ho : w.outcome = (.done r, u))
    (hr : ∀ h i, r ≠ .error (w.watch.stopped h i)) :
    ∃ h, w.watch.Finds w.server w.cancelAt (w.context.pacer (some w.timeout) w.start.time)
      w.context.polls w.polling h u ∧ w.watch.Settles h r ∧ w.watch.Unsettled h.tail := by
  have hgoes := w.goesBy.reached (w.started_of_done ho)
  obtain ⟨h, ends⟩ := (hgoes.result_iff r u).1 ho
  cases ends with
  | settled finds settles first => exact ⟨h, finds, settles, first⟩
  | interrupted cut _ => exact absurd rfl (hr h _)

/-- A run that ends well has fetched a deployment last that lets it. -/
theorem fetches_of_ok (ho : w.outcome = (.done (.ok ()), u)) :
    ∃ d before, w.Fetches d before u ∧ d.CountsAre w.scale ∧ ∀ n ∈ d.wanted?, n = w.scale := by
  obtain ⟨h, finds, settles, first⟩ := settled_of_outcome ho nofun
  cases finds with
  | @intro before a _ _ poll room found =>
      rcases a with f | _ | d
      · cases settles with
        | met enough => cases Question.good_of_wanted enough
      · cases (Question.decides_refused rfl).1 settles
      · have hn : ∀ n ∈ d.wanted?, n = w.scale := by
          intro n hmem
          refine Decidable.byContradiction fun hne => ?_
          cases (settles_said hmem hne).1 settles
        exact ⟨d, before, ⟨w.started_of_done ho, .intro poll room found, first⟩,
          ((settles_unforeign hn).1 settles).2, hn⟩

/-- A fetched deployment that does not settle the wait is not the end of the run, if the run does
not end with the failure of an interruption. -/
theorem Fetches.not_outcome (hf : w.Fetches d before u)
    (hu : ∀ r, ¬ w.watch.Settles (.ok (some d) :: before) r)
    (hr : ∀ h i, r ≠ .error (w.watch.stopped h i)) : w.outcome ≠ (.done r, u) := by
  intro ho
  obtain ⟨h, finds, settles, _⟩ := settled_of_outcome ho hr
  obtain rfl := finds.unique (leaves_watch w _) hf.finds
  exact hu r settles

theorem byAsked_of_said (h : w.scale = 1 ∨ ∀ d before u, w.Fetches d before u → d.wanted? ≠ none) :
    w.ByAsked where
  accepted u ho := by
    obtain ⟨d, before, hf, counts, hn⟩ := fetches_of_ok ho
    refine ⟨d, before, hf, ?_, counts⟩
    cases hw : d.wanted? with
    | some n =>
        rw [Deployment.asked, hw]
        exact hn n hw
    | none =>
        rcases h with hone | hsaid
        · rw [Deployment.asked, hw, hone]
          rfl
        · exact absurd hw (hsaid d before u hf)
  refused d before u hf hne := by
    cases hw : d.wanted? with
    | some n =>
        rw [Deployment.asked, hw] at hne ⊢
        exact hf.outcome_eq ((settles_said hw hne).2 rfl)
    | none =>
        rcases h with hone | hsaid
        · rw [Deployment.asked, hw, hone] at hne
          exact absurd rfl hne
        · exact absurd hw (hsaid d before u hf)

/-- A deployment that does not say what it asks for is not refused. -/
theorem Fetches.not_byAsked (hf : w.Fetches d before u) (hw : d.wanted? = none)
    (hne : w.scale ≠ 1) : ¬ w.ByAsked := by
  intro h
  have hasked : d.asked = 1 := by rw [Deployment.asked, hw]; rfl
  have hout := h.refused d before u hf (hasked ▸ hne.symm)
  have hn : ∀ n ∈ d.wanted?, n = w.scale := by simp [hw]
  by_cases hc : d.CountsAre w.scale
  · rw [hf.outcome_eq ((settles_unforeign hn).2 ⟨rfl, hc⟩)] at hout
    cases hout
  · refine hf.not_outcome (fun r hr => hc ((settles_unforeign hn).1 hr).2) (fun g i => ?_) hout
    cases i <;> nofun

theorem verdicts (w : ScaleRun σ) : w.Verdicts where
  ok_iff u := by
    constructor
    · exact fetches_of_ok
    · rintro ⟨d, before, hf, counts, hn⟩
      exact hf.outcome_eq ((settles_unforeign hn).2 ⟨rfl, counts⟩)
  said d before u hf n hn hne := hf.outcome_eq ((settles_said hn hne).2 rfl)
  unsaid d before u hf hw := by
    have hn : ∀ n ∈ d.wanted?, n = w.scale := by simp [hw]
    refine ⟨fun hc => hf.outcome_eq ((settles_unforeign hn).2 ⟨rfl, hc⟩), fun hc => ?_⟩
    exact Watch.unsettled_cons.2
      ⟨fun r hr => hc ((settles_unforeign hn).1 hr).2, hf.unsettled⟩
  byAsked_iff := by
    refine ⟨fun h => ?_, byAsked_of_said⟩
    by_cases hone : w.scale = 1
    · exact .inl hone
    · exact .inr fun d before u hf hw => hf.not_byAsked hw hone h

end

/-- A cluster whose deployments say nothing about themselves. -/
def taciturn : Server Unit where
  receive _ _ s := (some 0, s)
  answer _ r s :=
    match r with
    | .getDeployment .. => (some (.ok (some {})), s)
    | .listPods .. | .listNodes => (some (.ok []), s)
    | .exec .. => (some (.ok (.success "")), s)
    | .patchDeployment .. | .createDeployment .. | .deleteDeployment .. | .deletePods ..
    | .patchCluster .. => (some (.ok ()), s)

/-- A wait for the deployment of an OSD to be scaled down there. -/
def waitForDown : ScaleRun Unit where
  server := taciturn
  cancelAt := none
  context := ⟨Settings.standard, 3⟩
  name := "rook-ceph-osd-0"
  scale := 0
  timeout := 10000
  start := ⟨0, (), []⟩

/-- The deployment asks for a pod, and the wait for its scale to be zero ends well at once. -/
theorem up_passes_for_down :
    (∃ u, waitForDown.outcome = (.done (.ok ()), u) ∧ u.time = 0) ∧ ¬ waitForDown.ByAsked := by
  let fetch : Cluster.Request :=
    .getDeployment waitForDown.context.settings.space waitForDown.name
  let found : Timeline Unit :=
    ⟨0, (), .answered 0 fetch (.ok (some {})) :: .called 0 fetch :: waitForDown.polling.seen⟩
  have hfound : (waitForDown.watch.look (waitForDown.context.pacer (some 10000) 0)).run
      taciturn none waitForDown.polling = (.done (.ok (.ok (some {}))), found) := by
    show ((waitForDown.context.pacer (some 10000) 0).guard (.call fetch .pure)).run _ _ _ = _
    rw [run_guard]
    simp only [Procedure.runWithin]
    rfl
  have hf : waitForDown.Fetches {} [] found :=
    ⟨by decide, .intro .first (by decide) hfound, fun g hg r hs => by
      rw [List.suffix_nil.1 hg] at hs
      exact Question.not_decides_nil hs⟩
  have hsettles : waitForDown.watch.Settles [.ok (some {})] (.ok ()) :=
    (settles_unforeign (by simp [Deployment.wanted?])).2
      ⟨rfl, by simp [Deployment.CountsAre, waitForDown]⟩
  exact ⟨⟨found, hf.outcome_eq hsettles, rfl⟩, hf.not_byAsked rfl (by decide)⟩

end ScaleRun

end OsdMigration
