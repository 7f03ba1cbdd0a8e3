import OsdMigration.Proofs.Watch.Health

set_option autoImplicit false

/-! # Waiting for a scale, by the deployments

What a wait for a scale does is decided by the deployments that its polls fetch (`scaleWatch`): one
that has the scale ends it well, one that asks for another scale, or is not there, ends it with a
failure.
-/

namespace OsdMigration

open Cluster (Deployment)

/-- Looking at a deployment, in a wait for a scale. -/
def Settings.scaleQuestion (s : Settings) (g : ScaleWait.Goal) : Question (Option Deployment) where
  operation := "check deployment status"
  patience := s.patience.toNat
  wanted := 1
  wanted_pos := Nat.one_pos
  judge
    | none => .error (.missing "Deployment" g.name)
    | some d =>
      match d.wanted?.filter (· ≠ g.scale) with
      | some actual => .error (.foreignScale g.space g.name actual g.scale)
      | none => .ok (d.atScale g.scale)

/-- How many pods the deployment had that was fetched last. -/
def lastReplicas (h : List (Attempt (Option Deployment))) : Option Int :=
  (h.findSome? fun a => a.toOption.join).bind fun d =>
    d.status.bind Cluster.DeploymentStatus.replicas

/-- A wait for a scale. -/
def scaleWatch (s : Settings) (g : ScaleWait.Goal) : Watch (Attempt (Option Deployment)) where
  look p := p.guard (.call (.getDeployment g.space g.name) .pure)
  telling _ := none
  operation _ := "deployment " ++ g.space ++ ":" ++ g.name ++ " to reach scale " ++ toString g.scale
  last h := some (toString ((lastReplicas h).getD 0) ++ " replicas")
  Settles := (s.scaleQuestion g).Decides

/-- What the wait remembers after these deployments. -/
structure ScaleWait.StandsFor (s : Settings) (g : ScaleWait.Goal)
    (h : List (Attempt (Option Deployment))) (w : ScaleWait) : Prop where
  budget : (s.scaleQuestion g).Spent h w.budget
  seen : w.seen = lastReplicas h

theorem recalls_scale (s : Settings) (g : ScaleWait.Goal) (p : Pacer) :
    (scaleWatch s g).Recalls (ScaleWait.StandsFor s g) p (ScaleWait.stopped g)
      (ScaleWait.poll g p) (ScaleWait.observe g) where
  poll_eq _ := rfl
  stopped_eq h w hw := by
    funext i
    simp only [ScaleWait.stopped, Watch.stopped, scaleWatch, hw.seen]
  leads h w hw x := by
    rcases x with f | _ | d
    · exact Question.leads_error rfl hw.budget rfl fun b hb => ⟨hb, hw.seen⟩
    · -- that it is not there is a failure that trying again cannot mend
      have hfinal : w.budget.spend (.missing "Deployment" g.name) =
          .error (.missing "Deployment" g.name) := Budget.spend_of_not_retryable rfl
      simp only [ScaleWait.observe, hfinal]
      exact .failed fun r => Question.decides_refused rfl
    · cases hforeign : d.wanted?.filter (· ≠ g.scale) with
      | some actual =>
          have hjudge : (s.scaleQuestion g).judge (some d) =
              .error (.foreignScale g.space g.name actual g.scale) := by
            simp only [Settings.scaleQuestion, hforeign]
          simp only [ScaleWait.observe, hforeign]
          exact .failed fun r => Question.decides_refused hjudge
      | none =>
          have hjudge : (s.scaleQuestion g).judge (some d) = .ok (d.atScale g.scale) := by
            simp only [Settings.scaleQuestion, hforeign]
          simp only [ScaleWait.observe, hforeign]
          refine Question.leads_answer rfl rfl ?_ rfl ⟨hw.budget.succeed, rfl⟩
          rw [hjudge, Bool.decide_eq_true]

/-- When the first poll of a wait for a scale is due. -/
def Timeline.scalePolling {σ : Type} (t : Timeline σ) (g : ScaleWait.Goal) : Timeline σ :=
  t.report ("Waiting for deployment " ++ g.name ++ " in " ++ g.space ++ " to reach scale of "
    ++ toString g.scale)

theorem goesBy_awaitScale {σ : Type} (c : Context) (name : String) (scale : Int) (timeout : Nat)
    (server : Server σ) (cancelAt : Option Nat) (t : Timeline σ) :
    Watch.Starts (some timeout) (t.scalePolling ⟨c.settings.space, name, scale⟩)
      ((scaleWatch c.settings ⟨c.settings.space, name, scale⟩).GoesBy server cancelAt
        (c.pacer (some timeout) t.time) c.polls (t.scalePolling ⟨c.settings.space, name, scale⟩))
      ((awaitScale c name scale timeout).attempt.run server cancelAt t) := by
  have hstart : ScaleWait.StandsFor c.settings ⟨c.settings.space, name, scale⟩ []
      ⟨c.settings.budget "check deployment status", none⟩ := ⟨Budget.counts_zero, rfl⟩
  refine Watch.starts_bind (t := t.scalePolling _) ?_
  exact Watch.goesBy_of_recalls (recalls_scale c.settings _ _) hstart
    fun r => Question.not_decides_nil

end OsdMigration
