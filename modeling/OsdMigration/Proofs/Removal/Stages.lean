import OsdMigration.Proofs.Numeral
import OsdMigration.Proofs.Removal.Steps

set_option autoImplicit false

/-! # The stages of a removal

A course of a removal in which the OSD is purged or its deployment deleted has the six steps before
that behind it, each of which succeeded. So such a course comes in stages (`Stages`), and what it
takes for a step to succeed was seen in each.
-/

namespace OsdMigration.Removal

open Ceph (Command)
open Cluster (CommandOutput Request)
open Job (Course)

/-! ## Requests that purge or delete -/

/-- Neither purges nor deletes. -/
def Harmless (r : Request) : Prop :=
  (∀ osd space pod container, r ≠ .exec space pod container (Command.purge osd).argv) ∧
    ∀ space name, r ≠ .deleteDeployment space name

theorem upkeep_harmless {s : Settings} {r : Request} (h : Upkeep s r) : Harmless r := by
  cases h <;> exact ⟨nofun, nofun⟩

/-- Only the command that purges is a purge. -/
theorem command_harmless (cmd : Command) (h : ∀ osd, cmd ≠ .purge osd)
    (space pod container : String) : Harmless (.exec space pod container cmd.argv) := by
  refine ⟨fun osd _ _ _ he => h osd ?_, nofun⟩
  injection he with _ _ _ he
  exact Command.argv_injective he

theorem asks_harmless {s : Settings} {named : UInt32 → Prop} {r : Request} (h : Asks s named r) :
    Harmless r := by
  cases h with
  | upkeep h => exact upkeep_harmless h
  | status pod container => exact command_harmless .status nofun ..
  | safeToDestroy h pod container => exact command_harmless (.safeToDestroy _) nofun ..
  | _ => exact ⟨nofun, nofun⟩

/-- The steps before the purge neither purge nor delete. -/
theorem sent_harmless {s : Settings} {osd : UInt32} {step : Step} {r : Request}
    (h : step.Sent s osd r) (hp : step ≠ .purge) (hc : step ≠ .cleanUp) : Harmless r := by
  rcases h with h | h
  · cases step with
    | reweight =>
        obtain ⟨pod, container, rfl⟩ := h
        exact command_harmless (.reweight osd) nofun ..
    | scaleDown =>
        subst h
        exact ⟨nofun, nofun⟩
    | purge => exact absurd rfl hp
    | cleanUp => exact absurd rfl hc
    | _ => exact h.elim
  · exact asks_harmless h

/-! ## The stages -/

/-- The end of a removal. -/
def conclude (c : Context) (osd : UInt32) : Job Unit := do
  Step.purge.perform c osd
  Step.cleanUp.perform c osd
  Job.report ("Successfully purged " ++ Ceph.osdName osd)

theorem removeOsd_eq (c : Context) (osd : UInt32) :
    removeOsd c osd = (do
      Step.reweight.perform c osd
      Step.settleBefore.perform c osd
      Step.scaleDown.perform c osd
      Step.confirmScale.perform c osd
      Step.awaitDown.perform c osd
      Step.settleAfter.perform c osd
      conclude c osd) := by
  change (do
    Step.reweight.perform c osd
    Step.settleBefore.perform c osd
    Step.scaleDown.perform c osd
    Step.confirmScale.perform c osd
    Step.awaitDown.perform c osd
    Step.settleAfter.perform c osd
    Step.purge.perform c osd
    Step.cleanUp.perform c osd
    pure ()) >>= _ = _
  simp only [bind_assoc, pure_bind, conclude]

/-- A course of a removal that has come to its end: what was seen of each step. -/
inductive Stages (c : Context) (osd : UInt32) : List Event → Option (Attempt Unit) → Prop
  | intro {weighed settled scaled confirmed down resettled last : List Event}
      {o : Option (Attempt Unit)}
      (reweight : Course (Step.reweight.perform c osd) weighed (some (.ok ())))
      (settleBefore : Course (Step.settleBefore.perform c osd) settled (some (.ok ())))
      (scaleDown : Course (Step.scaleDown.perform c osd) scaled (some (.ok ())))
      (confirmScale : Course (Step.confirmScale.perform c osd) confirmed (some (.ok ())))
      (awaitDown : Course (Step.awaitDown.perform c osd) down (some (.ok ())))
      (settleAfter : Course (Step.settleAfter.perform c osd) resettled (some (.ok ())))
      (conclude : Course (conclude c osd) last o) :
      Stages c osd
        (weighed ++ (settled ++ (scaled ++ (confirmed ++ (down ++ (resettled ++ last)))))) o

/-- A step before the purge succeeded, or nothing harmful was asked. -/
theorem course_step_bind {c : Context} {osd : UInt32} {step : Step} {rest : Job Unit}
    {seen : List Event} {o : Option (Attempt Unit)}
    (h : Course (step.perform c osd >>= fun _ => rest) seen o) (hp : step ≠ .purge)
    (hc : step ≠ .cleanUp) (hharm : ¬ Asking Harmless seen) :
    ∃ part last, seen = part ++ last ∧ Course (step.perform c osd) part (some (.ok ())) ∧
      Course rest last o ∧ ¬ Asking Harmless last := by
  -- the step itself asks for nothing harmful, so what is harmful comes after it
  have quiet : ∀ part o, Course (step.perform c osd) part o → Asking Harmless part :=
    fun part o h => (sends_perform c osd step part o h).mono fun _ hs => sent_harmless hs hp hc
  rcases (Job.course_bind ..).1 h with ⟨_, part, last, rfl, hs, hl⟩ | ⟨e, hs, _⟩ | ⟨hs, _⟩
  · exact ⟨part, last, rfl, hs, hl, fun hq => hharm (asking_append.2 ⟨quiet _ _ hs, hq⟩)⟩
  · exact absurd (quiet _ _ hs) hharm
  · exact absurd (quiet _ _ hs) hharm

/-- A course of a removal that purges or deletes comes in stages. -/
theorem stages_of_harm {c : Context} {osd : UInt32} {seen : List Event}
    {o : Option (Attempt Unit)} (h : Course (removeOsd c osd) seen o)
    (hharm : ¬ Asking Harmless seen) : Stages c osd seen o := by
  rw [removeOsd_eq] at h
  obtain ⟨weighed, _, rfl, h₁, hr₁, hm₁⟩ :=
    course_step_bind h (by decide) (by decide) hharm
  obtain ⟨settled, _, rfl, h₂, hr₂, hm₂⟩ :=
    course_step_bind hr₁ (by decide) (by decide) hm₁
  obtain ⟨scaled, _, rfl, h₃, hr₃, hm₃⟩ :=
    course_step_bind hr₂ (by decide) (by decide) hm₂
  obtain ⟨confirmed, _, rfl, h₄, hr₄, hm₄⟩ :=
    course_step_bind hr₃ (by decide) (by decide) hm₃
  obtain ⟨down, _, rfl, h₅, hr₅, hm₅⟩ :=
    course_step_bind hr₄ (by decide) (by decide) hm₄
  obtain ⟨resettled, last, rfl, h₆, hr₆, _⟩ :=
    course_step_bind hr₅ (by decide) (by decide) hm₅
  exact .intro h₁ h₂ h₃ h₄ h₅ h₆ hr₆

/-- A request for a deletion comes first in its step. -/
theorem course_cleanUp {c : Context} {osd : UInt32} {seen : List Event}
    {o : Option (Attempt Unit)} (h : Course (Step.cleanUp.perform c osd) seen o) :
    ∃ t rest, seen = .called t
        (.deleteDeployment c.settings.space (c.settings.osdDeployment osd)) :: rest ∧
      ∀ e ∈ rest, ∃ u a, e = .answered u
        (.deleteDeployment c.settings.space (c.settings.osdDeployment osd)) a := by
  obtain ⟨o', hd, _⟩ := (Job.course_during ..).1 h
  rcases (Job.course_ask ..).1 hd with ⟨t, rfl, _⟩ | ⟨t, u, a, rfl, _⟩
  · exact ⟨t, [], rfl, fun e he => absurd he List.not_mem_nil⟩
  · exact ⟨t, [_], rfl, fun e he => ⟨u, a, List.mem_singleton.1 he⟩⟩

/-- What can be seen at the end of a removal: pods are listed, and then the purge is not sent, or
not answered, or does not succeed; or it succeeds, and the deployment is deleted. -/
inductive Conclusion (c : Context) (osd : UInt32) : List Event → Prop
  | unsent : Conclusion c osd []
  | unanswered (t : Nat) (pod container : String) :
      Conclusion c osd [.called t (.exec c.settings.space pod container (Command.purge osd).argv)]
  | failed (t u : Nat) (pod container : String) (outcome : Attempt CommandOutput)
      (h : ∀ output, outcome = .ok output → output.code ≠ 0) :
      Conclusion c osd [.called t (.exec c.settings.space pod container (Command.purge osd).argv),
        .answered u (.exec c.settings.space pod container (Command.purge osd).argv) outcome]
  | deleted (t u t' : Nat) (pod container : String) (output : CommandOutput)
      (h : output.code = 0) {tail : List Event}
      (htail : ∀ e ∈ tail, (∃ t m, e = .told t m) ∨ ∃ u a, e = .answered u
        (.deleteDeployment c.settings.space (c.settings.osdDeployment osd)) a) :
      Conclusion c osd (.called t (.exec c.settings.space pod container (Command.purge osd).argv) ::
        .answered u (.exec c.settings.space pod container (Command.purge osd).argv) (.ok output) ::
        .called t' (.deleteDeployment c.settings.space (c.settings.osdDeployment osd)) :: tail)

theorem course_conclude {c : Context} {osd : UInt32} {seen : List Event}
    {o : Option (Attempt Unit)} (h : Course (conclude c osd) seen o) :
    ∃ ready rest, seen = ready ++ rest ∧
      Asking (fun r => r = .listPods c.settings.space c.settings.toolboxSelector) ready ∧
      Conclusion c osd rest := by
  -- a purge that does not succeed is the end
  have failed : ∀ o, Course (Step.purge.perform c osd) seen o → o ≠ some (.ok ()) →
      ∃ ready rest, seen = ready ++ rest ∧
        Asking (fun r => r = .listPods c.settings.space c.settings.toolboxSelector) ready ∧
        Conclusion c osd rest := by
    intro o hp ho
    obtain ⟨ready, rest, o', rfl, hl, hx, hiff⟩ := course_command hp
    refine ⟨ready, rest, rfl, hl, ?_⟩
    cases hx with
    | unsent _ => exact .unsent
    | unanswered _ => exact .unanswered ..
    | answered outcome =>
        refine .failed _ _ _ _ outcome ?_
        rintro output rfl hcode
        refine ho (hiff.2 ⟨output, ?_⟩)
        rw [Toolbox.checked, if_pos hcode]
  rcases (Job.course_bind ..).1 h with ⟨_, first, last, rfl, hp, hl⟩ | ⟨e, hp, _⟩ | ⟨hp, _⟩
  · obtain ⟨ready, rest, o', rfl, hr, hx, hiff⟩ := course_command hp
    obtain ⟨output, rfl⟩ := hiff.1 rfl
    obtain ⟨hcode, t, u, pod, container, rfl⟩ := hx.of_ok
    have deleted : ∃ t' tail, last = .called t'
        (.deleteDeployment c.settings.space (c.settings.osdDeployment osd)) :: tail ∧
          ∀ e ∈ tail, (∃ t m, e = .told t m) ∨ ∃ u a, e = .answered u
            (.deleteDeployment c.settings.space (c.settings.osdDeployment osd)) a := by
      rcases (Job.course_bind ..).1 hl with ⟨_, _, said, rfl, hd, hs⟩ | ⟨_, hd, _⟩ | ⟨hd, _⟩
      · obtain ⟨⟨t'', rfl⟩, _⟩ := (Job.course_report ..).1 hs
        obtain ⟨t', tail, rfl, htail⟩ := course_cleanUp hd
        refine ⟨t', tail ++ [_], rfl, fun e he => ?_⟩
        rcases List.mem_append.1 he with he | he
        · exact .inr (htail e he)
        · exact .inl ⟨t'', _, List.mem_singleton.1 he⟩
      all_goals
        obtain ⟨t', tail, rfl, htail⟩ := course_cleanUp hd
        exact ⟨t', tail, rfl, fun e he => .inr (htail e he)⟩
    obtain ⟨t', tail, rfl, htail⟩ := deleted
    exact ⟨ready, _, by simp, hr, .deleted t u t' pod container output hcode htail⟩
  · exact failed _ hp (by simp)
  · exact failed _ hp (by simp)

end OsdMigration.Removal
