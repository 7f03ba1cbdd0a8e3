import OsdMigration.Proofs.Removal.Changes
import OsdMigration.Proofs.Removal.Stages

set_option autoImplicit false

/-! # The gate before a purge

Purging an OSD cannot be undone. Before it is purged, everything that makes it safe was seen, in
the order of the steps (`Gate`), and its deployment is deleted right after the purge and never
else. That holds of every course of a removal, and so it holds of every course of a migration,
whatever its other removals did (`PurgeGuarded`).
-/

namespace OsdMigration.Removal

open Ceph (Command)
open Cluster (CommandOutput Request)
open Job (Always Course)

/-- What is seen in a removal up to the purge: data was told to move away; the cluster settled; the
deployment was scaled down, and seen to be; some OSD was down; the cluster settled again, and since
then only the pods of the toolbox were listed. The deployment was scaled down only once. -/
inductive Gate (c : Context) (osd : UInt32) : List Event → Prop
  | intro {weighed settled scaled confirmed down resettled ready : List Event}
      (reweighted : Reweighted osd weighed)
      (before : Settled c osd (confirmations c.settings.safeConfirmations) settled)
      (scaledDown : ScaledDown c osd scaled)
      (atScale : SeenAtScale c.settings.space (c.settings.osdDeployment osd) 0 confirmed)
      (seenDown : SeenDown down)
      (after : Settled c osd (confirmations c.settings.safeConfirmations) resettled)
      (noPollSince : Asking (· = .listPods c.settings.space c.settings.toolboxSelector) ready)
      (once : Asking (· ≠ scaleDownRequest c.settings osd)
        (confirmed ++ down ++ resettled ++ ready)) :
      Gate c osd (weighed ++ settled ++ scaled ++ confirmed ++ down ++ resettled ++ ready)

/-- Every purge stands behind its gate. A purge that succeeds is followed by the deletion of the
deployment at once, and a deletion stands nowhere else. -/
structure PurgeGuarded (c : Context) (seen : List Event) : Prop where
  gated : ∀ osd t space pod container before after,
    seen = before ++ .called t (.exec space pod container (Command.purge osd).argv) :: after →
      ∃ earlier gate, before = earlier ++ gate ∧ Gate c osd gate
  deleted : ∀ osd u space pod container (output : CommandOutput) before after,
    seen = before ++
      .answered u (.exec space pod container (Command.purge osd).argv) (.ok output) :: after →
      output.code = 0 →
        ∃ t rest, after = .called t
          (.deleteDeployment c.settings.space (c.settings.osdDeployment osd)) :: rest
  purged : ∀ osd t before after,
    seen = before ++
      .called t (.deleteDeployment c.settings.space (c.settings.osdDeployment osd)) :: after →
      ∃ earlier u pod container output,
        before = earlier ++ [.answered u
          (.exec c.settings.space pod container (Command.purge osd).argv) (.ok output)] ∧
        output.code = 0

/-! ## Putting courses together -/

/-- An element of two lists put together stands in one of them. -/
theorem append_eq_append_cons {α : Type} {a b before after : List α} {e : α}
    (h : a ++ b = before ++ e :: after) :
    (∃ rest, a = before ++ e :: rest ∧ after = rest ++ b) ∨
      ∃ front, before = a ++ front ∧ b = front ++ e :: after := by
  rcases List.append_eq_append_iff.1 h with ⟨front, hb, hf⟩ | ⟨rest, ha, hr⟩
  · exact .inr ⟨front, hb, hf⟩
  · cases rest with
    | nil => exact .inr ⟨[], by simpa using ha.symm, hr.symm⟩
    | cons x rest =>
        obtain ⟨rfl, rfl⟩ := List.cons.inj hr
        exact .inl ⟨rest, ha, rfl⟩

theorem eq_of_singleton {α : Type} {x e : α} {front after : List α}
    (h : [x] = front ++ e :: after) : front = [] ∧ x = e ∧ after = [] := by
  cases front with
  | nil => exact ⟨rfl, (List.cons.inj h).1, (List.cons.inj h).2.symm⟩
  | cons y front => simp at h

/-- The events that a guard is about: a purge, its success, and a deletion. -/
inductive Critical : Event → Prop
  | purge (osd : UInt32) (t : Nat) (space pod container : String) :
      Critical (.called t (.exec space pod container (Command.purge osd).argv))
  | purged (osd : UInt32) (u : Nat) (space pod container : String) (output : CommandOutput)
      (h : output.code = 0) :
      Critical (.answered u (.exec space pod container (Command.purge osd).argv) (.ok output))
  | delete (t : Nat) (space name : String) : Critical (.called t (.deleteDeployment space name))

/-- Of the answers to commands only a success is critical. -/
theorem Critical.success {u : Nat} {space pod container : String} {argv : List String}
    {a : Attempt CommandOutput}
    (h : Critical (.answered u (.exec space pod container argv) a)) :
    ∃ output, a = .ok output ∧ output.code = 0 := by
  cases h with
  | purged osd u space pod container output h => exact ⟨output, rfl, h⟩

theorem purgeGuarded_of_not_critical {c : Context} {seen : List Event}
    (h : ∀ e ∈ seen, ¬ Critical e) : PurgeGuarded c seen where
  gated := by
    rintro osd t space pod container before after rfl
    exact absurd (.purge osd t space pod container)
      (h _ (List.mem_append_right _ List.mem_cons_self))
  deleted := by
    rintro osd u space pod container output before after rfl hc
    exact absurd (.purged osd u space pod container output hc)
      (h _ (List.mem_append_right _ List.mem_cons_self))
  purged := by
    rintro osd t before after rfl
    exact absurd (.delete t _ _) (h _ (List.mem_append_right _ List.mem_cons_self))

theorem cumulative_purgeGuarded (c : Context) : Cumulative (PurgeGuarded c) where
  nil := purgeGuarded_of_not_critical fun e he => absurd he List.not_mem_nil
  told := by
    intro t m
    refine purgeGuarded_of_not_critical fun e he => ?_
    rw [List.mem_singleton.1 he]
    nofun
  append := by
    -- what a guard is about stands in one of the parts, and what belongs to it in the same
    intro a b ha hb
    constructor
    · intro osd t space pod container before after h
      rcases append_eq_append_cons h with ⟨rest, hs, _⟩ | ⟨front, rfl, hs⟩
      · exact ha.gated _ _ _ _ _ _ _ hs
      · obtain ⟨earlier, gate, rfl, hg⟩ := hb.gated _ _ _ _ _ _ _ hs
        exact ⟨a ++ earlier, gate, by simp, hg⟩
    · intro osd u space pod container output before after h hc
      rcases append_eq_append_cons h with ⟨rest, hs, rfl⟩ | ⟨front, rfl, hs⟩
      · obtain ⟨t, tail, rfl⟩ := ha.deleted _ _ _ _ _ _ _ _ hs hc
        exact ⟨t, tail ++ b, rfl⟩
      · exact hb.deleted _ _ _ _ _ _ _ _ hs hc
    · intro osd t before after h
      rcases append_eq_append_cons h with ⟨rest, hs, rfl⟩ | ⟨front, rfl, hs⟩
      · exact ha.purged _ _ _ _ hs
      · obtain ⟨earlier, u, pod, container, output, rfl, hc⟩ := hb.purged _ _ _ _ hs
        exact ⟨a ++ earlier, u, pod, container, output, by simp, hc⟩

/-! ## One removal -/

theorem not_critical_of_harmless {seen : List Event} (h : Asking Harmless seen) :
    ∀ e ∈ seen, ¬ Critical e := by
  rintro e he (⟨osd, t, space, pod, container⟩ | ⟨osd, u, space, pod, container, output, _⟩ |
    ⟨t, space, name⟩)
  · exact (h _ he _ rfl).1 osd space pod container rfl
  · exact (h _ he _ rfl).1 osd space pod container rfl
  · exact (h _ he _ rfl).2 space name rfl

theorem purge_injective {m n : UInt32} {space space' pod pod' container container' : String}
    (h : Request.exec space pod container (Command.purge m).argv =
      .exec space' pod' container' (Command.purge n).argv) : m = n := by
  injection h with _ _ _ hargv
  injection Command.argv_injective hargv

/-- A purge behind its gate is guarded. -/
theorem guarded_purge {c : Context} {osd : UInt32} {gate : List Event}
    (he : PurgeGuarded c gate) (hg : Gate c osd gate) (t : Nat) (space pod container : String) :
    PurgeGuarded c (gate ++
      [.called t (.exec space pod container (Command.purge osd).argv)]) where
  gated := by
    intro n _ _ _ _ before after h
    rcases append_eq_append_cons h with ⟨rest, hs, _⟩ | ⟨front, rfl, hs⟩
    · exact he.gated _ _ _ _ _ _ _ hs
    · obtain ⟨rfl, hx, _⟩ := eq_of_singleton hs
      injection hx with _ hx
      obtain rfl := purge_injective hx
      exact ⟨[], gate, by simp, hg⟩
  deleted := by
    intro n u _ _ _ output before after h hc
    rcases append_eq_append_cons h with ⟨rest, hs, rfl⟩ | ⟨front, rfl, hs⟩
    · obtain ⟨t', tail, rfl⟩ := he.deleted _ _ _ _ _ _ _ _ hs hc
      exact ⟨t', _, rfl⟩
    · cases (eq_of_singleton hs).2.1
  purged := by
    intro n t' before after h
    rcases append_eq_append_cons h with ⟨rest, hs, rfl⟩ | ⟨front, rfl, hs⟩
    · exact he.purged _ _ _ _ hs
    · cases (eq_of_singleton hs).2.1

/-- The deletion right behind a purge that succeeded is guarded. -/
theorem guarded_deletion (c : Context) (osd : UInt32) {output : CommandOutput}
    (hc : output.code = 0) (t u : Nat) (pod container : String) :
    PurgeGuarded c [.answered u (.exec c.settings.space pod container (Command.purge osd).argv)
        (.ok output),
      .called t (.deleteDeployment c.settings.space (c.settings.osdDeployment osd))] where
  gated := by
    intro n _ _ _ _ before after h
    rcases append_eq_append_cons (a := [_]) (b := [_]) h with ⟨rest, hs, _⟩ | ⟨front, rfl, hs⟩
    · cases (eq_of_singleton hs).2.1
    · cases (eq_of_singleton hs).2.1
  deleted := by
    intro n _ _ _ _ _ before after h _
    rcases append_eq_append_cons (a := [_]) (b := [_]) h with ⟨rest, hs, rfl⟩ | ⟨front, rfl, hs⟩
    · obtain ⟨rfl, hx, rfl⟩ := eq_of_singleton hs
      injection hx with _ hx
      obtain rfl := purge_injective hx
      exact ⟨t, [], rfl⟩
    · cases (eq_of_singleton hs).2.1
  purged := by
    intro n _ before after h
    rcases append_eq_append_cons (a := [_]) (b := [_]) h with ⟨rest, hs, rfl⟩ | ⟨front, rfl, hs⟩
    · cases (eq_of_singleton hs).2.1
    · obtain ⟨rfl, hx, _⟩ := eq_of_singleton hs
      injection hx with _ hx
      injection hx with _ hx
      obtain rfl := Settings.osdDeployment_injective hx
      exact ⟨[], u, pod, container, output, rfl, hc⟩

/-- The end of a removal is guarded behind its gate. -/
theorem guarded_conclusion {c : Context} {osd : UInt32} {gate rest : List Event}
    (he : PurgeGuarded c gate) (hg : Gate c osd gate) (h : Conclusion c osd rest) :
    PurgeGuarded c (gate ++ rest) := by
  have hP := cumulative_purgeGuarded c
  cases h with
  | unsent => exact hP.append he hP.nil
  | unanswered t pod container => exact guarded_purge he hg ..
  | failed t u pod container outcome h =>
      rw [List.append_cons _ _ [_]]
      refine hP.append (guarded_purge he hg ..) (purgeGuarded_of_not_critical fun e he hc => ?_)
      rw [List.mem_singleton.1 he] at hc
      obtain ⟨output, rfl, hcode⟩ := hc.success
      exact h output rfl hcode
  | @deleted t u t' pod container output h tail htail =>
      have htail : PurgeGuarded c tail := by
        refine purgeGuarded_of_not_critical fun e he => ?_
        rcases htail e he with ⟨_, _, rfl⟩ | ⟨_, _, rfl⟩ <;> nofun
      have := hP.append (guarded_purge he hg t c.settings.space pod container)
        (hP.append (guarded_deletion c osd h t' u pod container) htail)
      simpa using this

/-- Only its own step scales the deployment down. -/
theorem asks_not_scaleDown {s : Settings} {osd : UInt32} {r : Request} (h : Asks s (· = osd) r) :
    r ≠ scaleDownRequest s osd := by
  rintro rfl
  have hn := asks_no_change h
  rw [scaleDown_change] at hn
  cases hn

theorem waits_once {c : Context} {osd : UInt32} {step : Step} {part : List Event}
    (hw : ∀ r, ¬ step.Changes c.settings osd r)
    (h : Course (step.perform c osd) part (some (.ok ()))) :
    Asking (· ≠ scaleDownRequest c.settings osd) part :=
  (sends_perform c osd _ _ _ h).mono fun r hs =>
    asks_not_scaleDown (hs.resolve_left (hw r))

/-- A removal that has come to its end has passed the gate. -/
theorem gate_of_stages {c : Context} {osd : UInt32} {seen : List Event}
    {o : Option (Attempt Unit)} (h : Stages c osd seen o) :
    ∃ gate rest, seen = gate ++ rest ∧ Asking Harmless gate ∧ Gate c osd gate ∧
      Conclusion c osd rest := by
  obtain ⟨h₁, h₂, h₃, h₄, h₅, h₆, hc⟩ := h
  obtain ⟨ready, rest, rfl, hready, hc⟩ := course_conclude hc
  have quiet : ∀ {step : Step} {part : List Event}, step ≠ .purge → step ≠ .cleanUp →
      Course (step.perform c osd) part (some (.ok ())) → Asking Harmless part :=
    fun hp hd h => (sends_perform c osd _ _ _ h).mono fun _ hs => sent_harmless hs hp hd
  refine ⟨_, rest, ?_, ?_, .intro (course_reweight_ok h₁) (course_settleBefore_ok h₂)
    (course_scaleDown_ok h₃) (course_confirmScale_ok h₄) (course_awaitDown_ok h₅)
    (course_settleAfter_ok h₆) hready ?_, hc⟩
  · simp only [List.append_assoc]
  · simp only [asking_append]
    refine ⟨⟨⟨⟨⟨⟨quiet (by decide) (by decide) h₁, quiet (by decide) (by decide) h₂⟩,
      quiet (by decide) (by decide) h₃⟩, quiet (by decide) (by decide) h₄⟩,
      quiet (by decide) (by decide) h₅⟩, quiet (by decide) (by decide) h₆⟩, hready.mono ?_⟩
    rintro r rfl
    exact ⟨nofun, nofun⟩
  · simp only [asking_append]
    refine ⟨⟨⟨waits_once (fun _ => id) h₄, waits_once (fun _ => id) h₅⟩,
      waits_once (fun _ => id) h₆⟩, hready.mono ?_⟩
    rintro r rfl
    nofun

/-- Every course of a removal is guarded. -/
theorem removeOsd_guarded (c : Context) (osd : UInt32) :
    Always (PurgeGuarded c) (removeOsd c osd) := by
  intro seen o h
  by_cases hharm : Asking Harmless seen
  · exact purgeGuarded_of_not_critical (not_critical_of_harmless hharm)
  · obtain ⟨gate, rest, rfl, hq, hg, hc⟩ := gate_of_stages (stages_of_harm h hharm)
    exact guarded_conclusion (purgeGuarded_of_not_critical (not_critical_of_harmless hq)) hg hc

/-! ## The migration -/

theorem prepares_harmless {s : Settings} {r : Request} (h : Prepares s r) : Harmless r := by
  cases h with
  | asks h => exact asks_harmless h
  | _ => exact ⟨nofun, nofun⟩

/-- Every course of a migration is guarded. -/
theorem migrate_guarded (c : Context) : Always (PurgeGuarded c) (migrate c) := by
  refine (cumulative_purgeGuarded c).migrate c (fun seen h => ?_) (removeOsd_guarded c)
  exact purgeGuarded_of_not_critical
    (not_critical_of_harmless (h.mono fun _ => prepares_harmless))

/-- However the cluster behaves, and whenever the user cancels: what is seen of the removal of an
OSD, and of a whole migration, has every purge behind its gate. -/
theorem purge_gated {σ : Type} (server : Server σ) (cancelAt : Option Nat) (c : Context)
    (now : Nat) (s : σ) :
    (∀ osd, PurgeGuarded c ((removeOsd c osd).attempt.watch server cancelAt now s).2) ∧
      PurgeGuarded c ((migrate c).attempt.watch server cancelAt now s).2 :=
  ⟨fun osd => removeOsd_guarded c osd _ _ (Procedure.course_watch server cancelAt _ now s),
    migrate_guarded c _ _ (Procedure.course_watch server cancelAt _ now s)⟩

end OsdMigration.Removal
