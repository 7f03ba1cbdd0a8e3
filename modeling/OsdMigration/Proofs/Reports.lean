import OsdMigration.Proofs.Wait

set_option autoImplicit false

/-! # The reports of a run

Of all that is seen of a run, the waits for Ceph go by the reports on its status that were read.
-/

namespace OsdMigration

open Ceph (Command Status)
open Cluster (CommandOutput Request)

/-- The report that an event brings. -/
def Event.report? : Event → Option Status
  | .answered _ (.exec _ _ _ argv) (.ok output) =>
    if argv = Command.status.argv ∧ output.code = 0 then Status.parse? output.stdout else none
  | _ => none

/-- The reports that were read, the earliest first. -/
def reports (seen : List Event) : List Status := seen.filterMap Event.report?

@[simp] theorem reports_append (a b : List Event) : reports (a ++ b) = reports a ++ reports b :=
  List.filterMap_append

/-! ## Reports in parts of a run -/

theorem reports_commands (seen : List Event) : reports (commands seen) = reports seen := by
  induction seen with
  | nil => rfl
  | cons e seen ih =>
      rw [← List.singleton_append, commands_append, reports_append, reports_append, ih]
      congr 1
      rcases e with ⟨t, r⟩ | ⟨u, r, a⟩ | ⟨t, m⟩
      · cases r <;> rfl
      · cases r <;> rfl
      · rfl

theorem reports_answered (t u : Nat) (r : Request) (a : Attempt r.Reply) :
    reports [.called t r, .answered u r a] = (Event.report? (.answered u r a)).toList := by
  unfold reports
  rw [List.filterMap_cons_none rfl]
  cases hr : Event.report? (.answered u r a) with
  | none => exact List.filterMap_cons_none hr
  | some status => exact List.filterMap_cons_some hr

/-- A command brings its report, if it is the one that asks for it. -/
theorem reports_of_ran {argv : List String} {outcome : Attempt CommandOutput} {seen : List Event}
    (h : Ran argv outcome seen) :
    ∃ u space pod container,
      reports seen =
        (Event.report? (.answered u (.exec space pod container argv) outcome)).toList := by
  obtain ⟨t, u, space, pod, container, h⟩ := h
  refine ⟨u, space, pod, container, ?_⟩
  rw [← reports_commands, h, reports_answered]

theorem reports_of_reported {status : Status} {seen : List Event} (h : Reported status seen) :
    reports seen = [status] := by
  obtain ⟨output, hc, hp, hr⟩ := h
  obtain ⟨u, space, pod, container, hr⟩ := reports_of_ran hr
  rw [hr, Event.report?, if_pos ⟨rfl, hc⟩, hp]
  rfl

theorem reports_listing {s : Settings} {seen : List Event}
    (h : Asking (fun r => r = .listPods s.space s.toolboxSelector) seen) : reports seen = [] := by
  rw [← reports_commands, commands_listing h]
  rfl

theorem reports_of_saidSafe {osd : UInt32} {seen : List Event} (h : SaidSafe osd seen) :
    reports seen = [] := by
  obtain ⟨outcome, _, hr⟩ := h
  obtain ⟨u, space, pod, container, hr⟩ := reports_of_ran hr
  rw [hr]
  cases outcome with
  | error f => rfl
  | ok output => rfl

/-- A status that some text reports. -/
def Readable (status : Status) : Prop := ∃ text, Status.parse? text = some status

theorem Reported.readable {status : Status} {seen : List Event} (h : Reported status seen) :
    Readable status := by
  obtain ⟨output, _, hp, _⟩ := h
  exact ⟨_, hp⟩

/-- The last report before the cluster counts as settled is one of a healthy cluster. -/
theorem Settled.last_report {c : Context} {osd : UInt32} {wanted : Nat} {seen : List Event}
    (h : Settled c osd wanted seen) (hw : 0 < wanted) :
    ∃ rs status, reports seen = rs ++ [status] ∧ Readable status ∧ status.verdict.1 = true := by
  obtain ⟨earlier, polls, rfl, hl, hf⟩ := h
  rcases List.eq_nil_or_concat polls with rfl | ⟨front, poll, rfl⟩
  · simp at hl
    omega
  · rw [List.concat_eq_append] at hf ⊢
    obtain ⟨report, answer, status, rfl, hr, hv, ha⟩ := (hf poll (by simp)).commands
    refine ⟨reports (earlier ++ front.flatten), status, ?_, Reported.readable hr, hv⟩
    simp [reports_of_reported hr, reports_of_saidSafe ha]

end OsdMigration
