import OsdMigration.Proofs.Course.Runs
import OsdMigration.Proofs.Requests

set_option autoImplicit false

/-! # What is told in passing

Only a wait tells something in passing, between its polls. What a wait asks Ceph, and all that it
takes to ask it, tells nothing of the kind, the wait for the toolbox included
(`lasting_fetchStatus`). So the lines that pass while a wait goes on are its own.
-/

namespace OsdMigration

open Job (Always Course)

/-- What was told in passing, in the order of the events. -/
def passings (seen : List Event) : List String :=
  seen.filterMap fun
    | .told _ (.passing text) => some text
    | _ => none

theorem passings_append (a b : List Event) : passings (a ++ b) = passings a ++ passings b :=
  List.filterMap_append

theorem passings_reverse (seen : List Event) : passings seen.reverse = (passings seen).reverse :=
  List.filterMap_reverse ..

theorem joining_passings : Joining fun seen => passings seen = [] where
  nil := rfl
  append := by
    intro a b ha hb
    rw [passings_append, ha, hb]
    rfl

/-- A job tells nothing in passing. -/
abbrev Job.Lasting {α : Type} (job : Job α) : Prop := Always (fun seen => passings seen = []) job

open Job (Lasting)

section

variable {σ α : Type} {server : Server σ} {cancelAt : Option Nat}

/-- Guarded work that tells nothing in passing leaves what was told so before. -/
theorem passings_guard (p : Pacer) {job : Job α} (h : Lasting job) (t : Timeline σ) :
    passings ((p.guard job.attempt).run server cancelAt t).2.seen = passings t.seen := by
  obtain ⟨seen, hseen, hc⟩ :=
    Procedure.course_runWithin server cancelAt (p.guard job.attempt) none 0 t
  have hnone : passings seen = [] := by
    rcases hc with ⟨_, rfl, _⟩ | ⟨_, first, _, rfl, hw, rfl, _⟩ | ⟨_, first, _, rfl, hw, rfl, _⟩ |
      ⟨hw, _⟩
    · rfl
    · rw [List.append_nil]
      exact h _ _ hw
    · rw [List.append_nil]
      exact h _ _ hw
    · exact h _ _ hw
  show passings ((p.guard job.attempt).runWithin server cancelAt none 0 t).2.seen = _
  rw [hseen, passings_append, passings_reverse, hnone]
  rfl

end

theorem lasting_ask (r : Cluster.Request) : Lasting (Job.ask r) := by
  intro seen o h
  rcases (Job.course_ask ..).1 h with ⟨t, rfl, _⟩ | ⟨t, u, a, rfl, _⟩ <;> rfl

theorem lasting_report (text : String) : Lasting (Job.report text) := by
  intro seen o h
  obtain ⟨⟨t, rfl⟩, _⟩ := (Job.course_report ..).1 h
  rfl

theorem lasting_fetchStatus (c : Context) : Lasting (Monitor.fetchStatus c) :=
  joining_passings.fetchStatus c lasting_report fun r _ => lasting_ask r

end OsdMigration
