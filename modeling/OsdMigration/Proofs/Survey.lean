import OsdMigration.Proofs.Gates

set_option autoImplicit false

/-! # The three parts of a migration

A migration prepares, surveys what there is to remove, and removes it (`migrate_parts`). The survey
ends with the list of the OSDs to remove; it runs no command and changes no OSD. What it lists is
what the last listing of OSDs showed (`course_survey_some`).
-/

namespace OsdMigration

open Cluster (Request)
open Job (Course Sends sends_ask)

namespace Migration

/-- What is said about the OSDs to remove. -/
def removing (osds : List UInt32) : String :=
  "Removing hostpath OSDs " ++ String.intercalate ", " (osds.map Ceph.osdName)
    ++ " from the cluster"

/-- Lists the OSDs to remove in the order of their numbers. -/
def enumerate (c : Context) : Job (Option (List UInt32)) := do
  Job.report "Determining the list of hostpath OSDs to migrate"
  let found ← (Osd.hostpathOsds c.settings).during "failed to get the current list of OSDs"
  Job.report (removing found.mergeSort)
  pure (some found.mergeSort)

/-- Brings block devices into use, and lists the OSDs to remove. -/
def reshape (c : Context) (counts : Osd.HostCounts) : Job (Option (List UInt32)) := do
  Job.report (toString counts.hostpath ++ " nodes with directory OSDs exist, and "
    ++ toString counts.block
    ++ " nodes with block-based OSDs. Continuing with migration.")
  provision c
  enumerate c

/-- Finds out which OSDs to remove, unless none has to be. -/
def survey (c : Context) : Job (Option (List UInt32)) := do
  Job.report ("Rook is currently healthy, checking if a migration from directory-based storage "
    ++ "is required")
  let counts ← (Osd.countHostsNow c.settings).during
    "failed to determine how many OSDs needed migration"
  if counts.hostpath = 0 then
    Job.report "No directory OSDs exist, and so no migration is required."
    pure none
  else reshape c counts

/-- Removes what the survey found. -/
def conclude (c : Context) : Option (List UInt32) → Job Outcome
  | none => pure .notRequired
  | some osds => Removal.finish c osds

end Migration

open Migration (prepare survey conclude)

/-- A migration prepares, surveys, and removes. -/
theorem migrate_parts (c : Context) :
    migrate c = prepare c >>= fun _ => survey c >>= conclude c := by
  rw [migrate_eq]
  congr 1
  funext _
  simp only [checkRequired, survey, bind_assoc]
  congr 1
  funext _
  congr 1
  funext counts
  split
  · rfl
  · simp only [replaceHostpath, Migration.reshape, Migration.enumerate, Migration.drain, conclude,
      Removal.finish, bind_assoc, pure_bind]
    rfl

/-- The requests of a survey. -/
inductive Surveys (s : Settings) : Request → Prop
  | looks {r : Request} (h : Looks s r) : Surveys s r
  | reshapes {r : Request} (h : Reshapes s r) : Surveys s r
  | restartOperator : Surveys s (.deletePods s.space s.operatorSelector)

theorem Surveys.prepares {s : Settings} {r : Request} (h : Surveys s r) : Prepares s r := by
  cases h with
  | looks h => exact h.prepares
  | reshapes h => exact h.prepares
  | restartOperator => exact .restartOperator

theorem Surveys.not_command {s : Settings} {r : Request} (h : Surveys s r) :
    IsCommand r = false := by
  cases h with
  | looks h => cases h <;> rfl
  | reshapes h => cases h <;> rfl
  | restartOperator => rfl

section

variable (c : Context)

theorem surveys_nudgeOperator :
    Sends (Surveys c.settings) (Provisioning.nudgeOperator c.settings) := by
  have hA := cumulative_asking (Surveys c.settings)
  refine hA.bind ((looks_countHostsNow c).mono fun _ => .looks) fun counts => ?_
  split
  · exact hA.pure ()
  · exact hA.bind (hA.report _) fun _ => Cumulative.during _ (sends_ask .restartOperator)

theorem surveys_enableBlock :
    Sends (Surveys c.settings) (Provisioning.enableBlock c.settings) :=
  (reshapes_enableBlock c).mono fun _ => .reshapes

theorem sends_survey : Sends (Surveys c.settings) (survey c) := by
  have hA := cumulative_asking (Surveys c.settings)
  have looks : ∀ {α : Type} {job : Job α}, Sends (Looks c.settings) job →
      Sends (Surveys c.settings) job := fun h => h.mono fun _ => .looks
  refine hA.bind (hA.report _) fun _ =>
    hA.bind (Cumulative.during _ (looks (looks_countHostsNow c))) fun counts => ?_
  split
  · exact hA.bind (hA.report _) fun _ => hA.pure _
  · refine hA.bind (hA.report _) fun _ => hA.bind ?_ fun _ => hA.bind (hA.report _) fun _ =>
      hA.bind (Cumulative.during _ (looks (looks_hostpathOsds c))) fun found =>
        hA.bind (hA.report _) fun _ => hA.pure _
    exact hA.bind (hA.report _) fun _ => hA.bind (Cumulative.during _ (surveys_enableBlock c))
      fun _ => hA.bind (Cumulative.during _ (surveys_nudgeOperator c)) fun _ =>
        hA.bind (hA.report _) fun _ => Cumulative.during _ (looks (looks_awaitBlockHosts c))

end

/-- The OSDs to remove were listed and announced, and nothing was seen after that. -/
def ListsHostpath (s : Settings) (pods : List Cluster.Pod) (osds : List UInt32)
    (seen : List Event) : Prop :=
  ∃ before u v devices,
    seen = before ++ [.answered u (.listPods s.space s.osdSelector) (.ok pods),
      .told v (.line (Migration.removing osds))] ∧
    Osd.ofPods s pods = .ok devices ∧ osds = (Osd.onHostpath devices).mergeSort

theorem ListsHostpath.append {s : Settings} {pods : List Cluster.Pod} {osds : List UInt32}
    {seen : List Event} (h : ListsHostpath s pods osds seen) (before : List Event) :
    ListsHostpath s pods osds (before ++ seen) := by
  obtain ⟨front, u, v, devices, rfl, h⟩ := h
  exact ⟨before ++ front, u, v, devices, by simp, h⟩

theorem course_enumerate_ok {c : Context} {seen : List Event} {o : Option (List UInt32)}
    (h : Course (Migration.enumerate c) seen (some (.ok o))) :
    ∃ pods osds, o = some osds ∧ ListsHostpath c.settings pods osds seen := by
  obtain ⟨_, said, _, rfl, _, h₁⟩ := (Job.course_bind_ok ..).1 h
  obtain ⟨found, listing, _, rfl, hl, h₂⟩ := (Job.course_bind_ok ..).1 h₁
  obtain ⟨_, last, _, rfl, hsaid, rfl, ho⟩ := (Job.course_bind_ok ..).1 h₂
  obtain ⟨t, u, pods, devices, rfl, hd, rfl⟩ :=
    Osd.course_hostpathOsds_ok ((Job.course_during_ok ..).1 hl)
  obtain ⟨⟨v, rfl⟩, _⟩ := (Job.course_report ..).1 hsaid
  cases ho
  exact ⟨pods, _, rfl, said ++ [.called t (.listPods c.settings.space c.settings.osdSelector)], u,
    v, devices, by simp, hd, rfl⟩

/-- A survey that finds OSDs to remove ends with their listing. -/
theorem course_survey_some {c : Context} {seen : List Event} {osds : List UInt32}
    (h : Course (survey c) seen (some (.ok (some osds)))) :
    ∃ pods, ListsHostpath c.settings pods osds seen := by
  obtain ⟨_, said, _, rfl, _, h₁⟩ := (Job.course_bind_ok ..).1 h
  obtain ⟨counts, counted, _, rfl, _, h₂⟩ := (Job.course_bind_ok ..).1 h₁
  split at h₂
  · obtain ⟨_, _, _, rfl, _, _, ho⟩ := (Job.course_bind_ok ..).1 h₂
    cases ho
  · obtain ⟨_, said', _, rfl, _, h₃⟩ := (Job.course_bind_ok ..).1 h₂
    obtain ⟨_, provided, _, rfl, _, h₄⟩ := (Job.course_bind_ok ..).1 h₃
    obtain ⟨pods, _, ho, hlist⟩ := course_enumerate_ok h₄
    cases ho
    exact ⟨pods, (((hlist.append _).append _).append _).append _⟩

end OsdMigration
