import OsdMigration.Ceph.Status.Reader
import OsdMigration.Ceph.Verdict
import OsdMigration.NameMap.Lemmas
import OsdMigration.Proofs.Visible

set_option autoImplicit false

/-! # What a summary says

The summary of a report has three parts to choose from. What it says of tasks and of placement
groups is made of visible characters whatever the report holds, since titles are quoted. What it
says of the health repeats words of the report as they came. A hidden character, and so a line
break, is therefore in a summary exactly if it is in one of those words (`hidden_mem_summary`).

The summary and the verdict go by the same conditions: nothing is said of a cluster that is healthy
and at rest, and of no other (`summary_eq_empty_iff`).
-/

namespace OsdMigration.Ceph.Status

open Text (Visible visible_append visible_toString visible_quote isHidden OneLine)
open Number (visible_percent)

/-! ## Tasks that mean work -/

/-- The task that Ceph keeps when nothing is happening: its message begins with these words. -/
def Idle (t : Task) : Prop := idleTask.toList <+: t.message.toList

theorem isPrefixOf_idleTask (t : Task) : idleTask.isPrefixOf t.message = true ↔ Idle t :=
  String.startsWith_string_iff

/-- The tasks of the report all say that nothing is happening. -/
def AtRest (s : Status) : Prop := ∀ name t, s.tasks.get? name = some t → Idle t

/-- These are the names of the tasks that mean work. -/
structure Busy (s : Status) (names : List String) : Prop where
  nodup : names.Nodup
  mem_iff : ∀ name, name ∈ names ↔ ∃ t, s.tasks.get? name = some t ∧ ¬ Idle t

/-- The task that means work and has the least name. -/
structure Foremost (s : Status) (name : String) (t : Task) : Prop where
  bound : s.tasks.get? name = some t
  busy : ¬ Idle t
  least : ∀ k u, s.tasks.get? k = some u → ¬ Idle u → name ≤ k

/-- The entries of the tasks that mean work. -/
def activeEntries (s : Status) : List (String × Task) :=
  s.tasks.pairs.filter fun p => !idleTask.isPrefixOf p.2.message

theorem map_activeEntries (s : Status) : s.activeEntries.map Prod.snd = s.activeTasks := by
  rw [activeTasks, NameMap.values, List.filter_map]
  rfl

theorem mem_activeEntries {s : Status} {name : String} {t : Task} :
    (name, t) ∈ s.activeEntries ↔ s.tasks.get? name = some t ∧ ¬ Idle t := by
  rw [activeEntries, List.mem_filter, NameMap.get?_eq_some_iff, ← isPrefixOf_idleTask]
  simp

theorem activeEntries_eq_nil_iff {s : Status} : s.activeEntries = [] ↔ s.AtRest := by
  rw [List.eq_nil_iff_forall_not_mem]
  constructor
  · intro hnone name t ht
    refine Classical.byContradiction fun hbusy => ?_
    exact hnone (name, t) (mem_activeEntries.2 ⟨ht, hbusy⟩)
  · intro hrest ⟨name, t⟩ hp
    obtain ⟨ht, hbusy⟩ := mem_activeEntries.1 hp
    exact hbusy (hrest name t ht)

theorem busy_activeEntries (s : Status) : s.Busy (s.activeEntries.map Prod.fst) where
  nodup := by
    refine List.pairwise_map.2 ((s.tasks.sorted.filter _).imp fun hlt heq => ?_)
    rw [heq] at hlt
    exact String.lt_irrefl _ hlt
  mem_iff name := by
    constructor
    · intro h
      obtain ⟨⟨_, t⟩, ht, rfl⟩ := List.mem_map.1 h
      exact ⟨t, mem_activeEntries.1 ht⟩
    · rintro ⟨t, ht⟩
      exact List.mem_map.2 ⟨(name, t), mem_activeEntries.2 ht, rfl⟩

/-- The entries stand in the order of their names. -/
theorem foremost_of_activeEntries {s : Status} {name : String} {t : Task}
    {rest : List (String × Task)} (h : s.activeEntries = (name, t) :: rest) :
    s.Foremost name t := by
  have hmem : (name, t) ∈ s.activeEntries := by rw [h]; exact List.mem_cons_self
  obtain ⟨bound, busy⟩ := mem_activeEntries.1 hmem
  refine ⟨bound, busy, fun k u hk hu => ?_⟩
  have hsorted : ((name, t) :: rest).Pairwise (fun p q => p.1 < q.1) := by
    rw [← h]
    exact s.tasks.sorted.filter _
  have hku : (k, u) ∈ (name, t) :: rest := by
    rw [← h]
    exact mem_activeEntries.2 ⟨hk, hu⟩
  rcases List.mem_cons.1 hku with heq | hlater
  · cases heq
    exact String.le_refl _
  · exact Std.le_of_lt ((List.pairwise_cons.1 hsorted).1 _ hlater)

/-! ## The parts of a summary -/

/-- What is said of the tasks if there are so many and this one is the first. -/
def taskLine (count : Nat) (first : Task) : String :=
  toString count ++ " tasks in progress, first task " ++ Text.quote (taskTitle first) ++ " is "
    ++ first.progress.percent ++ "% complete"

/-- What is said of the placement groups. -/
def groupLine (s : Status) : String :=
  fractions s.groups ++ "; recovering at " ++ toString s.groups.recovering ++ " B/sec"

/-- What is said of the health. -/
def healthLine (s : Status) : String :=
  "health is " ++ s.health.status.word
    ++ if s.checkMessages = [] then "" else ": " ++ String.intercalate ", " s.checkMessages

/-- The placement groups are where they belong and stay there. -/
def Settled (s : Status) : Prop := s.groups.unclean = false ∧ s.groups.recovering = 0

/-- The summary comes down to the health: nothing else is going on, and it is not good. -/
structure TellsHealth (s : Status) : Prop where
  atRest : s.AtRest
  settled : s.Settled
  unhealthy : s.health.status ≠ .ok

theorem summary_of_activeEntries {s : Status} {name : String} {t : Task}
    {rest : List (String × Task)} (h : s.activeEntries = (name, t) :: rest) :
    s.summary = taskLine (s.activeEntries.map Prod.fst).length t := by
  have htasks : s.activeTasks = t :: rest.map Prod.snd := by
    rw [← map_activeEntries, h]
    rfl
  simp [summary, htasks, h, taskLine]

theorem summary_of_atRest {s : Status} (h : s.AtRest) :
    s.summary =
      if s.groups.unclean ∨ s.groups.recovering ≠ 0 then s.groupLine
      else if s.health.status = .ok then "" else s.healthLine := by
  have htasks : s.activeTasks = [] := by
    rw [← map_activeEntries, activeEntries_eq_nil_iff.2 h]
    rfl
  rw [summary, htasks]
  simp only [healthLine, groupLine]
  split
  · rfl
  · split
    · rfl
    · split <;> simp [String.append_assoc]

theorem tellsHealth_iff {s : Status} : s.TellsHealth ↔
    s.AtRest ∧ ¬ (s.groups.unclean ∨ s.groups.recovering ≠ 0) ∧ s.health.status ≠ .ok := by
  constructor
  · intro h
    exact ⟨h.atRest, by simp [h.settled.1, h.settled.2], h.unhealthy⟩
  · intro ⟨hrest, hsettled, hsick⟩
    rw [not_or, Decidable.not_not, Bool.not_eq_true] at hsettled
    exact ⟨hrest, hsettled, hsick⟩

theorem summary_of_tellsHealth {s : Status} (h : s.TellsHealth) : s.summary = s.healthLine := by
  obtain ⟨hrest, hsettled, hsick⟩ := tellsHealth_iff.1 h
  rw [summary_of_atRest hrest, if_neg hsettled, if_neg hsick]

/-! ## Hidden characters in a summary -/

theorem visible_taskLine (count : Nat) (t : Task) : Visible (taskLine count t).toList := by
  simp only [taskLine, String.toList_append, visible_append, visible_toString, visible_quote,
    visible_percent, true_and, and_true]
  decide +kernel

theorem visible_groupLine (s : Status) : Visible s.groupLine.toList := by
  have hrate : toString s.groups.recovering = toString s.groups.recovering.toNat := rfl
  simp only [groupLine, fractions, hrate, String.toList_append, visible_append, visible_toString,
    visible_percent, true_and, and_true]
  decide +kernel

/-- Apart from the health, everything in a summary is visible. -/
theorem visible_summary {s : Status} (h : ¬ s.TellsHealth) : Visible s.summary.toList := by
  cases hentries : s.activeEntries with
  | cons entry rest =>
      rw [summary_of_activeEntries hentries]
      exact visible_taskLine _ _
  | nil =>
      have hrest : s.AtRest := activeEntries_eq_nil_iff.1 hentries
      rw [summary_of_atRest hrest]
      split
      · exact visible_groupLine s
      · rename_i hsettled
        split
        · decide +kernel
        · rename_i hsick
          exact absurd (tellsHealth_iff.2 ⟨hrest, hsettled, hsick⟩) h

theorem mem_checkMessages {s : Status} {c : Char} :
    (∃ m ∈ s.checkMessages, c ∈ m.toList) ↔
      ∃ name check, s.health.checks.get? name = some check ∧ c ∈ check.message.toList := by
  constructor
  · rintro ⟨m, hm, hc⟩
    obtain ⟨hm, _⟩ := List.mem_filter.1 hm
    obtain ⟨check, hcheck, rfl⟩ := List.mem_map.1 hm
    obtain ⟨⟨name, check⟩, hp, rfl⟩ := List.mem_map.1 hcheck
    exact ⟨name, check, NameMap.get?_eq_some_iff.2 hp, hc⟩
  · rintro ⟨name, check, hget, hc⟩
    have hvalue : check ∈ s.health.checks.values :=
      List.mem_map.2 ⟨(name, check), NameMap.get?_eq_some_iff.1 hget, rfl⟩
    refine ⟨check.message, List.mem_filter.2 ⟨List.mem_map_of_mem hvalue, ?_⟩, hc⟩
    -- a message with a character in it is not empty
    have : check.message ≠ "" := by
      intro hempty
      rw [hempty] at hc
      cases hc
    simpa using this

theorem hidden_mem_healthLine {s : Status} {c : Char} (hc : isHidden c = true) :
    c ∈ s.healthLine.toList ↔ c ∈ s.health.status.word.toList ∨
      ∃ name check, s.health.checks.get? name = some check ∧ c ∈ check.message.toList := by
  have not_mem : ∀ {text : String}, Visible text.toList → c ∉ text.toList := by
    intro text hv hmem
    rw [hv c hmem] at hc
    cases hc
  have hstart : c ∉ "health is ".toList := not_mem (by decide +kernel)
  have hcolon : c ∉ ": ".toList := not_mem (by decide +kernel)
  have hcomma : c ∉ ", ".toList := not_mem (by decide +kernel)
  rw [← mem_checkMessages, healthLine, String.toList_append, String.toList_append,
    List.mem_append, List.mem_append, or_iff_right hstart]
  refine or_congr_right ?_
  split
  · rename_i hnone
    simp [hnone]
  · rw [String.toList_append, List.mem_append, or_iff_right hcolon, Text.mem_intercalate hcomma]

/-- A hidden character is in a summary exactly if the summary tells of the health, and the word for
the health or the message of a check contains it. -/
theorem hidden_mem_summary {s : Status} {c : Char} (hc : isHidden c = true) :
    c ∈ s.summary.toList ↔ s.TellsHealth ∧ (c ∈ s.health.status.word.toList ∨
      ∃ name check, s.health.checks.get? name = some check ∧ c ∈ check.message.toList) := by
  by_cases h : s.TellsHealth
  · rw [summary_of_tellsHealth h, hidden_mem_healthLine hc]
    exact (and_iff_right h).symm
  · refine iff_of_false (fun hmem => ?_) fun hboth => h hboth.1
    rw [visible_summary h c hmem] at hc
    cases hc

/-- A summary is one line unless it tells of the health in words that are not. -/
theorem oneLine_summary_iff (s : Status) :
    OneLine s.summary ↔ (s.TellsHealth → OneLine s.health.status.word ∧
      ∀ name check, s.health.checks.get? name = some check → OneLine check.message) := by
  constructor
  · intro hline htells
    have hwords : ∀ c ∈ Text.lineBreaks, ¬ (c ∈ s.health.status.word.toList ∨
        ∃ name check, s.health.checks.get? name = some check ∧ c ∈ check.message.toList) :=
      fun c hc hwords => hline c hc
        ((hidden_mem_summary (Text.isHidden_of_lineBreak hc)).2 ⟨htells, hwords⟩)
    exact ⟨fun c hc hword => hwords c hc (.inl hword),
      fun name check hget c hc hmem => hwords c hc (.inr ⟨name, check, hget, hmem⟩)⟩
  · intro hwords c hc hmem
    obtain ⟨htells, hin⟩ := (hidden_mem_summary (Text.isHidden_of_lineBreak hc)).1 hmem
    obtain ⟨hword, hmessages⟩ := hwords htells
    rcases hin with hin | ⟨name, check, hget, hin⟩
    · exact hword c hc hin
    · exact hmessages name check hget c hc hin

/-- A message of two lines is repeated as it came, and the summary has two lines. -/
theorem summary_of_two_lines : ∃ s : Status,
    parse? ("\x7b\"health\":\x7b\"status\":\"HEALTH_WARN\",\"checks\":\x7b\"A\":"
      ++ "\x7b\"summary\":\x7b\"message\":\"a\\nb\"\x7d\x7d\x7d\x7d\x7d") = some s
    ∧ s.summary = "health is HEALTH_WARN: a\nb" ∧ ¬ OneLine s.summary :=
  ⟨⟨"", ⟨.warn, .ofList [("A", ⟨"", "a\nb"⟩)]⟩, .absent, .absent, .empty⟩,
    by decide +kernel, by decide +kernel, by decide +kernel⟩

/-! ## Summary and verdict -/

theorem verdict_fst_iff {s : Status} :
    s.verdict.1 = true ↔ s.health.status = .ok ∧ s.Settled := by
  simp only [verdict, problems, healthProblem?, recoveryProblem?, placementProblem?, Settled]
  by_cases hok : s.health.status = .ok <;> by_cases hrate : s.groups.recovering = 0 <;>
    cases hunclean : s.groups.unclean <;> simp [hok, hrate]

theorem taskLine_ne_empty (count : Nat) (t : Task) : taskLine count t ≠ "" := by
  simp [taskLine]

/-- Nothing is said of a cluster that is healthy and at rest, and of no other. -/
theorem summary_eq_empty_iff {s : Status} :
    s.summary = "" ↔ s.verdict.1 = true ∧ s.AtRest := by
  by_cases hrest : s.AtRest
  · rw [summary_of_atRest hrest, verdict_fst_iff, Settled]
    split
    · rename_i hgroups
      have hsaid : s.groupLine ≠ "" := by simp [groupLine]
      refine iff_of_false hsaid fun h => ?_
      simp [h.1.2.1, h.1.2.2] at hgroups
    · rename_i hsettled
      rw [not_or, Decidable.not_not, Bool.not_eq_true] at hsettled
      have hsaid : s.healthLine ≠ "" := by simp [healthLine]
      by_cases hok : s.health.status = .ok <;> simp [hok, hsettled, hrest, hsaid]
  · cases hentries : s.activeEntries with
    | nil => exact absurd (activeEntries_eq_nil_iff.1 hentries) hrest
    | cons entry rest =>
        rw [summary_of_activeEntries hentries]
        exact iff_of_false (taskLine_ne_empty _ _) fun h => hrest h.2

/-- How a summary goes together with the verdict and with the tasks. -/
structure Accords (s : Status) : Prop where
  /-- It is empty exactly if the cluster is healthy and all tasks are idle. -/
  silent_iff : s.summary = "" ↔ s.verdict.1 = true ∧ s.AtRest
  /-- If some task is not, it counts those that are not and describes the first of them. -/
  busy : ∀ name t, s.tasks.get? name = some t → ¬ Idle t →
    ∃ names least first, s.Busy names ∧ s.Foremost least first ∧
      s.summary = taskLine names.length first

/-- The summary and the verdict agree on every report. -/
theorem summary_accords (s : Status) : s.Accords where
  silent_iff := summary_eq_empty_iff
  busy := by
    intro name t ht hbusy
    cases hentries : s.activeEntries with
    | nil => exact absurd (activeEntries_eq_nil_iff.1 hentries name t ht) hbusy
    | cons entry rest =>
        exact ⟨_, entry.1, entry.2, busy_activeEntries s, foremost_of_activeEntries hentries,
          summary_of_activeEntries hentries⟩

end OsdMigration.Ceph.Status
