import OsdMigration.Json.Equality
import OsdMigration.Proofs.Numeral
import OsdMigration.Proofs.Removal.Steps

set_option autoImplicit false

/-! # What a removal changes

Four kinds of requests change an OSD or its deployment (`OsdChange`). Of these a removal sends one
of each, in the order of its steps: what was sent so far is always a beginning of that plan, and
all of it was sent when the removal succeeds (`Follows`).
-/

namespace OsdMigration.Removal

open Ceph (Command)
open Cluster (Request)
open Job (Course Sends)

/-- A change to an OSD or to a deployment. -/
inductive OsdChange where
  /-- A command that reweights or purges. -/
  | command (argv : List String)
  /-- A deployment is asked for no pods. -/
  | scaleToZero (space name : String)
  | delete (space name : String)
deriving DecidableEq, Repr

/-- Whether an operation sets the number of pods to zero. -/
def setsZero : Json.Operation → Bool
  | .replace path value | .add path value => path == "/spec/replicas" && value == .ofInt 0
  | _ => false

/-- The change that a request makes. -/
def OsdChange.ofRequest? : Request → Option OsdChange
  | .exec _ _ _ argv =>
    if argv.take 3 = ["ceph", "osd", "reweight"] ∨ argv.take 3 = ["ceph", "osd", "purge"] then
      some (.command argv)
    else none
  | .patchDeployment space name patch =>
    if patch.any setsZero then some (.scaleToZero space name) else none
  | .deleteDeployment space name => some (.delete space name)
  | _ => none

/-- The change that an event asks for. -/
def OsdChange.ofEvent? : Event → Option OsdChange
  | .called _ r => ofRequest? r
  | _ => none

/-- The changes asked for, the earliest first. -/
def changes (seen : List Event) : List OsdChange := seen.filterMap OsdChange.ofEvent?

@[simp] theorem changes_nil : changes [] = [] := rfl

@[simp] theorem changes_append (a b : List Event) : changes (a ++ b) = changes a ++ changes b :=
  List.filterMap_append

@[simp] theorem changes_called (t : Nat) (r : Request) (seen : List Event) :
    changes (.called t r :: seen) = (OsdChange.ofRequest? r).toList ++ changes seen := by
  have he : OsdChange.ofEvent? (.called t r) = OsdChange.ofRequest? r := rfl
  cases hr : OsdChange.ofRequest? r with
  | none => exact List.filterMap_cons_none (he.trans hr)
  | some change => exact List.filterMap_cons_some (he.trans hr)

@[simp] theorem changes_answered (u : Nat) (r : Request) (a : Attempt r.Reply)
    (seen : List Event) : changes (.answered u r a :: seen) = changes seen := rfl

theorem changes_eq_nil {allowed : Request → Prop} {seen : List Event} (h : Asking allowed seen)
    (hn : ∀ r, allowed r → OsdChange.ofRequest? r = none) : changes seen = [] := by
  refine List.filterMap_eq_nil_iff.2 fun e he => ?_
  cases e with
  | called t r => exact hn r (h.called he)
  | answered u r a => rfl
  | told t m => rfl

theorem upkeep_no_change {s : Settings} {r : Request} (h : Upkeep s r) :
    OsdChange.ofRequest? r = none := by
  cases h with
  | scaleUp =>
      have h : (Cluster.scalePatch 1).any setsZero = false := by decide +kernel
      simp [OsdChange.ofRequest?, h]
  | _ => rfl

theorem asks_no_change {s : Settings} {named : UInt32 → Prop} {r : Request} (h : Asks s named r) :
    OsdChange.ofRequest? r = none := by
  cases h with
  | upkeep h => exact upkeep_no_change h
  | status pod container => rfl
  | safeToDestroy h pod container => rfl
  | _ => rfl

theorem prepares_no_change {s : Settings} {r : Request} (h : Prepares s r) :
    OsdChange.ofRequest? r = none := by
  cases h with
  | asks h => exact asks_no_change h
  | _ => rfl

theorem scaleDown_change (s : Settings) (osd : UInt32) :
    OsdChange.ofRequest? (scaleDownRequest s osd) =
      some (.scaleToZero s.space (s.osdDeployment osd)) := by
  have h : (Cluster.scalePatch 0).any setsZero = true := by decide +kernel
  simp [OsdChange.ofRequest?, scaleDownRequest, h]

/-- The changes of a step. -/
def Step.plan (s : Settings) (osd : UInt32) : Step → List OsdChange
  | .reweight => [.command (Command.reweight osd).argv]
  | .scaleDown => [.scaleToZero s.space (s.osdDeployment osd)]
  | .purge => [.command (Command.purge osd).argv]
  | .cleanUp => [.delete s.space (s.osdDeployment osd)]
  | .settleBefore | .confirmScale | .awaitDown | .settleAfter => []

/-- The changes of a removal. -/
def plan (s : Settings) (osd : UInt32) : List OsdChange :=
  [.command (Command.reweight osd).argv, .scaleToZero s.space (s.osdDeployment osd),
    .command (Command.purge osd).argv, .delete s.space (s.osdDeployment osd)]

theorem plan_eq (s : Settings) (osd : UInt32) :
    plan s osd = sequence.flatMap fun step => step.plan s osd := rfl

/-- The plans of two OSDs have no change in common. -/
theorem eq_of_mem_plan {s : Settings} {osd other : UInt32} {change : OsdChange}
    (h : change ∈ plan s osd) (h' : change ∈ plan s other) : osd = other := by
  simp only [plan, List.mem_cons, List.not_mem_nil, or_false] at h h'
  rcases h with rfl | rfl | rfl | rfl
  · simp only [OsdChange.command.injEq, reduceCtorEq, or_false, false_or] at h'
    rcases h' with h' | h'
    · injection Command.argv_injective h'
    · cases Command.argv_injective h'
  · simp only [OsdChange.scaleToZero.injEq, reduceCtorEq, or_false, false_or] at h'
    exact Settings.osdDeployment_injective h'.2
  · simp only [OsdChange.command.injEq, reduceCtorEq, or_false, false_or] at h'
    rcases h' with h' | h'
    · cases Command.argv_injective h'
    · injection Command.argv_injective h'
  · simp only [OsdChange.delete.injEq, reduceCtorEq, false_or] at h'
    exact Settings.osdDeployment_injective h'.2

/-- A change that a step sends is one of the plan of its OSD. -/
theorem change_of_sent {s : Settings} {osd : UInt32} {step : Step} {r : Request}
    {change : OsdChange} (h : step.Sent s osd r) (hr : OsdChange.ofRequest? r = some change) :
    change ∈ plan s osd := by
  rcases h with h | h
  · cases step with
    | reweight =>
        obtain ⟨pod, container, rfl⟩ := h
        cases hr
        simp [plan]
    | scaleDown =>
        subst h
        rw [scaleDown_change] at hr
        cases hr
        simp [plan]
    | purge =>
        obtain ⟨pod, container, rfl⟩ := h
        cases hr
        simp [plan]
    | cleanUp =>
        subst h
        cases hr
        simp [plan]
    | _ => exact h.elim
  · rw [asks_no_change h] at hr
    cases hr

/-! ## Following a plan -/

/-- All courses of a job make the changes of a plan in order, as far as they get, and all of them
if they come to a result. -/
def Follows {α : Type} (plan : List OsdChange) (job : Job α) : Prop :=
  ∀ seen o, Course job seen o →
    changes seen <+: plan ∧ ∀ a, o = some (.ok a) → changes seen = plan

section

variable {α β : Type}

theorem follows_of_sends {allowed : Request → Prop} {job : Job α} (h : Sends allowed job)
    (hn : ∀ r, allowed r → OsdChange.ofRequest? r = none) : Follows [] job := by
  intro seen o hc
  rw [changes_eq_nil (h seen o hc) hn]
  exact ⟨List.prefix_rfl, fun _ _ => rfl⟩

theorem follows_silent {job : Job α} (h : Sends (fun _ => False) job) : Follows [] job :=
  follows_of_sends h fun _ => False.elim

theorem follows_pure (a : α) : Follows [] (pure a : Job α) :=
  follows_silent ((cumulative_asking _).pure a)

theorem follows_report (text : String) : Follows [] (Job.report text) :=
  follows_silent ((cumulative_asking _).report text)

theorem Follows.bind {p q : List OsdChange} {job : Job α} {f : α → Job β} (hj : Follows p job)
    (hf : ∀ a, Follows q (f a)) : Follows (p ++ q) (job >>= f) := by
  intro seen o h
  rcases (Job.course_bind ..).1 h with ⟨a, first, rest, rfl, hc, hr⟩ | ⟨e, hc, rfl⟩ | ⟨hc, rfl⟩
  · obtain ⟨hp, hq⟩ := hf a _ _ hr
    rw [changes_append, (hj _ _ hc).2 a rfl]
    exact ⟨(List.prefix_append_right_inj p).2 hp, fun b hb => by rw [hq b hb]⟩
  · exact ⟨(hj _ _ hc).1.trans (List.prefix_append p q), nofun⟩
  · exact ⟨(hj _ _ hc).1.trans (List.prefix_append p q), nofun⟩

theorem Follows.during {p : List OsdChange} {job : Job α} (h : Follows p job) (step : String) :
    Follows p (job.during step) := by
  intro seen o hc
  obtain ⟨o', hj, ho⟩ := (Job.course_during ..).1 hc
  refine ⟨(h _ _ hj).1, ?_⟩
  rintro a rfl
  exact (h _ _ ((Job.course_during_ok ..).1 hc)).2 a rfl

theorem Follows.forM {p : α → List OsdChange} {f : α → Job Unit} (h : ∀ x, Follows (p x) (f x))
    (xs : List α) : Follows (xs.flatMap p) (xs.forM f) := by
  induction xs with
  | nil => exact follows_pure ()
  | cons x xs ih => exact (h x).bind fun _ => ih

/-- A single request is a change or none. -/
theorem follows_ask (r : Request) : Follows (OsdChange.ofRequest? r).toList (Job.ask r) := by
  intro seen o h
  have hs : changes seen = (OsdChange.ofRequest? r).toList := by
    rcases (Job.course_ask ..).1 h with ⟨t, rfl, _⟩ | ⟨t, u, a, rfl, _⟩ <;> simp
  rw [hs]
  exact ⟨List.prefix_rfl, fun _ _ => rfl⟩

end

/-- A step that is a command makes the change of the command, if it gets to send it. -/
theorem follows_command {s : Settings} (cmd : Command) {text : String}
    (h : ∀ pod container,
      OsdChange.ofRequest? (.exec s.space pod container cmd.argv) = some (.command cmd.argv)) :
    Follows [.command cmd.argv] (do Job.report text; command s cmd) := by
  intro seen o hc
  obtain ⟨ready, rest, o', rfl, hl, hx, ho⟩ := course_command hc
  have hready : changes ready = [] := changes_eq_nil hl (by rintro r rfl; rfl)
  rw [changes_append, hready, List.nil_append]
  cases hx with
  | unsent hu =>
      refine ⟨List.nil_prefix, fun _ ha => ?_⟩
      obtain ⟨output, ha⟩ := ho.1 ha
      obtain ⟨f, hf, _⟩ := hu _ ha
      cases hf
  | unanswered _ =>
      rw [changes_called, h]
      exact ⟨List.prefix_rfl, fun _ _ => rfl⟩
  | answered outcome =>
      rw [changes_called, changes_answered, h]
      exact ⟨List.prefix_rfl, fun _ _ => rfl⟩

/-- Every step makes its changes. -/
theorem follows_perform (c : Context) (osd : UInt32) (step : Step) :
    Follows (step.plan c.settings osd) (step.perform c osd) := by
  -- a step that waits sends nothing that changes an OSD
  have waits : (∀ r, ¬ step.Changes c.settings osd r) → Follows [] (step.perform c osd) :=
    fun hn => follows_of_sends (sends_perform c osd step) fun r hr =>
      hr.elim (fun h => absurd h (hn r)) asks_no_change
  cases step with
  | reweight => exact follows_command (.reweight osd) fun _ _ => rfl
  | scaleDown =>
      have hf := follows_ask (scaleDownRequest c.settings osd)
      rw [scaleDown_change] at hf
      exact (follows_silent ((cumulative_asking _).tell _)).bind fun _ => hf.during _
  | purge => exact follows_command (.purge osd) fun _ _ => rfl
  | cleanUp =>
      exact (follows_ask (.deleteDeployment c.settings.space
        (c.settings.osdDeployment osd))).during _
  | settleBefore => exact waits fun _ => id
  | confirmScale => exact waits fun _ => id
  | awaitDown => exact waits fun _ => id
  | settleAfter => exact waits fun _ => id

/-- A removal makes its four changes in order. -/
theorem follows_removeOsd (c : Context) (osd : UInt32) :
    Follows (plan c.settings osd) (removeOsd c osd) := by
  rw [plan_eq, ← List.append_nil (List.flatMap _ _)]
  exact (Follows.forM (follows_perform c osd) sequence).bind fun _ => follows_report _

end OsdMigration.Removal
