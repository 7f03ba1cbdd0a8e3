import OsdMigration.Proofs.Commands
import OsdMigration.Proofs.Course.Runs
import OsdMigration.Proofs.Removal.Gate

set_option autoImplicit false

/-! # Refusals

A command is sent right after a listing of the toolbox's pods that showed a single one, and to the
first container of that pod (`InSolePod`). A listing that shows none or several is the last thing
that is seen: whatever waits and guards it is made in, the run ends at that instant with a failure
that says how many pods there were (`Refuses`). Here both are carried through every way in which
procedures are put together (`Procedure.Sole`, `Job.Sole`).
-/

namespace OsdMigration

open Cluster (Pod Request)
open Job (Always Course Sends)

/-- Every command is sent to the first container of the only pod of the listing just before it. -/
def InSolePod (s : Settings) (seen : List Event) : Prop :=
  ∀ front t space pod container argv back,
    seen = front ++ .called t (.exec space pod container argv) :: back →
    ∃ (before : List Event) (v u : Nat) (p : Pod) (spec : Cluster.PodSpec)
      (k : Cluster.Container) (others : List Cluster.Container),
      front = before ++ [.called v (.listPods s.space s.toolboxSelector),
        .answered u (.listPods s.space s.toolboxSelector) (.ok [p])] ∧
      space = s.space ∧ pod = p.metadata.name.getD "" ∧
      p.spec = some spec ∧ spec.containers = k :: others ∧ container = k.name

/-- The failure, but for its annotations, that says what pods a listing showed. -/
def Refusal (pods : List Pod) (f : Failure) : Prop :=
  f.root = .toolboxPods pods.length (pods.filterMap fun p => p.metadata.name)

/-- Trying again does not help. -/
theorem Refusal.not_retryable {pods : List Pod} {f : Failure} (h : Refusal pods f) :
    f.isRetryable = false := by
  have hc : f.category = .precondition := by
    rw [← Failure.category_root, h]
    rfl
  simp [Failure.isRetryable, hc]

/-- A request that is neither a command nor a listing of the toolbox's pods. -/
def Aside (s : Settings) (r : Request) : Prop :=
  IsCommand r = false ∧ r ≠ .listPods s.space s.toolboxSelector

theorem Upkeep.aside {s : Settings} {r : Request} (h : Upkeep s r) : Aside s r :=
  ⟨h.not_command, by rintro rfl; cases h⟩

theorem cumulative_inSolePod (s : Settings) : Cumulative (InSolePod s) where
  nil := by
    intro front t space pod container argv back h
    cases front <;> cases h
  told := by
    intro t m front u space pod container argv back h
    cases front with
    | nil => cases h
    | cons e front => cases front <;> cases h
  append := by
    intro a b ha hb front t space pod container argv back h
    rcases Removal.append_eq_append_cons h with ⟨rest, hfirst, _⟩ | ⟨rest, rfl, hrest⟩
    · exact ha _ _ _ _ _ _ _ hfirst
    · obtain ⟨before, v, u, p, spec, k, others, rfl, hp⟩ := hb _ _ _ _ _ _ _ hrest
      exact ⟨a ++ before, v, u, p, spec, k, others, by simp, hp⟩

/-- Where no command is sent there is nothing to say. -/
theorem inSolePod_of_no_command {s : Settings} {seen : List Event}
    (h : Asking (fun r => IsCommand r = false) seen) : InSolePod s seen := by
  rintro front t space pod container argv back rfl
  have := (asking_append.1 h).2.called List.mem_cons_self
  cases this

/-! ## Refusals -/

section

variable {σ β γ : Type} (s : Settings)

/-- A listing of the toolbox's pods, among what a run added, that shows none or several is the last
thing that was added, at the instant at which the run ended; and the result carries the failure that
says so. What was added is given with the latest first. -/
def RefusedBy (carries : β → Failure → Prop) (run : Ending β × Timeline σ) (added : List Event) :
    Prop :=
  ∀ later u pods earlier,
    added = later ++ .answered u (.listPods s.space s.toolboxSelector) (.ok pods) :: earlier →
    pods.length ≠ 1 →
      later = [] ∧ run.2.time = u ∧ ∃ b f, run.1 = .done b ∧ carries b f ∧ Refusal pods f

variable {s} {C : β → Failure → Prop} {D : γ → Failure → Prop}

/-- Where the toolbox's pods are not listed there is nothing to refuse. -/
theorem refusedBy_of_unlisted {run : Ending β × Timeline σ} {added : List Event}
    (h : Asking (· ≠ .listPods s.space s.toolboxSelector) added) : RefusedBy s C run added := by
  rintro later u pods earlier rfl
  exact absurd rfl (h (.answered u (.listPods s.space s.toolboxSelector) (.ok pods)) (by simp) _ rfl)

/-- A run that came to no result has refused nothing, however it is made to end. -/
theorem RefusedBy.of_no_result {run : Ending β × Timeline σ} {run' : Ending γ × Timeline σ}
    {added : List Event} (h : RefusedBy s C run added) (hn : ∀ b, run.1 ≠ .done b) :
    RefusedBy s D run' added := by
  intro later u pods earlier hs hpods
  obtain ⟨_, _, b, _, hb, _⟩ := h later u pods earlier hs hpods
  exact absurd hb (hn b)

/-- A result that is turned into another one. -/
theorem RefusedBy.map {b : β} {c : γ} {t : Timeline σ} {added : List Event}
    (h : RefusedBy s C (.done b, t) added)
    (hC : ∀ f pods, C b f → Refusal pods f → ∃ f', D c f' ∧ Refusal pods f') :
    RefusedBy s D (.done c, t) added := by
  intro later u pods earlier hs hpods
  obtain ⟨hl, ht, b', f, hb, hf, hr⟩ := h later u pods earlier hs hpods
  cases hb
  obtain ⟨f', hf', hr'⟩ := hC f pods hf hr
  exact ⟨hl, ht, c, f', rfl, hf', hr'⟩

end

namespace Procedure

variable {σ β γ : Type} (server : Server σ) (cancelAt : Option Nat) (s : Settings)

/-- All runs of a procedure refuse a listing of the toolbox's pods that shows none or several. -/
def Refuses (carries : β → Failure → Prop) (p : Procedure β) : Prop :=
  ∀ limit depth t, ∃ added,
    (p.runWithin server cancelAt limit depth t).2.seen = added ++ t.seen ∧
      RefusedBy s carries (p.runWithin server cancelAt limit depth t) added

variable {server} {cancelAt} {s} {C : β → Failure → Prop} {D : γ → Failure → Prop}

theorem refuses_of_unlisted {p : Procedure β}
    (h : ∀ seen o, p.Course seen o → Asking (· ≠ .listPods s.space s.toolboxSelector) seen) :
    Refuses server cancelAt s C p := by
  intro limit depth t
  obtain ⟨seen, hs, hc⟩ := course_runWithin server cancelAt p limit depth t
  exact ⟨seen.reverse, hs, refusedBy_of_unlisted fun e he => h _ _ hc e (List.mem_reverse.1 he)⟩

theorem refuses_pure (b : β) : Refuses server cancelAt s C (.pure b) :=
  fun _ _ _ => ⟨[], rfl, refusedBy_of_unlisted (cumulative_asking _).nil⟩

/-- If the first procedure ends with a refusal, so does the whole. -/
theorem Refuses.bind {p : Procedure β} {f : β → Procedure γ}
    (hp : Refuses server cancelAt s C p) (hf : ∀ b, Refuses server cancelAt s D (f b))
    (hC : ∀ b e pods, C b e → Refusal pods e →
      ∃ c e', f b = .pure c ∧ D c e' ∧ Refusal pods e') :
    Refuses server cancelAt s D (p.bind f) := by
  intro limit depth t
  obtain ⟨first, hs, hfirst⟩ := hp limit depth t
  rw [runWithin_bind]
  rcases hr : p.runWithin server cancelAt limit depth t with ⟨b | ⟨cause, d⟩ | _ | _, v⟩ <;>
    rw [hr] at hs hfirst
  · obtain ⟨rest, hrest, hlast⟩ := hf b limit depth v
    refine ⟨rest ++ first, by rw [List.append_assoc, ← hs]; exact hrest, ?_⟩
    intro later u pods earlier hsplit hpods
    rcases Removal.append_eq_append_cons hsplit with ⟨mid, rfl, _⟩ | ⟨front, rfl, rfl⟩
    · exact hlast later u pods mid rfl hpods
    · -- the listing was in the first part, so what follows it is over at once
      obtain ⟨rfl, htime, b', e, hb, hcarries, he⟩ := hfirst front u pods earlier rfl hpods
      cases hb
      obtain ⟨c, e', hpure, hD, he'⟩ := hC b e pods hcarries he
      have hrun : Ending.andThen (.done b, v) (fun b v =>
          (f b).runWithin server cancelAt limit depth v) = (.done c, v) := by
        change (f b).runWithin server cancelAt limit depth v = _
        rw [hpure]
        rfl
      have hnil : rest = [] := by
        rw [hpure] at hrest
        exact List.self_eq_append_left.1 hrest
      rw [hrun, hnil]
      exact ⟨rfl, htime, c, e', rfl, hD, he'⟩
  all_goals exact ⟨first, hs, hfirst.of_no_result nofun⟩

/-- Work within a limit that ends with a refusal is not abandoned. -/
theorem Refuses.within {deadline : Option Nat} {work : Procedure β}
    {g : Except Interruption β → γ} (hw : Refuses server cancelAt s C work)
    (hC : ∀ b e pods, C b e → Refusal pods e → ∃ e', D (g (.ok b)) e' ∧ Refusal pods e') :
    Refuses server cancelAt s D (.within deadline work fun o => .pure (g o)) := by
  intro limit depth t
  simp only [runWithin]
  split
  · exact ⟨[], rfl, refusedBy_of_unlisted (cumulative_asking _).nil⟩
  · obtain ⟨added, hs, hadded⟩ :=
      hw (Limit.earlier limit (Limit.ofWork cancelAt deadline depth)) (depth + 1) t
    generalize work.runWithin server cancelAt
      (Limit.earlier limit (Limit.ofWork cancelAt deadline depth)) (depth + 1) t = run at hs hadded
    obtain ⟨b | ⟨cause, d⟩ | _ | _, v⟩ := run
    · exact ⟨added, hs, hadded.map fun e pods => hC b e pods⟩
    · have hnone : ∀ b, (Ending.abandoned cause d : Ending β) ≠ .done b := by
        rintro b ⟨⟩
      simp only [Ending.caught]
      split
      · exact ⟨added, hs, hadded.of_no_result hnone⟩
      · exact ⟨added, hs, hadded.of_no_result hnone⟩
    all_goals
      refine ⟨added, hs, hadded.of_no_result ?_⟩
      rintro b ⟨⟩

/-- The listing itself: one that shows a single pod is gone on with, any other is refused. -/
theorem refuses_listing {next : Attempt (List Pod) → Procedure β}
    (hbad : ∀ pods, pods.length ≠ 1 → ∃ b f, next (.ok pods) = .pure b ∧ C b f ∧ Refusal pods f)
    (hn : ∀ a, Refuses server cancelAt s C (next a)) :
    Refuses server cancelAt s C (.call (.listPods s.space s.toolboxSelector) next) := by
  intro limit depth t
  -- the request alone is not an answer
  have unanswered : ∀ run : Ending β × Timeline σ,
      RefusedBy s C run [.called t.time (.listPods s.space s.toolboxSelector)] := by
    intro run later u pods earlier hs
    obtain ⟨_, he, _⟩ := Removal.eq_of_singleton hs
    cases he
  simp only [runWithin]
  split
  · exact ⟨_, (seen_waiting limit _).1, unanswered _⟩
  · rename_i w _
    split
    · rename_i a st _
      obtain ⟨rest, hrest, hlast⟩ := hn a limit depth ⟨w, st,
        .answered w (.listPods s.space s.toolboxSelector) a ::
          .called t.time (.listPods s.space s.toolboxSelector) :: t.seen⟩
      refine ⟨rest ++ [.answered w (.listPods s.space s.toolboxSelector) a,
        .called t.time (.listPods s.space s.toolboxSelector)], by rw [List.append_assoc]; exact hrest,
        ?_⟩
      intro later u pods earlier hsplit hpods
      rcases Removal.append_eq_append_cons hsplit with ⟨mid, rfl, _⟩ | ⟨front, rfl, hfirst⟩
      · exact hlast later u pods mid rfl hpods
      · cases front with
        | nil =>
            obtain ⟨he, _⟩ := List.cons.inj hfirst
            cases he
            obtain ⟨b, f, hpure, hcarries, hf⟩ := hbad pods hpods
            rw [hpure] at hrest ⊢
            have hnil : rest = [] := List.self_eq_append_left.1 hrest
            exact ⟨by rw [hnil]; rfl, rfl, b, f, rfl, hcarries, hf⟩
        | cons e front =>
            obtain ⟨_, he, _⟩ := Removal.eq_of_singleton (List.cons.inj hfirst).2
            cases he
    · exact ⟨_, (seen_waiting limit _).1, unanswered _⟩

end Procedure

/-! ## Commands and refusals together -/

section

variable {σ β γ : Type} (server : Server σ) (cancelAt : Option Nat) (s : Settings)

/-- Commands reach the only pod of the toolbox, and where there is not one the runs end with a
refusal. -/
structure Procedure.Sole (carries : β → Failure → Prop) (p : Procedure β) : Prop where
  inPod : ∀ seen o, p.Course seen o → InSolePod s seen
  refuses : p.Refuses server cancelAt s carries

/-- Of a job a refusal is the failure. -/
def Job.Sole (job : Job β) : Prop :=
  job.attempt.Sole server cancelAt s fun a f => a = .error f

variable {server} {cancelAt} {s}

theorem Procedure.Sole.bind {C : β → Failure → Prop} {D : γ → Failure → Prop} {p : Procedure β}
    {f : β → Procedure γ} (hp : p.Sole server cancelAt s C)
    (hf : ∀ b, (f b).Sole server cancelAt s D)
    (hC : ∀ b e pods, C b e → Refusal pods e →
      ∃ c e', f b = .pure c ∧ D c e' ∧ Refusal pods e') :
    (p.bind f).Sole server cancelAt s D where
  inPod seen o h := by
    rcases (Procedure.course_bind ..).1 h with ⟨b, first, rest, rfl, h, hn⟩ | ⟨h, _⟩
    · exact (cumulative_inSolePod s).append (hp.inPod _ _ h) ((hf b).inPod _ _ hn)
    · exact hp.inPod _ _ h
  refuses := hp.refuses.bind (fun b => (hf b).refuses) hC

theorem Procedure.sole_of_aside {C : β → Failure → Prop} {p : Procedure β}
    (h : ∀ seen o, p.Course seen o → Asking (Aside s) seen) : p.Sole server cancelAt s C where
  inPod seen o hc := inSolePod_of_no_command ((h seen o hc).mono fun _ => And.left)
  refuses := Procedure.refuses_of_unlisted fun seen o hc => (h seen o hc).mono fun _ => And.right

theorem Procedure.sole_pure {C : β → Failure → Prop} (b : β) :
    (Procedure.pure b).Sole server cancelAt s C where
  inPod := by
    rintro seen o ⟨rfl, _⟩
    exact (cumulative_inSolePod s).nil
  refuses := Procedure.refuses_pure b

end

namespace Job

variable {σ α β : Type} {server : Server σ} {cancelAt : Option Nat} {s : Settings}

/-- What neither runs commands nor lists the toolbox's pods. -/
theorem Sends.sole {job : Job α} {allowed : Request → Prop} (h : Sends allowed job)
    (hn : ∀ r, allowed r → Aside s r) : Sole server cancelAt s job :=
  Procedure.sole_of_aside fun seen o hc => (h seen o hc).mono hn

theorem sole_ofAttempt (a : Attempt α) : Sole server cancelAt s (ofAttempt a) :=
  Procedure.sole_pure a

theorem sole_pure (a : α) : Sole server cancelAt s (pure a : Job α) := sole_ofAttempt (.ok a)

theorem sole_tell (m : Message) : Sole server cancelAt s (tell m) :=
  Sends.sole ((cumulative_asking (fun _ => False)).tell m) fun _ => False.elim

theorem sole_report (text : String) : Sole server cancelAt s (report text) := sole_tell _

namespace Sole

theorem bind {job : Job α} {f : α → Job β} (hj : Sole server cancelAt s job)
    (hf : ∀ a, Sole server cancelAt s (f a)) : Sole server cancelAt s (job >>= f) := by
  rw [Sole, attempt_bind]
  refine Procedure.Sole.bind hj (fun a => ?_) fun a e pods ha he => ?_
  · cases a with
    | error e => exact Procedure.sole_pure _
    | ok a => exact hf a
  · subst ha
    exact ⟨_, e, rfl, rfl, he⟩

/-- A refusal stays one if the outcome is looked at. -/
theorem map {p : Procedure (Attempt α)} {g : Attempt α → Attempt β}
    (hp : p.Sole server cancelAt s fun a f => a = .error f)
    (hg : ∀ f pods, Refusal pods f → ∃ f', g (.error f) = .error f' ∧ Refusal pods f') :
    Sole server cancelAt s (.mk (p.bind fun a => .pure (g a))) := by
  refine Procedure.Sole.bind hp (fun a => Procedure.sole_pure _) fun a e pods ha he => ?_
  subst ha
  obtain ⟨f', hf, hr⟩ := hg e pods he
  exact ⟨_, f', rfl, hf, hr⟩

theorem during (step : String) {job : Job α} (hj : Sole server cancelAt s job) :
    Sole server cancelAt s (job.during step) :=
  map hj fun f _ hf => ⟨.during step f, rfl, hf⟩

/-- Guarded work whose outcome is observed, where a failure that is not worth another try is
final. -/
theorem observe {p : Pacer} {stopped : Interruption → Failure} {work : Job α}
    {k : Attempt α → Job β} (hw : Sole server cancelAt s work)
    (hk : ∀ a, Sole server cancelAt s (k a))
    (hfinal : ∀ f, f.isRetryable = false → k (.error f) = fail f) :
    Sole server cancelAt s (p.guarded stopped work.attempt >>= k) := by
  have hguarded : (p.guarded stopped work.attempt).attempt.Sole server cancelAt s
      fun a f => a = .ok (.error f) := by
    constructor
    · intro seen o h
      rcases (course_guarded ..).1 h with ⟨_, rfl, _⟩ | ⟨_, h, _⟩ | ⟨_, h, _⟩ | ⟨h, _⟩
      · exact (cumulative_inSolePod s).nil
      all_goals exact hw.inPod _ _ h
    · refine Procedure.Refuses.within (g := fun o => o.mapError stopped) hw.refuses ?_
      rintro _ e pods rfl he
      exact ⟨e, rfl, he⟩
  rw [Sole, attempt_bind]
  refine Procedure.Sole.bind hguarded (fun a => ?_) fun a e pods ha he => ?_
  · cases a with
    | error e => exact Procedure.sole_pure _
    | ok a => exact hk a
  · subst ha
    refine ⟨.error e, e, ?_, rfl, he⟩
    change (k (.error e)).attempt = _
    rw [hfinal e he.not_retryable]
    rfl

/-- A wait is no way around a refusal. -/
theorem wait {ω : Type} (p : Pacer) (stopped : ω → Interruption → Failure)
    {poll : ω → Job (Poll ω)} (hp : ∀ w, Sole server cancelAt s (poll w)) (n : Nat) (w : ω) :
    Sole server cancelAt s (p.wait stopped poll n w) := by
  have hA := cumulative_asking (fun _ : Request => False)
  induction n generalizing w with
  | zero =>
      refine Procedure.sole_of_aside ?_
      rintro seen o ⟨rfl, _⟩
      exact (cumulative_asking _).nil
  | succ n ih =>
      refine (hp w).bind fun outcome => ?_
      cases outcome with
      | met => exact sole_pure ()
      | again w' passing =>
          refine Sole.bind ?_ fun _ => Sole.bind ?_ fun _ => ih w'
          · cases passing with
            | none => exact sole_pure ()
            | some text => exact sole_tell _
          · refine Sends.sole (hA.guarded p _ ?_) fun _ => False.elim
            rintro seen o (⟨rfl, _⟩ | ⟨rfl, _⟩) <;> exact hA.nil

theorem forM (xs : List α) {f : α → Job Unit} (hf : ∀ x, Sole server cancelAt s (f x)) :
    Sole server cancelAt s (xs.forM f) := by
  induction xs with
  | nil => exact sole_pure ()
  | cons x xs ih => exact (hf x).bind fun _ => ih

end Sole

theorem sole_start (interval : Nat) (timeout : Option Nat) :
    Sole server cancelAt s (Pacer.start interval timeout) :=
  Sends.sole ((cumulative_asking (fun _ => False)).start interval timeout) fun _ => False.elim

end Job

end OsdMigration
