import OsdMigration.Proofs.Wait

set_option autoImplicit false

/-! # How a wait loses patience

A budget is never spent beyond its limit: a wait that goes on has used up less than that, or
nothing at all (`Budget.InUse`). So a wait that loses patience names the number of failures it was
given, and one if it was given none. Which failures a job can end with is put together from its
parts (`Fails`); here it is followed from the wait for a scale up to the report of the cluster,
which may end with the lost patience of the wait for the toolbox (`gaveUp`).
-/

namespace OsdMigration

open Cluster (Deployment)

namespace Budget

/-- A failure that is not worth another try is not counted. -/
theorem fail_of_not_retryable {b : Budget} {f : Failure} (h : f.isRetryable = false) :
    b.fail f = (b, .error f) := by
  simp [fail, h]

/-- Any other failure counts, and is the last one if it fills the budget. -/
theorem fail_of_retryable {b : Budget} {f : Failure} (h : f.isRetryable = true) :
    b.fail f = ({ b with inRow := b.inRow + 1 },
      if b.limit ≤ b.inRow + 1 then .error (.repeated b.operation (b.inRow + 1) f)
      else .ok ()) := by
  by_cases hl : b.limit ≤ b.inRow + 1 <;> simp [fail, h, hl]

/-- A failure that is not worth another try leaves no budget. -/
theorem spend_of_not_retryable {b : Budget} {f : Failure} (h : f.isRetryable = false) :
    b.spend f = .error f := by
  rw [spend, fail_of_not_retryable h]

/-- Any other failure leaves one unless it fills the budget. -/
theorem spend_of_retryable {b : Budget} {f : Failure} (h : f.isRetryable = true) :
    b.spend f = if b.limit ≤ b.inRow + 1 then .error (.repeated b.operation (b.inRow + 1) f)
      else .ok { b with inRow := b.inRow + 1 } := by
  rw [spend, fail_of_retryable h]
  by_cases hl : b.limit ≤ b.inRow + 1 <;> simp [hl]

/-- The budget of a wait that goes on, for an operation and with a limit. -/
structure InUse (operation : String) (limit : Nat) (b : Budget) : Prop where
  operation_eq : b.operation = operation
  limit_eq : b.limit = limit
  room : b.inRow = 0 ∨ b.inRow < limit

variable {operation : String} {limit : Nat} {b b' : Budget} {f : Failure}

theorem inUse_budget (s : Settings) (operation : String) :
    InUse operation s.patience.toNat (s.budget operation) := ⟨rfl, rfl, .inl rfl⟩

theorem InUse.succeed (h : InUse operation limit b) : InUse operation limit b.succeed :=
  ⟨h.operation_eq, h.limit_eq, .inl rfl⟩

/-- What is left after a failure that is not the last. -/
theorem spend_ok (hs : b.spend f = .ok b') :
    b.inRow + 1 < b.limit ∧ b' = { b with inRow := b.inRow + 1 } := by
  cases hf : f.isRetryable with
  | false =>
      rw [spend_of_not_retryable hf] at hs
      cases hs
  | true =>
      rw [spend_of_retryable hf] at hs
      split at hs
      · cases hs
      · rename_i hl
        cases hs
        exact ⟨Nat.lt_of_not_le hl, rfl⟩

theorem InUse.spend (h : InUse operation limit b) (hs : b.spend f = .ok b') :
    InUse operation limit b' := by
  obtain ⟨hlt, rfl⟩ := spend_ok hs
  exact ⟨h.operation_eq, h.limit_eq, .inr (h.limit_eq ▸ hlt)⟩

/-- The number of failures at which patience is lost. -/
theorem InUse.lost (h : InUse operation limit b) (hl : b.limit ≤ b.inRow + 1) :
    b.inRow + 1 = max limit 1 := by
  have := h.limit_eq
  rcases h.room with h | h <;> omega

end Budget

/-! ## The failures of a job -/

namespace Job

variable {α β : Type} {P Q : Failure → Prop}

/-- Every failure that a job ends with has a property. -/
def Fails (Q : Failure → Prop) (job : Job α) : Prop :=
  ∀ seen f, Course job seen (some (.error f)) → Q f

theorem fails_ofAttempt {a : Attempt α} (h : ∀ f, a = .error f → Q f) : Fails Q (ofAttempt a) :=
  fun _ f hc => h f (Option.some.inj hc.2).symm

theorem fails_pure (a : α) : Fails Q (pure a : Job α) := fails_ofAttempt (a := .ok a) nofun

theorem fails_tell (m : Message) : Fails Q (tell m) := by
  intro seen f h
  cases ((course_tell ..).1 h).2

theorem fails_report (text : String) : Fails Q (report text) := fails_tell _

theorem fails_start (interval : Nat) (timeout : Option Nat) :
    Fails Q (Pacer.start interval timeout) := by
  intro seen f h
  obtain ⟨_, _, hf⟩ := (course_start ..).1 h
  split at hf <;> cases hf

namespace Fails

theorem bind {job : Job α} {f : α → Job β} (hj : Fails Q job) (hf : ∀ a, Fails Q (f a)) :
    Fails Q (job >>= f) := by
  intro seen g h
  rcases (course_bind ..).1 h with ⟨a, _, rest, _, _, h⟩ | ⟨e, h, he⟩ | ⟨_, ho⟩
  · exact hf a rest g h
  · cases he
    exact hj seen g h
  · cases ho

theorem during {step : String} {job : Job α} (hj : Fails P job)
    (h : ∀ f, P f → Q (.during step f)) : Fails Q (job.during step) := by
  intro seen g hc
  obtain ⟨_ | f | a, hjob, ho⟩ := (course_during ..).1 hc
  · cases ho
  · cases ho
    exact h f (hj seen f hjob)
  · cases ho

/-- The failures of a step, whatever its job is. -/
theorem of_step {step : String} {job : Job α} (h : ∀ f, Q (.during step f)) :
    Fails Q (job.during step) :=
  during (P := fun _ => True) (fun _ _ _ => trivial) fun f _ => h f

/-- The failures of guarded work are those of the interruption. -/
theorem guarded {p : Pacer} {stopped : Interruption → Failure} {work : Procedure α}
    (h : ∀ i, Q (stopped i)) : Fails Q (p.guarded stopped work) := by
  intro seen f hc
  rcases (course_guarded ..).1 hc with ⟨i, _, ho⟩ | ⟨_, _, ho⟩ | ⟨i, _, ho⟩ | ⟨_, ho⟩
  · cases ho
    exact h i
  · cases ho
  · cases ho
    exact h i
  · cases ho

/-- A wait fails in a poll or in a pause; up to there its memory keeps an invariant. -/
theorem wait {ω : Type} {I : ω → Prop} {p : Pacer} {stopped : ω → Interruption → Failure}
    {poll : ω → Job (Poll ω)} (hs : ∀ w i, Q (stopped w i)) (hp : ∀ w, I w → Fails Q (poll w))
    (hk : ∀ w seen w' passing, I w → Course (poll w) seen (some (.ok (.again w' passing))) → I w')
    {n : Nat} {w : ω} (hw : I w) : Fails Q (p.wait stopped poll n w) := by
  -- on the polls that are left, for every memory that keeps the invariant
  induction n generalizing w with
  | zero =>
      intro seen f h
      cases h.2
  | succ n ih =>
      intro seen f h
      rcases (course_bind ..).1 h with ⟨outcome, first, rest, _, ho, h⟩ | ⟨e, h, he⟩ | ⟨_, ho⟩
      · cases outcome with
        | met => exact fails_pure () rest f h
        | again w' passing =>
            refine Fails.bind ?_ (fun _ => .bind (guarded (hs w')) fun _ => ?_) rest f h
            · cases passing with
              | none => exact fails_pure ()
              | some text => exact fails_tell _
            · exact ih (hk w first w' passing hw ho)
      · cases he
        exact hp w hw seen f h
      · cases ho

end Fails

end Job

/-! ## Up to the report -/

open Job (Course Fails)

/-- A failure that says that a wait lost patience names its operation and its limit. -/
def NamesLimit (operation : String) (limit : Nat) (f : Failure) : Prop :=
  ∀ op attempts cause, f = .repeated op attempts cause →
    op = operation ∧ attempts = max limit 1

theorem namesLimit_interruption (operation : String) (limit : Nat) (awaited : String)
    (last : Option String) (i : Interruption) :
    NamesLimit operation limit (i.failure awaited last) := by
  cases i <;> exact nofun

/-- The failure that ends a budget names its limit: what a server says of lost patience is counted
itself. -/
theorem Budget.InUse.namesLimit {operation : String} {limit : Nat} {b : Budget} {f g : Failure}
    (h : b.InUse operation limit) (hs : b.spend f = .error g) : NamesLimit operation limit g := by
  rintro op attempts cause rfl
  cases hf : f.isRetryable with
  | false =>
      -- lost patience itself is worth another try
      rw [spend_of_not_retryable hf] at hs
      cases hs
      cases hf
  | true =>
      rw [spend_of_retryable hf] at hs
      split at hs
      · rename_i hl
        cases hs
        exact ⟨h.operation_eq, h.lost hl⟩
      · cases hs

/-- An attempt after another fails if one of them does. -/
theorem bind_error {α β : Type} {a : Attempt α} {f : α → Attempt β} {e : Failure}
    (h : (a >>= f) = .error e) : a = .error e ∨ ∃ x, a = .ok x ∧ f x = .error e := by
  cases a with
  | error e' =>
      cases h
      exact .inl rfl
  | ok x => exact .inr ⟨x, rfl, h⟩

section

variable {goal : ScaleWait.Goal} {w w' : ScaleWait} {a : Attempt (Option Deployment)}
  {operation : String} {limit : Nat}

theorem observe_scale_again {passing : Option String} (h : w.budget.InUse operation limit)
    (ho : ScaleWait.observe goal w a = .ok (.again w' passing)) :
    w'.budget.InUse operation limit := by
  unfold ScaleWait.observe at ho
  split at ho
  · simp only at ho
    split at ho
    · cases ho
    · split at ho
      · cases ho
      · cases ho
        exact h.succeed
  all_goals
    obtain ⟨budget, hs, ho⟩ := bind_ok ho
    cases ho
    exact h.spend hs

theorem observe_scale_error {f : Failure} (h : w.budget.InUse operation limit)
    (ho : ScaleWait.observe goal w a = .error f) : NamesLimit operation limit f := by
  unfold ScaleWait.observe at ho
  split at ho
  · simp only at ho
    split at ho
    · cases ho
      exact nofun
    · split at ho <;> cases ho
  all_goals
    obtain hs | ⟨budget, _, ho⟩ := bind_error ho
    · exact h.namesLimit hs
    · cases ho

end

theorem fails_awaitScale (c : Context) (name : String) (scale : Int) (timeout : Nat) :
    Fails (NamesLimit "check deployment status" c.settings.patience.toNat)
      (awaitScale c name scale timeout) := by
  refine (Job.fails_report _).bind fun _ => (Job.fails_start _ _).bind fun p =>
    Fails.wait (I := fun w => w.budget.InUse "check deployment status" c.settings.patience.toNat)
      (fun w i => namesLimit_interruption _ _ _ _ i) (fun w hw => ?_) ?_ (Budget.inUse_budget ..)
  · exact (Fails.guarded fun i => namesLimit_interruption _ _ _ _ i).bind fun a =>
      Job.fails_ofAttempt fun f ho => observe_scale_error hw ho
  · intro w seen w' passing hw hc
    obtain ⟨a, _, _, _, _, hc⟩ := (Job.course_bind_ok ..).1 hc
    exact observe_scale_again hw (Option.some.inj hc.2).symm

/-- The failure of a report for which the wait for the toolbox lost patience. -/
def gaveUp (operation : String) (attempts : Nat) (cause : Failure) : Failure :=
  .during "failed to start toolbox, required for rook health checks"
    (.during "unable to wait for rook-ceph-tools to scale up" (.repeated operation attempts cause))

/-- It is worth another try. -/
theorem isRetryable_gaveUp (operation : String) (attempts : Nat) (cause : Failure) :
    (gaveUp operation attempts cause).isRetryable = true := rfl

/-- The wait for the toolbox loses patience with the deployment of the toolbox, and after as many
failures as any other wait. -/
theorem fails_fetchStatus (c : Context) :
    Fails (fun f => ∀ operation attempts cause, f = gaveUp operation attempts cause →
        operation = "check deployment status" ∧ attempts = max c.settings.patience.toNat 1)
      (Monitor.fetchStatus c) := by
  let Q : Failure → Prop := fun f => ∀ operation attempts cause,
    f = .during "unable to wait for rook-ceph-tools to scale up"
      (.repeated operation attempts cause) →
    operation = "check deployment status" ∧ attempts = max c.settings.patience.toNat 1
  have hup : Fails Q (Toolbox.awaitUp c) := by
    refine (fails_awaitScale c _ _ _).during fun f hf operation attempts cause he => ?_
    exact hf operation attempts cause (Failure.during.inj he).2
  -- every other step has another name
  have hready : Fails Q (Toolbox.ensureReady c) := by
    refine Fails.bind (.of_step fun f _ _ _ he => ?_) fun existing => ?_
    · exact absurd (Failure.during.inj he).1 (by decide)
    cases existing with
    | some d =>
        simp only
        split
        · exact Job.fails_pure ()
        · refine Fails.bind (.of_step fun f _ _ _ he => ?_) fun _ => hup
          exact absurd (Failure.during.inj he).1 (by decide)
    | none =>
        refine (Job.fails_report _).bind fun _ =>
          Fails.bind (.of_step fun f _ _ _ he => ?_) fun image =>
          Fails.bind (.of_step fun f _ _ _ he => ?_) fun _ => (Job.fails_report _).bind fun _ =>
            hup.bind fun _ => Job.fails_report _
        all_goals exact absurd (Failure.during.inj he).1 (by decide)
  refine Fails.bind (hready.during fun f hf operation attempts cause he => ?_) fun _ =>
    Fails.bind (.of_step fun f _ _ _ he => ?_) fun output => .of_step fun f _ _ _ he => ?_
  · exact hf operation attempts cause (Failure.during.inj he).2
  all_goals exact absurd (Failure.during.inj he).1 (by decide)

end OsdMigration
