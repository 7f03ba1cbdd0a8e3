import OsdMigration.Proofs.Course.Guarded
import OsdMigration.Proofs.Course.Passing

set_option autoImplicit false

/-! # Waits by what their polls find

A wait remembers a few numbers and texts from poll to poll. What it does can be said without them:
each poll finds something or is interrupted, and all that the wait does next is decided by the list
of what was found so far. A `Watch` says what is decided: when the findings settle the wait and with
which result, what is told in passing, and what an interruption says.

Which polls a run comes to and what they find is a matter of the cluster and the clock alone
(`Comes`, `Finds`, `Interrupted`). A run of a wait goes by a watch (`GoesBy`) if it ends exactly
where the findings say (`Ends`). That is so for every wait whose memory stands for the findings
(`Recalls`, `goesBy_of_recalls`).
-/

namespace OsdMigration

/-- What a wait makes of the findings of its polls. Findings are listed the latest first. -/
structure Watch (ι : Type) where
  /-- What a poll looks at. -/
  look : Pacer → Procedure (Except Interruption ι)
  /-- What is told in passing once this was found. -/
  telling : List ι → Option String
  /-- What an interruption says was waited for, -/
  operation : List ι → String
  /-- and, if it comes from the deadline, what was seen last. -/
  last : List ι → Option String
  /-- The findings end the wait with a result. -/
  Settles : List ι → Attempt Unit → Prop

namespace Watch

variable {σ ι : Type} (W : Watch ι)

/-- The failure of a wait that is interrupted after these findings. -/
def stopped (h : List ι) (i : Interruption) : Failure := i.failure (W.operation h) (W.last h)

/-- Neither these findings settle the wait nor did those up to any poll before. -/
def Unsettled (h : List ι) : Prop := ∀ g, g <:+ h → ∀ r, ¬ W.Settles g r

/-- What comes behind a poll: something may be told, and then there is a pause. -/
def pause (p : Pacer) (h : List ι) : Procedure (Except Interruption Unit) :=
  match W.telling h with
  | none => p.tick
  | some text => .tell (.passing text) p.tick

/-! ## The polls of a run -/

section

variable (server : Server σ) (cancelAt : Option Nat) (p : Pacer) (n : Nat) (t₀ : Timeline σ)

/-- Polls that are made one after the other, `n` of them at most, have found `h` and waited behind
each of them: at `t` the next one is due. -/
inductive Comes : List ι → Timeline σ → Prop
  | first : Comes [] t₀
  | next {h : List ι} {x : ι} {t u v : Timeline σ} (poll : Comes h t) (room : h.length < n)
      (found : (W.look p).run server cancelAt t = (.done (.ok x), u))
      (paused : (W.pause p (x :: h)).run server cancelAt u = (.done (.ok ()), v)) :
      Comes (x :: h) v

/-- They find `h`, the last of it at `u`. -/
inductive Finds : List ι → Timeline σ → Prop
  | intro {h : List ι} {x : ι} {t u : Timeline σ} (poll : W.Comes server cancelAt p n t₀ h t)
      (room : h.length < n) (found : (W.look p).run server cancelAt t = (.done (.ok x), u)) :
      Finds (x :: h) u

/-- After they have found `h` they are interrupted, in a poll or in the pause behind it. -/
inductive Interrupted : List ι → Interruption → Timeline σ → Prop
  | inPoll {h : List ι} {i : Interruption} {t u : Timeline σ}
      (poll : W.Comes server cancelAt p n t₀ h t) (room : h.length < n)
      (cut : (W.look p).run server cancelAt t = (.done (.error i), u)) : Interrupted h i u
  | inPause {h : List ι} {i : Interruption} {t u : Timeline σ}
      (finds : W.Finds server cancelAt p n t₀ h t)
      (cut : (W.pause p h).run server cancelAt t = (.done (.error i), u)) : Interrupted h i u

/-- The result of a wait, after it has found `h`: what this settles at the first poll at which
anything is settled, or the failure of an interruption that comes before that. -/
inductive Ends : List ι → Attempt Unit → Timeline σ → Prop
  | settled {h : List ι} {r : Attempt Unit} {u : Timeline σ}
      (finds : W.Finds server cancelAt p n t₀ h u) (settles : W.Settles h r)
      (first : W.Unsettled h.tail) : Ends h r u
  | interrupted {h : List ι} {i : Interruption} {u : Timeline σ}
      (cut : W.Interrupted server cancelAt p n t₀ h i u) (unsettled : W.Unsettled h) :
      Ends h (.error (W.stopped h i)) u

/-- Polling goes on without a result: a poll comes to nothing, and the run with it, in whichever way
that is, or all `n` polls have been made and nothing is settled. -/
inductive Remains : Ending (Attempt Unit) × Timeline σ → Prop
  | inPoll {h : List ι} {t : Timeline σ} {run : Ending (Attempt Unit) × Timeline σ}
      (poll : W.Comes server cancelAt p n t₀ h t) (room : h.length < n)
      (unsettled : W.Unsettled h) (endless : ∀ o, ((W.look p).run server cancelAt t).1 ≠ .done o)
      (asPoll : ∀ go, run = Ending.andThen ((W.look p).run server cancelAt t) go) : Remains run
  | polled {h : List ι} {t : Timeline σ} (poll : W.Comes server cancelAt p n t₀ h t)
      (all : h.length = n) (unsettled : W.Unsettled h) : Remains (.exhausted, t)

/-- A run goes by what its polls find. -/
structure GoesBy (run : Ending (Attempt Unit) × Timeline σ) : Prop where
  /-- It has the result that its polls lead to, and has it at that instant. -/
  result_iff : ∀ r u, run = (.done r, u) ↔ ∃ h, W.Ends server cancelAt p n t₀ h r u
  /-- Without such a result it goes on polling. -/
  remains : (∀ r, run.1 ≠ .done r) → W.Remains server cancelAt p n t₀ run
  /-- The next poll is due one interval after a poll, unless the wait is interrupted before. -/
  next : ∀ h u, W.Finds server cancelAt p n t₀ h u → p.Open cancelAt (u.time + p.interval) →
    W.Comes server cancelAt p n t₀ h ⟨u.time + p.interval, u.server,
      (W.telling h).toList.map (fun text => .told u.time (.passing text)) ++ u.seen⟩

end

variable {W} {server : Server σ} {cancelAt : Option Nat} {p : Pacer} {n : Nat} {t₀ : Timeline σ}

theorem Unsettled.tail {h : List ι} (hu : W.Unsettled h) : W.Unsettled h.tail :=
  fun g hg => hu g (hg.trans (List.tail_suffix h))

theorem unsettled_cons {x : ι} {h : List ι} :
    W.Unsettled (x :: h) ↔ (∀ r, ¬ W.Settles (x :: h) r) ∧ W.Unsettled h := by
  constructor
  · intro hu
    exact ⟨hu _ (List.suffix_refl _), hu.tail⟩
  · rintro ⟨hx, hu⟩ g hg
    rcases List.suffix_cons_iff.1 hg with rfl | hg
    · exact hx
    · exact hu g hg

/-- There is one way to come to a poll. -/
theorem Comes.unique {h g : List ι} {t s : Timeline σ} (hc : W.Comes server cancelAt p n t₀ h t)
    (gc : W.Comes server cancelAt p n t₀ g s) (hlen : h.length = g.length) : h = g ∧ t = s := by
  induction hc generalizing g s with
  | first =>
      cases gc with
      | first => exact ⟨rfl, rfl⟩
      | next _ _ _ _ => cases hlen
  | next _ _ found paused ih =>
      cases gc with
      | first => cases hlen
      | next gc _ found' paused' =>
          obtain ⟨rfl, rfl⟩ := ih gc (Nat.succ.inj hlen)
          rw [found] at found'
          cases found'
          rw [paused] at paused'
          cases paused'
          exact ⟨rfl, rfl⟩

/-- A pause that is not interrupted takes one interval. -/
theorem run_pause_done {h : List ι} {u v : Timeline σ}
    (hr : (W.pause p h).run server cancelAt u = (.done (.ok ()), v)) :
    v = ⟨u.time + p.interval, u.server,
      (W.telling h).toList.map (fun text => .told u.time (.passing text)) ++ u.seen⟩ := by
  unfold pause at hr
  split at hr
  · rename_i ht
    rw [run_tick_ok hr, ht]
    rfl
  · rename_i text ht
    have hv := run_tick_ok (t := { u with seen := .told u.time (.passing text) :: u.seen }) hr
    rw [hv, ht]
    rfl

/-- It is not interrupted if the wait is still open when it ends. -/
theorem run_pause_open (h : List ι) {u : Timeline σ} (ho : p.Open cancelAt (u.time + p.interval)) :
    (W.pause p h).run server cancelAt u = (.done (.ok ()), ⟨u.time + p.interval, u.server,
      (W.telling h).toList.map (fun text => .told u.time (.passing text)) ++ u.seen⟩) := by
  unfold pause
  cases W.telling h with
  | none => exact run_tick_open ho
  | some text =>
      exact run_tick_open (t := { u with seen := .told u.time (.passing text) :: u.seen }) ho

/-- A pause ends, or is interrupted. What it tells is told in either case. -/
theorem run_pause_cases (W : Watch ι) (server : Server σ) (cancelAt : Option Nat) (p : Pacer)
    (h : List ι) (u : Timeline σ) :
    ∃ o v, (W.pause p h).run server cancelAt u = (.done o, v) ∧
      v.seen = (W.telling h).toList.map (fun text => .told u.time (.passing text)) ++ u.seen := by
  unfold pause
  cases W.telling h with
  | none => exact run_tick_cases server cancelAt p u
  | some text =>
      exact run_tick_cases server cancelAt p
        { u with seen := .told u.time (.passing text) :: u.seen }

/-! ## Waits that remember -/

/-- An observation leads where the findings do: it ends the wait with what they settle, or it
remembers and tells what belongs to them. -/
inductive Leads (W : Watch ι) {ω : Type} (Means : List ι → ω → Prop) (h : List ι) :
    Attempt (Poll ω) → Prop
  | met (settles : ∀ r, W.Settles h r ↔ r = .ok ()) : Leads W Means h (.ok .met)
  | failed {f : Failure} (settles : ∀ r, W.Settles h r ↔ r = .error f) : Leads W Means h (.error f)
  | again {w : ω} {passing : Option String} (unsettled : ∀ r, ¬ W.Settles h r) (means : Means h w)
      (tells : passing = W.telling h) : Leads W Means h (.ok (.again w passing))

/-- What a wait remembers stands for what its polls have found. -/
structure Recalls (W : Watch ι) {ω : Type} (Means : List ι → ω → Prop) (p : Pacer)
    (stopped : ω → Interruption → Failure) (poll : ω → Job (Poll ω))
    (observe : ω → ι → Attempt (Poll ω)) : Prop where
  poll_eq : ∀ w, poll w =
    Job.heeding (stopped w) (W.look p) >>= fun x => Job.ofAttempt (observe w x)
  stopped_eq : ∀ h w, Means h w → stopped w = W.stopped h
  leads : ∀ h w, Means h w → ∀ x, W.Leads Means (x :: h) (observe w x)

section

variable {ω : Type} {Means : List ι → ω → Prop} {stopped : ω → Interruption → Failure}
  {poll : ω → Job (Poll ω)} {observe : ω → ι → Attempt (Poll ω)} {h : List ι} {w : ω}
  {t u : Timeline σ} {k : Nat}

/-- What comes behind a poll, as a part of the wait. -/
theorem between_eq (W : Watch ι) (p : Pacer) (f : Interruption → Failure) (h : List ι)
    (rest : Job Unit) :
    (do
      (W.telling h).forM fun text => Job.tell (.passing text)
      p.guarded f (.sleep p.interval (.pure ()))
      rest) = Job.heeding f (W.pause p h) >>= fun _ => rest := by
  unfold pause
  cases W.telling h <;> rfl

/-- An interruption of a poll ends the wait. -/
theorem Recalls.run_cut (hr : W.Recalls Means p stopped poll observe) (hm : Means h w)
    {i : Interruption} (hi : (W.look p).run server cancelAt t = (.done (.error i), u)) :
    (p.wait stopped poll (k + 1) w).attempt.run server cancelAt t =
      (.done (.error (W.stopped h i)), u) := by
  have hlook : (poll w).attempt.run server cancelAt t = (.done (.error (W.stopped h i)), u) := by
    rw [hr.poll_eq, ← hr.stopped_eq h w hm]
    exact Job.run_bind_of_error (Job.run_heeding_of_done hi)
  exact Job.run_bind_of_error hlook

theorem Recalls.run_poll (hr : W.Recalls Means p stopped poll observe) {x : ι}
    (hx : (W.look p).run server cancelAt t = (.done (.ok x), u)) :
    (poll w).attempt.run server cancelAt t = (.done (observe w x), u) := by
  rw [hr.poll_eq, Job.run_bind_of_ok (Job.run_heeding_of_done hx)]
  rfl

/-- So does a finding that settles it. -/
theorem Recalls.run_settled (hr : W.Recalls Means p stopped poll observe) (hm : Means h w) {x : ι}
    {r : Attempt Unit} (hx : (W.look p).run server cancelAt t = (.done (.ok x), u))
    (hs : W.Settles (x :: h) r) :
    (p.wait stopped poll (k + 1) w).attempt.run server cancelAt t = (.done r, u) := by
  have hpoll := hr.run_poll (w := w) hx
  have hleads := hr.leads h w hm x
  generalize observe w x = outcome at hpoll hleads
  cases hleads with
  | met settles =>
      obtain rfl := (settles r).1 hs
      show (poll w >>= _).attempt.run server cancelAt t = _
      rw [Job.run_bind_of_ok hpoll]
      rfl
  | failed settles =>
      obtain rfl := (settles r).1 hs
      exact Job.run_bind_of_error hpoll
  | again unsettled _ _ => exact absurd hs (unsettled r)

/-- Any other finding is remembered, and the wait goes on behind a pause. -/
theorem Recalls.run_unsettled (hr : W.Recalls Means p stopped poll observe) (hm : Means h w) {x : ι}
    (hx : (W.look p).run server cancelAt t = (.done (.ok x), u))
    (hs : ∀ r, ¬ W.Settles (x :: h) r) :
    ∃ w', Means (x :: h) w' ∧ (p.wait stopped poll (k + 1) w).attempt.run server cancelAt t =
      (Job.heeding (W.stopped (x :: h)) (W.pause p (x :: h)) >>= fun _ =>
        p.wait stopped poll k w').attempt.run server cancelAt u := by
  have hpoll := hr.run_poll (w := w) hx
  have hleads := hr.leads h w hm x
  generalize observe w x = outcome at hpoll hleads
  cases hleads with
  | met settles => exact absurd ((settles _).2 rfl) (hs _)
  | failed settles => exact absurd ((settles _).2 rfl) (hs _)
  | @again w' passing _ means tells =>
      refine ⟨w', means, ?_⟩
      subst tells
      show (poll w >>= _).attempt.run server cancelAt t = _
      rw [Job.run_bind_of_ok hpoll, ← hr.stopped_eq _ _ means, ← between_eq]

/-- A poll that comes to nothing is where the wait stays. -/
theorem Recalls.run_endless (hr : W.Recalls Means p stopped poll observe)
    (hn : ∀ o, ((W.look p).run server cancelAt t).1 ≠ .done o) :
    (∀ r, ((p.wait stopped poll (k + 1) w).attempt.run server cancelAt t).1 ≠ .done r) ∧
      ∀ go, (p.wait stopped poll (k + 1) w).attempt.run server cancelAt t =
        Ending.andThen ((W.look p).run server cancelAt t) go := by
  show (∀ r, ((poll w >>= _).attempt.run server cancelAt t).1 ≠ .done r) ∧
    ∀ go, (poll w >>= _).attempt.run server cancelAt t = _
  rw [Job.run_bind, hr.poll_eq, Job.run_bind, Job.run_heeding]
  rcases hl : (W.look p).run server cancelAt t with ⟨o | _ | _ | _ | _, v⟩
  · exact absurd (congrArg Prod.fst hl) (hn o)
  all_goals exact ⟨nofun, fun _ => rfl⟩

/-- While nothing is settled the run of the wait is the run from where it has come to. -/
theorem Comes.run_eq (hr : W.Recalls Means p stopped poll observe) {w₀ : ω} (hm : Means [] w₀)
    (hc : W.Comes server cancelAt p n t₀ h t) (hu : W.Unsettled h) :
    ∃ w, Means h w ∧ (p.wait stopped poll n w₀).attempt.run server cancelAt t₀ =
      (p.wait stopped poll (n - h.length) w).attempt.run server cancelAt t := by
  induction hc with
  | first => exact ⟨w₀, hm, rfl⟩
  | @next h x t u v _ room found paused ih =>
      obtain ⟨hx, hu⟩ := unsettled_cons.1 hu
      obtain ⟨w, hw, hrun⟩ := ih hu
      have hlen : n - h.length = (n - (x :: h).length) + 1 := by
        rw [List.length_cons]
        omega
      obtain ⟨w', hw', hpoll⟩ := hr.run_unsettled hw found hx
      refine ⟨w', hw', ?_⟩
      rw [hrun, hlen, hpoll, Job.run_bind_of_ok (Job.run_heeding_of_done paused)]

/-- With a poll left, it is the run of that poll. -/
theorem Comes.run_poll_eq (hr : W.Recalls Means p stopped poll observe) {w₀ : ω} (hm : Means [] w₀)
    (hc : W.Comes server cancelAt p n t₀ h t) (room : h.length < n) (hu : W.Unsettled h) :
    ∃ w, Means h w ∧ (p.wait stopped poll n w₀).attempt.run server cancelAt t₀ =
      (p.wait stopped poll ((n - h.length - 1) + 1) w).attempt.run server cancelAt t := by
  obtain ⟨w, hw, hrun⟩ := hc.run_eq hr hm hu
  have hlen : n - h.length = (n - h.length - 1) + 1 := by omega
  exact ⟨w, hw, by rw [hrun, ← hlen]⟩

/-- What the polls lead to is the result of the wait. -/
theorem Ends.run_eq (hr : W.Recalls Means p stopped poll observe) {w₀ : ω} (hm : Means [] w₀)
    {r : Attempt Unit} (he : W.Ends server cancelAt p n t₀ h r u) :
    (p.wait stopped poll n w₀).attempt.run server cancelAt t₀ = (.done r, u) := by
  cases he with
  | settled finds settles first =>
      obtain ⟨hc, room, found⟩ := finds
      obtain ⟨w, hw, hrun⟩ := hc.run_poll_eq hr hm room first
      rw [hrun, hr.run_settled hw found settles]
  | interrupted cut unsettled =>
      cases cut with
      | inPoll hc room cut =>
          obtain ⟨w, hw, hrun⟩ := hc.run_poll_eq hr hm room unsettled
          rw [hrun, hr.run_cut hw cut]
      | inPause finds cut =>
          obtain ⟨hc, room, found⟩ := finds
          obtain ⟨hx, hu⟩ := unsettled_cons.1 unsettled
          obtain ⟨w, hw, hrun⟩ := hc.run_poll_eq hr hm room hu
          obtain ⟨w', _, hnext⟩ := hr.run_unsettled hw found hx
          rw [hrun, hnext]
          exact Job.run_bind_of_error (Job.run_heeding_of_done cut)

/-- From wherever polling has come to, the wait ends as the polls lead it to, or polling goes on. -/
theorem Comes.outcome (hr : W.Recalls Means p stopped poll observe) (hm : Means h w)
    (hc : W.Comes server cancelAt p n t₀ h t) (hu : W.Unsettled h) (hk : h.length + k = n)
    {run : Ending (Attempt Unit) × Timeline σ}
    (hrun : (p.wait stopped poll k w).attempt.run server cancelAt t = run) :
    (∃ r u, run = (.done r, u) ∧ ∃ h, W.Ends server cancelAt p n t₀ h r u) ∨
      (∀ r, run.1 ≠ .done r) ∧ W.Remains server cancelAt p n t₀ run := by
  -- on the polls that are left
  induction k generalizing h w t with
  | zero =>
      obtain rfl : (.exhausted, t) = run := hrun
      exact .inr ⟨nofun, .polled hc hk hu⟩
  | succ k ih =>
      have room : h.length < n := by omega
      by_cases hdone : ∃ o, ((W.look p).run server cancelAt t).1 = .done o
      · obtain ⟨o, ho⟩ := hdone
        generalize hu' : ((W.look p).run server cancelAt t).2 = u
        have hlook : (W.look p).run server cancelAt t = (.done o, u) := by rw [← ho, ← hu']
        cases o with
        | error i =>
            rw [hr.run_cut hm hlook] at hrun
            exact .inl ⟨_, u, hrun.symm, h, .interrupted (.inPoll hc room hlook) hu⟩
        | ok x =>
            by_cases hs : ∃ r, W.Settles (x :: h) r
            · obtain ⟨r, hs⟩ := hs
              rw [hr.run_settled hm hlook hs] at hrun
              exact .inl ⟨r, u, hrun.symm, x :: h, .settled ⟨hc, room, hlook⟩ hs hu⟩
            · have hx : ∀ r, ¬ W.Settles (x :: h) r := fun r hr => hs ⟨r, hr⟩
              have hu' : W.Unsettled (x :: h) := unsettled_cons.2 ⟨hx, hu⟩
              obtain ⟨w', hw', hnext⟩ := hr.run_unsettled (k := k) hm hlook hx
              rw [hnext] at hrun
              obtain ⟨o, v, hpause, _⟩ := run_pause_cases W server cancelAt p (x :: h) u
              cases o with
              | error i =>
                  rw [Job.run_bind_of_error (Job.run_heeding_of_done hpause)] at hrun
                  exact .inl ⟨_, v, hrun.symm, x :: h,
                    .interrupted (.inPause ⟨hc, room, hlook⟩ hpause) hu'⟩
              | ok =>
                  rw [Job.run_bind_of_ok (Job.run_heeding_of_done hpause)] at hrun
                  have hlen : (x :: h).length + k = n := by
                    rw [List.length_cons]
                    omega
                  exact ih hw' (.next hc room hlook hpause) hu' hlen hrun
      · have hn : ∀ o, ((W.look p).run server cancelAt t).1 ≠ .done o := fun o ho => hdone ⟨o, ho⟩
        obtain ⟨hresult, hend⟩ := hr.run_endless (k := k) (w := w) hn
        rw [hrun] at hresult hend
        exact .inr ⟨hresult, .inPoll hc room hu hn hend⟩

/-- A wait goes by what its polls find if what it remembers stands for it. -/
theorem goesBy_of_recalls (hr : W.Recalls Means p stopped poll observe) {w₀ : ω}
    (hm : Means [] w₀) (hnone : ∀ r, ¬ W.Settles [] r) :
    W.GoesBy server cancelAt p n t₀
      ((p.wait stopped poll n w₀).attempt.run server cancelAt t₀) := by
  have hstart : W.Unsettled [] := by
    intro g hg r
    rw [List.suffix_nil.1 hg]
    exact hnone r
  have hfirst : W.Comes server cancelAt p n t₀ [] t₀ := .first
  -- the run returns what the rule says, or does not return
  have houtcome := hfirst.outcome hr hm hstart (Nat.zero_add n) rfl
  constructor
  case result_iff =>
    intro r u
    constructor
    · intro hrun
      rcases houtcome with ⟨r', u', hrun', hends⟩ | ⟨hresult, _⟩
      · obtain ⟨rfl, rfl⟩ : r' = r ∧ u' = u := by
          rw [hrun] at hrun'
          cases hrun'
          exact ⟨rfl, rfl⟩
        exact hends
      · exact absurd (congrArg Prod.fst hrun) (hresult r)
    · rintro ⟨h, hends⟩
      exact hends.run_eq hr hm
  case remains =>
    intro hresult
    rcases houtcome with ⟨r, u, hrun, _⟩ | ⟨_, hremains⟩
    · exact absurd (congrArg Prod.fst hrun) (hresult r)
    · exact hremains
  case next =>
    rintro _ u ⟨hc, room, found⟩ ho
    exact .next hc room found (run_pause_open _ ho)

end

/-! ## Waits that start -/

/-- A run goes as waits go if the clock reaches to the deadline. Otherwise the wait does not start:
the program crashes, and nothing has been asked. -/
structure Starts (timeout : Option Nat) (t : Timeline σ)
    (Goes : Ending (Attempt Unit) × Timeline σ → Prop) (run : Ending (Attempt Unit) × Timeline σ) :
    Prop where
  reached : Clock.Reaches t.time timeout → Goes run
  beyond : ¬ Clock.Reaches t.time timeout → run = (.crashed Pacer.beyondClock, t)

theorem starts_bind {timeout : Option Nat} {t : Timeline σ} {interval : Nat} {f : Pacer → Job Unit}
    {Goes : Ending (Attempt Unit) × Timeline σ → Prop}
    (h : Goes ((f ⟨interval, timeout.map (t.time + ·)⟩).attempt.run server cancelAt t)) :
    Starts timeout t Goes ((Pacer.start interval timeout >>= f).attempt.run server cancelAt t) where
  reached hr := by
    rw [Job.run_bind_of_ok (Job.run_start hr)]
    exact h
  beyond hr := Job.run_bind_of_crashed (Job.run_start_beyond hr)

/-! ## What is told in passing -/

/-- What a wait tells in passing of its findings, the latest first. -/
def said (W : Watch ι) : List ι → List String
  | [] => []
  | x :: h => (W.telling (x :: h)).toList ++ W.said h

/-- The polls themselves tell nothing in passing. -/
def Silent (W : Watch ι) (server : Server σ) (cancelAt : Option Nat) (p : Pacer) : Prop :=
  ∀ t, passings ((W.look p).run server cancelAt t).2.seen = passings t.seen

section

variable {h : List ι} {r : Attempt Unit} {t u v : Timeline σ} {o : Except Interruption Unit}

theorem Silent.passings_eq (hs : W.Silent server cancelAt p)
    {e : Ending (Except Interruption ι)} (hu : (W.look p).run server cancelAt t = (e, u)) :
    passings u.seen = passings t.seen := by
  rw [← hs t, hu]

theorem passings_pause (hv : (W.pause p h).run server cancelAt u = (.done o, v)) :
    passings v.seen = (W.telling h).toList ++ passings u.seen := by
  obtain ⟨o', v', hrun, hseen⟩ := run_pause_cases W server cancelAt p h u
  rw [hv] at hrun
  obtain rfl : v = v' := congrArg Prod.snd hrun
  rw [hseen]
  cases W.telling h <;> rfl

/-- Until the next poll is due the wait has told of every finding. -/
theorem Comes.passings_eq (hs : W.Silent server cancelAt p)
    (hc : W.Comes server cancelAt p n t₀ h t) : passings t.seen = W.said h ++ passings t₀.seen := by
  induction hc with
  | first => rfl
  | @next h x t u v _ _ found paused ih =>
      rw [passings_pause paused, hs.passings_eq found, ih, ← List.append_assoc]
      rfl

theorem Finds.passings_eq (hs : W.Silent server cancelAt p)
    (hf : W.Finds server cancelAt p n t₀ h u) :
    passings u.seen = W.said h.tail ++ passings t₀.seen := by
  cases hf with
  | @intro h x t _ hc room found =>
      show passings u.seen = W.said h ++ passings t₀.seen
      rw [hs.passings_eq found, hc.passings_eq hs]

/-- When it ends it has told of every finding, if it has nothing to tell of the last one. -/
theorem Ends.passings_eq (hs : W.Silent server cancelAt p)
    (hlast : ∀ h r, W.Settles h r → W.telling h = none)
    (he : W.Ends server cancelAt p n t₀ h r u) :
    passings u.seen = W.said h ++ passings t₀.seen := by
  have hfinds : ∀ {h : List ι} {u : Timeline σ}, W.Finds server cancelAt p n t₀ h u →
      (W.telling h).toList ++ passings u.seen = W.said h ++ passings t₀.seen := by
    intro h u hf
    rw [hf.passings_eq hs]
    cases hf
    rw [← List.append_assoc]
    rfl
  cases he with
  | settled finds settles _ =>
      have h := hfinds finds
      rw [hlast _ _ settles] at h
      exact h
  | interrupted cut _ =>
      cases cut with
      | inPoll hc _ cut => rw [hs.passings_eq cut, hc.passings_eq hs]
      | inPause finds cut => rw [passings_pause cut, hfinds finds]

end

end Watch

end OsdMigration
