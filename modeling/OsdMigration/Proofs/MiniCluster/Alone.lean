import OsdMigration.Proofs.Course.Runs
import OsdMigration.Rehearsal

set_option autoImplicit false

/-! # Runs on a cluster that is left alone

Where nothing is planned and nothing is to come, the cluster does what it is asked and nothing
else. What was seen of a run then says what has become of the cluster (`MiniCluster.Leads`), however
the run ended and whenever it was cancelled (`leads_run`). In particular requests that change
nothing leave everything as it was, and their answers tell of it (`MiniCluster.Leads.unmoved`).
A request that nothing encloses is answered at once (`Job.run_ask`).
-/

namespace OsdMigration

open Cluster (Request)

/-- Nothing is planned and nothing is to come, and this is the cluster. -/
def Rehearsal.LeftAlone (m : MiniCluster) (h : Rehearsal) : Prop :=
  ∃ underWay, h = { cluster := m, underWay }

/-! ## What was sent and told -/

/-- Whether a request only looks. -/
def Cluster.Request.looks : Request → Bool
  | .getDeployment .. | .listPods .. | .listNodes => true
  | _ => false

/-- The request that was sent, if it does not only look. -/
def Event.mutation? : Event → Option Request
  | .called _ r => if r.looks then none else some r
  | _ => none

/-- What was sent to change something. -/
def mutations (seen : List Event) : List Request := seen.filterMap Event.mutation?

theorem mutations_append (a b : List Event) : mutations (a ++ b) = mutations a ++ mutations b :=
  List.filterMap_append

theorem mutations_exchange (now later : Nat) (r : Request) (a : Attempt r.Reply)
    (seen : List Event) : mutations (.answered later r a :: .called now r :: seen) =
      if r.looks then mutations seen else r :: mutations seen := by
  have hcalled : Event.mutation? (.called now r) = if r.looks then none else some r := rfl
  unfold mutations
  rw [List.filterMap_cons_none rfl]
  split
  · rename_i hlooks
    rw [if_pos hlooks] at hcalled
    rw [List.filterMap_cons_none hcalled]
  · rename_i hlooks
    rw [if_neg hlooks] at hcalled
    rw [List.filterMap_cons_some hcalled]

theorem mutations_of_looks {allowed : Request → Prop} {seen : List Event}
    (hlooks : ∀ r, allowed r → r.looks = true) (h : Asking allowed seen) : mutations seen = [] := by
  refine List.filterMap_eq_nil_iff.2 fun e he => ?_
  cases e with
  | called t r => simp [Event.mutation?, hlooks r (h.called he)]
  | answered t r a => rfl
  | told t x => rfl

/-- What was told to the user. -/
def messages (seen : List Event) : List Message :=
  seen.filterMap fun
    | .told _ x => some x
    | _ => none

/-! ## Where events lead -/

namespace MiniCluster

/-- What was seen, the earliest first, leads from one cluster to another: what was answered was
served by the cluster as it stood. A request without an answer was not carried out, unless it hung
in the cluster. -/
def Leads : List Event → MiniCluster → MiniCluster → Prop
  | [], m, m' => m' = m
  | .told .. :: seen, m, m' => Leads seen m m'
  | .called _ r :: seen, m, m' =>
    Leads seen m m' ∨ ∃ m₁, m.serve r = (none, m₁) ∧ Leads seen m₁ m'
  | .answered _ r a :: seen, m, m' => ∃ m₁, m.serve r = (some a, m₁) ∧ Leads seen m₁ m'

variable {m m' m'' : MiniCluster}

theorem Leads.append {a b : List Event} (ha : Leads a m m') (hb : Leads b m' m'') :
    Leads (a ++ b) m m'' := by
  induction a generalizing m with
  | nil =>
      obtain rfl : m' = m := ha
      exact hb
  | cons e a ih =>
      cases e with
      | told t x => exact ih ha
      | called t r =>
          rcases ha with ha | ⟨m₁, hs, ha⟩
          · exact .inl (ih ha)
          · exact .inr ⟨m₁, hs, ih ha⟩
      | answered t r x =>
          obtain ⟨m₁, hs, ha⟩ := ha
          exact ⟨m₁, hs, ih ha⟩

/-- Requests that the cluster answers without a change leave it as it was, and every answer is the
one that it gives. -/
theorem Leads.unmoved {seen : List Event} {allowed : Request → Prop}
    (hsame : ∀ r, allowed r → ∃ a, m.serve r = (some a, m)) (hask : Asking allowed seen)
    (h : Leads seen m m') :
    m' = m ∧ ∀ u r a, .answered u r a ∈ seen → m.serve r = (some a, m) := by
  induction seen with
  | nil => exact ⟨h, fun _ _ _ hmem => absurd hmem List.not_mem_nil⟩
  | cons e seen ih =>
      have hrest : Asking allowed seen := fun e' he' => hask e' (List.mem_cons_of_mem _ he')
      cases e with
      | told t x =>
          obtain ⟨hm, hanswers⟩ := ih hrest h
          exact ⟨hm, fun u r a hmem => hanswers u r a (by simpa using hmem)⟩
      | called t r =>
          -- what is served at once does not hang
          have hserved : Leads seen m m' := by
            rcases h with h | ⟨m₁, hs, _⟩
            · exact h
            · obtain ⟨a, ha⟩ := hsame r (hask _ List.mem_cons_self r rfl)
              rw [ha] at hs
              cases hs
          obtain ⟨hm, hanswers⟩ := ih hrest hserved
          exact ⟨hm, fun u r a hmem => hanswers u r a (by simpa using hmem)⟩
      | answered t r a =>
          obtain ⟨m₁, hs, h⟩ := h
          obtain ⟨a', ha⟩ := hsame r (hask _ List.mem_cons_self r rfl)
          obtain rfl : m₁ = m := by
            rw [ha] at hs
            exact (congrArg Prod.snd hs).symm
          obtain ⟨hm, hanswers⟩ := ih hrest h
          refine ⟨hm, fun u r' x hmem => ?_⟩
          rcases List.mem_cons.1 hmem with heq | hmem
          · cases heq
            exact hs
          · exact hanswers u r' x hmem

end MiniCluster

/-! ## Runs -/

open MiniCluster (Leads)

variable {m m' : MiniCluster}

/-- The request is received, and will be answered at once. -/
theorem receive_leftAlone {h : Rehearsal} (ha : h.LeftAlone m) (now : Nat) (r : Request) :
    Rehearsal.server.receive now r h =
      (some 0, { cluster := m, underWay := some ⟨r.kind, .forward 0⟩ }) := by
  obtain ⟨underWay, rfl⟩ := ha
  rfl

/-- The cluster serves the request that is under way. -/
theorem answer_leftAlone (now : Nat) (r : Request) :
    Rehearsal.server.answer now r { cluster := m, underWay := some ⟨r.kind, .forward 0⟩ } =
      ((m.serve r).1, { cluster := (m.serve r).2, underWay := some ⟨r.kind, .forward 0⟩ }) := by
  have hadvance : ∀ h : Rehearsal, h.changes = [] → h.advance now = h := by
    intro h hc
    cases h
    cases hc
    rfl
  simp only [Rehearsal.server, hadvance, dite_true]

section

variable {cancelAt : Option Nat} {t : Timeline Rehearsal}

/-- What a run has added so far leads to the cluster as it stands now. -/
def Explained {α : Type} (t : Timeline Rehearsal) (m : MiniCluster)
    (run : Ending α × Timeline Rehearsal) : Prop :=
  ∃ seen m', run.2.seen = seen.reverse ++ t.seen ∧ Leads seen m m' ∧ run.2.server.LeftAlone m'

/-- What is explained from a later point of a run is explained from an earlier one. -/
theorem Explained.after {α : Type} {u : Timeline Rehearsal}
    {run : Ending α × Timeline Rehearsal} (h : Explained u m' run) (seen : List Event)
    (hseen : u.seen = seen.reverse ++ t.seen) (hleads : Leads seen m m') : Explained t m run := by
  obtain ⟨added, m₁, hadded, hl, ha⟩ := h
  exact ⟨seen ++ added, m₁, by simp [hadded, hseen], hleads.append hl, ha⟩

theorem explained_waiting {α : Type} (limit : Option Limit) (ha : t.server.LeftAlone m) :
    Explained t m (Ending.waiting limit t : Ending α × Timeline Rehearsal) := by
  cases limit <;> exact ⟨[], m, rfl, rfl, ha⟩

/-- Every run is explained by what the cluster does. -/
theorem explained_runWithin (cancelAt : Option Nat) {α : Type} (p : Procedure α)
    (limit : Option Limit) (depth : Nat) (ha : t.server.LeftAlone m) :
    Explained t m (p.runWithin Rehearsal.server cancelAt limit depth t) := by
  -- what comes next is explained first, then the rest from where it leads
  induction p generalizing limit depth t m with
  | pure a => exact ⟨[], m, rfl, rfl, ha⟩
  | exhausted => exact ⟨[], m, rfl, rfl, ha⟩
  | crash message => exact ⟨[], m, rfl, rfl, ha⟩
  | tell x next ih =>
      have hrest := ih limit depth (t := { t with seen := .told t.time x :: t.seen }) ha
      exact hrest.after [.told t.time x] rfl rfl
  | clock next ih => exact ih t.time limit depth ha
  | sleep d next ih =>
      simp only [Procedure.runWithin]
      split
      · rename_i u _
        exact (ih limit depth (t := { t with time := u }) ha).after [] rfl rfl
      · exact explained_waiting limit ha
  | call r next ih =>
      have hsent : Leads [.called t.time r] m m := .inl rfl
      simp only [Procedure.runWithin, receive_leftAlone ha]
      split
      · exact (explained_waiting limit ⟨_, rfl⟩).after [.called t.time r] rfl hsent
      · rename_i u _
        rw [answer_leftAlone]
        cases hserve : m.serve r with
        | mk answer m₁ =>
            cases answer with
            | some a =>
                have hserved : Leads [.called t.time r, .answered u r a] m m₁ :=
                  .inl ⟨m₁, hserve, rfl⟩
                exact (ih a limit depth ⟨_, rfl⟩).after _ rfl hserved
            | none =>
                have hhung : Leads [.called t.time r] m m₁ := .inr ⟨m₁, hserve, rfl⟩
                exact (explained_waiting limit ⟨_, rfl⟩).after [.called t.time r] rfl hhung
  | within deadline work next ihw ih =>
      simp only [Procedure.runWithin]
      split
      · exact ih _ limit depth ha
      · obtain ⟨seen, m₁, hseen, hleads, ha₁⟩ := ihw
          (Limit.earlier limit (Limit.ofWork cancelAt deadline depth)) (depth + 1) ha
        rw [← Ending.caught_snd depth] at hseen ha₁
        generalize Ending.caught depth (work.runWithin Rehearsal.server cancelAt
          (Limit.earlier limit (Limit.ofWork cancelAt deadline depth)) (depth + 1) t) = e
          at hseen ha₁
        obtain ⟨o | _ | _ | _ | _, u⟩ := e
        · exact (ih o limit depth ha₁).after _ hseen hleads
        all_goals exact ⟨seen, m₁, hseen, hleads, ha₁⟩

/-- Every run of a job adds a course, and the course leads to the cluster at its end. -/
theorem leads_run (cancelAt : Option Nat) {α : Type} (job : Job α) (ha : t.server.LeftAlone m) :
    ∃ seen m', (job.attempt.run Rehearsal.server cancelAt t).2.seen = seen.reverse ++ t.seen ∧
      Job.Course job seen (job.attempt.run Rehearsal.server cancelAt t).1.result? ∧
      Leads seen m m' ∧ (job.attempt.run Rehearsal.server cancelAt t).2.server.LeftAlone m' := by
  obtain ⟨seen, m', hseen, hleads, ha'⟩ := explained_runWithin cancelAt job.attempt none 0 ha
  obtain ⟨added, hadded, hcourse⟩ := Job.course_run Rehearsal.server cancelAt job t
  obtain rfl : added = seen :=
    List.reverse_inj.1 (List.append_cancel_right (hadded.symm.trans hseen))
  exact ⟨added, m', hseen, hcourse, hleads, ha'⟩

/-- The outcome of a procedure is taken as it is, also if it is a failure. -/
theorem Job.run_ofProcedure {α : Type} {p : Procedure α} {a : α} {u : Timeline Rehearsal}
    (h : p.run Rehearsal.server cancelAt t = (.done a, u)) :
    (Job.ofProcedure p).attempt.run Rehearsal.server cancelAt t = (.done (.ok a), u) := by
  have hbind := Procedure.runWithin_bind Rehearsal.server cancelAt p
    (fun a => .pure (.ok a : Attempt α)) none 0 t
  rw [show p.runWithin Rehearsal.server cancelAt none 0 t = (.done a, u) from h] at hbind
  exact hbind

/-- A request that nothing encloses is answered at once. -/
theorem Job.run_ask (cancelAt : Option Nat) {r : Request} {a : Attempt r.Reply}
    (ha : t.server.LeftAlone m) (hs : m.serve r = (some a, m')) : ∃ server, server.LeftAlone m' ∧
      (Job.ask r).attempt.run Rehearsal.server cancelAt t =
        (.done a, ⟨t.time, server, .answered t.time r a :: .called t.time r :: t.seen⟩) := by
  refine ⟨_, ⟨some ⟨r.kind, .forward 0⟩, rfl⟩, ?_⟩
  change (Procedure.call r .pure).runWithin Rehearsal.server cancelAt none 0 t = _
  simp only [Procedure.runWithin, receive_leftAlone ha, answer_leftAlone, hs]
  rfl

end

end OsdMigration
