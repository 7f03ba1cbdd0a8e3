import OsdMigration.Procedure.Lemmas

set_option autoImplicit false

/-! # Invariants of runs

What can happen in a run is that something is told, that time passes, and that requests are received
and answered. A property of timelines that survives each of these survives every run
(`Server.Preserves.run`). One that relates the state of the server to the events so far does not
depend on the time (`Server.Keeps.run`).
-/

namespace OsdMigration

open Cluster (Request)

variable {σ : Type}

/-- A property of timelines that everything which can happen in a run keeps. -/
structure Server.Preserves (server : Server σ) (I : Timeline σ → Prop) : Prop where
  told : ∀ {t m}, I t → I { t with seen := .told t.time m :: t.seen }
  passed : ∀ {t u}, I t → t.time ≤ u → I { t with time := u }
  received : ∀ {t r}, I t →
    I ⟨t.time, (server.receive t.time r t.server).2, .called t.time r :: t.seen⟩
  answered : ∀ {t r a s}, I t → server.answer t.time r t.server = (some a, s) →
    I ⟨t.time, s, .answered t.time r a :: t.seen⟩
  /-- A request that hangs may have changed the state before. -/
  hung : ∀ {t} {r : Request} {s}, I t → server.answer t.time r t.server = (none, s) →
    I { t with server := s }

namespace Server.Preserves

open Procedure

variable {server : Server σ} {I : Timeline σ → Prop}

theorem waiting (hI : server.Preserves I) {α : Type} {limit : Option Limit} {t : Timeline σ}
    (h : I t) (ha : Ahead t.time limit) : I (Ending.waiting limit t : Ending α × Timeline σ).2 := by
  cases limit with
  | none => exact h
  | some l => exact hI.passed h (Nat.le_of_lt (ha l rfl))

theorem runWithin (hI : server.Preserves I) (cancelAt : Option Nat) {α : Type} (p : Procedure α)
    (limit : Option Limit) (depth : Nat) (t : Timeline σ) (ha : Ahead t.time limit)
    (hd : ∀ l ∈ limit, l.depth < depth) (h : I t) :
    I (p.runWithin server cancelAt limit depth t).2 := by
  -- on the procedure, for every limit: the limit is ahead at each of its steps
  induction p generalizing limit depth t with
  | pure a => exact h
  | exhausted => exact h
  | crash message => exact h
  | tell m next ih =>
      exact ih limit depth { t with seen := .told t.time m :: t.seen } ha hd (hI.told h)
  | clock next ih => exact ih t.time limit depth t ha hd h
  | sleep d next ih =>
      simp only [Procedure.runWithin]
      split
      · rename_i u hu
        obtain ⟨hu, ha⟩ := ahead_before hu
        obtain rfl : t.time + d = u := Option.some.inj hu
        exact ih limit depth { t with time := t.time + d } ha hd (hI.passed h (Nat.le_add_right ..))
      · exact hI.waiting h ha
  | call r next ih =>
      have hr := hI.received (r := r) h
      simp only [Procedure.runWithin]
      split
      · exact hI.waiting hr ha
      · rename_i u hu
        obtain ⟨hu, ha⟩ := ahead_before hu
        obtain ⟨delay, _, rfl⟩ := Option.map_eq_some_iff.1 hu
        have hp := hI.passed hr (Nat.le_add_right t.time delay)
        split
        · rename_i a s hs
          exact ih a limit depth ⟨_, s, _⟩ ha hd (hI.answered hp hs)
        · rename_i s hs
          exact hI.waiting (hI.hung hp hs) ha
  | within deadline work next ihw ih =>
      simp only [Procedure.runWithin]
      split
      · exact ih _ limit depth t ha hd h
      · rename_i hs
        obtain ⟨hinner, hdepth⟩ := inner_limit ha hd hs
        -- the work has the nearer of two limits; cut off by its own, it is followed by the rest
        have hw := ihw _ (depth + 1) t hinner hdepth h
        have ht := (inTime_runWithin server cancelAt work _ (depth + 1) t hinner hdepth).caught hd
        rw [← Ending.caught_snd depth] at hw
        generalize Ending.caught depth (work.runWithin server cancelAt
          (Limit.earlier limit (Limit.ofWork cancelAt deadline depth)) (depth + 1) t) = e at hw ht
        obtain ⟨o | _ | _ | _ | _, u⟩ := e
        · exact ih o limit depth u (ht.ahead o rfl) hd hw
        all_goals exact hw

/-- What is preserved holds at the end of every run. -/
theorem run (hI : server.Preserves I) (cancelAt : Option Nat) {α : Type} (p : Procedure α)
    {t : Timeline σ} (h : I t) : I (p.run server cancelAt t).2 :=
  hI.runWithin cancelAt p none 0 t nofun nofun h

end Server.Preserves

/-- A relation between the state of a server and what was seen, the latest first, that everything
which can happen in a run keeps. -/
structure Server.Keeps (server : Server σ) (I : σ → List Event → Prop) : Prop where
  told : ∀ {t m s seen}, I s seen → I s (.told t m :: seen)
  received : ∀ {t r s seen}, I s seen → I (server.receive t r s).2 (.called t r :: seen)
  answered : ∀ {u r s a s' seen}, I s seen → server.answer u r s = (some a, s') →
    I s' (.answered u r a :: seen)
  /-- A request that hangs may have changed the state before. -/
  hung : ∀ {u} {r : Request} {s s' seen}, I s seen → server.answer u r s = (none, s') → I s' seen

namespace Server.Keeps

variable {server : Server σ} {I : σ → List Event → Prop}

theorem preserves (hI : server.Keeps I) : server.Preserves fun t => I t.server t.seen where
  told := hI.told
  passed := fun h _ => h
  received := hI.received
  answered := hI.answered
  hung := hI.hung

/-- What a server keeps holds at the end of every run. -/
theorem run (hI : server.Keeps I) (cancelAt : Option Nat) {α : Type} (p : Procedure α)
    {t : Timeline σ} (h : I t.server t.seen) :
    I (p.run server cancelAt t).2.server (p.run server cancelAt t).2.seen :=
  hI.preserves.run cancelAt p h

end Server.Keeps

end OsdMigration
