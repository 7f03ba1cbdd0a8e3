import OsdMigration.Procedure.Run

set_option autoImplicit false

/-! # Laws of procedures

Procedures form a lawful monad, and a run of one procedure after another is one run after another
(`runWithin_bind`). Every run keeps to its limit (`inTime_runWithin`): the clock never goes back,
work ends before its limit or is abandoned exactly at it, and a run that nothing encloses is not
abandoned at all (`run_ne_abandoned`).
-/

namespace OsdMigration

open Cluster (Request)

theorem Ending.andThen_assoc {σ α β γ : Type} (e : Ending α × Timeline σ)
    (f : α → Timeline σ → Ending β × Timeline σ) (g : β → Timeline σ → Ending γ × Timeline σ) :
    Ending.andThen (Ending.andThen e f) g
      = Ending.andThen e fun a t => Ending.andThen (f a t) g := by
  obtain ⟨_ | _ | _ | _ | _, t⟩ := e <;> rfl

theorem Ending.andThen_waiting {σ α β : Type} (limit : Option Limit) (t : Timeline σ)
    (f : α → Timeline σ → Ending β × Timeline σ) :
    Ending.andThen (Ending.waiting limit t) f = Ending.waiting limit t := by
  cases limit <;> rfl

/-- To be caught takes no time, and changes nothing. -/
theorem Ending.caught_snd {σ β : Type} (depth : Nat) (e : Ending β × Timeline σ) :
    (Ending.caught depth e).2 = e.2 := by
  obtain ⟨_ | ⟨cause, d⟩ | _ | _ | _, t⟩ := e
  case abandoned =>
    simp only [Ending.caught]
    split <;> rfl
  all_goals rfl

/-- Only work that runs out of polls is caught as such. -/
theorem Ending.exhausted_of_caught {σ β : Type} {depth : Nat} {e : Ending β × Timeline σ}
    (h : (Ending.caught depth e).1 = .exhausted) : e.1 = .exhausted := by
  obtain ⟨_ | ⟨cause, d⟩ | _ | _ | _, t⟩ := e
  case abandoned =>
    simp only [Ending.caught] at h
    split at h <;> cases h
  case exhausted => rfl
  all_goals cases h

/-- Only a crash is caught as such. -/
theorem Ending.crashed_of_caught {σ β : Type} {depth : Nat} {message : String}
    {e : Ending β × Timeline σ} (h : (Ending.caught depth e).1 = .crashed message) :
    e.1 = .crashed message := by
  obtain ⟨_ | ⟨cause, d⟩ | _ | _ | _, t⟩ := e
  case abandoned =>
    simp only [Ending.caught] at h
    split at h <;> cases h
  case crashed =>
    cases h
    rfl
  all_goals cases h

/-- Only work that is stuck is caught as such. -/
theorem Ending.stuck_of_caught {σ β : Type} {depth : Nat} {e : Ending β × Timeline σ}
    (h : (Ending.caught depth e).1 = .stuck) : e.1 = .stuck := by
  obtain ⟨_ | ⟨cause, d⟩ | _ | _ | _, t⟩ := e
  case abandoned =>
    simp only [Ending.caught] at h
    split at h <;> cases h
  case stuck => rfl
  all_goals cases h

namespace Procedure

instance : LawfulMonad Procedure :=
  LawfulMonad.mk' Procedure (fun p => bind_pure p) (fun _ _ => rfl)
    (fun p f g => bind_assoc p f g)

variable {σ : Type}

/-- Running one procedure after another is running one after another. -/
theorem runWithin_bind (server : Server σ) (cancelAt : Option Nat) {α β : Type}
    (p : Procedure α) (f : α → Procedure β) (limit : Option Limit) (depth : Nat)
    (t : Timeline σ) :
    (p.bind f).runWithin server cancelAt limit depth t =
      Ending.andThen (p.runWithin server cancelAt limit depth t) fun a t =>
        (f a).runWithin server cancelAt limit depth t := by
  induction p generalizing limit depth t with
  | pure a => rfl
  | exhausted => rfl
  | crash message => rfl
  | tell m next ih => simp only [bind, runWithin, ih]
  | clock next ih => simp only [bind, runWithin, ih]
  | sleep d next ih =>
    simp only [bind, runWithin]
    split
    · exact ih ..
    · exact (Ending.andThen_waiting ..).symm
  | call r next ih =>
    simp only [bind, runWithin]
    split
    · exact (Ending.andThen_waiting ..).symm
    · split
      · exact ih ..
      · exact (Ending.andThen_waiting ..).symm
  | within deadline work next _ ih =>
    simp only [bind, runWithin]
    split
    · exact ih ..
    · rw [Ending.andThen_assoc]
      congr 1
      funext o t
      exact ih ..

/-! ## Time -/

/-- Whether a limit is still to come. -/
def Ahead (now : Nat) (limit : Option Limit) : Prop := ∀ l ∈ limit, now < l.time

theorem ahead_earlier {now : Nat} {l m : Option Limit} (hl : Ahead now l) (hm : Ahead now m) :
    Ahead now (Limit.earlier l m) := by
  cases l with
  | none => exact hm
  | some l =>
    cases m with
    | none => exact hl
    | some m =>
      simp only [Limit.earlier]
      split
      · exact hm
      · exact hl

/-- The earlier of two limits is one of them, and the second only if it comes before the first. -/
theorem mem_earlier {l m : Option Limit} {b : Limit} (hb : b ∈ Limit.earlier l m) :
    b ∈ l ∨ b ∈ m ∧ ∀ a ∈ l, b.time < a.time := by
  cases l with
  | none => exact .inr ⟨hb, nofun⟩
  | some l =>
    cases m with
    | none => exact .inl hb
    | some m =>
      simp only [Limit.earlier] at hb
      split at hb
      · rename_i h
        obtain rfl : m = b := Option.some.inj hb
        refine .inr ⟨rfl, fun a ha => ?_⟩
        obtain rfl : l = a := Option.some.inj ha
        exact h
      · exact .inl hb

/-- If there is a first limit, the earlier of the two is not behind it. -/
theorem exists_mem_earlier {l m : Option Limit} {a : Limit} (ha : a ∈ l) :
    ∃ b ∈ Limit.earlier l m, b.time ≤ a.time := by
  obtain rfl : l = some a := ha
  cases m with
  | none => exact ⟨a, rfl, Nat.le_refl _⟩
  | some m =>
    simp only [Limit.earlier]
    split
    · rename_i h
      exact ⟨m, rfl, Nat.le_of_lt h⟩
    · exact ⟨a, rfl, Nat.le_refl _⟩

/-- The limits that a piece of work adds are at its depth. -/
theorem depth_ofWork {cancelAt deadline : Option Nat} {depth : Nat} {b : Limit}
    (hb : b ∈ Limit.ofWork cancelAt deadline depth) : b.depth = depth := by
  rcases mem_earlier hb with h | ⟨h, _⟩ <;>
    obtain ⟨t, _, rfl⟩ := Option.map_eq_some_iff.1 h <;> rfl

/-- Work that is not abandoned before it starts has its limits ahead. -/
theorem ahead_ofWork {cancelAt deadline : Option Nat} {now depth : Nat}
    (h : Limit.atStart? cancelAt deadline now = none) :
    Ahead now (Limit.ofWork cancelAt deadline depth) := by
  have hc : cancelAt.any (· ≤ now) = false := by
    cases hc : cancelAt.any (· ≤ now) with
    | true => simp [Limit.atStart?, hc] at h
    | false => rfl
  have hd : deadline.any (· ≤ now) = false := by
    cases hd : deadline.any (· ≤ now) with
    | true => simp [Limit.atStart?, hc, hd] at h
    | false => rfl
  apply ahead_earlier
  · intro l hl
    obtain ⟨t, rfl, rfl⟩ := Option.map_eq_some_iff.1 hl
    simpa using hc
  · intro l hl
    obtain ⟨t, rfl, rfl⟩ := Option.map_eq_some_iff.1 hl
    simpa using hd

/-- What is due before the limit leaves the limit ahead. -/
theorem ahead_before {limit : Option Limit} {due : Option Nat} {u : Nat}
    (h : Limit.before? limit due = some u) : due = some u ∧ Ahead u limit := by
  obtain ⟨hd, hl⟩ := Option.filter_eq_some_iff.1 h
  refine ⟨hd, fun l hm => ?_⟩
  obtain rfl : limit = some l := hm
  simpa using hl

/-- What holds of a run that began at a time before its limit: it did not go back, it ended at the
limit at the latest, and before the limit if it came to a result. If it was abandoned, then by the
limit and at its instant. -/
structure InTime {α : Type} (now : Nat) (limit : Option Limit) (e : Ending α × Timeline σ) :
    Prop where
  le_time : now ≤ e.2.time
  time_le : ∀ l ∈ limit, e.2.time ≤ l.time
  ahead : ∀ a, e.1 = .done a → Ahead e.2.time limit
  atLimit : ∀ cause depth, e.1 = .abandoned cause depth →
    ⟨e.2.time, cause, depth⟩ ∈ limit

theorem inTime_waiting {α : Type} {now : Nat} {limit : Option Limit} {t : Timeline σ}
    (h : Ahead t.time limit) (hn : now ≤ t.time) :
    InTime now limit (Ending.waiting limit t : Ending α × Timeline σ) := by
  cases limit with
  | none => exact ⟨hn, nofun, nofun, nofun⟩
  | some l =>
    refine ⟨Nat.le_trans hn (Nat.le_of_lt (h l rfl)), fun m hm => ?_, nofun, ?_⟩
    · obtain rfl : l = m := Option.some.inj hm
      exact Nat.le_refl _
    · rintro cause depth ⟨⟩
      rfl

theorem InTime.mono {α : Type} {now later : Nat} {limit : Option Limit}
    {e : Ending α × Timeline σ} (h : InTime later limit e) (hn : now ≤ later) :
    InTime now limit e :=
  ⟨Nat.le_trans hn h.le_time, h.time_le, h.ahead, h.atLimit⟩

/-- The work of a run that keeps to an inner limit is caught in time for the outer one. -/
theorem InTime.caught {β : Type} {now depth : Nat} {limit : Option Limit}
    {cancelAt deadline : Option Nat} {e : Ending β × Timeline σ}
    (h : InTime now (Limit.earlier limit (Limit.ofWork cancelAt deadline depth)) e)
    (hd : ∀ l ∈ limit, l.depth < depth) : InTime now limit (Ending.caught depth e) := by
  have hle : ∀ l ∈ limit, e.2.time ≤ l.time := fun l hl =>
    let ⟨b, hb, hbl⟩ := exists_mem_earlier hl
    Nat.le_trans (h.time_le b hb) hbl
  obtain ⟨r, t⟩ := e
  cases r with
  | done b =>
    refine ⟨h.le_time, hle, fun _ _ l hl => ?_, nofun⟩
    obtain ⟨b', hb, hbl⟩ := exists_mem_earlier hl
    exact Nat.lt_of_lt_of_le (h.ahead b rfl b' hb) hbl
  | stuck => exact ⟨h.le_time, hle, nofun, nofun⟩
  | exhausted => exact ⟨h.le_time, hle, nofun, nofun⟩
  | crashed message => exact ⟨h.le_time, hle, nofun, nofun⟩
  | abandoned cause d =>
    have hl := h.atLimit cause d rfl
    simp only [Ending.caught]
    split
    · rename_i hdd
      refine ⟨h.le_time, hle, fun _ _ l hm => ?_, nofun⟩
      rcases mem_earlier hl with hm' | ⟨_, hlt⟩
      · exact absurd (hd _ hm') (by simp [hdd])
      · exact hlt l hm
    · rename_i hdd
      refine ⟨h.le_time, hle, nofun, ?_⟩
      rintro _ _ ⟨⟩
      rcases mem_earlier hl with hm | ⟨hm, _⟩
      · exact hm
      · exact absurd (depth_ofWork hm) hdd

/-- The limit of a piece of work that starts is ahead, and no deeper than the work. -/
theorem inner_limit {cancelAt deadline : Option Nat} {now depth : Nat} {limit : Option Limit}
    (h : Ahead now limit) (hd : ∀ l ∈ limit, l.depth < depth)
    (hs : Limit.atStart? cancelAt deadline now = none) :
    Ahead now (Limit.earlier limit (Limit.ofWork cancelAt deadline depth)) ∧
      ∀ l ∈ Limit.earlier limit (Limit.ofWork cancelAt deadline depth), l.depth < depth + 1 := by
  refine ⟨ahead_earlier h (ahead_ofWork hs), fun l hl => ?_⟩
  rcases mem_earlier hl with hm | ⟨hm, _⟩
  · exact Nat.lt_succ_of_lt (hd l hm)
  · exact depth_ofWork hm ▸ Nat.lt_succ_self _

/-- Every run keeps to its limit. -/
theorem inTime_runWithin (server : Server σ) (cancelAt : Option Nat) {α : Type}
    (p : Procedure α) (limit : Option Limit) (depth : Nat) (t : Timeline σ)
    (h : Ahead t.time limit) (hd : ∀ l ∈ limit, l.depth < depth) :
    InTime t.time limit (p.runWithin server cancelAt limit depth t) := by
  -- on the procedure: the limit is ahead before each step, and time stands at it at the latest
  induction p generalizing limit depth t with
  | pure a => exact ⟨Nat.le_refl _, fun l hl => Nat.le_of_lt (h l hl), fun _ _ => h, nofun⟩
  | exhausted => exact ⟨Nat.le_refl _, fun l hl => Nat.le_of_lt (h l hl), nofun, nofun⟩
  | crash message => exact ⟨Nat.le_refl _, fun l hl => Nat.le_of_lt (h l hl), nofun, nofun⟩
  | tell m next ih => exact ih limit depth { t with seen := .told t.time m :: t.seen } h hd
  | clock next ih => exact ih t.time limit depth t h hd
  | sleep d next ih =>
    simp only [runWithin]
    split
    · rename_i u hu
      obtain ⟨hu, ha⟩ := ahead_before hu
      obtain rfl : t.time + d = u := Option.some.inj hu
      exact (ih limit depth { t with time := t.time + d } ha hd).mono (Nat.le_add_right ..)
    · exact inTime_waiting h (Nat.le_refl _)
  | call r next ih =>
    simp only [runWithin]
    split
    · exact inTime_waiting h (Nat.le_refl _)
    · rename_i u hu
      obtain ⟨hu, ha⟩ := ahead_before hu
      obtain ⟨delay, _, rfl⟩ := Option.map_eq_some_iff.1 hu
      split
      · exact (ih _ limit depth ⟨_, _, _⟩ ha hd).mono (Nat.le_add_right ..)
      · exact inTime_waiting ha (Nat.le_add_right ..)
  | within deadline work next ihw ih =>
    simp only [runWithin]
    split
    · exact ih _ limit depth t h hd
    · rename_i hs
      obtain ⟨hinner, hdepth⟩ := inner_limit h hd hs
      have hw := (ihw _ (depth + 1) t hinner hdepth).caught hd
      generalize Ending.caught depth (work.runWithin server cancelAt
        (Limit.earlier limit (Limit.ofWork cancelAt deadline depth)) (depth + 1) t) = e at hw
      obtain ⟨o, u⟩ := e
      cases o with
      | done o => exact (ih o limit depth u (hw.ahead o rfl) hd).mono hw.le_time
      | stuck => exact ⟨hw.le_time, hw.time_le, nofun, nofun⟩
      | exhausted => exact ⟨hw.le_time, hw.time_le, nofun, nofun⟩
      | crashed message => exact ⟨hw.le_time, hw.time_le, nofun, nofun⟩
      | abandoned cause d =>
        refine ⟨hw.le_time, hw.time_le, nofun, ?_⟩
        rintro _ _ ⟨⟩
        exact hw.atLimit cause d rfl

/-- A run that nothing encloses is not abandoned. -/
theorem run_ne_abandoned (server : Server σ) (cancelAt : Option Nat) {α : Type}
    (p : Procedure α) (t : Timeline σ) (cause : Interruption) (depth : Nat) :
    (p.run server cancelAt t).1 ≠ .abandoned cause depth := fun h =>
  nomatch (inTime_runWithin server cancelAt p none 0 t nofun nofun).atLimit cause depth h

end Procedure

end OsdMigration
