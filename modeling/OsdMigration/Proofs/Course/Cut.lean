import OsdMigration.Proofs.Course.Smooth

set_option autoImplicit false

/-! # One more limit

A piece of work runs within other work as it runs by itself, as long as it ends before the limit of
what encloses it, and else it is abandoned by that limit (`cut_runWithin`). By itself means without
the limit, and not so deep: what encloses it is counted too.
-/

namespace OsdMigration

variable {σ α β : Type}

/-! ## Limits one level deeper -/

namespace Limit

open Procedure (Ahead)

/-- The limit of a piece of work that one more piece of work encloses. -/
def deeper (l : Limit) : Limit := { l with depth := l.depth + 1 }

/-- The limit of work that is itself within an outer limit. -/
def under (outer limit : Option Limit) : Option Limit := earlier outer (limit.map deeper)

theorem earlier_none (l : Option Limit) : earlier l none = l := by
  cases l <;> rfl

theorem earlier_some (l m : Limit) :
    earlier (some l) (some m) = some (if m.time < l.time then m else l) := by
  rw [earlier]
  split <;> rfl

theorem earlier_assoc (l m n : Option Limit) :
    earlier (earlier l m) n = earlier l (earlier m n) := by
  cases l with
  | none => rfl
  | some l =>
      cases m with
      | none => rfl
      | some m =>
          cases n with
          | none => rw [earlier_none, earlier_none]
          | some n =>
              simp only [earlier_some, Option.some.injEq]
              by_cases hm : m.time < l.time <;> by_cases hn : n.time < m.time <;>
                by_cases hl : n.time < l.time <;> simp [hm, hn, hl] <;> omega

theorem earlier_map_deeper (l m : Option Limit) :
    earlier (l.map deeper) (m.map deeper) = (earlier l m).map deeper := by
  cases l with
  | none => rfl
  | some l =>
      cases m with
      | none => rfl
      | some m =>
          simp only [Option.map_some, earlier_some, deeper, Option.some.injEq]
          split <;> rfl

theorem ofWork_succ (cancelAt deadline : Option Nat) (depth : Nat) :
    ofWork cancelAt deadline (depth + 1) = (ofWork cancelAt deadline depth).map deeper := by
  rw [ofWork, ofWork, ← earlier_map_deeper, Option.map_map, Option.map_map]
  rfl

theorem earlier_under (outer limit : Option Limit) (cancelAt deadline : Option Nat) (depth : Nat) :
    earlier (under outer limit) (ofWork cancelAt deadline (depth + 1)) =
      under outer (earlier limit (ofWork cancelAt deadline depth)) := by
  rw [under, under, earlier_assoc, ofWork_succ, earlier_map_deeper]

theorem before?_eq_some_iff {limit : Option Limit} {due : Option Nat} {u : Nat} :
    before? limit due = some u ↔ due = some u ∧ Ahead u limit := by
  refine ⟨Procedure.ahead_before, ?_⟩
  rintro ⟨rfl, h⟩
  exact Job.Smooth.before?_of_ahead h

theorem before?_eq_none {limit : Option Limit} {u : Nat} (h : ¬ Ahead u limit) :
    before? limit (some u) = none := by
  rw [Option.eq_none_iff_forall_ne_some]
  intro u' hu'
  obtain ⟨hu', hahead⟩ := before?_eq_some_iff.1 hu'
  obtain rfl : u = u' := Option.some.inj hu'
  exact h hahead

theorem ahead_under_iff {outer limit : Option Limit} {u : Nat} :
    Ahead u (under outer limit) ↔ Ahead u outer ∧ Ahead u limit := by
  cases outer with
  | none => cases limit <;> simp [Ahead, under, earlier, deeper]
  | some l =>
      cases limit with
      | none => simp [Ahead, under, earlier]
      | some m =>
          simp only [Ahead, under, Option.map_some, earlier_some, Option.mem_def,
            Option.some.injEq, forall_eq']
          split <;> simp only [deeper] at * <;> omega

/-- Something due comes before a limit and an outer limit, or it comes before the limit but the
outer limit is first, or the limit is before it. -/
theorem before?_under (outer limit : Option Limit) (due : Option Nat) :
    (∃ u, before? limit due = some u ∧ before? (under outer limit) due = some u ∧ Ahead u outer) ∨
    (∃ u l, before? limit due = some u ∧ under outer limit = some l ∧
      before? (some l) due = none ∧ l ∈ outer ∧ l.time ≤ u) ∨
    before? limit due = none ∧ before? (under outer limit) due = none := by
  cases due with
  | none => exact .inr (.inr ⟨rfl, rfl⟩)
  | some u =>
      by_cases hl : Ahead u limit
      · have hb : before? limit (some u) = some u := before?_eq_some_iff.2 ⟨rfl, hl⟩
        by_cases ho : Ahead u outer
        · exact .inl ⟨u, hb, before?_eq_some_iff.2 ⟨rfl, ahead_under_iff.2 ⟨ho, hl⟩⟩, ho⟩
        · cases outer with
          | none => exact absurd nofun ho
          | some l =>
              have hlate : l.time ≤ u := by
                refine Nat.le_of_not_lt fun hlt => ho fun l' hl' => ?_
                rwa [← Option.some.inj hl']
              have hfirst : under (some l) limit = some l := by
                cases limit with
                | none => rfl
                | some m =>
                    have hm : u < m.time := hl m rfl
                    exact if_neg (show ¬ m.time < l.time by omega)
              exact .inr (.inl ⟨u, l, hb, hfirst, before?_eq_none ho, rfl, hlate⟩)
      · exact .inr (.inr ⟨before?_eq_none hl,
          before?_eq_none fun h => hl (ahead_under_iff.1 h).2⟩)

end Limit

/-! ## Runs one level deeper -/

/-- The end of a run, seen from one level further out. -/
def Ending.deeper : Ending α → Ending α
  | .abandoned cause depth => .abandoned cause (depth + 1)
  | e => e

namespace Procedure

/-- How a run ends when an outer limit encloses it: as it does by itself if it ends before the
limit, and else at the limit. -/
inductive Cut (outer : Option Limit) (e : Ending α × Timeline σ) : Ending α × Timeline σ → Prop
  | early (moves : e.1 = .stuck → outer = none) (ahead : Ahead e.2.time outer) :
      Cut outer e (e.1.deeper, e.2)
  | late {l : Limit} (hl : l ∈ outer) (late : e.1 = .stuck ∨ l.time ≤ e.2.time)
      {v : Timeline σ} (time : v.time = l.time) : Cut outer e (.abandoned l.cause l.depth, v)

variable {outer limit : Option Limit} {t : Timeline σ}

theorem cut_waiting (h : Ahead t.time outer) :
    Cut outer (Ending.waiting limit t : Ending α × Timeline σ)
      (Ending.waiting (Limit.under outer limit) t) := by
  cases outer with
  | none =>
      cases limit with
      | none => exact .early (fun _ => rfl) nofun
      | some m => exact .early (fun _ => rfl) nofun
  | some l =>
      cases limit with
      | none => exact .late rfl (.inl rfl) rfl
      | some m =>
          by_cases hlt : m.time < l.time
          · have hunder : Limit.under (some l) (some m) = some m.deeper := if_pos hlt
            rw [hunder]
            refine .early (fun hs => nomatch hs) fun l' hl' => ?_
            obtain rfl : l = l' := Option.some.inj hl'
            exact hlt
          · have hunder : Limit.under (some l) (some m) = some l := if_neg hlt
            rw [hunder]
            exact .late rfl (.inr (Nat.le_of_not_lt hlt)) rfl

theorem Cut.caught {e e' : Ending β × Timeline σ} {depth : Nat} (h : Cut outer e e')
    (ho : ∀ l ∈ outer, l.depth ≤ depth) :
    Cut outer (Ending.caught depth e) (Ending.caught (depth + 1) e') := by
  cases h with
  | early moves ahead =>
      have hcaught : Ending.caught (depth + 1) (e.1.deeper, e.2) =
          ((Ending.caught depth e).1.deeper, (Ending.caught depth e).2) := by
        obtain ⟨_ | ⟨cause, d⟩ | _ | _ | _, u⟩ := e
        case abandoned =>
          simp only [Ending.deeper, Ending.caught, Nat.add_right_cancel_iff]
          split <;> rfl
        all_goals rfl
      rw [hcaught]
      refine .early (fun hs => moves (Ending.stuck_of_caught hs)) ?_
      rw [Ending.caught_snd]
      exact ahead
  | late hl late time =>
      rename_i l v
      -- the cut is that of a limit further out, so the work inside does not catch it
      have hne : l.depth ≠ depth + 1 := by
        have := ho l hl
        omega
      have hcaught : Ending.caught (depth + 1) (Ending.abandoned l.cause l.depth, v) =
          ((.abandoned l.cause l.depth, v) : Ending (Except Interruption β) × Timeline σ) :=
        if_neg hne
      rw [hcaught]
      refine .late hl ?_ time
      rw [Ending.caught_snd]
      refine late.imp (fun hs => ?_) id
      obtain ⟨r, u⟩ := e
      obtain rfl : r = .stuck := hs
      rfl

theorem Cut.andThen {e e' : Ending β × Timeline σ} {f g : β → Timeline σ → Ending α × Timeline σ}
    (h : Cut outer e e')
    (hlater : ∀ b u, e = (.done b, u) → u.time ≤ (f b u).2.time)
    (hcut : ∀ b u, e = (.done b, u) → Ahead u.time outer → Cut outer (f b u) (g b u)) :
    Cut outer (Ending.andThen e f) (Ending.andThen e' g) := by
  obtain ⟨r, u⟩ := e
  cases h with
  | early moves ahead =>
      cases r with
      | done b => exact hcut b u rfl ahead
      | abandoned cause d => exact .early (fun hs => nomatch hs) ahead
      | stuck => exact .early (fun _ => moves rfl) ahead
      | exhausted => exact .early (fun hs => nomatch hs) ahead
      | crashed message => exact .early (fun hs => nomatch hs) ahead
  | late hl late time =>
      refine .late hl ?_ time
      cases r with
      | done b => exact .inr (Nat.le_trans (late.resolve_left nofun) (hlater b u rfl))
      | abandoned cause d => exact .inr (late.resolve_left nofun)
      | stuck => exact .inl rfl
      | exhausted => exact .inr (late.resolve_left nofun)
      | crashed message => exact .inr (late.resolve_left nofun)

/-- A run within an outer limit is the run by itself, cut off at the limit. -/
theorem cut_runWithin (server : Server σ) (cancelAt : Option Nat) (p : Procedure α)
    (outer limit : Option Limit) (depth : Nat) (t : Timeline σ) (hahead : Ahead t.time outer)
    (ho : ∀ l ∈ outer, l.depth ≤ depth) (h : Ahead t.time limit)
    (hd : ∀ l ∈ limit, l.depth < depth) :
    Cut outer (p.runWithin server cancelAt limit depth t)
      (p.runWithin server cancelAt (Limit.under outer limit) (depth + 1) t) := by
  induction p generalizing limit depth t with
  | pure a => exact .early (fun hs => nomatch hs) hahead
  | exhausted => exact .early (fun hs => nomatch hs) hahead
  | crash message => exact .early (fun hs => nomatch hs) hahead
  | tell m next ih =>
      exact ih limit depth { t with seen := .told t.time m :: t.seen } hahead ho h hd
  | clock next ih => exact ih t.time limit depth t hahead ho h hd
  | sleep d next ih =>
      simp only [runWithin]
      rcases Limit.before?_under outer limit (some (t.time + d)) with
        ⟨u, hb, hu, ho'⟩ | ⟨u, l, hb, hfirst, hu, hl, hle⟩ | ⟨hb, hu⟩
      · simp only [hb, hu]
        exact ih limit depth { t with time := u } ho' ho (ahead_before hb).2 hd
      · -- without the outer limit it goes on, and ends even later
        simp only [hb, hfirst, hu]
        have htime := inTime_runWithin server cancelAt next limit depth { t with time := u }
          (ahead_before hb).2 hd
        exact .late hl (.inr (Nat.le_trans hle htime.le_time)) rfl
      · simp only [hb, hu]
        exact cut_waiting hahead
  | call r next ih =>
      simp only [runWithin]
      rcases Limit.before?_under outer limit
        ((server.receive t.time r t.server).1.map (t.time + ·)) with
        ⟨u, hb, hu, ho'⟩ | ⟨u, l, hb, hfirst, hu, hl, hle⟩ | ⟨hb, hu⟩
      · simp only [hb, hu]
        split
        · exact ih _ limit depth ⟨u, _, _⟩ ho' ho (ahead_before hb).2 hd
        · exact cut_waiting ho'
      · simp only [hb, hfirst, hu]
        refine .late hl (.inr (Nat.le_trans hle ?_)) rfl
        split
        · exact (inTime_runWithin server cancelAt _ limit depth ⟨u, _, _⟩
            (ahead_before hb).2 hd).le_time
        · exact (inTime_waiting (t := ⟨u, _, _⟩) (ahead_before hb).2
            (Nat.le_refl u)).le_time
      · simp only [hb, hu]
        exact cut_waiting hahead
  | within deadline work next ihw ih =>
      simp only [runWithin]
      split
      · exact ih _ limit depth t hahead ho h hd
      · rename_i hs
        obtain ⟨hinner, hdepth⟩ := inner_limit h hd hs
        have hwork := inTime_runWithin server cancelAt work _ (depth + 1) t hinner hdepth
        have htime := hwork.caught hd
        have ho' : ∀ l ∈ outer, l.depth ≤ depth + 1 := fun l hl => Nat.le_succ_of_le (ho l hl)
        -- the inner limits stay what they are behind the outer one, so the work is cut by it too
        rw [Limit.earlier_under]
        refine ((ihw _ (depth + 1) t hahead ho' hinner hdepth).caught ho).andThen
          (fun o u he => ?_) fun o u he hu => ?_
        · rw [he] at htime
          exact (inTime_runWithin server cancelAt (next o) limit depth u
            (htime.ahead o rfl) hd).le_time
        · rw [he] at htime
          exact ih o limit depth u hu ho (htime.ahead o rfl) hd

end Procedure

end OsdMigration
