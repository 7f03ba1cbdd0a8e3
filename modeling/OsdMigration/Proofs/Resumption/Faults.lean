import OsdMigration.Proofs.Course.Always
import OsdMigration.Proofs.Course.Invariant
import OsdMigration.Proofs.Resumption.Serving
import OsdMigration.Rehearsal

set_option autoImplicit false

/-! # Runs with faults

A rehearsal may make requests fail, hang or take long, as often as it likes, but no answer is made
up: whatever is answered with success was done by the cluster. Under such faults it is known of a
run at any time where an OSD stands, and every listing of pods shows it (`keeps_tracked`).
-/

namespace OsdMigration

open Cluster
open MiniCluster (Standing mine)

/-- A plan that makes no answer up. -/
def Plan.Honest {ρ : Type} (plan : Plan ρ) : Prop := ∀ delay value, plan ≠ .reply delay value

/-- A script that makes no answer up. -/
def Script.Honest (script : Script) : Prop := ∀ k, ∀ plan ∈ script k, plan.Honest

theorem Script.honest_empty : Script.empty.Honest := fun _ _ h => absurd h List.not_mem_nil

/-- What goes wrong in a rehearsal. -/
structure Faults where
  /-- The plans for requests. -/
  script : Script
  honest : script.Honest
  /-- The replies to commands; all of them are failures. -/
  replies : NameMap (List (Attempt CommandOutput))
  failing : ∀ line outcomes, replies.get? line = some outcomes →
    ∀ output, Except.ok output ∈ outcomes → output.code ≠ 0
  /-- For the next listings, whether they fail. -/
  listings : List Bool
  /-- Whether commands hang. -/
  hang : Bool

/-- Nothing goes wrong. -/
def Faults.none : Faults where
  script := .empty
  honest := Script.honest_empty
  replies := .empty
  failing := nofun
  listings := []
  hang := false

/-- A cluster with these faults and no others. -/
def Faults.rehearsal (f : Faults) (m : MiniCluster) : Rehearsal where
  cluster := { m with replies := f.replies, listingFaults := f.listings, hangCommands := f.hang }
  script := f.script

namespace Rehearsal

/-- Nothing is going to happen by itself, and no answer is made up. -/
structure Honest (h : Rehearsal) : Prop where
  changes : h.changes = []
  script : h.script.Honest
  underWay : ∀ plan ∈ h.underWay, plan.2.Honest
  replies : h.cluster.FailingReplies

theorem honest_rehearsal (f : Faults) (m : MiniCluster) : (f.rehearsal m).Honest where
  changes := rfl
  script := f.honest
  underWay := fun _ he => absurd he (Option.not_mem_none _)
  replies := f.failing

variable {h h' : Rehearsal}

theorem advance_of_honest (hh : h.Honest) (now : Nat) : h.advance now = h := by
  obtain ⟨cluster, script, changes, underWay⟩ := h
  obtain rfl : changes = [] := hh.changes
  rfl

theorem next_honest {script : Script} (hs : script.Honest) (k : Request.Kind) :
    (script.next k).1.Honest ∧ (script.next k).2.Honest := by
  unfold Script.next
  split
  · rename_i plan rest he
    refine ⟨hs k plan (he ▸ List.mem_cons_self), fun k' plan' hm => ?_⟩
    simp only [Script.set] at hm
    split at hm
    · rename_i hk
      subst hk
      exact hs k plan' (he ▸ List.mem_cons_of_mem _ hm)
    · exact hs k' plan' hm
  · exact ⟨nofun, hs⟩

/-- A request is received. -/
theorem honest_receive (hh : h.Honest) (now : Nat) (r : Request) :
    (server.receive now r h).2.Honest ∧ (server.receive now r h).2.cluster = h.cluster := by
  obtain ⟨hplan, hscript⟩ := next_honest hh.script r.kind
  have hreceive : (server.receive now r h).2 = { h with
      script := (h.script.next r.kind).2
      underWay := some ⟨r.kind, (h.script.next r.kind).1⟩ } := by
    simp only [server, advance_of_honest hh]
  rw [hreceive]
  refine ⟨⟨hh.changes, hscript, ?_, hh.replies⟩, rfl⟩
  intro plan he
  cases he
  exact hplan

/-- What can come back: nothing or a failure, without the cluster being asked, or what the cluster
serves. -/
theorem answer_cases (hh : h.Honest) {now : Nat} {r : Request} {o : Option (Attempt r.Reply)}
    (hs : server.answer now r h = (o, h')) :
    (o = none ∨ ∃ f, o = some (.error f)) ∧ h' = h ∨
      ∃ m, h.cluster.serve r = (o, m) ∧ h' = { h with cluster := m } := by
  have forward : ((h.cluster.serve r).1, { h with cluster := (h.cluster.serve r).2 }) = (o, h') →
      ∃ m, h.cluster.serve r = (o, m) ∧ h' = { h with cluster := m } := by
    intro he
    cases he
    exact ⟨_, rfl, rfl⟩
  simp only [server, advance_of_honest hh] at hs
  split at hs
  · rename_i k plan hunder
    split at hs
    · rename_i same
      subst same
      cases plan with
      | hang =>
          cases hs
          exact .inl ⟨.inl rfl, rfl⟩
      | refuse delay f =>
          cases hs
          exact .inl ⟨.inr ⟨f, rfl⟩, rfl⟩
      | reply delay value => exact absurd rfl (hh.underWay _ hunder delay value)
      | forward delay => exact .inr (forward hs)
    · exact .inr (forward hs)
  · exact .inr (forward hs)

end Rehearsal

/-! ## Replies that are prepared -/

namespace MiniCluster

theorem replies_bringUp (m : MiniCluster) : m.bringUp.replies = m.replies := by
  have hfold : ∀ (l : List (UInt32 × String)) (m : MiniCluster),
      (l.foldl (fun m q => m.withOsd q.1 q.2 false) m).replies = m.replies := by
    intro l
    induction l with
    | nil => exact fun _ => rfl
    | cons q l ih => exact fun m => ih _
  exact hfold m.pending _

theorem replies_create (m : MiniCluster) (d : Deployment) : (m.create d).2.replies = m.replies := by
  simp only [create]
  split <;> rfl

theorem replies_patch (m : MiniCluster) (name : String) (p : Json.Patch) :
    (m.patch name p).2.replies = m.replies := by
  unfold patch
  split
  · rfl
  · split <;> rfl

theorem replies_delete (m : MiniCluster) (name : String) :
    (m.delete name).2.replies = m.replies := by
  unfold delete
  split <;> rfl

theorem replies_list (m : MiniCluster) (selector : String) :
    (m.list selector).2.replies = m.replies := by
  simp only [list]
  split <;> rfl

theorem replies_patchObject (m : MiniCluster) (p : Json.Patch) :
    (m.patchObject p).2.replies = m.replies := by
  unfold patchObject
  split
  · rfl
  · simp only
    split
    · exact replies_bringUp _
    · rfl

theorem replies_ownReply (m : MiniCluster) (argv : List String) :
    (m.ownReply argv).2.replies = m.replies := by
  unfold ownReply
  split
  · rfl
  · rfl
  · rfl
  · simp only
    split <;> rfl
  · rfl

/-- A command uses its replies up. -/
theorem FailingReplies.exec {m : MiniCluster} (h : m.FailingReplies) (pod : String)
    (argv : List String) : (m.exec pod argv).2.FailingReplies := by
  simp only [MiniCluster.exec]
  split
  · exact h
  · split
    · rename_i reply rest hget
      intro line outcomes hout output hm
      simp only [NameMap.get?_insert] at hout
      split at hout
      · cases hout
        exact h _ _ hget output (List.mem_cons_of_mem _ hm)
      · exact h line outcomes hout output hm
    · unfold FailingReplies
      simp only [replies_ownReply]
      exact h

/-- Only commands use replies up. -/
theorem FailingReplies.serve {m : MiniCluster} (h : m.FailingReplies) (r : Request) :
    (m.serve r).2.FailingReplies := by
  have same : ∀ {m' : MiniCluster}, m'.replies = m.replies → m'.FailingReplies := by
    intro m' he
    unfold FailingReplies
    rw [he]
    exact h
  cases r with
  | getDeployment space name => exact h
  | listNodes => exact h
  | createDeployment space d => exact same (replies_create _ d)
  | patchDeployment space name p => exact same (replies_patch _ name p)
  | deleteDeployment space name => exact same (replies_delete _ name)
  | listPods space selector => exact same (replies_list m selector)
  | deletePods space selector => exact same rfl
  | patchCluster space name p => exact same (replies_patchObject _ p)
  | exec space pod container argv =>
      simp only [MiniCluster.serve]
      split
      · exact same rfl
      · exact FailingReplies.exec (m := m.noted _) h pod argv

end MiniCluster

/-! ## What is known during a run -/

/-- A listing of pods shows whether the deployment of an OSD was scaled down before. -/
structure Shows (s : Settings) (osd : UInt32) (past : List Event) (pods : List Pod) : Prop where
  backed : ∀ p ∈ mine osd pods,
    p.labels = MiniCluster.osdLabels osd ∧ Osd.mounts p MiniCluster.hostDirectory = true
  running : mine osd pods = [] ↔ ∃ e ∈ past, e.ScaledDown s osd

/-- What is known in a run in which only requests of a migration are sent: where an OSD stands, and
that every listing of the OSDs' pods showed it. The events of an earlier run count too. -/
structure Tracked (s : Settings) (osd : UInt32) (earlier : List Event) (h : Rehearsal)
    (seen : List Event) : Prop where
  honest : h.Honest
  stands : Asking (Sendable s) seen → StandsAfter s osd (seen ++ earlier) h.cluster
  listed : Asking (Sendable s) seen → ∀ newer u space (pods : List Pod) older,
    seen = newer ++ .answered u (.listPods space s.osdSelector) (.ok pods) :: older →
      Shows s osd (older ++ earlier) pods

section

variable {s : Settings} {osd : UInt32} {earlier seen : List Event} {h h' : Rehearsal}

theorem asking_cons {allowed : Request → Prop} {e : Event} :
    Asking allowed (e :: seen) ↔ (∀ r ∈ e.request?, allowed r) ∧ Asking allowed seen :=
  List.forall_mem_cons

theorem Tracked.cons (ht : Tracked s osd earlier h seen) {e : Event} (hh : h'.Honest)
    (hs : (∀ r ∈ e.request?, Sendable s r) → StandsAfter s osd (seen ++ earlier) h.cluster →
      StandsAfter s osd (e :: (seen ++ earlier)) h'.cluster)
    (hl : StandsAfter s osd (seen ++ earlier) h.cluster → ∀ u space (pods : List Pod),
      e = .answered u (.listPods space s.osdSelector) (.ok pods) →
        Shows s osd (seen ++ earlier) pods) :
    Tracked s osd earlier h' (e :: seen) where
  honest := hh
  stands := by
    intro hask
    obtain ⟨he, hseen⟩ := asking_cons.1 hask
    exact hs he (ht.stands hseen)
  listed := by
    intro hask newer u space pods older hsplit
    obtain ⟨_, hseen⟩ := asking_cons.1 hask
    -- the listing is this event or an older one
    cases newer with
    | nil =>
        obtain ⟨rfl, rfl⟩ := List.cons.inj hsplit
        exact hl (ht.stands hseen) u space pods rfl
    | cons x newer => exact ht.listed hseen newer u space pods older (List.cons.inj hsplit).2

/-- A failure did nothing. -/
theorem StandsAfter.failed {m : MiniCluster} (h : StandsAfter s osd seen m) (u : Nat)
    (r : Request) (f : Failure) : StandsAfter s osd (.answered u r (.error f) :: seen) m := by
  cases r <;> exact h.plain id id id

/-- The pods that are listed show where the OSD stands. -/
theorem shows_list {m m' : MiniCluster} {past : List Event} (hm : StandsAfter s osd past m)
    {space : String} {pods : List Pod}
    (hs : m.serve (.listPods space s.stockNamed.osdSelector) = (some (.ok pods), m')) :
    Shows s osd past pods := by
  have hselector : Selector.ofText "app=rook-ceph-osd" = [.equals "app" "rook-ceph-osd"] := by
    decide +kernel
  obtain ⟨hpods, _⟩ := served (x := m.list "app=rook-ceph-osd") hs
  have hlist : pods = m.pods.filter fun p => p.selectedBy "app=rook-ceph-osd" := by
    simp only [MiniCluster.list] at hpods
    split at hpods
    · cases hpods
    · exact Except.ok.inj hpods
  have hkept : ∀ p ∈ mine osd m.pods, p.selectedBy "app=rook-ceph-osd" = true := by
    intro p hp
    rw [MiniCluster.selectedBy_app (Standing.pods hm p hp).1 hselector]
    rfl
  have hmine : mine osd pods = mine osd m.pods := by
    rw [hlist]
    exact MiniCluster.mine_filter hkept
  constructor
  · rw [hmine]
    exact Standing.pods hm
  · rw [hmine]
    exact Standing.running hm

/-- A rehearsal keeps track of an OSD. -/
theorem keeps_tracked (s : Settings) (osd : UInt32) (earlier : List Event) :
    Rehearsal.server.Keeps (Tracked s.stockNamed osd earlier) where
  told := fun ht => ht.cons ht.honest (fun _ h => h.plain id id id) nofun
  received := by
    intro t r h seen ht
    obtain ⟨hh, hc⟩ := Rehearsal.honest_receive ht.honest t r
    refine ht.cons hh (fun _ h => ?_) nofun
    rw [hc]
    exact h.plain id id id
  answered := by
    intro u r h a h' seen ht hs
    rcases Rehearsal.answer_cases ht.honest hs with ⟨ho, rfl⟩ | ⟨m, hserve, rfl⟩
    · -- the cluster was not asked
      obtain ⟨f, rfl⟩ : ∃ f, a = .error f := by
        rcases ho with ho | ⟨f, ho⟩
        · cases ho
        · exact ⟨f, Option.some.inj ho⟩
      refine ht.cons ht.honest (fun _ h => h.failed u r f) ?_
      intro _ u' space pods he
      cases he
    · -- the cluster served it
      have hreplies := ht.honest.replies.serve r
      rw [hserve] at hreplies
      refine ht.cons ⟨ht.honest.changes, ht.honest.script, ht.honest.underWay, hreplies⟩
        (fun hr h => standing_answered ht.honest.replies (hr r rfl) h hserve u) ?_
      intro hst u' space pods he
      cases he
      exact shows_list hst hserve
  hung := by
    intro u r h h' seen ht hs
    rcases Rehearsal.answer_cases ht.honest hs with ⟨_, rfl⟩ | ⟨m, hserve, rfl⟩
    · exact ht
    · have hreplies := ht.honest.replies.serve r
      rw [hserve] at hreplies
      exact ⟨⟨ht.honest.changes, ht.honest.script, ht.honest.underWay, hreplies⟩,
        fun hask => standing_hung (ht.stands hask) hserve, ht.listed⟩

end

end OsdMigration
