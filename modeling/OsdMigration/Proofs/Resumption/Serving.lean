import OsdMigration.Proofs.MiniCluster.Operations
import OsdMigration.Proofs.Removal.Steps

set_option autoImplicit false

/-! # What a migration does to the cluster in memory

Each request of a migration is served, and from its answer it is known what it did to an OSD
(`standing_answered`): its deployment was scaled down, or Ceph forgot it, or its deployment was
deleted, just if a request for this was granted. Nothing else that a migration sends changes where
the OSD stands.
-/

namespace OsdMigration

open Ceph (Command)
open Cluster
open MiniCluster (Standing)
open Removal (Step scaleDownRequest)

/-- The settings with the names of a stock installation, which are those of the cluster in memory.
-/
def Settings.stockNamed (s : Settings) : Settings :=
  { s with
    toolbox := Settings.standard.toolbox
    toolboxSelector := Settings.standard.toolboxSelector
    operator := Settings.standard.operator
    operatorSelector := Settings.standard.operatorSelector
    osdSelector := Settings.standard.osdSelector
    osdLabel := Settings.standard.osdLabel
    osdDeploymentStem := Settings.standard.osdDeploymentStem
    hostpathMount := Settings.standard.hostpathMount }

/-! ## The requests -/

/-- The requests of a migration, by what they can change. -/
inductive Sendable (s : Settings) : Request → Prop
  | deployment (space name : String) : Sendable s (.getDeployment space name)
  | pods (space selector : String) : Sendable s (.listPods space selector)
  | nodes : Sendable s .listNodes
  | object (space name : String) (patch : Json.Patch) : Sendable s (.patchCluster space name patch)
  | toolbox (space image : String) :
      Sendable s (.createDeployment space (Toolbox.deployment space s.toolbox image))
  | toolboxScale (space : String) (n : Int) :
      Sendable s (.patchDeployment space s.toolbox (scalePatch n))
  | operator (space : String) : Sendable s (.deletePods space s.operatorSelector)
  | command (space pod container : String) (cmd : Command) :
      Sendable s (.exec space pod container cmd.argv)
  | scaleDown (osd : UInt32) : Sendable s (scaleDownRequest s osd)
  | deletion (osd : UInt32) : Sendable s (.deleteDeployment s.space (s.osdDeployment osd))

theorem Asks.sendable {s : Settings} {named : UInt32 → Prop} {r : Request} (h : Asks s named r) :
    Sendable s r := by
  cases h with
  | upkeep h =>
      cases h with
      | toolbox => exact .deployment ..
      | operator => exact .deployment ..
      | create image => exact .toolbox ..
      | scaleUp => exact .toolboxScale ..
  | toolboxPods => exact .pods ..
  | deployment _ => exact .deployment ..
  | status pod container => exact .command _ _ _ .status
  | safeToDestroy _ pod container => exact .command _ _ _ (.safeToDestroy _)

theorem Prepares.sendable {s : Settings} {r : Request} (h : Prepares s r) : Sendable s r := by
  cases h with
  | asks h => exact h.sendable
  | osdPods => exact .pods ..
  | nodes => exact .nodes
  | useDevices => exact .object ..
  | dropDirectories => exact .object ..
  | restartOperator => exact .operator ..

theorem Removal.Step.Sent.sendable {s : Settings} {osd : UInt32} {step : Step} {r : Request}
    (h : step.Sent s osd r) : Sendable s r := by
  rcases h with h | h
  · cases step with
    | reweight =>
        obtain ⟨pod, container, rfl⟩ := h
        exact .command _ _ _ (.reweight osd)
    | scaleDown =>
        subst h
        exact .scaleDown osd
    | purge =>
        obtain ⟨pod, container, rfl⟩ := h
        exact .command _ _ _ (.purge osd)
    | cleanUp =>
        subst h
        exact .deletion osd
    | _ => exact h.elim
  · exact h.sendable

/-! ## What is known from the answers -/

/-- The deployment of an OSD was scaled down. -/
def Event.ScaledDown (s : Settings) (osd : UInt32) : Event → Prop
  | .answered _ (.patchDeployment space name patch) (.ok ()) =>
    Request.patchDeployment space name patch = scaleDownRequest s osd
  | _ => False

/-- Ceph forgot an OSD. -/
def Event.Purged (osd : UInt32) : Event → Prop
  | .answered _ (.exec _ _ _ argv) (.ok output) =>
    argv = (Command.purge osd).argv ∧ output.code = 0
  | _ => False

/-- The deployment of an OSD was deleted. -/
def Event.Deleted (s : Settings) (osd : UInt32) : Event → Prop
  | .answered _ (.deleteDeployment space name) (.ok ()) =>
    space = s.space ∧ name = s.osdDeployment osd
  | _ => False

/-- Where an OSD stands that starts where it should, after some events. -/
def StandsAfter (s : Settings) (osd : UInt32) (seen : List Event) (m : MiniCluster) : Prop :=
  Standing osd (∃ e ∈ seen, e.ScaledDown s osd) (∃ e ∈ seen, e.Purged osd)
    (∃ e ∈ seen, e.Deleted s osd) m

section

variable {s : Settings} {osd : UInt32} {seen : List Event} {m m' : MiniCluster} {e : Event}

/-- An event after which an OSD still stands where it stood. -/
theorem StandsAfter.plain (h : StandsAfter s osd seen m') (hs : ¬ e.ScaledDown s osd)
    (hp : ¬ e.Purged osd) (hd : ¬ e.Deleted s osd) : StandsAfter s osd (e :: seen) m' := by
  unfold StandsAfter at h ⊢
  simp only [List.mem_cons, exists_eq_or_imp, hs, hp, hd, false_or]
  exact h

theorem StandsAfter.scaledDown
    (h : Standing osd True (∃ e ∈ seen, e.Purged osd) (∃ e ∈ seen, e.Deleted s osd) m')
    (hs : e.ScaledDown s osd) (hp : ¬ e.Purged osd) (hd : ¬ e.Deleted s osd) :
    StandsAfter s osd (e :: seen) m' := by
  unfold StandsAfter
  simp only [List.mem_cons, exists_eq_or_imp, hs, hp, hd, false_or, true_or]
  exact h

theorem StandsAfter.purged
    (h : Standing osd (∃ e ∈ seen, e.ScaledDown s osd) True (∃ e ∈ seen, e.Deleted s osd) m')
    (hs : ¬ e.ScaledDown s osd) (hp : e.Purged osd) (hd : ¬ e.Deleted s osd) :
    StandsAfter s osd (e :: seen) m' := by
  unfold StandsAfter
  simp only [List.mem_cons, exists_eq_or_imp, hs, hp, hd, false_or, true_or]
  exact h

theorem StandsAfter.deleted
    (h : Standing osd (∃ e ∈ seen, e.ScaledDown s osd) (∃ e ∈ seen, e.Purged osd) True m')
    (hs : ¬ e.ScaledDown s osd) (hp : ¬ e.Purged osd) (hd : e.Deleted s osd) :
    StandsAfter s osd (e :: seen) m' := by
  unfold StandsAfter
  simp only [List.mem_cons, exists_eq_or_imp, hs, hp, hd, false_or, true_or]
  exact h

end

/-! ## Serving -/

/-- Whatever reply to a command is prepared, it is a failure. -/
def MiniCluster.FailingReplies (m : MiniCluster) : Prop :=
  ∀ line replies, m.replies.get? line = some replies →
    ∀ output, Except.ok output ∈ replies → output.code ≠ 0

section

variable {s : Settings} {osd : UInt32} {seen : List Event} {m m' : MiniCluster}

theorem scaledDown_answered {u : Nat} {space name : String} {patch : Json.Patch}
    {a : Attempt Unit} :
    Event.ScaledDown s osd (.answered u (.patchDeployment space name patch) a) ↔
      a = .ok () ∧ Request.patchDeployment space name patch = scaleDownRequest s osd := by
  cases a with
  | error f => simp [Event.ScaledDown]
  | ok _ => simp [Event.ScaledDown]

theorem deleted_answered {u : Nat} {space name : String} {a : Attempt Unit} :
    Event.Deleted s osd (.answered u (.deleteDeployment space name) a) ↔
      a = .ok () ∧ space = s.space ∧ name = s.osdDeployment osd := by
  cases a with
  | error f => simp [Event.Deleted]
  | ok _ => simp [Event.Deleted]

theorem purged_answered {u : Nat} {space pod container : String} {cmd : Command}
    {a : Attempt CommandOutput} :
    Event.Purged osd (.answered u (.exec space pod container cmd.argv) a) ↔
      ∃ output, a = .ok output ∧ cmd = .purge osd ∧ output.code = 0 := by
  cases a with
  | error f => simp [Event.Purged]
  | ok output =>
      have hargv : cmd.argv = (Command.purge osd).argv ↔ cmd = .purge osd :=
        ⟨Ceph.Command.argv_injective, fun h => h ▸ rfl⟩
      simp [Event.Purged, hargv]

/-- What the cluster says and does to a command of its own. -/
theorem ownReply_command (m : MiniCluster) (cmd : Command) :
    (m.ownReply cmd.argv).1.code = 0 ∧ (m.ownReply cmd.argv).2 =
      match cmd with
      | .purge osd => { m with osds := m.osds.erase osd }
      | _ => m := by
  cases cmd with
  | purge osd =>
      have hread : Text.uint32? (toString osd) = some osd := Text.uint32?_toString osd
      refine ⟨rfl, ?_⟩
      simp only [MiniCluster.ownReply, Command.argv, hread]
  | _ => exact ⟨rfl, rfl⟩

/-- A command that a cluster runs. -/
theorem standing_exec (hm : m.FailingReplies) (h : StandsAfter s osd seen m)
    (u : Nat) (space pod container : String) (cmd : Command) :
    StandsAfter s osd
      (.answered u (.exec space pod container cmd.argv) (m.exec pod cmd.argv).1 :: seen)
      (m.exec pod cmd.argv).2 := by
  have plain : ∀ {a : Attempt CommandOutput} {m' : MiniCluster}, StandsAfter s osd seen m' →
      (∀ output, a = .ok output → cmd = .purge osd → output.code ≠ 0) →
      StandsAfter s osd (.answered u (.exec space pod container cmd.argv) a :: seen) m' := by
    intro a m' h hn
    refine h.plain id (fun hp => ?_) id
    obtain ⟨output, ha, hcmd, hcode⟩ := purged_answered.1 hp
    exact hn output ha hcmd hcode
  simp only [MiniCluster.exec]
  split
  · -- there is no such pod
    exact plain h nofun
  · split
    · -- a reply was prepared, so the purge failed
      rename_i reply rest hget
      refine plain (h.of_eq rfl rfl rfl rfl) ?_
      rintro output rfl _
      exact hm _ _ hget output List.mem_cons_self
    -- the cluster answers by itself, and only a purge takes an OSD away
    · obtain ⟨hcode, hafter⟩ := ownReply_command m cmd
      by_cases hcmd : cmd = .purge osd
      · subst hcmd
        refine StandsAfter.purged ?_ id (purged_answered.2 ⟨_, rfl, rfl, hcode⟩) id
        rw [hafter]
        exact Standing.erase_self h
      · refine plain ?_ fun _ _ he => absurd he hcmd
        rw [hafter]
        cases cmd with
        | purge other => exact Standing.erase_other h fun he => hcmd (by rw [he])
        | _ => exact h

/-- A deployment of an OSD is scaled down. -/
theorem standing_scaleDown (h : StandsAfter s.stockNamed osd seen m) (u : Nat) (other : UInt32) :
    StandsAfter s.stockNamed osd
      (.answered u (scaleDownRequest s.stockNamed other)
        (m.patch (MiniCluster.osdDeployment other) (scalePatch 0)).1 :: seen)
      (m.patch (MiniCluster.osdDeployment other) (scalePatch 0)).2 := by
  by_cases hne : other = osd
  · subst hne
    rcases Standing.patch_own h with ⟨f, hp⟩ | ⟨after, hp, hafter⟩
    · rw [hp]
      exact h.plain id id id
    · rw [hp]
      exact StandsAfter.scaledDown hafter rfl id id
  · have hname : MiniCluster.osdDeployment other ≠ MiniCluster.osdDeployment osd := fun he =>
      hne (MiniCluster.osdDeployment_injective he)
    refine StandsAfter.plain (Standing.patch_foreign h hname 0) ?_ id id
    intro hscaled
    have hrequest := (scaledDown_answered.1 hscaled).2
    injection hrequest with _ hname' _
    exact hname hname'

/-- A deployment of an OSD is deleted. -/
theorem standing_deletion (h : StandsAfter s.stockNamed osd seen m) (u : Nat) (other : UInt32) :
    StandsAfter s.stockNamed osd
      (.answered u (.deleteDeployment s.stockNamed.space (s.stockNamed.osdDeployment other))
        (m.delete (MiniCluster.osdDeployment other)).1 :: seen)
      (m.delete (MiniCluster.osdDeployment other)).2 := by
  by_cases hne : other = osd
  · subst hne
    rcases Standing.delete_own h with ⟨f, hp⟩ | ⟨after, hp, hafter⟩
    · rw [hp]
      exact h.plain id id id
    · rw [hp]
      exact StandsAfter.deleted hafter id id ⟨rfl, rfl⟩
  · have hname : MiniCluster.osdDeployment other ≠ MiniCluster.osdDeployment osd := fun he =>
      hne (MiniCluster.osdDeployment_injective he)
    refine StandsAfter.plain (Standing.delete_foreign h hname) id id ?_
    intro hdeleted
    exact hname (deleted_answered.1 hdeleted).2.2

/-- The toolbox is not an OSD's deployment, whatever becomes of its scale. -/
theorem standing_toolboxScale (h : StandsAfter s.stockNamed osd seen m) (u : Nat) (space : String)
    (n : Int) :
    StandsAfter s.stockNamed osd
      (.answered u (.patchDeployment space "rook-ceph-tools" (scalePatch n))
        (m.patch "rook-ceph-tools" (scalePatch n)).1 :: seen)
      (m.patch "rook-ceph-tools" (scalePatch n)).2 := by
  have htoolbox : "rook-ceph-tools" ≠ MiniCluster.osdDeployment osd :=
    MiniCluster.ne_osdDeployment osd (by decide +kernel)
  refine StandsAfter.plain (Standing.patch_foreign h htoolbox n) ?_ id id
  intro hscaled
  have hrequest := (scaledDown_answered.1 hscaled).2
  injection hrequest with _ hname _
  exact htoolbox hname

/-- The parts of what a request is served with. -/
theorem served {α β : Type} {x : α × β} {a : α} {b : β} (h : (some x.1, x.2) = (some a, b)) :
    a = x.1 ∧ b = x.2 := by
  cases h
  exact ⟨rfl, rfl⟩

/-- An answer tells what was done to an OSD. -/
theorem standing_answered {r : Request} {a : Attempt r.Reply} (hm : m.FailingReplies)
    (hr : Sendable s.stockNamed r) (h : StandsAfter s.stockNamed osd seen m)
    (hs : m.serve r = (some a, m')) (u : Nat) :
    StandsAfter s.stockNamed osd (.answered u r a :: seen) m' := by
  -- taking a request down changes nothing that counts
  have hnoted : ∀ r, StandsAfter s.stockNamed osd seen (m.noted r) := fun _ =>
    Standing.of_eq h rfl rfl rfl rfl
  have htoolbox : "rook-ceph-tools" ≠ MiniCluster.osdDeployment osd :=
    MiniCluster.ne_osdDeployment osd (by decide +kernel)
  cases hr with
  | deployment space name =>
      obtain ⟨rfl, rfl⟩ := served (x := (Except.ok (m.deployments.get? name), m)) hs
      exact h.plain id id id
  | pods space selector =>
      obtain ⟨rfl, rfl⟩ := served (x := m.list selector) hs
      refine StandsAfter.plain ?_ id id id
      simp only [MiniCluster.list]
      split <;> exact Standing.of_eq h rfl rfl rfl rfl
  | nodes =>
      obtain ⟨rfl, rfl⟩ := served (x := (Except.ok m.nodes, m)) hs
      exact h.plain id id id
  | object space name patch =>
      obtain ⟨rfl, rfl⟩ := served (x := (m.noted (.patchCluster space name patch)).patchObject
        patch) hs
      exact StandsAfter.plain (Standing.patchObject (hnoted _) patch) id id id
  | toolbox space image =>
      obtain ⟨rfl, rfl⟩ := served (x := (m.noted (.createDeployment space (Toolbox.deployment
        space s.stockNamed.toolbox image))).create _) hs
      refine StandsAfter.plain (Standing.create (hnoted _) htoolbox ?_) id id id
      rintro spec hspec
      cases hspec
      exact MiniCluster.foreign_app rfl rfl (by decide) (by decide +kernel)
  | toolboxScale space n =>
      obtain ⟨rfl, rfl⟩ := served (x := (m.noted (.patchDeployment space s.stockNamed.toolbox
        (scalePatch n))).patch _ _) hs
      exact standing_toolboxScale (hnoted _) u space n
  | operator space =>
      obtain ⟨rfl, rfl⟩ := served (x := (Except.ok (), (m.noted (.deletePods space
        s.stockNamed.operatorSelector)).deletePods _)) hs
      have hselector : Selector.ofText "app=rook-ceph-operator" =
        [.equals "app" "rook-ceph-operator"] := by decide +kernel
      exact StandsAfter.plain (Standing.deletePods (hnoted _) hselector (by decide)) id id id
  | command space pod container cmd =>
      unfold MiniCluster.serve at hs
      simp only at hs
      split at hs
      · cases hs
      · obtain ⟨rfl, rfl⟩ := served (x := (m.noted (.exec space pod container cmd.argv)).exec pod
          cmd.argv) hs
        exact standing_exec (m := m.noted _) hm (hnoted _) u space pod container cmd
  | scaleDown other =>
      obtain ⟨rfl, rfl⟩ := served (x := (m.noted (scaleDownRequest s.stockNamed other)).patch
        (MiniCluster.osdDeployment other) (scalePatch 0)) hs
      exact standing_scaleDown (hnoted _) u other
  | deletion other =>
      obtain ⟨rfl, rfl⟩ := served (x := (m.noted (.deleteDeployment s.stockNamed.space
        (s.stockNamed.osdDeployment other))).delete (MiniCluster.osdDeployment other)) hs
      exact standing_deletion (hnoted _) u other

/-- A request that is not answered did nothing. -/
theorem standing_hung {r : Request} (h : StandsAfter s osd seen m)
    (hs : m.serve r = (none, m')) : StandsAfter s osd seen m' := by
  cases r with
  | exec space pod container argv =>
      unfold MiniCluster.serve at hs
      simp only at hs
      split at hs
      · cases hs
        exact Standing.of_eq h rfl rfl rfl rfl
      · cases hs
  | _ => cases hs

end

end OsdMigration
