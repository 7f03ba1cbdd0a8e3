import OsdMigration.Monitor
import OsdMigration.Proofs.Completion.Calm
import OsdMigration.Proofs.MiniCluster.Report
import OsdMigration.Proofs.Phrases
import OsdMigration.Proofs.Resumption.Serving

set_option autoImplicit false

/-! # Commands that are answered

A cluster in memory whose toolbox is up and whose report is a healthy one answers every command of a
migration (`Answering`). Its status is read as healthy, with the number of OSDs that it knows and of
those that are up, and every OSD may go.
-/

namespace OsdMigration

open Ceph (Command Removability Status)
open Cluster
open Job (Brings)

namespace MiniCluster

/-- The pod that commands run in. -/
def toolboxPod : Pod := appPod "rook-ceph-tools" "-5b9d6f8c9-pm7tq" "rook/ceph:v1.0.4"

/-- The cluster answers every command, and nothing is wrong with it. -/
structure Answering (m : MiniCluster) : Prop where
  replies : m.replies = .empty
  listings : m.listingFaults = []
  answers : m.hangCommands = false
  healthy : Healthy m.report
  /-- The number of OSDs is in the range of a report. -/
  few : m.osds.members.length < UInt32.size
  toolbox : ∃ d, m.deployments.get? "rook-ceph-tools" = some d ∧ Toolbox.isReady d = true
  toolboxPods : m.pods.filter (fun p => p.selectedBy "app=rook-ceph-tools") = [toolboxPod]

/-- What is not asked about when a command runs may be different. -/
theorem Answering.of_eq {m m' : MiniCluster} (h : Answering m)
    (hreplies : m'.replies = m.replies) (hlistings : m'.listingFaults = m.listingFaults)
    (hanswers : m'.hangCommands = m.hangCommands) (hreport : m'.report = m.report)
    (hfew : m'.osds.members.length < UInt32.size)
    (htoolbox : m'.deployments.get? "rook-ceph-tools" = m.deployments.get? "rook-ceph-tools")
    (hpods : m'.pods.filter (fun p => p.selectedBy "app=rook-ceph-tools") =
      m.pods.filter fun p => p.selectedBy "app=rook-ceph-tools") : Answering m' where
  replies := hreplies.trans h.replies
  listings := hlistings.trans h.listings
  answers := hanswers.trans h.answers
  healthy := hreport ▸ h.healthy
  few := hfew
  toolbox := htoolbox ▸ h.toolbox
  toolboxPods := hpods.trans h.toolboxPods

/-- A command is answered, whatever was noted before. -/
theorem Answering.exec {m : MiniCluster} (h : Answering m) (log : List Request) (cmd : Command) :
    ({ m with log } : MiniCluster).exec "rook-ceph-tools-5b9d6f8c9-pm7tq" cmd.argv =
      (.ok (m.ownReply cmd.argv).1, { (m.ownReply cmd.argv).2 with log }) := by
  have hpod : m.pods.any (fun p => p.metadata.name == some "rook-ceph-tools-5b9d6f8c9-pm7tq") =
      true := by
    have hm : toolboxPod ∈ m.pods.filter fun p => p.selectedBy "app=rook-ceph-tools" := by
      rw [h.toolboxPods]
      exact List.mem_singleton_self _
    exact List.any_eq_true.2 ⟨_, (List.mem_filter.1 hm).1, rfl⟩
  have hreplies : ∀ line, m.replies.get? line = none := fun line => by
    rw [h.replies, NameMap.get?_empty]
  simp only [MiniCluster.exec, hpod, hreplies, Bool.not_true, Bool.false_eq_true, if_false]
  cases cmd with
  | purge osd => simp only [ownReply, Command.argv, Text.uint32?_toString]
  | _ => rfl

end MiniCluster

open MiniCluster (Answering toolboxPod)

section

variable {m : MiniCluster} {s : Settings} {polls t : Nat}

/-- Pods are listed. -/
theorem brings_listPods (h : m.listingFaults = []) (space selector : String) :
    Brings (Job.ask (.listPods space selector)) t m
      (m.pods.filter fun p => p.selectedBy selector) t m := by
  obtain ⟨⟩ := m
  obtain rfl := h
  exact Brings.ask_same fun _ => rfl

theorem brings_getDeployment (space name : String) :
    Brings (Job.ask (.getDeployment space name)) t m (m.deployments.get? name) t m :=
  Brings.ask_same fun _ => rfl

/-- A command is run in the toolbox. -/
theorem brings_run (h : Answering m) (cmd : Command) :
    Brings (Toolbox.run s.stockNamed cmd.argv) t m (m.ownReply cmd.argv).1 t
      (m.ownReply cmd.argv).2 := by
  have hlist : Brings (Job.ask (.listPods s.stockNamed.space s.stockNamed.toolboxSelector)) t m
      [toolboxPod] t m := h.toolboxPods ▸ brings_listPods h.listings _ _
  have hexec : Brings (Job.ask (.exec s.stockNamed.space "rook-ceph-tools-5b9d6f8c9-pm7tq"
      "rook-ceph-tools" cmd.argv)) t m (m.ownReply cmd.argv).1 t (m.ownReply cmd.argv).2 := by
    refine Brings.ask fun log => ⟨.exec s.stockNamed.space "rook-ceph-tools-5b9d6f8c9-pm7tq"
      "rook-ceph-tools" cmd.argv :: log, ?_⟩
    have hanswers : ¬ m.hangCommands = true := by
      rw [h.answers]
      decide
    simp only [MiniCluster.serve, MiniCluster.noted, if_neg hanswers, h.exec]
  have hcode : (m.ownReply cmd.argv).1.code = 0 := (ownReply_command m cmd).1
  refine (Brings.during _ hlist).bind ((Brings.ofAttempt rfl).bind
    (a := ("rook-ceph-tools-5b9d6f8c9-pm7tq", "rook-ceph-tools")) ?_)
  refine (Brings.guarded (p := ⟨0, none⟩) (by simp) hexec).bind ((Brings.ofAttempt rfl).bind ?_)
  simp only [hcode, if_true]
  exact .pure _

/-- The toolbox is up. -/
theorem brings_ensureReady (h : Answering m) :
    Brings (Toolbox.ensureReady ⟨s.stockNamed, polls⟩) t m () t m := by
  obtain ⟨d, hd, hready⟩ := h.toolbox
  refine (Brings.during _ (brings_getDeployment _ _)).bind ?_
  have hname : s.stockNamed.toolbox = "rook-ceph-tools" := rfl
  simp only [hname, hd, hready, if_true]
  exact .pure ()

/-- The status is that of a healthy cluster, with its numbers of OSDs. -/
theorem brings_fetchStatus (polls : Nat) (h : Answering m) :
    ∃ status : Status, status.verdict.1 = true ∧
      status.osds.total = UInt32.ofNat m.osds.members.length ∧
      status.osds.up = UInt32.ofNat (m.osds.members.filter m.isUp).length ∧
      ∀ t, Brings (Monitor.fetchStatus ⟨s.stockNamed, polls⟩) t m status t m := by
  obtain ⟨status, hparse, hverdict, htotal, hup⟩ :=
    MiniCluster.parse?_statusReport h.healthy h.few
  refine ⟨status, hverdict, htotal, hup, fun t => ?_⟩
  refine (Brings.during _ (brings_ensureReady h)).bind ?_
  refine (Brings.during _ (brings_run h .status)).bind (Brings.during _ (.ofAttempt ?_))
  have hread : Monitor.readStatus (.success m.statusReport.render) = .ok status := by
    simp only [Monitor.readStatus, CommandOutput.success, hparse]
  exact hread

/-! ## Whether an OSD can go -/

/-- A number is not preceded by the prefix of a name. -/
theorem bareNumber_toString (osd : UInt32) :
    MiniCluster.bareNumber (toString osd).toList = (toString osd).toList := by
  obtain ⟨_, hdigits⟩ := Removability.isNumber_toString osd
  unfold MiniCluster.bareNumber
  split
  · rename_i rest hcs
    have hno := hdigits 'o' (hcs ▸ List.mem_cons_self)
    cases hno
  · rfl

/-- The phrase of a safe answer as a text. -/
theorem safePhrase_eq (n : List Char) :
    Removability.safePhrase n = ("OSD(s) " ++ String.ofList n
      ++ " are safe to destroy without reducing data durability").toList := by
  unfold Removability.safePhrase
  generalize "OSD(s) " = before
  generalize " are safe to destroy without reducing data durability" = after
  simp

/-- The cluster says of every OSD that it can go. -/
theorem ofText_ownReply (m : MiniCluster) (osd : UInt32) :
    Removability.ofText (m.ownReply (Command.safeToDestroy osd).argv).1.stderr = .safe := by
  have hbare : MiniCluster.bareNumber (Ceph.osdName osd).toList = (toString osd).toList := by
    rw [Ceph.osdName, String.toList_append]
    exact bareNumber_toString osd
  have hreply : (m.ownReply (Command.safeToDestroy osd).argv).1.stderr =
      "OSD(s) " ++ String.ofList (MiniCluster.bareNumber (Ceph.osdName osd).toList)
        ++ " are safe to destroy without reducing data durability" ++ "." := by
    simp only [MiniCluster.ownReply, Command.argv, MiniCluster.stderrOnly, String.append_assoc,
      String.reduceAppend]
  refine Removability.ofText_safe_iff.2 ⟨_, Removability.isNumber_toString osd, ?_⟩
  rw [safePhrase_eq, hreply, hbare]
  generalize "OSD(s) " ++ _ ++ _ = phrase
  rw [String.toList_append]
  exact (List.prefix_append ..).isInfix

theorem brings_askRemovability (polls : Nat) (h : Answering m) (osd : UInt32) :
    ∃ answer : Monitor.Answer, answer.removability = .safe ∧ ∀ t,
      Brings (Monitor.askRemovability ⟨s.stockNamed, polls⟩ osd) t m answer t m := by
  refine ⟨_, ?_, fun t => Brings.during _ ((brings_run h (.safeToDestroy osd)).map rfl)⟩
  simp only [Monitor.Answer.ofOutput, ofText_ownReply]

end

end OsdMigration
