import OsdMigration.Ceph.Command
import OsdMigration.Cluster.Selector
import OsdMigration.MiniCluster.Basic
import OsdMigration.Text.Numeral
import OsdMigration.Text.Quoted

set_option autoImplicit false

/-! # The commands of the cluster's Ceph

An OSD is up while a pod with its labels runs. An OSD can always be destroyed, and a purge
forgets it.
-/

namespace OsdMigration.MiniCluster

open Cluster

/-- Whether a pod of an OSD runs. -/
def isUp (m : MiniCluster) (osd : UInt32) : Bool :=
  m.pods.any fun p => p.selectedBy ("app=rook-ceph-osd,ceph-osd-id=" ++ toString osd)

/-- The value with a member set; a value that is no object becomes one. -/
def setMember (j : Json) (name : String) (value : Json) : Json :=
  match j with
  | .obj members => .obj (NameMap.put name value members)
  | _ => .obj [(name, value)]

/-- The value with a member changed. -/
def changeMember (j : Json) (name : String) (f : Json → Json) : Json :=
  setMember j name (f ((j.get? name).getD .null))

/-- The report with the counts of the OSDs that are known and up. -/
def statusReport (m : MiniCluster) : Json :=
  let up := (m.osds.members.filter m.isUp).length
  changeMember m.report "osdmap" fun j =>
    changeMember j "osdmap" fun j =>
      setMember (setMember j "num_osds" (.ofNat m.osds.members.length)) "num_up_osds" (.ofNat up)

/-- The number in the name of an OSD: what stands behind every `osd.` at the front. -/
def bareNumber : List Char → List Char
  | 'o' :: 's' :: 'd' :: '.' :: rest => bareNumber rest
  | cs => cs

/-- The output of a command that answers in the stream of errors. -/
def stderrOnly (stderr : String) : CommandOutput := ⟨0, "", stderr⟩

/-- The cluster's own reply to a command. -/
def ownReply (m : MiniCluster) (argv : List String) : CommandOutput × MiniCluster :=
  match argv with
  | "ceph" :: "status" :: _ => (.success m.statusReport.render, m)
  | ["ceph", "osd", "safe-to-destroy", osd] =>
    (stderrOnly ("OSD(s) " ++ String.ofList (bareNumber osd.toList)
      ++ " are safe to destroy without reducing data durability."), m)
  | ["ceph", "osd", "reweight", osd, _] => (stderrOnly ("reweighted " ++ osd ++ " to 0"), m)
  | ["ceph", "osd", "purge", osd, "--yes-i-really-mean-it"] =>
    (stderrOnly ("purged osd." ++ osd),
      match Text.uint32? osd with
      | some n => { m with osds := m.osds.erase n }
      | none => m)
  | _ =>
    (⟨22, "", "no valid command found for " ++ Text.quote (Request.commandLine argv)⟩, m)

end OsdMigration.MiniCluster
