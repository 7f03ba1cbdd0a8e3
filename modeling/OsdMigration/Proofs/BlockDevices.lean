import OsdMigration.Proofs.Json.Members
import OsdMigration.Proofs.MiniCluster.Alone
import OsdMigration.Proofs.MiniCluster.Arrival
import OsdMigration.Provisioning

set_option autoImplicit false

/-! # What enabling block devices changes

Whether block devices can be enabled is a matter of one field of the cluster object. If the field is
there, it is set, the directories are taken out, and everything else in the object stays as it was
(`Switched`); the OSDs that wait for block devices come up, each once (`Arrived`), and there is
nothing left to do for a second call. If it is not there, nothing changes and nothing else is
tried (`enables_exactly`).
-/

namespace OsdMigration

open Cluster
open Json (ofMap Pointer)

namespace Provisioning

/-! ## The cluster object -/

/-- The field that lets the cluster use every block device. -/
def devicesField : Pointer := ["spec", "storage", "useAllDevices"]

/-- The field with the directories. -/
def directoriesField : Pointer := ["spec", "storage", "directories"]

/-- A cluster object with what it says of storage; the maps hold whatever else it says. -/
def withStorage (top spec : NameMap Json) (storage : Json) : Json :=
  ofMap (top.insert "spec" (ofMap (spec.insert "storage" storage)))

section

variable {top spec : NameMap Json} {storage : Json}

theorem lookup?_withStorage (rest : Pointer) :
    (withStorage top spec storage).lookup? ("spec" :: "storage" :: rest) =
      storage.lookup? rest := by
  rw [withStorage, Json.lookup?_insert, if_pos rfl, Json.lookup?_insert, if_pos rfl]

theorem modify?_withStorage (f : Json → Option Json) (rest : Pointer) :
    (withStorage top spec storage).modify? f ("spec" :: "storage" :: rest) =
      (storage.modify? f rest).map (withStorage top spec) := by
  simp only [withStorage, Json.modify?, Json.child?_ofMap, NameMap.get?_insert_self,
    Option.bind_eq_bind, Option.bind_some, Json.setChild_ofMap, Option.pure_def]
  cases storage.modify? f rest with
  | none => rfl
  | some k => simp [NameMap.insert_insert, withStorage]

/-- Where the field is there, objects lead to it. -/
theorem exists_withStorage {j : Json} (h : (j.canonical.lookup? devicesField).isSome) :
    ∃ top spec storage : NameMap Json, j.canonical = withStorage top spec (ofMap storage) ∧
      (storage.get? "useAllDevices").isSome := by
  have hspec : Pointer.index? "spec" = none := by decide +kernel
  have hstorage : Pointer.index? "storage" = none := by decide +kernel
  have hdevices : Pointer.index? "useAllDevices" = none := by decide +kernel
  obtain ⟨old, h⟩ := Option.isSome_iff_exists.1 h
  obtain ⟨k₁, h₁, h⟩ := Option.bind_eq_some_iff.1 h
  obtain ⟨top, htop, hget₁, j₁, rfl⟩ := Json.exists_map_of_child? hspec h₁
  obtain ⟨k₂, h₂, h⟩ := Option.bind_eq_some_iff.1 h
  obtain ⟨spec, hspecMap, hget₂, j₂, rfl⟩ := Json.exists_map_of_child? hstorage h₂
  obtain ⟨k₃, h₃, h⟩ := Option.bind_eq_some_iff.1 h
  obtain ⟨storage, hstorageMap, hget₃, _⟩ := Json.exists_map_of_child? hdevices h₃
  refine ⟨top, spec, storage, ?_, Option.isSome_of_eq_some hget₃⟩
  rw [withStorage, ← hstorageMap, NameMap.insert_of_get? hget₂, ← hspecMap,
    NameMap.insert_of_get? hget₁, htop]

end

/-! ## The two patches -/

theorem ofText?_devicesField :
    Pointer.ofText? "/spec/storage/useAllDevices" = some devicesField := by
  decide +kernel

theorem parent?_directoriesField : Json.Operation.parent? "/spec/storage/directories" =
    some (["spec", "storage"], "directories") := by
  decide +kernel

section

variable {top spec storage : NameMap Json}

/-- The first patch sets the field, -/
theorem apply_useAllDevices (h : (storage.get? "useAllDevices").isSome) :
    useAllDevicesPatch.apply (withStorage top spec (ofMap storage)) =
      .ok (withStorage top spec (ofMap (storage.insert "useAllDevices" (.bool true)))) := by
  have hmodify : (withStorage top spec (ofMap storage)).modify? (fun _ => some (.bool true))
      devicesField =
        some (withStorage top spec (ofMap (storage.insert "useAllDevices" (.bool true)))) := by
    obtain ⟨old, h⟩ := Option.isSome_iff_exists.1 h
    rw [devicesField, modify?_withStorage]
    simp [Json.modify?, h]
  simp only [useAllDevicesPatch, Json.Patch.apply, Json.Patch.applyFrom, Json.Operation.apply,
    ofText?_devicesField, Option.bind_some, hmodify]
  rfl

/-- The failure of the first patch. -/
def notEnabled : Json.Patch.Rejection :=
  ⟨0, .replace "/spec/storage/useAllDevices" (.bool true), .path⟩

/-- if it is there. -/
theorem apply_useAllDevices_of_none {j : Json} (h : j.lookup? devicesField = none) :
    useAllDevicesPatch.apply j = .error notEnabled := by
  have hmodify : j.modify? (fun _ => some (.bool true)) devicesField = none := by
    rw [← Option.not_isSome_iff_eq_none, Json.modify?_isSome fun _ => rfl, h]
    exact Bool.false_ne_true
  simp only [useAllDevicesPatch, Json.Patch.apply, Json.Patch.applyFrom, Json.Operation.apply,
    ofText?_devicesField, Option.bind_some, hmodify]
  rfl

/-- The failure of the second patch. -/
def notDropped : Json.Patch.Rejection := ⟨0, .remove "/spec/storage/directories", .path⟩

/-- The second patch takes the directories out, if they are there. -/
theorem apply_dropDirectories (top spec storage : NameMap Json) :
    dropDirectoriesPatch.apply (withStorage top spec (ofMap storage)) =
      if (storage.get? "directories").isSome then
        .ok (withStorage top spec (ofMap (storage.erase "directories")))
      else .error notDropped := by
  have hlookup : (withStorage top spec (ofMap storage)).lookup?
      (["spec", "storage"] ++ ["directories"]) = storage.get? "directories" := by
    change (withStorage top spec (ofMap storage)).lookup? ("spec" :: "storage" :: _) = _
    rw [lookup?_withStorage]
    simp [Json.lookup?]
  have hmodify : (withStorage top spec (ofMap storage)).modify?
      (Json.Operation.takeFrom? "directories") ["spec", "storage"] =
        if (storage.get? "directories").isSome then
          some (withStorage top spec (ofMap (storage.erase "directories"))) else none := by
    rw [modify?_withStorage]
    simp only [Json.modify?, Json.takeFrom?_ofMap]
    split <;> rfl
  simp only [dropDirectoriesPatch, Json.Patch.apply, Json.Patch.applyFrom, Json.Operation.apply,
    Json.Operation.removeAt?, parent?_directoriesField, Option.bind_eq_bind, Option.bind_some,
    hlookup, hmodify]
  cases storage.get? "directories" <;> rfl

end

/-! ## What is left of the object -/

/-- What is said of storage, with the field set and the directories taken out. -/
def blockOnly (storage : NameMap Json) : NameMap Json :=
  (storage.insert "useAllDevices" (.bool true)).erase "directories"

theorem get?_blockOnly (storage : NameMap Json) (name : String) :
    (blockOnly storage).get? name = if name = "directories" then none
      else if name = "useAllDevices" then some (.bool true) else storage.get? name := by
  rw [blockOnly, NameMap.get?_erase, NameMap.get?_insert]

theorem blockOnly_blockOnly (storage : NameMap Json) :
    blockOnly (blockOnly storage) = blockOnly storage := by
  refine NameMap.ext_get? fun name => ?_
  simp only [get?_blockOnly]
  split
  · rfl
  · split <;> rfl

/-- One object comes from another by setting the field and taking out the directories. What else
the objects say is the same, since it is in the same maps. -/
def Switched (before after : Json) : Prop :=
  ∃ top spec storage : NameMap Json, (storage.get? "useAllDevices").isSome ∧
    before = withStorage top spec (ofMap storage) ∧
    after = withStorage top spec (ofMap (blockOnly storage))

/-- The pointer leads neither to one of the fields nor into it, nor to what contains them. -/
def Elsewhere (p : Pointer) : Prop :=
  ∀ field ∈ [devicesField, directoriesField], ¬ field <+: p ∧ ¬ p <+: field

namespace Switched

variable {before after : Json}

/-- The field is set, -/
theorem devices (h : Switched before after) : after.lookup? devicesField = some (.bool true) := by
  obtain ⟨top, spec, storage, _, _, rfl⟩ := h
  rw [devicesField, lookup?_withStorage]
  simp [Json.lookup?, get?_blockOnly]

/-- the directories are gone, -/
theorem directories (h : Switched before after) : after.lookup? directoriesField = none := by
  obtain ⟨top, spec, storage, _, _, rfl⟩ := h
  rw [directoriesField, lookup?_withStorage]
  simp [Json.lookup?, get?_blockOnly]

/-- and what stands elsewhere stays. -/
theorem elsewhere (h : Switched before after) {p : Pointer} (hp : Elsewhere p) :
    after.lookup? p = before.lookup? p := by
  obtain ⟨top, spec, storage, _, rfl, rfl⟩ := h
  obtain ⟨hdevices, hprefix⟩ := hp devicesField List.mem_cons_self
  obtain ⟨hdirectories, _⟩ := hp directoriesField (by simp)
  -- step by step, until the pointer leaves the way to the fields
  match p with
  | [] => exact absurd List.nil_prefix hprefix
  | step :: p =>
    simp only [withStorage, Json.lookup?_insert]
    by_cases hspec : step = "spec"
    · subst hspec
      match p with
      | [] => exact absurd ⟨_, rfl⟩ hprefix
      | step :: p =>
        simp only [if_true, Json.lookup?_insert]
        by_cases hstorage : step = "storage"
        · subst hstorage
          match p with
          | [] => exact absurd ⟨_, rfl⟩ hprefix
          | step :: p =>
            have hne : step ≠ "useAllDevices" := by
              rintro rfl
              exact hdevices ⟨p, rfl⟩
            have hne' : step ≠ "directories" := by
              rintro rfl
              exact hdirectories ⟨p, rfl⟩
            simp [Json.lookup?, get?_blockOnly, hne, hne']
        · simp [hstorage]
    · simp [hspec]

end Switched

/-! ## The OSDs that come up -/

/-- The deployments of the OSDs that wait for block devices. -/
def arrivals (pending : List (UInt32 × String)) : List (String × Deployment) :=
  pending.map fun q => (MiniCluster.osdDeployment q.1,
    MiniCluster.deploymentFor (MiniCluster.osdDeployment q.1) (MiniCluster.osdPod q.1 q.2 false) 1)

/-- Each OSD that waited is there once, none waits any more, and nothing else of the cluster is
different but for its object and its log. -/
structure Arrived (m m' : MiniCluster) : Prop where
  pods : m'.pods = m.pods ++ m.pending.map fun q => MiniCluster.osdPod q.1 q.2 false
  osds : ∀ osd, osd ∈ m'.osds ↔ osd ∈ m.osds ∨ osd ∈ m.pending.map Prod.fst
  deployments : ∀ name, m'.deployments.get? name =
    ((arrivals m.pending).reverse.lookup name).or (m.deployments.get? name)
  others : m' = { m with
    pods := m'.pods, osds := m'.osds, deployments := m'.deployments, pending := []
    clusterObject := m'.clusterObject, log := m'.log }

theorem mem_foldl_insert {osd : UInt32} (l : List UInt32) (s : OsdSet) :
    osd ∈ l.foldl OsdSet.insert s ↔ osd ∈ s ∨ osd ∈ l := by
  induction l generalizing s with
  | nil => simp
  | cons n l ih =>
      rw [List.foldl_cons, ih, OsdSet.mem_insert, List.mem_cons, or_comm (a := osd = n), or_assoc]

/-- What is added to a cluster when some OSDs come up. -/
theorem foldl_withOsd (l : List (UInt32 × String)) (m : MiniCluster) :
    l.foldl (fun m q => m.withOsd q.1 q.2 false) m = { m with
      pods := m.pods ++ l.map fun q => MiniCluster.osdPod q.1 q.2 false
      osds := (l.map Prod.fst).foldl OsdSet.insert m.osds
      deployments := (arrivals l).foldl (fun ds p => ds.insert p.1 p.2) m.deployments } := by
  induction l generalizing m with
  | nil => simp [arrivals]
  | cons q l ih =>
      rw [List.foldl_cons, ih]
      simp [MiniCluster.withOsd, MiniCluster.run, arrivals]

theorem arrived_bringUp (m : MiniCluster) : Arrived m m.bringUp := by
  rw [MiniCluster.bringUp, foldl_withOsd]
  exact ⟨rfl, fun _ => mem_foldl_insert .., fun _ => NameMap.get?_foldl_insert .., rfl⟩

/-- The object and the log are of no account. -/
theorem Arrived.of_other {m m' : MiniCluster} (h : Arrived m m') (log : List Request) (j : Json) :
    Arrived m { m' with log, clusterObject := j } :=
  ⟨h.pods, h.osds, h.deployments,
    congrArg (fun m' : MiniCluster => { m' with log, clusterObject := j }) h.others⟩

theorem pending_bringUp (m : MiniCluster) : m.bringUp.pending = [] :=
  congrArg MiniCluster.pending (arrived_bringUp m).others

/-! ## Requests that change the object -/

theorem usesAllDevices_withStorage {m : MiniCluster} {top spec storage : NameMap Json}
    (hobject : m.clusterObject = withStorage top spec (ofMap storage))
    (hset : storage.get? "useAllDevices" = some (.bool true)) : m.usesAllDevices = true := by
  rw [MiniCluster.usesAllDevices, hobject]
  simp [withStorage, hset]

variable {s : Settings} {m : MiniCluster} {patch : Json.Patch}

/-- A patch after which block devices are used brings up the OSDs that wait for them. -/
theorem serve_change {j : Json} (hpatch : patch.apply m.clusterObject = .ok j)
    (huses : ({ m with clusterObject := j } : MiniCluster).usesAllDevices = true) :
    m.serve (change s patch) = (some (.ok ()),
      ({ m with log := change s patch :: m.log, clusterObject := j } : MiniCluster).bringUp) := by
  have huses' : ({ m.noted (change s patch) with clusterObject := j } :
      MiniCluster).usesAllDevices = true := huses
  have hobject : (m.noted (change s patch)).patchObject patch =
      (.ok (), ({ m.noted (change s patch) with clusterObject := j } : MiniCluster).bringUp) := by
    simp only [MiniCluster.patchObject, MiniCluster.noted, hpatch]
    exact congrArg (Prod.mk _) (if_pos huses')
  exact congrArg (fun r => (some r.1, r.2)) hobject

/-- A patch that cannot be applied changes nothing. -/
theorem serve_change_of_error {r : Json.Patch.Rejection}
    (hpatch : patch.apply m.clusterObject = .error r) :
    m.serve (change s patch) =
      (some (.error (MiniCluster.rejected r)), m.noted (change s patch)) := by
  have hobject : (m.noted (change s patch)).patchObject patch =
      (.error (MiniCluster.rejected r), m.noted (change s patch)) := by
    simp only [MiniCluster.patchObject, MiniCluster.noted, hpatch]
  exact congrArg (fun r => (some r.1, r.2)) hobject

/-! ## Runs -/

/-- A call on a cluster that is left alone. -/
def enabling (s : Settings) (cancelAt : Option Nat) (now : Nat) (h : Rehearsal) :
    Ending (Attempt Unit) × Timeline Rehearsal :=
  (enableBlock s).attempt.run Rehearsal.server cancelAt ⟨now, h, []⟩

/-- What is said of a failure of the second change. -/
def excuse (f : Failure) : String :=
  "Got error " ++ f.message ++ " when disabling hostpath storage, but continuing anyways"

/-- What is told of the outcome of the second change. -/
def excuses : Attempt Unit → List Message
  | .ok () => []
  | .error f => [.line (excuse f)]

/-- What is done about the outcome of the second change. -/
def conclude : Attempt Unit → Job Unit
  | .ok () => pure ()
  | .error f => Job.report (excuse f)

theorem enableBlock_eq (s : Settings) : enableBlock s =
    (Job.ask (change s useAllDevicesPatch)).during "unable to patch cephcluster" >>= fun _ =>
      Job.ofProcedure (Job.ask (change s dropDirectoriesPatch)).attempt >>= conclude := by
  unfold enableBlock
  congr 1
  funext _
  congr 1
  funext dropped
  cases dropped <;> rfl

variable (s) (cancelAt : Option Nat) (now : Nat) {h : Rehearsal} {m₁ m₂ : MiniCluster}

/-- Without the first change the second is not tried. -/
theorem enabling_refused (ha : h.LeftAlone m) {f : Failure}
    (hfirst : m.serve (change s useAllDevicesPatch) = (some (.error f), m₁)) :
    ∃ server, server.LeftAlone m₁ ∧ enabling s cancelAt now h =
      (.done (.error (.during "unable to patch cephcluster" f)), ⟨now, server,
        [.answered now (change s useAllDevicesPatch) (.error f),
          .called now (change s useAllDevicesPatch)]⟩) := by
  obtain ⟨server, ha₁, hrun⟩ := Job.run_ask (t := ⟨now, h, []⟩) cancelAt ha hfirst
  exact ⟨server, ha₁, Job.run_bind_of_error (Job.run_during_error hrun)⟩

/-- After it the second is tried, and its failure is only told. -/
theorem enabling_enabled (ha : h.LeftAlone m) {a : Attempt Unit}
    (hfirst : m.serve (change s useAllDevicesPatch) = (some (.ok ()), m₁))
    (hsecond : m₁.serve (change s dropDirectoriesPatch) = (some a, m₂)) :
    ∃ server, server.LeftAlone m₂ ∧ enabling s cancelAt now h =
      (.done (.ok ()), ⟨now, server, (excuses a).map (.told now) ++
        [.answered now (change s dropDirectoriesPatch) a,
          .called now (change s dropDirectoriesPatch),
          .answered now (change s useAllDevicesPatch) (.ok ()),
          .called now (change s useAllDevicesPatch)]⟩) := by
  obtain ⟨server₁, ha₁, hrun₁⟩ := Job.run_ask (t := ⟨now, h, []⟩) cancelAt ha hfirst
  obtain ⟨server₂, ha₂, hrun₂⟩ := Job.run_ask (t := ⟨now, server₁,
    [.answered now (change s useAllDevicesPatch) (.ok ()),
      .called now (change s useAllDevicesPatch)]⟩) cancelAt ha₁ hsecond
  refine ⟨server₂, ha₂, ?_⟩
  have hrest := Job.run_bind_of_ok (f := conclude) (Job.run_ofProcedure hrun₂)
  rw [enabling, enableBlock_eq]
  refine (Job.run_bind_of_ok (Job.run_during_ok.2 hrun₁)).trans (hrest.trans ?_)
  cases a <;> rfl

/-! ## The whole -/

section

variable {top spec storage : NameMap Json}

/-- The outcome of the second change. -/
def dropped (storage : NameMap Json) : Attempt Unit :=
  if (storage.get? "directories").isSome then .ok () else .error (MiniCluster.rejected notDropped)

/-- Where the field is there, the first change is made, the second is tried, and no OSD waits any
more. -/
theorem enabling_withStorage (ha : h.LeftAlone m)
    (hobject : m.clusterObject = withStorage top spec (ofMap storage))
    (hold : (storage.get? "useAllDevices").isSome) :
    ∃ server, server.LeftAlone { m.bringUp with
        log := change s dropDirectoriesPatch :: change s useAllDevicesPatch :: m.log
        clusterObject := withStorage top spec (ofMap (blockOnly storage)) } ∧
      enabling s cancelAt now h = (.done (.ok ()), ⟨now, server,
        (excuses (dropped storage)).map (.told now) ++
          [.answered now (change s dropDirectoriesPatch) (dropped storage),
            .called now (change s dropDirectoriesPatch),
            .answered now (change s useAllDevicesPatch) (.ok ()),
            .called now (change s useAllDevicesPatch)]⟩) := by
  let used := storage.insert "useAllDevices" (.bool true)
  have hset : used.get? "useAllDevices" = some (.bool true) := NameMap.get?_insert_self ..
  have hdirectories : used.get? "directories" = storage.get? "directories" :=
    NameMap.get?_insert_of_ne _ _ (by decide)
  have hfirst := serve_change (s := s) (hobject ▸ apply_useAllDevices hold)
    (usesAllDevices_withStorage rfl hset)
  rw [MiniCluster.bringUp_of_other] at hfirst
  refine enabling_enabled s cancelAt now ha hfirst ?_
  have hsecond := apply_dropDirectories top spec used
  rw [hdirectories] at hsecond
  -- the second patch is refused if there were no directories, and then nothing was to go
  cases hthere : (storage.get? "directories").isSome with
  | true =>
      rw [if_pos hthere] at hsecond
      have hstill : (blockOnly storage).get? "useAllDevices" = some (.bool true) :=
        get?_blockOnly ..
      have hserve := serve_change (s := s) (m := { m.bringUp with
          log := change s useAllDevicesPatch :: m.log
          clusterObject := withStorage top spec (ofMap used) }) hsecond
        (usesAllDevices_withStorage rfl hstill)
      rw [dropped, if_pos hthere]
      exact hserve.trans (congrArg (Prod.mk _) (MiniCluster.bringUp_of_none (pending_bringUp m)))
  | false =>
      rw [if_neg (by simp [hthere])] at hsecond
      have hserve := serve_change_of_error (s := s) (m := { m.bringUp with
        log := change s useAllDevicesPatch :: m.log
        clusterObject := withStorage top spec (ofMap used) }) hsecond
      -- erasing what is not there changes nothing
      have hsame : blockOnly storage = used :=
        NameMap.erase_of_get? (hdirectories.trans (by simpa using hthere))
      rw [dropped, if_neg (by simp [hthere]), hsame]
      exact hserve

end

/-- What is told if there were no directories. -/
def nothingDropped : Message :=
  .line ("Got error Internal error: the server rejected our request: Operation '/0' failed at path "
    ++ "'/spec/storage/directories': path is invalid when disabling hostpath storage, but "
    ++ "continuing anyways")

theorem excuses_dropped (storage : NameMap Json) : excuses (dropped storage) =
    if (storage.get? "directories").isSome then [] else [nothingDropped] := by
  unfold dropped
  split
  · rfl
  · decide +kernel

/-- What a call does where the field is there. -/
structure Enabled (s : Settings) (m : MiniCluster)
    (run : Ending (Attempt Unit) × Timeline Rehearsal) : Prop where
  ended : run.1 = .done (.ok ())
  switched : Switched m.clusterObject run.2.server.cluster.clusterObject
  elsewhere : ∀ p, Elsewhere p →
    run.2.server.cluster.clusterObject.lookup? p = m.clusterObject.lookup? p
  arrived : Arrived m run.2.server.cluster
  sent : mutations run.2.seen = [change s dropDirectoriesPatch, change s useAllDevicesPatch]
  /-- Only that there were no directories is told, and in one line. -/
  told : messages run.2.seen =
    if (m.clusterObject.lookup? directoriesField).isSome then [] else [nothingDropped]

/-- What a call does where the field is not there. -/
structure Refused (s : Settings) (m : MiniCluster)
    (run : Ending (Attempt Unit) × Timeline Rehearsal) : Prop where
  ended : run.1 =
    .done (.error (.during "unable to patch cephcluster" (MiniCluster.rejected notEnabled)))
  cluster : run.2.server.cluster = m.noted (change s useAllDevicesPatch)
  sent : mutations run.2.seen = [change s useAllDevicesPatch]
  told : messages run.2.seen = []

section

variable {top spec storage : NameMap Json}
  (hobject : m.clusterObject = withStorage top spec (ofMap storage))
  (hold : (storage.get? "useAllDevices").isSome)

include hobject hold

theorem enabled_of_withStorage : Enabled s m (enabling s cancelAt now { cluster := m }) := by
  obtain ⟨server, ⟨underWay, rfl⟩, hrun⟩ := enabling_withStorage s cancelAt now
    (h := { cluster := m }) ⟨none, rfl⟩ hobject hold
  have hswitched : Switched m.clusterObject
      (withStorage top spec (ofMap (blockOnly storage))) :=
    ⟨top, spec, storage, hold, hobject, rfl⟩
  have hdirectories : m.clusterObject.lookup? directoriesField = storage.get? "directories" := by
    rw [hobject, directoriesField, lookup?_withStorage]
    simp [Json.lookup?]
  rw [hrun]
  constructor
  case ended => rfl
  case switched => exact hswitched
  case elsewhere => exact fun p hp => hswitched.elsewhere hp
  case arrived => exact (arrived_bringUp m).of_other _ _
  case sent => cases dropped storage <;> rfl
  case told =>
    rw [hdirectories, ← excuses_dropped]
    cases dropped storage <;> rfl

/-- There is nothing left to do for another call. -/
theorem again_of_withStorage (cancelAt' : Option Nat) (later : Nat) :
    let first := (enabling s cancelAt now { cluster := m }).2.server
    let second := enabling s cancelAt' later first
    second.1 = .done (.ok ()) ∧
      second.2.server.cluster = { first.cluster with log := second.2.server.cluster.log } := by
  obtain ⟨server, hserver, hrun⟩ := enabling_withStorage s cancelAt now
    (h := { cluster := m }) ⟨none, rfl⟩ hobject hold
  have hset : ((blockOnly storage).get? "useAllDevices").isSome := by
    rw [get?_blockOnly]
    rfl
  obtain ⟨server', hserver', hrun'⟩ := enabling_withStorage s cancelAt' later
    hserver rfl hset
  intro first second
  have hfirst : first = server := congrArg (fun r => r.2.server) hrun
  have hsecond : second = _ := (congrArg (enabling s cancelAt' later) hfirst).trans hrun'
  rw [hsecond, hfirst]
  obtain ⟨_, rfl⟩ := hserver
  obtain ⟨_, rfl⟩ := hserver'
  refine ⟨rfl, ?_⟩
  rw [blockOnly_blockOnly, MiniCluster.bringUp_of_other,
    MiniCluster.bringUp_of_none (pending_bringUp m)]

end

theorem refused_of_none (hfield : m.clusterObject.lookup? devicesField = none) :
    Refused s m (enabling s cancelAt now { cluster := m }) := by
  obtain ⟨server, ⟨underWay, rfl⟩, hrun⟩ := enabling_refused s cancelAt now
    (h := { cluster := m }) ⟨none, rfl⟩
    (serve_change_of_error (apply_useAllDevices_of_none hfield))
  rw [hrun]
  exact ⟨rfl, rfl, rfl, rfl⟩

/-- What calls on a cluster that is left alone do. -/
structure EnablesExactly (s : Settings) (cancelAt : Option Nat) (now : Nat) (m : MiniCluster) :
    Prop where
  enabled : (m.clusterObject.lookup? devicesField).isSome →
    Enabled s m (enabling s cancelAt now { cluster := m })
  /-- A second call changes nothing any more, whenever it begins. -/
  again : (m.clusterObject.lookup? devicesField).isSome → ∀ cancelAt' later,
    let first := (enabling s cancelAt now { cluster := m }).2.server
    let second := enabling s cancelAt' later first
    second.1 = .done (.ok ()) ∧
      second.2.server.cluster = { first.cluster with log := second.2.server.cluster.log }
  refused : m.clusterObject.lookup? devicesField = none →
    Refused s m (enabling s cancelAt now { cluster := m })

/-- Enabling block devices changes two fields of the cluster object and nothing else, or nothing at
all, whatever the object is. -/
theorem enables_exactly (s : Settings) (cancelAt : Option Nat) (now : Nat) (m : MiniCluster)
    (object : Json) :
    EnablesExactly s cancelAt now { m with clusterObject := object.canonical } := by
  constructor
  case enabled =>
    intro hfield
    obtain ⟨top, spec, storage, hobject, hold⟩ := exists_withStorage hfield
    exact enabled_of_withStorage s cancelAt now hobject hold
  case again =>
    intro hfield
    obtain ⟨top, spec, storage, hobject, hold⟩ := exists_withStorage hfield
    exact again_of_withStorage s cancelAt now hobject hold
  case refused => exact refused_of_none s cancelAt now

end Provisioning

end OsdMigration
