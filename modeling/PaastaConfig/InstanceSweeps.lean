import PaastaConfig.InstanceListCache
import PaastaConfig.ClusterFiles

/-!
# Sweeps over the instance lists

`get_services_for_cluster(cluster, instance_type, soa_dir)` calls `get_service_instance_list`
for every directory under `soa_dir` and concatenates the answers.
`list_all_instances_for_service(service, clusters, instance_type, soa_dir, cache)` calls it for
every cluster, by default for every cluster `list_clusters(service, soa_dir=soa_dir)` finds,
and collects the instance names into a set. Both loops (`sweep`) go through the time cache of
`get_service_instance_list`; with `cache=False` the second calls
`get_service_instance_list_no_cache` instead.

Uncached, a sweep is a `foldlM` over its calls (`sweep_uncached`). Through a sound cache it
answers the same on files unchanged for the last 5 s, and leaves the cache sound
(`sweep_cached`). So `cache=True` and `cache=False` then give the same set
(`listAllInstancesForService_cache_agrees`), and `get_services_for_cluster` returns the
concatenation of the uncached instance lists (`getServicesForCluster_eq_uncached`). A set
that is returned comes from lookups on every cluster searched that all returned, and holds each
instance of the service on one of those clusters exactly once
(`mem_listAllInstancesForService`). `list_clusters` is called without `instance_type`, so the
default clusters are those with a deploy file of any instance type.

A Python set is modelled as a list without duplicates, in the order of insertion. The directory
listing is `os.listdir(soa_dir)` as `FileSystem.listdir` gives it; `os.path.abspath` is not
modelled.
-/

namespace PaastaConfig

section Sweeps

variable (consts : PaastaConst) (files : Files) (now : Nat)

/-- `get_service_instance_list(...)` through its cache at `now`, or
`get_service_instance_list_no_cache(...)`, which leaves the cache as it is. -/
def lookupInstanceList (cache : Bool) (instanceLists : InstanceListCache)
    (args : InstanceListArgs) : Except PyError (List (String × String)) × InstanceListCache :=
  if cache then getServiceInstanceList consts files now instanceLists args
  else (getServiceInstanceListOn consts files args, instanceLists)

/-- The loop of `get_services_for_cluster` and `list_all_instances_for_service`: a lookup per
call, each answer folded into `acc` by `combine`; an exception ends the loop. -/
def sweep {α : Type} (cache : Bool) (combine : α → List (String × String) → α) :
    List InstanceListArgs → α → InstanceListCache → Except PyError α × InstanceListCache
  | [], acc, instanceLists => (pure acc, instanceLists)
  | args :: calls, acc, instanceLists =>
      let step := lookupInstanceList consts files now cache instanceLists args
      match step.1 with
      | .error e => (throw e, step.2)
      | .ok sis => sweep cache combine calls (combine acc sis) step.2

/-- `instances.add(service_instance[1])` for each service instance of `sis`. -/
def addInstances (instances : List String) (sis : List (String × String)) : List String :=
  sis.foldl (fun instances si => if si.2 ∈ instances then instances else instances ++ [si.2])
    instances

/-- `get_services_for_cluster(cluster, instance_type, soa_dir)`. -/
def getServicesForCluster (fs : FileSystem) (instanceLists : InstanceListCache)
    (cluster instanceType : Option String) (soaDir : String) :
    Except PyError (List (String × String)) × InstanceListCache :=
  match files.system.clusterOr cluster with
  | .error e => (throw e, instanceLists)
  | .ok cluster =>
      let calls := (fs.listdir soaDir).map fun srvDir =>
        (⟨srvDir, some cluster, instanceType, soaDir⟩ : InstanceListArgs)
      sweep consts files now true (· ++ ·) calls [] instanceLists

/-- The clusters `list_all_instances_for_service` searches: `clusters`, or, when it is empty or
`None`, those `list_clusters(service, soa_dir=soa_dir)` finds. -/
def searchedClusters (fs : FileSystem) (service : String) (clusters : List (Option String))
    (soaDir : String) : Except PyError (List (Option String)) :=
  if clusters = [] then listClusters fs consts files.system service soaDir none
  else pure clusters

/-- `list_all_instances_for_service(service, clusters, instance_type, soa_dir, cache)`. -/
def listAllInstancesForService (fs : FileSystem) (instanceLists : InstanceListCache)
    (service : String) (clusters : List (Option String)) (instanceType : Option String)
    (soaDir : String) (cache : Bool) : Except PyError (List String) × InstanceListCache :=
  match searchedClusters consts files fs service clusters soaDir with
  | .error e => (throw e, instanceLists)
  | .ok clusters =>
      let calls := clusters.map fun cluster =>
        (⟨service, cluster, instanceType, soaDir⟩ : InstanceListArgs)
      sweep consts files now cache addInstances calls [] instanceLists

theorem lookupInstanceList_true :
    lookupInstanceList consts files now true = getServiceInstanceList consts files now := rfl

theorem lookupInstanceList_false (instanceLists : InstanceListCache) (args : InstanceListArgs) :
    lookupInstanceList consts files now false instanceLists args =
      (getServiceInstanceListOn consts files args, instanceLists) := rfl

/-- The uncached sweep is the loop it runs: a `foldlM` over the calls, the cache untouched. -/
theorem sweep_uncached {α : Type} (combine : α → List (String × String) → α) :
    ∀ (calls : List InstanceListArgs) (acc : α) (instanceLists : InstanceListCache),
      sweep consts files now false combine calls acc instanceLists =
        (calls.foldlM (fun acc args => combine acc <$> getServiceInstanceListOn consts files args)
          acc, instanceLists)
  | [], _, _ => rfl
  | args :: calls, acc, instanceLists => by
      simp only [sweep, lookupInstanceList_false, List.foldlM_cons]
      cases getServiceInstanceListOn consts files args with
      | error e => rfl
      | ok sis => exact sweep_uncached combine calls (combine acc sis) instanceLists

section Instances

variable {name : String}

theorem mem_addInstances {instances : List String} {sis : List (String × String)} :
    name ∈ addInstances instances sis ↔ name ∈ instances ∨ name ∈ sis.map Prod.snd := by
  induction sis generalizing instances with
  | nil => simp [addInstances]
  | cons si sis ih =>
    rw [addInstances, List.foldl_cons, ← addInstances, ih]
    split_ifs with present
    · by_cases same : name = si.2 <;> simp_all
    · simp [or_assoc]

theorem nodup_addInstances {instances : List String} {sis : List (String × String)}
    (nodup : instances.Nodup) : (addInstances instances sis).Nodup := by
  induction sis generalizing instances with
  | nil => exact nodup
  | cons si sis ih =>
    rw [addInstances, List.foldl_cons, ← addInstances]
    apply ih
    split_ifs with present
    · exact nodup
    · exact List.nodup_append.mpr ⟨nodup, List.nodup_singleton _, by simpa using present⟩

/-- A loop of `list_all_instances_for_service` that returns has every lookup return, and adds
each instance of each answer once. -/
theorem foldlM_addInstances (lookup : InstanceListArgs → Except PyError (List (String × String))) :
    ∀ (calls : List InstanceListArgs) {acc instances : List String},
      calls.foldlM (fun acc args => addInstances acc <$> lookup args) acc = .ok instances →
      (∀ args ∈ calls, ∃ sis, lookup args = .ok sis) ∧ (acc.Nodup → instances.Nodup) ∧
        ∀ name, name ∈ instances ↔
          name ∈ acc ∨ ∃ args ∈ calls, ∃ sis, lookup args = .ok sis ∧ name ∈ sis.map Prod.snd
  | [], acc, instances, done => by
      cases done
      simp
  | args :: calls, acc, instances, done => by
      rw [List.foldlM_cons] at done
      obtain ⟨added, step, rest⟩ := bind_eq_ok.mp done
      obtain ⟨sis, found, rfl⟩ := map_eq_ok.mp step
      obtain ⟨returned, nodup, mem⟩ := foldlM_addInstances lookup calls rest
      refine ⟨?_, fun accNodup => nodup (nodup_addInstances accNodup), fun name => ?_⟩
      · simpa [found] using returned
      · rw [mem, mem_addInstances]
        simp only [List.mem_cons, exists_eq_or_imp, found, Except.ok.injEq, exists_eq_left']
        tauto

/-- Uncached, a `list_all_instances_for_service` that returns has looked up every cluster it
searches, and returns each instance of the service on one of them, once. -/
theorem mem_listAllInstancesForService {consts : PaastaConst} {files : Files} {now : Nat}
    {fs : FileSystem} {instanceLists : InstanceListCache} {service : String}
    {clusters : List (Option String)} {instanceType : Option String} {soaDir : String}
    {instances : List String}
    (listed : (listAllInstancesForService consts files now fs instanceLists service clusters
      instanceType soaDir false).1 = .ok instances) :
    ∃ searched, searchedClusters consts files fs service clusters soaDir = .ok searched ∧
      (∀ cluster ∈ searched, ∃ sis,
        getServiceInstanceListOn consts files ⟨service, cluster, instanceType, soaDir⟩ = .ok sis) ∧
      instances.Nodup ∧ ∀ name, name ∈ instances ↔ ∃ cluster ∈ searched, ∃ sis,
        getServiceInstanceListOn consts files ⟨service, cluster, instanceType, soaDir⟩ = .ok sis ∧
          name ∈ sis.map Prod.snd := by
  unfold listAllInstancesForService at listed
  cases found : searchedClusters consts files fs service clusters soaDir with
  | error e => rw [found] at listed; cases listed
  | ok searched =>
    rw [found] at listed
    dsimp only at listed
    rw [sweep_uncached] at listed
    obtain ⟨returned, nodup, mem⟩ := foldlM_addInstances _ _ listed
    refine ⟨searched, rfl, fun cluster hcluster => returned _ (List.mem_map_of_mem _ hcluster),
      nodup List.nodup_nil, fun name => ?_⟩
    simp [mem]

/-- The soa-configs directory `/soa`: `svc` has the instances `canary` and `main` on `norcal` and
`batch` and `main` on `pnw-prod`; `web` has `main` on `norcal`. -/
def sweepFiles : Files :=
  ⟨.empty, fun _ => ⟨"/soa", fun service name =>
    if service = "svc" ∧ name = "marathon-norcal" then
      ⟨.dict [("canary", .dict []), ("main", .dict [])], by decide⟩
    else if service = "svc" ∧ name = "marathon-pnw-prod" then
      ⟨.dict [("batch", .dict []), ("main", .dict [])], by decide⟩
    else if service = "web" ∧ name = "marathon-norcal" then ⟨.dict [("main", .dict [])], by decide⟩
    else ⟨.dict [], by decide⟩, fun _ => ⟨.dict [], by decide⟩⟩⟩

/-- The listing of `/soa`: the services `svc` and `web`. -/
def soaListing : FileSystem := .ofDirs [("/soa", ["svc", "web"])]

theorem mem_listAllInstancesForService_svc :
    (listAllInstancesForService .example sweepFiles 0 soaListing .empty "svc"
        [some "norcal", some "pnw-prod"] none "/soa" false).1 = .ok ["canary", "main", "batch"] ∧
      ∃ searched, searchedClusters .example sweepFiles soaListing "svc"
          [some "norcal", some "pnw-prod"] "/soa" = .ok searched ∧
        (∀ cluster ∈ searched, ∃ sis,
          getServiceInstanceListOn .example sweepFiles ⟨"svc", cluster, none, "/soa"⟩ = .ok sis) ∧
        ["canary", "main", "batch"].Nodup ∧ ∀ name, name ∈ ["canary", "main", "batch"] ↔
          ∃ cluster ∈ searched, ∃ sis,
            getServiceInstanceListOn .example sweepFiles ⟨"svc", cluster, none, "/soa"⟩ = .ok sis ∧
              name ∈ sis.map Prod.snd :=
  ⟨rfl, @mem_listAllInstancesForService .example sweepFiles 0 soaListing .empty "svc"
    [some "norcal", some "pnw-prod"] none "/soa" _ rfl⟩

end Instances

end Sweeps

section Cached

variable {consts : PaastaConst} {history : Nat → Files} {now : Nat} {files : Files}

/-- One lookup through a sound cache answers as the uncached one on files unchanged for the
last 5 s, and keeps the cache sound. -/
theorem lookupInstanceList_cached {clock : Nat} {instanceLists : InstanceListCache}
    (args : InstanceListArgs) (sound : InstanceListsSound consts history clock instanceLists)
    (ordered : clock ≤ now) (unchanged : UnchangedFor history 5000 now files) :
    (lookupInstanceList consts files now true instanceLists args).1 =
        getServiceInstanceListOn consts files args ∧
      InstanceListsSound consts history now
        (lookupInstanceList consts files now true instanceLists args).2 := by
  obtain ⟨⟨t, before, recent, answered⟩, stays⟩ :=
    @getServiceInstanceList_sound consts history clock now instanceLists args sound ordered
  rw [unchanged now le_rfl (by omega)] at answered stays
  exact ⟨by rw [lookupInstanceList_true, answered, unchanged t before recent], stays⟩

/-- A sweep through a sound cache answers as the uncached loop on files unchanged for the last
5 s, and leaves the cache sound. -/
theorem sweep_cached {α : Type} (combine : α → List (String × String) → α)
    (unchanged : UnchangedFor history 5000 now files) :
    ∀ (calls : List InstanceListArgs) (acc : α) {instanceLists : InstanceListCache} {clock : Nat},
      InstanceListsSound consts history clock instanceLists → clock ≤ now →
      (sweep consts files now true combine calls acc instanceLists).1 =
          calls.foldlM (fun acc args => combine acc <$> getServiceInstanceListOn consts files args)
            acc ∧
        InstanceListsSound consts history now
          (sweep consts files now true combine calls acc instanceLists).2
  | [], _, _, _, sound, ordered => ⟨rfl, sound.mono ordered⟩
  | args :: calls, acc, instanceLists, _, sound, ordered => by
      obtain ⟨answered, stays⟩ := lookupInstanceList_cached args sound ordered unchanged
      simp only [sweep, answered, List.foldlM_cons]
      cases getServiceInstanceListOn consts files args with
      | error e => exact ⟨rfl, stays⟩
      | ok sis => exact sweep_cached combine unchanged calls (combine acc sis) stays le_rfl

/-- `list_all_instances_for_service` answers the same with `cache=True` as with `cache=False`
on files unchanged for the last 5 s, and leaves the cache sound. -/
theorem listAllInstancesForService_cache_agrees {clock : Nat} {instanceLists : InstanceListCache}
    (fs : FileSystem) (service : String) (clusters : List (Option String))
    (instanceType : Option String) (soaDir : String)
    (sound : InstanceListsSound consts history clock instanceLists) (ordered : clock ≤ now)
    (unchanged : UnchangedFor history 5000 now files) :
    (listAllInstancesForService consts files now fs instanceLists service clusters instanceType
        soaDir true).1 =
        (listAllInstancesForService consts files now fs instanceLists service clusters
          instanceType soaDir false).1 ∧
      InstanceListsSound consts history now
        (listAllInstancesForService consts files now fs instanceLists service clusters
          instanceType soaDir true).2 := by
  unfold listAllInstancesForService
  cases searchedClusters consts files fs service clusters soaDir with
  | error e => exact ⟨rfl, sound.mono ordered⟩
  | ok searched =>
    obtain ⟨answered, stays⟩ := sweep_cached addInstances unchanged
      (searched.map fun cluster => (⟨service, cluster, instanceType, soaDir⟩ : InstanceListArgs))
      [] sound ordered
    dsimp only
    exact ⟨by rw [answered, sweep_uncached], stays⟩

/-- The cache that `list_all_instances_for_service("svc", ["norcal", "pnw-prod"])` leaves in a
fresh process at 1 s: the instance lists of `svc` on both clusters. -/
def svcInstanceLists : InstanceListCache :=
  (listAllInstancesForService .example sweepFiles 1000 soaListing .empty "svc"
    [some "norcal", some "pnw-prod"] none "/soa" true).2

theorem listAllInstancesForService_cache_agrees_svc :
    svcInstanceLists.entries.map (fun entry => entry.2.2) = [1000, 1000] ∧
      InstanceListsSound .example (fun _ => sweepFiles) 1000 svcInstanceLists ∧ 1000 ≤ 3000 ∧
      UnchangedFor (fun _ => sweepFiles) 5000 3000 sweepFiles ∧
      (listAllInstancesForService .example sweepFiles 3000 soaListing svcInstanceLists "svc"
          [some "norcal", some "pnw-prod"] none "/soa" true).1 =
          (listAllInstancesForService .example sweepFiles 3000 soaListing svcInstanceLists "svc"
            [some "norcal", some "pnw-prod"] none "/soa" false).1 ∧
        InstanceListsSound .example (fun _ => sweepFiles) 3000
          (listAllInstancesForService .example sweepFiles 3000 soaListing svcInstanceLists "svc"
            [some "norcal", some "pnw-prod"] none "/soa" true).2 := by
  have sound : InstanceListsSound .example (fun _ => sweepFiles) 1000 svcInstanceLists :=
    (@sweep_cached .example (fun _ => sweepFiles) 1000 sweepFiles _ addInstances
      (fun _ _ _ => rfl) _ [] .empty 0 (fun _ h => nomatch h) (Nat.zero_le _)).2
  exact ⟨rfl, sound, by decide, fun _ _ _ => rfl,
    listAllInstancesForService_cache_agrees soaListing "svc" [some "norcal", some "pnw-prod"] none
      "/soa" sound (by decide) fun _ _ _ => rfl⟩

/-- Appending the answers of a loop over `names` is flattening their `mapM`. -/
theorem foldlM_append_map {β : Type}
    (lookup : InstanceListArgs → Except PyError (List (String × String)))
    (mk : β → InstanceListArgs) :
    ∀ (names : List β) (acc : List (String × String)),
      (names.map mk).foldlM (fun acc args => (acc ++ ·) <$> lookup args) acc =
        (fun lists => acc ++ lists.flatten) <$> names.mapM (fun name => lookup (mk name))
  | [], acc => by
      rw [List.map_nil, List.foldlM_nil, List.mapM_nil, map_pure, List.flatten_nil,
        List.append_nil]
  | name :: names, acc => by
      rw [List.map_cons, List.foldlM_cons, List.mapM_cons]
      cases lookup (mk name) with
      | error e => rfl
      | ok sis =>
        show List.foldlM _ (acc ++ sis) (names.map mk) = _
        rw [foldlM_append_map lookup mk names (acc ++ sis)]
        cases names.mapM (fun name => lookup (mk name)) <;> simp [Functor.map, Except.map]

/-- On files unchanged for the last 5 s, `get_services_for_cluster` returns the uncached
instance lists of the service directories one after the other, and leaves the cache sound. -/
theorem getServicesForCluster_eq_uncached {clock : Nat} {instanceLists : InstanceListCache}
    (fs : FileSystem) (cluster instanceType : Option String) (soaDir : String)
    (sound : InstanceListsSound consts history clock instanceLists) (ordered : clock ≤ now)
    (unchanged : UnchangedFor history 5000 now files) :
    (getServicesForCluster consts files now fs instanceLists cluster instanceType soaDir).1 =
        (do
          let cluster ← files.system.clusterOr cluster
          let lists ← (fs.listdir soaDir).mapM fun srvDir =>
            getServiceInstanceListOn consts files ⟨srvDir, some cluster, instanceType, soaDir⟩
          pure lists.flatten) ∧
      InstanceListsSound consts history now
        (getServicesForCluster consts files now fs instanceLists cluster instanceType soaDir).2 := by
  unfold getServicesForCluster
  cases files.system.clusterOr cluster with
  | error e => exact ⟨rfl, sound.mono ordered⟩
  | ok cluster =>
    obtain ⟨answered, stays⟩ := sweep_cached (· ++ ·) unchanged
      ((fs.listdir soaDir).map fun srvDir =>
        (⟨srvDir, some cluster, instanceType, soaDir⟩ : InstanceListArgs)) [] sound ordered
    dsimp only at answered stays ⊢
    refine ⟨?_, stays⟩
    rw [answered, foldlM_append_map, ← bind_pure_comp]
    rfl

/-- The cache that `get_services_for_cluster("norcal")` leaves in a fresh process at 1 s: the
instance lists of `svc` and `web` on `norcal`. -/
def norcalInstanceLists : InstanceListCache :=
  (getServicesForCluster .example sweepFiles 1000 soaListing .empty (some "norcal") none "/soa").2

theorem getServicesForCluster_eq_uncached_norcal :
    norcalInstanceLists.entries.map (fun entry => entry.2.2) = [1000, 1000] ∧
      InstanceListsSound .example (fun _ => sweepFiles) 1000 norcalInstanceLists ∧ 1000 ≤ 3000 ∧
      UnchangedFor (fun _ => sweepFiles) 5000 3000 sweepFiles ∧
      (getServicesForCluster .example sweepFiles 3000 soaListing norcalInstanceLists
          (some "norcal") none "/soa").1 =
        (do
          let cluster ← sweepFiles.system.clusterOr (some "norcal")
          let lists ← (soaListing.listdir "/soa").mapM fun srvDir =>
            getServiceInstanceListOn .example sweepFiles ⟨srvDir, some cluster, none, "/soa"⟩
          pure lists.flatten) ∧
      InstanceListsSound .example (fun _ => sweepFiles) 3000
        (getServicesForCluster .example sweepFiles 3000 soaListing norcalInstanceLists
          (some "norcal") none "/soa").2 := by
  have sound : InstanceListsSound .example (fun _ => sweepFiles) 1000 norcalInstanceLists :=
    (@sweep_cached .example (fun _ => sweepFiles) 1000 sweepFiles _ (· ++ ·)
      (fun _ _ _ => rfl) _ [] .empty 0 (fun _ h => nomatch h) (Nat.zero_le _)).2
  exact ⟨rfl, sound, by decide, fun _ _ _ => rfl,
    getServicesForCluster_eq_uncached soaListing (some "norcal") none "/soa" sound (by decide)
      fun _ _ _ => rfl⟩

end Cached

end PaastaConfig
