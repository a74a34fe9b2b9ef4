import PaastaConfig.SystemConfig

/-!
# The cache of parsed system configurations

`parse_system_paasta_config` is wrapped in `functools.lru_cache()`, keyed by its arguments:
the `frozenset` of `(path, os.stat(path))` pairs that `load_system_paasta_config` collects, and
the directory. The key is kept here as the list of those pairs in the loader's sorted order,
which the set determines and which determines the set. `LruCache` holds at most `maxsize`
remembered calls (128 for `lru_cache()`), the most recently used first: a hit moves its entry
to the front, a miss that returns puts its entry there and drops the least recently used one
past `maxsize`, and a miss that raises remembers nothing. `LruCache.call_agrees` is the
memoisation argument, once: a cache whose entries all agree with a function keeps agreeing
with it, and answers as it does, when each miss computes that function.

The cache is sound on the premise the key rests on, that a path and its stat signature
identify the file's contents (`StatIdentifiesContents`). Under it, every run of loads from a
fresh process returns, call by call, what the loader without a cache returns on the directory
as it is at that call (`loadRun_eq_uncached`). When the premise fails, the cache answers from
memory: a second load over the same signatures returns the first load's config whatever the
files now hold (`loadRun_repeat`).

Threads, `cache_info` and `cache_clear`, and the `IOError` handler of the loader are not
modelled.
-/

namespace PaastaConfig

theorem lookup_of_mem_of_nodup {α β : Type} [DecidableEq α] {l : List (α × β)} {k : α} {v : β}
    (hnodup : (l.map Prod.fst).Nodup) (hmem : (k, v) ∈ l) : l.lookup k = some v := by
  induction l with
  | nil => simp at hmem
  | cons p ps ih =>
      obtain ⟨pk, pv⟩ := p
      rw [List.map_cons, List.nodup_cons] at hnodup
      rcases List.mem_cons.mp hmem with e | hmem
      · obtain ⟨rfl, rfl⟩ := Prod.mk.inj_iff.mp e
        simp [List.lookup_cons]
      · have hne : k ≠ pk := fun he => hnodup.1 (List.mem_map.mpr ⟨_, hmem, he⟩)
        simp [List.lookup_cons, beq_false_of_ne hne, ih hnodup.2 hmem]

/-- Modelled from the spec: the file-set cache, which is `functools.lru_cache(maxsize)` as
Python documents it: the remembered calls, the most recently used first. -/
structure LruCache (κ ν : Type) (maxsize : Nat) where
  /-- The remembered arguments and results. -/
  entries : List (κ × ν)
  /-- Each argument is remembered once. -/
  keys_nodup : (entries.map Prod.fst).Nodup
  /-- At most `maxsize` calls are remembered. -/
  length_le : entries.length ≤ maxsize

namespace LruCache

variable {κ ν : Type} [DecidableEq κ] {maxsize : Nat} {cache : LruCache κ ν maxsize} {key : κ}
  {value : ν}

/-- The cache of a fresh process. -/
def empty : LruCache κ ν maxsize := ⟨[], List.nodup_nil, Nat.zero_le _⟩

/-- The result remembered for `key`. -/
def find? (cache : LruCache κ ν maxsize) (key : κ) : Option ν := cache.entries.lookup key

theorem mem_of_find? (hit : cache.find? key = some value) : (key, value) ∈ cache.entries := by
  obtain ⟨l₁, l₂, heq, -⟩ := List.lookup_eq_some_iff.mp hit
  rw [heq]
  exact List.mem_append_right _ (List.mem_cons_self _ _)

theorem not_mem_of_find? (miss : cache.find? key = none) : key ∉ cache.entries.map Prod.fst := by
  intro hmem
  obtain ⟨entry, hentry, rfl⟩ := List.mem_map.mp hmem
  simpa using List.lookup_eq_none_iff.mp miss entry hentry

/-- Modelled from the spec: a hit, whose entry moves to the front. -/
def touch (cache : LruCache κ ν maxsize) (key : κ) (value : ν) (hit : cache.find? key = some value) :
    LruCache κ ν maxsize where
  entries := (key, value) :: cache.entries.filter (·.1 != key)
  keys_nodup := by
    rw [List.map_cons, List.nodup_cons]
    exact ⟨by simp, cache.keys_nodup.sublist ((List.filter_sublist _).map _)⟩
  length_le := by
    have hlt : (cache.entries.filter (·.1 != key)).length < cache.entries.length :=
      List.length_filter_lt_length_iff_exists.mpr ⟨_, mem_of_find? hit, by simp⟩
    exact Nat.succ_le_of_lt (hlt.trans_le cache.length_le)

/-- Modelled from the spec: a miss that returned `value`, whose entry goes to the front, and
the least recently used entry past `maxsize` is dropped. -/
def insert (cache : LruCache κ ν maxsize) (key : κ) (value : ν) (miss : cache.find? key = none) :
    LruCache κ ν maxsize where
  entries := ((key, value) :: cache.entries).take maxsize
  keys_nodup := by
    refine List.Nodup.sublist ((List.take_sublist _ _).map _) ?_
    rw [List.map_cons, List.nodup_cons]
    exact ⟨not_mem_of_find? miss, cache.keys_nodup⟩
  length_le := List.length_take_le _ _

/-- Modelled from the spec: a call of the cached function with argument `key`, `f` computing a
miss: the result, and the cache after the call. -/
def call (cache : LruCache κ ν maxsize) (f : κ → Except PyError ν) (key : κ) :
    Except PyError ν × LruCache κ ν maxsize :=
  match hit : cache.find? key with
  | some value => (pure value, cache.touch key value hit)
  | none =>
      match f key with
      | .ok value => (pure value, cache.insert key value hit)
      | .error e => (throw e, cache)

/-- Every remembered result is the one `g` gives. -/
def Agrees (g : κ → Except PyError ν) (cache : LruCache κ ν maxsize) : Prop :=
  ∀ entry ∈ cache.entries, g entry.1 = .ok entry.2

omit [DecidableEq κ] in
theorem agrees_empty (g : κ → Except PyError ν) : (empty : LruCache κ ν maxsize).Agrees g :=
  fun _ hentry => nomatch hentry

/-- A remembered argument is answered from memory, without calling `f`. -/
theorem call_of_find? (f : κ → Except PyError ν) (hit : cache.find? key = some value) :
    (cache.call f key).1 = .ok value := by
  unfold call
  split
  · next found hfound => rw [hit] at hfound; cases hfound; rfl
  · next hmiss => rw [hit] at hmiss; cases hmiss

/-- Memoisation: when every remembered result is `g`'s and `f` computes what `g` gives at
`key`, the call answers as `g` does and every remembered result stays `g`'s. -/
theorem call_agrees {f g : κ → Except PyError ν} (hcache : cache.Agrees g) (hf : f key = g key) :
    (cache.call f key).1 = g key ∧ (cache.call f key).2.Agrees g := by
  unfold call
  split
  · next found hit =>
      have hg := hcache _ (mem_of_find? hit)
      refine ⟨hg.symm, fun entry hentry => ?_⟩
      rcases List.mem_cons.mp hentry with rfl | hentry
      · exact hg
      · exact hcache entry (List.mem_of_mem_filter hentry)
  · next miss =>
      split
      · next result hresult =>
          refine ⟨by rw [← hf, hresult]; rfl, fun entry hentry => ?_⟩
          rcases List.mem_cons.mp (List.mem_of_mem_take hentry) with rfl | hentry
          · rw [← hf, hresult]
          · exact hcache entry hentry
      · next e he => exact ⟨by rw [← hf, he]; rfl, hcache⟩

/-- After a call that returned `value`, `key` is remembered with it, unless the cache holds
nothing. -/
theorem find?_call {f : κ → Except PyError ν} (hsize : 0 < maxsize)
    (hcall : (cache.call f key).1 = .ok value) : (cache.call f key).2.find? key = some value := by
  obtain ⟨size, rfl⟩ := Nat.exists_eq_add_of_lt hsize
  revert hcall
  unfold call
  split
  · next found hit => intro hcall; cases hcall; simp [find?, touch, List.lookup_cons]
  · next miss =>
      split
      · next result hresult => intro hcall; cases hcall; simp [find?, insert, List.lookup_cons]
      · next e he => intro hcall; cases hcall

end LruCache

/-- The cache of `parse_system_paasta_config`: `lru_cache()` remembers 128 calls. -/
abbrev ParseCache := LruCache (List (String × Nat) × String) SystemPaastaConfig 128

/-- The `(path, stat)` pairs `load_system_paasta_config` collects, in sorted path order. -/
def ConfigDir.fileStats (dir : ConfigDir) : List (String × Nat) :=
  (getReadableFilesInGlob dir).map fun file => (file.path, file.stat)

/-- `load_system_paasta_config(path)` with `parse_system_paasta_config` behind its cache: the
directory checks raise as in `loadSystemPaastaConfig`, and a load that passes them calls the
cached parser. The result, and the cache after the call. -/
def loadSystemPaastaConfigCached (iteration : IterationOrder) (cache : ParseCache)
    (dir : ConfigDir) (path : String) : Except PyError SystemPaastaConfig × ParseCache :=
  if dir.isdir && dir.readable then
    cache.call (fun key => parseSystemPaastaConfig dir.jsonLoad (iteration.order key.1) key.2)
      (dir.fileStats, path)
  else (loadSystemPaastaConfig iteration dir path, cache)

/-- A process's calls of `load_system_paasta_config`, each on the directory as it is at that
call, from the cache `cache`: the results, and the cache after the last call. -/
def loadRun (iteration : IterationOrder) (cache : ParseCache) :
    List (ConfigDir × String) → List (Except PyError SystemPaastaConfig) × ParseCache
  | [] => ([], cache)
  | (dir, path) :: calls =>
      let step := loadSystemPaastaConfigCached iteration cache dir path
      let rest := loadRun iteration step.2 calls
      (step.1 :: rest.1, rest.2)

/-- The premise of keying the cache by stat signatures: the file with a given path and
signature holds `contentOf` them, and no two files share a path. -/
structure StatIdentifiesContents (contentOf : String × Nat → Option Document) (dir : ConfigDir) :
    Prop where
  /-- Each path names one file. -/
  paths_nodup : (dir.files.map ConfigFile.path).Nodup
  /-- A readable file holds what its path and signature stand for. -/
  content_eq : ∀ file ∈ dir.files, file.readable = true →
    file.content = contentOf (file.path, file.stat)

/-- `json.load` of a path of a key, by the contents its signature stands for. -/
def keyJsonLoad (contentOf : String × Nat → Option Document) (fileStats : List (String × Nat))
    (filename : String) : Except PyError Document :=
  match (fileStats.lookup filename).bind fun stat => contentOf (filename, stat) with
  | some document => pure document
  | none => throw .jsonDecodeError

/-- The configuration a key of the cache stands for. -/
def parseKey (contentOf : String × Nat → Option Document) (iteration : IterationOrder)
    (key : List (String × Nat) × String) : Except PyError SystemPaastaConfig :=
  parseSystemPaastaConfig (keyJsonLoad contentOf key.1) (iteration.order key.1) key.2

section Soundness

variable {contentOf : String × Nat → Option Document} {iteration : IterationOrder}
  {dir : ConfigDir} {path : String}

theorem loadSystemPaastaConfig_of_readable (hdir : (dir.isdir && dir.readable) = true) :
    loadSystemPaastaConfig iteration dir path =
      parseSystemPaastaConfig dir.jsonLoad (iteration.order dir.fileStats) path := by
  obtain ⟨hisdir, hreadable⟩ := Bool.and_eq_true_iff.mp hdir
  simp [loadSystemPaastaConfig, hisdir, hreadable, ConfigDir.fileStats]

/-- The fold of `parse_system_paasta_config` reads each file through `json.load` only. -/
theorem parseSystemPaastaConfig_congr {jsonLoad jsonLoad' : String → Except PyError Document}
    {fileStats : List (String × Nat)} (h : ∀ entry ∈ fileStats, jsonLoad entry.1 = jsonLoad' entry.1) :
    parseSystemPaastaConfig jsonLoad fileStats path = parseSystemPaastaConfig jsonLoad' fileStats path := by
  have hfold : ∀ config : Value, fileStats.foldlM (mergeConfigFile jsonLoad) config =
      fileStats.foldlM (mergeConfigFile jsonLoad') config := by
    induction fileStats with
    | nil => intro; rfl
    | cons entry rest ih =>
        intro config
        simp only [List.foldlM_cons, mergeConfigFile, h entry (List.mem_cons_self _ _),
          ih fun e he => h e (List.mem_cons_of_mem _ he)]
  simp only [parseSystemPaastaConfig, hfold]

theorem mem_getReadableFilesInGlob {file : ConfigFile} (h : file ∈ getReadableFilesInGlob dir) :
    file ∈ dir.files ∧ file.readable = true := by
  obtain ⟨hmem, hfilter⟩ := List.mem_filter.mp ((List.perm_insertionSort _ _).mem_iff.mp h)
  exact ⟨hmem, (Bool.and_eq_true_iff.mp hfilter).1⟩

theorem find?_path_eq {files : List ConfigFile} (hnodup : (files.map ConfigFile.path).Nodup)
    {file : ConfigFile} (hfile : file ∈ files) : files.find? (·.path = file.path) = some file := by
  cases hfind : files.find? (·.path = file.path) with
  | none => exact absurd (List.find?_eq_none.mp hfind file hfile) (by simp)
  | some found =>
      have hpath : found.path = file.path := by simpa using List.find?_some hfind
      rw [List.inj_on_of_nodup_map hnodup (List.mem_of_find?_eq_some hfind) hfile hpath]

theorem fileStats_keys_nodup (hnodup : (dir.files.map ConfigFile.path).Nodup) :
    (dir.fileStats.map Prod.fst).Nodup := by
  have hsub : (dir.fileStats.map Prod.fst).Perm
      ((dir.files.filter fun file => file.readable && ".json".toList.isSuffixOf file.path.toList).map
        ConfigFile.path) := by
    simpa [ConfigDir.fileStats, getReadableFilesInGlob] using (List.perm_insertionSort _ _).map _
  exact hsub.nodup_iff.mpr (hnodup.sublist ((List.filter_sublist _).map _))

/-- Under the premise, what the loader reads from a file it collected is what the file's
entry of the key stands for. -/
theorem jsonLoad_eq_keyJsonLoad (hdir : StatIdentifiesContents contentOf dir)
    {entry : String × Nat} (hentry : entry ∈ dir.fileStats) :
    dir.jsonLoad entry.1 = keyJsonLoad contentOf dir.fileStats entry.1 := by
  obtain ⟨file, hfile, rfl⟩ := List.mem_map.mp hentry
  obtain ⟨hmem, hreadable⟩ := mem_getReadableFilesInGlob hfile
  have hlookup : dir.fileStats.lookup file.path = some file.stat :=
    lookup_of_mem_of_nodup (fileStats_keys_nodup hdir.paths_nodup) hentry
  have hcontent := hdir.content_eq file hmem hreadable
  cases hc : contentOf (file.path, file.stat) <;>
    simp only [ConfigDir.jsonLoad, keyJsonLoad, find?_path_eq hdir.paths_nodup hmem, hlookup,
      Option.some_bind, hcontent, hc]

/-- One load: under the premise, from a cache that agrees with the keys, the cached loader
returns what the loader without a cache returns, and the cache still agrees. -/
theorem loadSystemPaastaConfigCached_agrees {cache : ParseCache}
    (hdir : StatIdentifiesContents contentOf dir) (hcache : cache.Agrees (parseKey contentOf iteration)) :
    (loadSystemPaastaConfigCached iteration cache dir path).1 = loadSystemPaastaConfig iteration dir path ∧
      (loadSystemPaastaConfigCached iteration cache dir path).2.Agrees (parseKey contentOf iteration) := by
  unfold loadSystemPaastaConfigCached
  split
  · next hchecks =>
      have hparse : parseSystemPaastaConfig dir.jsonLoad (iteration.order dir.fileStats) path =
          parseKey contentOf iteration (dir.fileStats, path) :=
        parseSystemPaastaConfig_congr fun entry hentry =>
          jsonLoad_eq_keyJsonLoad hdir ((iteration.perm _).mem_iff.mp hentry)
      rw [loadSystemPaastaConfig_of_readable hchecks, hparse]
      exact @LruCache.call_agrees _ _ _ _ _ (dir.fileStats, path)
        (fun key => parseSystemPaastaConfig dir.jsonLoad (iteration.order key.1) key.2) _ hcache
        hparse
  · exact ⟨rfl, hcache⟩

/-- Every run: under the premise at each call, from a cache that agrees with the keys, the
cached loads return, call by call, what the loads without a cache return. -/
theorem loadRun_agrees {cache : ParseCache} {calls : List (ConfigDir × String)}
    (hcalls : ∀ call ∈ calls, StatIdentifiesContents contentOf call.1)
    (hcache : cache.Agrees (parseKey contentOf iteration)) :
    (loadRun iteration cache calls).1 = calls.map (fun call => loadSystemPaastaConfig iteration call.1 call.2) ∧
      (loadRun iteration cache calls).2.Agrees (parseKey contentOf iteration) := by
  induction calls generalizing cache with
  | nil => exact ⟨rfl, hcache⟩
  | cons call calls ih =>
      obtain ⟨dir, path⟩ := call
      obtain ⟨hstep, hkeep⟩ := @loadSystemPaastaConfigCached_agrees _ _ _ path _
        (hcalls _ (List.mem_cons_self _ _)) hcache
      obtain ⟨hrest, hfinal⟩ := ih (fun call hcall => hcalls call (List.mem_cons_of_mem _ hcall)) hkeep
      exact ⟨by simp only [loadRun, hstep, hrest, List.map_cons], hfinal⟩

/-- The cache is transparent: in a process whose directory holds, at every load, files whose
contents their paths and stat signatures identify, each load through the cache returns what
`load_system_paasta_config` without a cache returns on the directory as it is at that load. -/
theorem loadRun_eq_uncached (calls : List (ConfigDir × String))
    (hcalls : ∀ call ∈ calls, StatIdentifiesContents contentOf call.1) :
    (loadRun iteration .empty calls).1 =
      calls.map fun call => loadSystemPaastaConfig iteration call.1 call.2 :=
  (loadRun_agrees hcalls (LruCache.agrees_empty _)).1

/-- A configuration fragment naming a cluster. -/
def clusterFragment (cluster : String) : Document :=
  ⟨.dict [("cluster", .str cluster)],
    by simp [KeysSorted, Value.Canonical, Value.isCanonical, Value.fieldsCanonical]⟩

/-- `/etc/paasta` holding one readable fragment, `cluster.json`, with stat signature `stat`. -/
def ConfigDir.clusterFile (stat : Nat) (cluster : String) : ConfigDir :=
  ⟨true, true, [⟨"/etc/paasta/cluster.json", true, stat, some (clusterFragment cluster)⟩]⟩

/-- `cluster.json` names `norcal` at signature 1 and `pnw-prod` at any other. -/
def clusterContents (key : String × Nat) : Option Document :=
  some (clusterFragment (if key.2 = 1 then "norcal" else "pnw-prod"))

theorem statIdentifiesContents_singleton {isdir readable : Bool} {file : ConfigFile}
    (h : file.content = contentOf (file.path, file.stat)) :
    StatIdentifiesContents contentOf ⟨isdir, readable, [file]⟩ :=
  ⟨List.nodup_singleton _, fun _ hfile _ => List.mem_singleton.mp hfile ▸ h⟩

/-- Loads of `norcal` at signature 1, `pnw-prod` at signature 2, and `norcal` at signature 1
again: the third load is answered by the entry the first one left. -/
theorem loadRun_eq_uncached_norcal :
    (loadRun .sorted .empty [(ConfigDir.clusterFile 1 "norcal", "/etc/paasta"),
        (ConfigDir.clusterFile 2 "pnw-prod", "/etc/paasta")]).2.find?
        ((ConfigDir.clusterFile 1 "norcal").fileStats, "/etc/paasta") =
        some ⟨.dict [("cluster", .str "norcal")], "/etc/paasta"⟩ ∧
      (∀ call ∈ [(ConfigDir.clusterFile 1 "norcal", "/etc/paasta"),
        (ConfigDir.clusterFile 2 "pnw-prod", "/etc/paasta"),
        (ConfigDir.clusterFile 1 "norcal", "/etc/paasta")],
        StatIdentifiesContents clusterContents call.1) ∧
      (loadRun .sorted .empty [(ConfigDir.clusterFile 1 "norcal", "/etc/paasta"),
          (ConfigDir.clusterFile 2 "pnw-prod", "/etc/paasta"),
          (ConfigDir.clusterFile 1 "norcal", "/etc/paasta")]).1 =
        [(ConfigDir.clusterFile 1 "norcal", "/etc/paasta"),
          (ConfigDir.clusterFile 2 "pnw-prod", "/etc/paasta"),
          (ConfigDir.clusterFile 1 "norcal", "/etc/paasta")].map
          fun call => loadSystemPaastaConfig .sorted call.1 call.2 := by
  have hcalls : ∀ call ∈ [(ConfigDir.clusterFile 1 "norcal", "/etc/paasta"),
      (ConfigDir.clusterFile 2 "pnw-prod", "/etc/paasta"),
      (ConfigDir.clusterFile 1 "norcal", "/etc/paasta")],
      StatIdentifiesContents clusterContents call.1 := by
    intro call hcall
    simp only [List.mem_cons, List.mem_singleton, List.not_mem_nil, or_false] at hcall
    rcases hcall with rfl | rfl | rfl <;> exact statIdentifiesContents_singleton rfl
  exact ⟨rfl, hcalls, loadRun_eq_uncached _ hcalls⟩

end Soundness

section Staleness

variable {iteration : IterationOrder} {cache : ParseCache} {dir dir' : ConfigDir} {path : String}

theorem checks_of_loadSystemPaastaConfig {config : SystemPaastaConfig}
    (hload : loadSystemPaastaConfig iteration dir path = .ok config) :
    (dir.isdir && dir.readable) = true := by
  unfold loadSystemPaastaConfig at hload
  split_ifs at hload with hisdir hreadable
  simpa using And.intro hisdir hreadable

/-- The first load of a process parses: a fresh cache answers as the loader does. -/
theorem loadSystemPaastaConfigCached_empty :
    (loadSystemPaastaConfigCached iteration .empty dir path).1 = loadSystemPaastaConfig iteration dir path := by
  unfold loadSystemPaastaConfigCached
  split
  · next hchecks =>
      rw [loadSystemPaastaConfig_of_readable hchecks]
      exact (LruCache.call_agrees (LruCache.agrees_empty _) rfl).1
  · rfl

/-- A load whose key is remembered gets the remembered config, whatever the files hold. -/
theorem loadSystemPaastaConfigCached_of_find? {config : SystemPaastaConfig}
    (hchecks : (dir.isdir && dir.readable) = true) (hit : cache.find? (dir.fileStats, path) = some config) :
    (loadSystemPaastaConfigCached iteration cache dir path).1 = .ok config := by
  rw [loadSystemPaastaConfigCached, if_pos hchecks]
  exact LruCache.call_of_find? _ hit

/-- A load that passes the directory checks and succeeds leaves its key remembered. -/
theorem find?_loadSystemPaastaConfigCached {config : SystemPaastaConfig}
    (hchecks : (dir.isdir && dir.readable) = true)
    (hload : (loadSystemPaastaConfigCached iteration cache dir path).1 = .ok config) :
    (loadSystemPaastaConfigCached iteration cache dir path).2.find? (dir.fileStats, path) = some config := by
  rw [loadSystemPaastaConfigCached, if_pos hchecks] at hload ⊢
  exact LruCache.find?_call (by decide) hload

/-- Two loads in a row from a fresh process, over directories with the same `(path, stat)`
pairs: when the first succeeds, the second returns its config, whatever the files hold at the
second load. -/
theorem loadRun_repeat {config : SystemPaastaConfig}
    (hchecks : (dir'.isdir && dir'.readable) = true) (hstats : dir'.fileStats = dir.fileStats)
    (hfirst : loadSystemPaastaConfig iteration dir path = .ok config) :
    (loadRun iteration .empty [(dir, path), (dir', path)]).1 = [.ok config, .ok config] := by
  have hload := loadSystemPaastaConfigCached_empty.trans hfirst
  have hremembered :=
    find?_loadSystemPaastaConfigCached (checks_of_loadSystemPaastaConfig hfirst) hload
  rw [← hstats] at hremembered
  simp only [loadRun, hload, loadSystemPaastaConfigCached_of_find? hchecks hremembered]

/-- `cluster.json` rewritten from `norcal` to `pnw-prod` under the same stat signature: the
second load returns the first load's config, which no longer matches the file. -/
theorem loadRun_repeat_norcal :
    ((ConfigDir.clusterFile 1 "pnw-prod").isdir && (ConfigDir.clusterFile 1 "pnw-prod").readable) =
        true ∧
      (ConfigDir.clusterFile 1 "pnw-prod").fileStats = (ConfigDir.clusterFile 1 "norcal").fileStats ∧
      loadSystemPaastaConfig .sorted (.clusterFile 1 "norcal") "/etc/paasta" =
        .ok ⟨.dict [("cluster", .str "norcal")], "/etc/paasta"⟩ ∧
      (loadRun .sorted .empty [(.clusterFile 1 "norcal", "/etc/paasta"),
          (.clusterFile 1 "pnw-prod", "/etc/paasta")]).1 =
        [.ok ⟨.dict [("cluster", .str "norcal")], "/etc/paasta"⟩,
          .ok ⟨.dict [("cluster", .str "norcal")], "/etc/paasta"⟩] ∧
      loadSystemPaastaConfig .sorted (.clusterFile 1 "pnw-prod") "/etc/paasta" =
        .ok ⟨.dict [("cluster", .str "pnw-prod")], "/etc/paasta"⟩ :=
  ⟨rfl, rfl, rfl, loadRun_repeat rfl rfl rfl, rfl⟩

end Staleness

end PaastaConfig
