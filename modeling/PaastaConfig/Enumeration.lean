import PaastaConfig.InstanceLoading

/-!
# Enumerating the instances of a service

`read_service_instance_names` lists the instances of one instance type: the keys of the user
file `{instance_type}-{cluster}.yaml` that are not `_` templates, and for `tron` one instance
`{job}.{action}` per action of each job. `get_service_instance_list_no_cache` concatenates
these lists over the requested instance types, taking the cluster from the system config when
none is given. `validate_service_instance` searches the instance types in the order of
`INSTANCE_TYPES` and returns the first whose list holds the instance; when none does it
raises `NoConfigurationForServiceError` with close matches among the names it has seen.

Both `get_service_instance_list` and `validate_service_instance` are wrapped in `time_cache`;
the functions here are the uncached ones, and the caches are modelled over them in
`PaastaConfig.InstanceListCache`.

Enumeration and resolution (`load_service_instance_config`) agree on the names they accept,
but not on the entries: the enumeration lists a key whatever its body, while the single load
rejects a null body with `NoConfigurationForServiceError`
(`validateServiceInstance_agrees_with_load`). Neither ever accepts a `_` template.

`compose_job_id` (of `paasta_tools.util.names`) and `difflib.get_close_matches` are not part
of the repository; they are parameters, and nothing proved here depends on them.
-/

namespace PaastaConfig

/-- `SystemPaastaConfig.get_cluster()`. -/
def SystemPaastaConfig.getCluster (system : SystemPaastaConfig) : Except PyError Value :=
  system.getRequired "cluster" "cluster"

/-- `value.keys()`. -/
def Value.keys : Value → Except PyError (List String)
  | .dict fields => pure (fields.map Prod.fst)
  | _ => throw (.attributeError "keys")

/-- The inner loop of `read_service_instance_names` for `tron`: one instance per action of
the job. -/
def tronJobInstances (service : String) (job : String × Value) :
    Except PyError (List (String × String)) := do
  let jobName := job.1
  let actions ← job.2.getD "actions" (.dict [])
  let actionNames ← actions.keys
  pure (actionNames.map fun name => (service, s!"{jobName}.{name}"))

/-- `read_service_instance_names(service, instance_type, cluster, soa_dir)`. -/
def readServiceInstanceNames (soa : SoaDir) (service instanceType cluster : String) :
    Except PyError (List (String × String)) := do
  let confFile := s!"{instanceType}-{cluster}"
  let config ← filterTemplatesFromConfig (soa.read service confFile).value
  if instanceType = "tron" then
    let jobs ← config.mapM (tronJobInstances service)
    pure jobs.flatten
  else pure (config.map fun item => (service, item.1))

/-- The cluster `get_service_instance_list_no_cache` reads: `cluster`, or the system's
cluster when `cluster` is `None` or empty. -/
def SystemPaastaConfig.clusterOr (system : SystemPaastaConfig) :
    Option String → Except PyError String
  | some cluster => if cluster = "" then Value.pyStr <$> system.getCluster else pure cluster
  | none => Value.pyStr <$> system.getCluster

/-- The instance types `get_service_instance_list_no_cache` searches: `instance_type` when
it is one of `INSTANCE_TYPES`, all of them otherwise. -/
def PaastaConst.instanceTypesFor (consts : PaastaConst) : Option String → List String
  | some instanceType =>
      if instanceType ∈ consts.INSTANCE_TYPES then [instanceType] else consts.INSTANCE_TYPES
  | none => consts.INSTANCE_TYPES

/-- `get_service_instance_list_no_cache(service, cluster, instance_type, soa_dir)`; `cluster`
and `instance_type` are `None` by default. -/
def getServiceInstanceListNoCache (consts : PaastaConst) (system : SystemPaastaConfig)
    (soa : SoaDir) (service : String) (cluster instanceType : Option String) :
    Except PyError (List (String × String)) := do
  let cluster ← system.clusterOr cluster
  let instanceLists ← (consts.instanceTypesFor instanceType).mapM fun srvInstanceType =>
    readServiceInstanceNames soa service srvInstanceType cluster
  pure instanceLists.flatten

/-- `suggest_possibilities(word, possibilities, max_suggestions)`, where
`getCloseMatches word possibilities n` stands for
`difflib.get_close_matches(word=word, possibilities=set(possibilities), n=n)`. -/
def suggestPossibilities (getCloseMatches : String → List String → Nat → List String)
    (word : String) (possibilities : List String) (maxSuggestions : Nat) : String :=
  let suggestions := getCloseMatches word possibilities maxSuggestions
  if suggestions.length = 1 then
    let suggestion := suggestions.headD ""
    s!"\nDid you mean: {suggestion}?"
  else if suggestions.length ≥ 1 then
    let joined := ", ".intercalate suggestions
    s!"\nDid you mean one of: {joined}?"
  else ""

section Validate

variable (consts : PaastaConst) (system : SystemPaastaConfig) (soa : SoaDir)
  (getCloseMatches : String → List String → Nat → List String)
  (composeJobId : String → String → String)

/-- The `for ... else` loop of `validate_service_instance` over the instance types left to
search, with the instance names seen so far. -/
def validateServiceInstanceLoop (service instanceName cluster : String) :
    List String → List String → Except PyError String
  | [], possibilities =>
      let suggestions := suggestPossibilities getCloseMatches instanceName possibilities 3
      let jobId := composeJobId service instanceName
      throw (.noConfigurationForService
        s!"Error: {jobId} doesn't look like it has been configured to run on the {cluster} cluster.{suggestions}")
  | instanceType :: instanceTypes, possibilities => do
      let sis ← getServiceInstanceListNoCache consts system soa service (some cluster)
        (some instanceType)
      if (service, instanceName) ∈ sis then pure instanceType
      else
        let possibilities := possibilities ++ sis.map Prod.snd
        validateServiceInstanceLoop service instanceName cluster instanceTypes possibilities

/-- `validate_service_instance(service, instance, cluster, soa_dir)`. -/
def validateServiceInstance (service instanceName cluster : String) : Except PyError String :=
  validateServiceInstanceLoop consts system soa getCloseMatches composeJobId service instanceName
    cluster consts.INSTANCE_TYPES []

end Validate

section MapM

variable {α β : Type} {f : α → Except PyError β}

theorem mapM_ok_mem : ∀ {l : List α} {ys : List β}, l.mapM f = .ok ys →
    ∀ y ∈ ys, ∃ x ∈ l, f x = .ok y
  | [], ys, h, y, hy => by
      cases h
      simp at hy
  | x :: xs, ys, h, y, hy => by
      rw [List.mapM_cons] at h
      cases hx : f x with
      | error e => rw [hx] at h; cases h
      | ok z =>
          cases hxs : xs.mapM f with
          | error e => rw [hx, ok_bind, hxs] at h; cases h
          | ok zs =>
              rw [hx, ok_bind, hxs, ok_bind] at h
              cases h
              rcases List.mem_cons.mp hy with rfl | hy
              · exact ⟨x, .head _, hx⟩
              · obtain ⟨x', hx', hfx'⟩ := mapM_ok_mem hxs y hy
                exact ⟨x', .tail _ hx', hfx'⟩

theorem mapM_error_mem : ∀ {l : List α} {e : PyError}, l.mapM f = .error e →
    ∃ x ∈ l, f x = .error e
  | [], e, h => by cases h
  | x :: xs, e, h => by
      rw [List.mapM_cons] at h
      cases hx : f x with
      | error e' =>
          rw [hx] at h
          cases h
          exact ⟨x, .head _, hx⟩
      | ok z =>
          cases hxs : xs.mapM f with
          | error e' =>
              rw [hx, ok_bind, hxs] at h
              cases h
              obtain ⟨x', hx', hfx'⟩ := mapM_error_mem hxs
              exact ⟨x', .tail _ hx', hfx'⟩
          | ok zs => rw [hx, ok_bind, hxs, ok_bind] at h; cases h

end MapM

section Names

variable {soa : SoaDir} {service instanceType cluster instanceName : String}
  {sis : List (String × String)} {e : PyError}

theorem startswith_dotted {job : String} (hjob : startswith job "_" = false) (name : String) :
    startswith s!"{job}.{name}" "_" = false := by
  unfold startswith at hjob ⊢
  show ['_'].isPrefixOf ([] ++ job.data ++ ['.'] ++ name.data ++ []) = false
  cases h : job.data with
  | nil => rfl
  | cons c cs =>
      have hc : c ≠ '_' := by
        intro hc
        rw [show job.toList = job.data from rfl, h, hc] at hjob
        simp [List.isPrefixOf] at hjob
      simp [List.isPrefixOf, Ne.symm hc]

theorem tronJobInstances_not_template {job : String × Value} {xs : List (String × String)}
    (hjob : startswith job.1 "_" = false) (h : tronJobInstances service job = .ok xs) :
    ∀ p ∈ xs, startswith p.2 "_" = false := by
  simp only [tronJobInstances] at h
  cases hget : job.2.getD "actions" (.dict []) with
  | error e => simp [hget] at h
  | ok actions =>
      cases hkeys : actions.keys with
      | error e => simp [hget, hkeys] at h
      | ok names =>
          simp only [hget, hkeys, ok_bind, pure, Except.pure, Except.ok.injEq] at h
          subst h
          simp only [List.mem_map]
          rintro _ ⟨name, -, rfl⟩
          exact startswith_dotted hjob name

/-- No name the enumeration lists is a `_` template. -/
theorem readServiceInstanceNames_not_template
    (h : readServiceInstanceNames soa service instanceType cluster = .ok sis) :
    ∀ p ∈ sis, startswith p.2 "_" = false := by
  simp only [readServiceInstanceNames] at h
  cases hconfig : filterTemplatesFromConfig
      (soa.read service s!"{instanceType}-{cluster}").value with
  | error e => simp [hconfig] at h
  | ok config =>
      have hkept : ∀ item ∈ config, startswith item.1 "_" = false := by
        intro item hitem
        revert hconfig
        cases (soa.read service s!"{instanceType}-{cluster}").value <;>
          simp [filterTemplatesFromConfig, pure, Except.pure, throw, throwThe,
            MonadExceptOf.throw]
        rintro rfl
        simpa using (List.mem_filter.mp hitem).2
      simp only [hconfig, ok_bind] at h
      split at h
      · cases hjobs : config.mapM (tronJobInstances service) with
        | error e => rw [hjobs] at h; cases h
        | ok jobs =>
            rw [hjobs, ok_bind] at h
            cases h
            intro p hp
            obtain ⟨xs, hxs, hpxs⟩ := List.mem_flatten.mp hp
            obtain ⟨job, hjob, hjobxs⟩ := mapM_ok_mem hjobs xs hxs
            exact tronJobInstances_not_template (hkept job hjob) hjobxs p hpxs
      · simp only [pure, Except.pure, Except.ok.injEq] at h
        subst h
        simp only [List.mem_map]
        rintro _ ⟨item, hitem, rfl⟩
        exact hkept item hitem

/-- What the enumeration of an instance type other than `tron` lists: the service with each
key of the user file that is not a `_` template. -/
theorem mem_readServiceInstanceNames (htron : instanceType ≠ "tron")
    {fields : List (String × Value)}
    (hfile : (soa.read service s!"{instanceType}-{cluster}").value = .dict fields) :
    ∃ sis, readServiceInstanceNames soa service instanceType cluster = .ok sis ∧
      ∀ service' instanceName, (service', instanceName) ∈ sis ↔ service' = service ∧
        startswith instanceName "_" = false ∧ ∃ body, (instanceName, body) ∈ fields := by
  refine ⟨_, by simp [readServiceInstanceNames, hfile, filterTemplatesFromConfig, htron]; rfl,
    fun service' instanceName => ?_⟩
  simp only [List.mem_map, List.mem_filter, Prod.mk.injEq]
  constructor
  · rintro ⟨⟨key, body⟩, ⟨hmem, hkey⟩, rfl, rfl⟩
    exact ⟨rfl, by simpa using hkey, body, hmem⟩
  · rintro ⟨rfl, hname, body, hmem⟩
    exact ⟨(instanceName, body), ⟨hmem, by simpa using hname⟩, rfl, rfl⟩

/-- The enumeration of a non-`tron` type fails only on a user file that is not a dict. -/
theorem readServiceInstanceNames_error
    (h : readServiceInstanceNames soa service instanceType cluster = .error e) :
    e.isTypeMismatch = true := by
  simp only [readServiceInstanceNames] at h
  cases hconfig : filterTemplatesFromConfig
      (soa.read service s!"{instanceType}-{cluster}").value with
  | error e' =>
      simp only [hconfig, error_bind, Except.error.injEq] at h
      subst h
      revert hconfig
      cases (soa.read service s!"{instanceType}-{cluster}").value <;>
        simp [filterTemplatesFromConfig, pure, Except.pure, throw, throwThe,
          MonadExceptOf.throw] <;> rintro rfl <;> rfl
  | ok config =>
      simp only [hconfig, ok_bind] at h
      split at h
      · cases hjobs : config.mapM (tronJobInstances service) with
        | ok jobs => rw [hjobs, ok_bind] at h; cases h
        | error e' =>
            rw [hjobs, error_bind] at h
            cases h
            obtain ⟨job, -, hjob⟩ := mapM_error_mem hjobs
            simp only [tronJobInstances] at hjob
            cases hget : job.2.getD "actions" (.dict []) with
            | error e'' =>
                simp only [hget, error_bind, Except.error.injEq] at hjob
                rw [← hjob, Value.getD_error hget]; rfl
            | ok actions =>
                simp only [hget, ok_bind] at hjob
                cases actions <;>
                  simp_all [Value.keys, pure, Except.pure, throw, throwThe, MonadExceptOf.throw] <;>
                  subst hjob <;> rfl
      · simp [pure, Except.pure] at h

end Names

section Lists

variable {consts : PaastaConst} {system : SystemPaastaConfig} {soa : SoaDir}
  {service instanceType cluster : String} {sis : List (String × String)}

/-- For a named cluster and one of `INSTANCE_TYPES`, the instance list is that type's
enumeration. -/
theorem getServiceInstanceListNoCache_of_mem (hcluster : cluster ≠ "")
    (htype : instanceType ∈ consts.INSTANCE_TYPES) :
    getServiceInstanceListNoCache consts system soa service (some cluster) (some instanceType) =
      readServiceInstanceNames soa service instanceType cluster := by
  simp only [getServiceInstanceListNoCache, SystemPaastaConfig.clusterOr,
    PaastaConst.instanceTypesFor, hcluster, htype, if_false, if_true, pure_bind, bind_assoc,
    List.mapM_cons, List.mapM_nil, List.flatten_cons, List.flatten_nil, List.append_nil,
    bind_pure]

/-- For a named cluster, the instance list fails only on a user file of the wrong shape. -/
theorem getServiceInstanceListNoCache_error {instanceType : Option String} {e : PyError}
    (hcluster : cluster ≠ "")
    (h : getServiceInstanceListNoCache consts system soa service (some cluster) instanceType =
      .error e) : e.isTypeMismatch = true := by
  simp only [getServiceInstanceListNoCache, SystemPaastaConfig.clusterOr, hcluster, if_false,
    pure, Except.pure, ok_bind] at h
  cases hlists : (consts.instanceTypesFor instanceType).mapM
      (fun t => readServiceInstanceNames soa service t cluster) with
  | error e' =>
      rw [hlists, error_bind] at h
      cases h
      obtain ⟨t, -, ht⟩ := mapM_error_mem hlists
      exact readServiceInstanceNames_error ht
  | ok lists => rw [hlists, ok_bind] at h; cases h

theorem getServiceInstanceListNoCache_not_template {cluster instanceType : Option String}
    (h : getServiceInstanceListNoCache consts system soa service cluster instanceType = .ok sis) :
    ∀ p ∈ sis, startswith p.2 "_" = false := by
  simp only [getServiceInstanceListNoCache] at h
  cases hc : system.clusterOr cluster with
  | error e => rw [hc] at h; cases h
  | ok clusterName =>
      cases hlists : (consts.instanceTypesFor instanceType).mapM
          (fun t => readServiceInstanceNames soa service t clusterName) with
      | error e => rw [hc, ok_bind, hlists] at h; cases h
      | ok lists =>
          rw [hc, ok_bind, hlists, ok_bind] at h
          cases h
          intro p hp
          obtain ⟨xs, hxs, hpxs⟩ := List.mem_flatten.mp hp
          obtain ⟨t, -, ht⟩ := mapM_ok_mem hlists xs hxs
          exact readServiceInstanceNames_not_template ht p hpxs

end Lists

section Loop

variable {consts : PaastaConst} {system : SystemPaastaConfig} {soa : SoaDir}
  {getCloseMatches : String → List String → Nat → List String}
  {composeJobId : String → String → String}
  {service instanceName cluster : String}

/-- The search returns only a type it was given, whose instance list holds the instance. -/
theorem validateServiceInstanceLoop_ok {found : String} :
    ∀ {instanceTypes possibilities}, validateServiceInstanceLoop consts system soa
      getCloseMatches composeJobId service instanceName cluster instanceTypes possibilities =
        .ok found →
      found ∈ instanceTypes ∧ ∃ sis, getServiceInstanceListNoCache consts system soa service
        (some cluster) (some found) = .ok sis ∧ (service, instanceName) ∈ sis
  | [], _, h => by cases h
  | t :: ts, ps, h => by
      simp only [validateServiceInstanceLoop] at h
      cases hsis : getServiceInstanceListNoCache consts system soa service (some cluster)
          (some t) with
      | error e => rw [hsis, error_bind] at h; cases h
      | ok sis =>
          rw [hsis, ok_bind] at h
          split at h
          · cases h
            exact ⟨.head _, sis, hsis, ‹_›⟩
          · obtain ⟨hmem, rest⟩ := validateServiceInstanceLoop_ok h
            exact ⟨.tail _ hmem, rest⟩

/-- Once a type whose instance list holds the instance is among those left, the search does
not end in `NoConfigurationForServiceError`, provided no instance list raises it. -/
theorem validateServiceInstanceLoop_ne_noConfig {found : String}
    {sis : List (String × String)}
    (hfound : getServiceInstanceListNoCache consts system soa service (some cluster)
      (some found) = .ok sis) (hmem : (service, instanceName) ∈ sis)
    (hlists : ∀ t e, getServiceInstanceListNoCache consts system soa service (some cluster)
      (some t) = .error e → e.isTypeMismatch = true) (msg : String) :
    ∀ {instanceTypes possibilities}, found ∈ instanceTypes →
      validateServiceInstanceLoop consts system soa getCloseMatches composeJobId service
        instanceName cluster instanceTypes possibilities ≠ .error (.noConfigurationForService msg)
  | [], _, hin, _ => by simp at hin
  | t :: ts, ps, hin, h => by
      simp only [validateServiceInstanceLoop] at h
      cases hsis : getServiceInstanceListNoCache consts system soa service (some cluster)
          (some t) with
      | error e =>
          rw [hsis, error_bind] at h
          cases h
          cases hlists t _ hsis
      | ok sis' =>
          rw [hsis, ok_bind] at h
          split at h
          · cases h
          · rename_i hnot
            have hts : found ∈ ts := by
              rcases List.mem_cons.mp hin with rfl | hts
              · rw [hfound] at hsis
                cases hsis
                exact absurd hmem hnot
              · exact hts
            exact validateServiceInstanceLoop_ne_noConfig hfound hmem hlists msg hts h

end Loop

section Agreement

variable {consts : PaastaConst} {system : SystemPaastaConfig} {soa : SoaDir}
  {getCloseMatches : String → List String → Nat → List String}
  {composeJobId : String → String → String}
  {service instanceName instanceType cluster : String}

theorem lookup_of_mem_read {fields : List (String × Value)} {body : Value}
    (hfile : (soa.read service s!"{instanceType}-{cluster}").value = .dict fields)
    (hmem : (instanceName, body) ∈ fields) : fields.lookup instanceName = some body := by
  have := (soa.read service s!"{instanceType}-{cluster}").canonical
  rw [hfile, Value.canonical_dict] at this
  exact this.1.lookup_of_mem hmem

/-- Enumeration against resolution, for a named cluster. When `validate_service_instance`
finds an instance under a type other than `tron`, the instance is a key of that type's user
file and not a template; the single load then raises `NoConfigurationForServiceError`
exactly when the key's body is null, and returns a config when the body and its auto config
are mappings. When the single load returns under a type of `INSTANCE_TYPES` other than
`tron`, `validate_service_instance` does not raise `NoConfigurationForServiceError`. And it
never finds a `_` template. -/
theorem validateServiceInstance_agrees_with_load (hcluster : cluster ≠ "") :
    (∀ instanceType : String, instanceType ≠ "tron" →
      validateServiceInstance consts system soa getCloseMatches composeJobId service
        instanceName cluster = .ok instanceType →
      ∃ fields body, (soa.read service s!"{instanceType}-{cluster}").value = .dict fields ∧
        fields.lookup instanceName = some body ∧ startswith instanceName "_" = false ∧
        ((∃ msg, loadServiceInstanceConfig consts system soa service instanceName instanceType
          cluster = .error (.noConfigurationForService msg)) ↔ body = .null) ∧
        ∀ userConfig autoConfig, body = .dict userConfig →
          (loadServiceInstanceAutoConfigs consts system soa service instanceType cluster >>=
            fun autoConfigs => autoConfigs.getD instanceName (.dict [])) = .ok (.dict autoConfig) →
          ∃ config, loadServiceInstanceConfig consts system soa service instanceName
            instanceType cluster = .ok config) ∧
    (∀ instanceType ∈ consts.INSTANCE_TYPES, instanceType ≠ "tron" →
      (∃ config, loadServiceInstanceConfig consts system soa service instanceName instanceType
        cluster = .ok config) →
      ∀ msg, validateServiceInstance consts system soa getCloseMatches composeJobId service
        instanceName cluster ≠ .error (.noConfigurationForService msg)) ∧
    (startswith instanceName "_" = true → ∀ instanceType,
      validateServiceInstance consts system soa getCloseMatches composeJobId service
        instanceName cluster ≠ .ok instanceType) := by
  refine ⟨fun instanceType htron h => ?_, fun instanceType htype htron hload msg => ?_,
    fun hname instanceType h => ?_⟩
  · obtain ⟨htype, sis, hsis, hmem⟩ := validateServiceInstanceLoop_ok h
    rw [getServiceInstanceListNoCache_of_mem hcluster htype] at hsis
    have hname := readServiceInstanceNames_not_template hsis _ hmem
    cases hfile : (soa.read service s!"{instanceType}-{cluster}").value with
    | dict fields =>
        obtain ⟨sis', hsis', hiff⟩ := mem_readServiceInstanceNames htron hfile
        rw [hsis] at hsis'
        cases hsis'
        obtain ⟨-, -, body, hbody⟩ := (hiff service instanceName).mp hmem
        have hlookup := lookup_of_mem_read hfile hbody
        have hget : (soa.read service s!"{instanceType}-{cluster}").value.getD instanceName .null =
            .ok body := by
          rw [hfile]; exact Value.getD_dict_of_lookup hlookup
        refine ⟨fields, body, rfl, hlookup, hname, ?_, ?_⟩
        · rw [loadServiceInstanceConfig_noConfig_iff, hget]
          simp [hname]
        · rintro userConfig autoConfig rfl hauto
          exact loadServiceInstanceConfig_ok_of_dicts hname hget hauto
    | _ =>
        simp [readServiceInstanceNames, hfile, filterTemplatesFromConfig, throw, throwThe,
          MonadExceptOf.throw] at hsis
  · obtain ⟨config, hconfig⟩ := hload
    obtain ⟨hname, fields, body, hfile, hlookup⟩ := loadServiceInstanceConfig_ok_entry hconfig
    obtain ⟨sis, hsis, hiff⟩ := mem_readServiceInstanceNames htron hfile
    exact validateServiceInstanceLoop_ne_noConfig
      (by rw [getServiceInstanceListNoCache_of_mem hcluster htype]; exact hsis)
      ((hiff service instanceName).mpr ⟨rfl, hname, body, mem_of_lookup_eq_some hlookup⟩)
      (fun _ _ => getServiceInstanceListNoCache_error hcluster) msg htype
  · obtain ⟨-, sis, hsis, hmem⟩ := validateServiceInstanceLoop_ok h
    simp [getServiceInstanceListNoCache_not_template hsis _ hmem] at hname

/-- A `get_close_matches` that finds nothing. -/
def noCloseMatches : String → List String → Nat → List String := fun _ _ _ => []

/-- `compose_job_id(service, instance)` with the usual spacer. -/
def dottedJobId : String → String → String := fun service name => s!"{service}.{name}"

theorem validateServiceInstance_agrees_with_load_norcal :
    "norcal" ≠ "" ∧
    (∀ instanceType : String, instanceType ≠ "tron" →
      validateServiceInstance .example .empty (.uniform ⟨.dict [("main", .null)], by decide⟩)
        noCloseMatches dottedJobId "example_service" "main" "norcal" = .ok instanceType →
      ∃ fields body, ((SoaDir.uniform ⟨.dict [("main", .null)], by decide⟩).read
          "example_service" s!"{instanceType}-norcal").value = .dict fields ∧
        fields.lookup "main" = some body ∧ startswith "main" "_" = false ∧
        ((∃ msg, loadServiceInstanceConfig .example .empty
          (.uniform ⟨.dict [("main", .null)], by decide⟩) "example_service" "main" instanceType
          "norcal" = .error (.noConfigurationForService msg)) ↔ body = .null) ∧
        ∀ userConfig autoConfig, body = .dict userConfig →
          (loadServiceInstanceAutoConfigs .example .empty
            (.uniform ⟨.dict [("main", .null)], by decide⟩) "example_service" instanceType
              "norcal" >>=
            fun autoConfigs => autoConfigs.getD "main" (.dict [])) = .ok (.dict autoConfig) →
          ∃ config, loadServiceInstanceConfig .example .empty
            (.uniform ⟨.dict [("main", .null)], by decide⟩) "example_service" "main"
            instanceType "norcal" = .ok config) ∧
    (∀ instanceType ∈ PaastaConst.example.INSTANCE_TYPES, instanceType ≠ "tron" →
      (∃ config, loadServiceInstanceConfig .example .empty
        (.uniform ⟨.dict [("main", .null)], by decide⟩) "example_service" "main" instanceType
        "norcal" = .ok config) →
      ∀ msg, validateServiceInstance .example .empty
        (.uniform ⟨.dict [("main", .null)], by decide⟩) noCloseMatches dottedJobId
        "example_service" "main" "norcal" ≠ .error (.noConfigurationForService msg)) ∧
    (startswith "main" "_" = true → ∀ instanceType,
      validateServiceInstance .example .empty (.uniform ⟨.dict [("main", .null)], by decide⟩)
        noCloseMatches dottedJobId "example_service" "main" "norcal" ≠ .ok instanceType) :=
  ⟨by decide, validateServiceInstance_agrees_with_load (by decide)⟩

/-- An instance whose body is null is enumerated, so `validate_service_instance` finds it,
yet loading it raises `NoConfigurationForServiceError`. -/
theorem validateServiceInstance_finds_null_entry :
    validateServiceInstance .example .empty (.uniform ⟨.dict [("main", .null)], by decide⟩)
        noCloseMatches dottedJobId "example_service" "main" "norcal" = .ok "marathon" ∧
      ∃ msg, loadServiceInstanceConfig .example .empty
        (.uniform ⟨.dict [("main", .null)], by decide⟩) "example_service" "main" "marathon"
        "norcal" = .error (.noConfigurationForService msg) :=
  ⟨rfl, _, rfl⟩

end Agreement

end PaastaConfig
