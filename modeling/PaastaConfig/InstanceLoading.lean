import PaastaConfig.SystemConfig

/-!
# Loading instance configurations

`load_service_instance_config` resolves one instance: it rejects a name starting with `_`,
reads the instance's entry from the user file `{instance_type}-{cluster}.yaml`, rejects a
missing or null entry with `NoConfigurationForServiceError`, and merges the entry over the
instance's auto config with the overlay merge. `load_service_instance_configs` does the same
for every instance of the file in one read: it drops the `_` templates and merges each entry
over its auto config.

The bulk loader refines the single one on success (`loadServiceInstanceConfigs_toOption`):
it returns exactly when every single load returns, with the same configs. Their errors differ:
the bulk loader lacks the null check, so a null entry reaches the merge and fails there rather
than as `NoConfigurationForServiceError` (`loadServiceInstanceConfigs_null_entry`).

`service_configuration_lib` is not part of the repository; `SoaDir` stands for what its
`read_extra_service_information` and `read_service_configuration` return.
-/

namespace PaastaConfig

/-- The soa-configs directory as `service_configuration_lib.read_extra_service_information`
reads it. -/
structure SoaDir where
  /-- `soa_dir`. -/
  path : String
  /-- The parsed YAML of `{soa_dir}/{service}/{name}.yaml`, `{}` when there is no such
  file. -/
  read : (service name : String) → Document
  /-- `service_configuration_lib.read_service_configuration(service, soa_dir)`: the parsed
  configuration of the service, `deploy.yaml` under `deploy`. -/
  readServiceConfiguration : (service : String) → Document

/-- `SystemPaastaConfig.get_auto_config_instance_types_enabled()`. -/
def SystemPaastaConfig.getAutoConfigInstanceTypesEnabled (system : SystemPaastaConfig) :
    Except PyError Value :=
  system.config_dict.getD "auto_config_instance_types_enabled" (.dict [])

/-- `filter_templates_from_config(config)`: the items whose key does not start with `_`. -/
def filterTemplatesFromConfig (config : Value) : Except PyError (List (String × Value)) :=
  match config with
  | .dict fields => pure (fields.filter fun item => !startswith item.1 "_")
  | _ => throw (.attributeError "items")

/-- `load_service_instance_auto_configs(service, instance_type, cluster, soa_dir)`: the auto
file of the instance type when the system config enables it, `{}` otherwise. -/
def loadServiceInstanceAutoConfigs (consts : PaastaConst) (system : SystemPaastaConfig)
    (soa : SoaDir) (service instanceType cluster : String) : Except PyError Value := do
  let enabledTypes ← system.getAutoConfigInstanceTypesEnabled
  let confFile := s!"{instanceType}-{cluster}"
  let subdir := consts.AUTO_SOACONFIG_SUBDIR
  let enabled ← enabledTypes.getD instanceType .null
  if enabled.truthy then pure (soa.read service s!"{subdir}/{confFile}").value
  else pure (.dict [])

/-- `load_service_instance_config(service, instance, instance_type, cluster, soa_dir)`. -/
def loadServiceInstanceConfig (consts : PaastaConst) (system : SystemPaastaConfig)
    (soa : SoaDir) (service instanceName instanceType cluster : String) : Except PyError Value := do
  if startswith instanceName "_" then
    throw (.invalidJobName
      s!"Unable to load {instanceType} config for {service}.{instanceName} as instance name starts with '_'")
  let confFile := s!"{instanceType}-{cluster}"
  let soaDir := soa.path
  let userConfig ← (soa.read service confFile).value.getD instanceName .null
  if userConfig = .null then
    throw (.noConfigurationForService
      s!"{instanceName} not found in config file {soaDir}/{service}/{confFile}.yaml.")
  let autoConfigs ← loadServiceInstanceAutoConfigs consts system soa service instanceType cluster
  let autoConfig ← autoConfigs.getD instanceName (.dict [])
  deepMergeDictionaries userConfig autoConfig true

/-- The body of the loop of `load_service_instance_configs`: merge one user entry over its
auto config. -/
def mergeInstanceEntry (autoConfigs : Value) (entry : String × Value) :
    Except PyError (String × Value) := do
  let autoConfig ← autoConfigs.getD entry.1 (.dict [])
  let config ← deepMergeDictionaries entry.2 autoConfig true
  pure (entry.1, config)

/-- `load_service_instance_configs(service, instance_type, cluster, soa_dir)`. -/
def loadServiceInstanceConfigs (consts : PaastaConst) (system : SystemPaastaConfig)
    (soa : SoaDir) (service instanceType cluster : String) : Except PyError Value := do
  let confFile := s!"{instanceType}-{cluster}"
  let userConfigs ← filterTemplatesFromConfig (soa.read service confFile).value
  let autoConfigs ← loadServiceInstanceAutoConfigs consts system soa service instanceType cluster
  let merged ← userConfigs.mapM (mergeInstanceEntry autoConfigs)
  pure (.dict merged)

section Refinement

variable {consts : PaastaConst} {system : SystemPaastaConfig} {soa : SoaDir}
  {service instanceName instanceType cluster : String}

theorem deepMergeDictionaries_null_left {defaults : Value} {allow : Bool} :
    deepMergeDictionaries .null defaults allow = .error (.attributeError "items") := rfl

variable {fields : List (String × Value)} {body autoConfigs : Value}

theorem loadServiceInstanceAutoConfigs_error {e : PyError}
    (h : loadServiceInstanceAutoConfigs consts system soa service instanceType cluster =
      .error e) : e = .attributeError "get" := by
  simp only [loadServiceInstanceAutoConfigs,
    SystemPaastaConfig.getAutoConfigInstanceTypesEnabled] at h
  cases h1 : system.config_dict.getD "auto_config_instance_types_enabled" (.dict []) with
  | error e' =>
      rw [h1] at h
      exact (Except.error.inj h) ▸ Value.getD_error h1
  | ok enabledTypes =>
      rw [h1] at h
      cases h2 : enabledTypes.getD instanceType .null with
      | error e' =>
          simp only [h2, bind, Except.bind] at h
          exact (Except.error.inj h) ▸ Value.getD_error h2
      | ok enabled =>
          simp only [h2, bind, Except.bind] at h
          split at h <;> simp [pure, Except.pure] at h

/-- The single load of a null or missing entry reports that the instance is not
configured. -/
theorem loadServiceInstanceConfig_of_null (hname : startswith instanceName "_" = false)
    (hget : (soa.read service s!"{instanceType}-{cluster}").value.getD instanceName .null =
      .ok .null) :
    ∃ msg, loadServiceInstanceConfig consts system soa service instanceName instanceType cluster =
      .error (.noConfigurationForService msg) :=
  ⟨_, by simp [loadServiceInstanceConfig, hname, hget]; rfl⟩

/-- The single load of an entry that is not null merges it over its auto config, as the
bulk load does. -/
theorem loadServiceInstanceConfig_of_entry (hname : startswith instanceName "_" = false)
    (hget : (soa.read service s!"{instanceType}-{cluster}").value.getD instanceName .null =
      .ok body) (hnull : body ≠ .null) :
    loadServiceInstanceConfig consts system soa service instanceName instanceType cluster =
      loadServiceInstanceAutoConfigs consts system soa service instanceType cluster >>=
        fun autoConfigs => Prod.snd <$> mergeInstanceEntry autoConfigs (instanceName, body) := by
  simp [loadServiceInstanceConfig, hname, hget, hnull, mergeInstanceEntry]

theorem loadServiceInstanceAutoConfigs_canonical
    (h : loadServiceInstanceAutoConfigs consts system soa service instanceType cluster =
      .ok autoConfigs) : autoConfigs.Canonical := by
  simp only [loadServiceInstanceAutoConfigs, bind, Except.bind] at h
  cases h1 : system.getAutoConfigInstanceTypesEnabled with
  | error e => simp [h1] at h
  | ok enabledTypes =>
      cases h2 : enabledTypes.getD instanceType .null with
      | error e => simp [h1, h2] at h
      | ok enabled =>
          simp only [h1, h2, pure, Except.pure] at h
          split at h <;> cases h
          · exact (soa.read _ _).canonical
          · decide

/-- The overlay merge of canonical values fails only on a value that is not a dict. -/
theorem deepMergeDictionaries_overlay_error {a b : Value} {e : PyError} (ha : a.Canonical)
    (hb : b.Canonical) (h : deepMergeDictionaries a b true = .error e) :
    e.isTypeMismatch = true := by
  cases a with
  | dict os =>
      cases b with
      | dict ds =>
          obtain ⟨m, hm⟩ : ∃ m, mergeEntry true "" (.dict os) (.dict ds) = .ok m :=
            mergeEntry_overlay_ok ha hb
          cases h.symm.trans hm
      | _ => cases h; rfl
  | _ => cases h; rfl

/-- A single load of an entry that is present and not null fails only on a value of the
wrong type: in the auto configs or in the merge. -/
theorem loadServiceInstanceConfig_error_of_entry (hname : startswith instanceName "_" = false)
    (hget : (soa.read service s!"{instanceType}-{cluster}").value.getD instanceName .null =
      .ok body) (hnull : body ≠ .null) {e : PyError}
    (h : loadServiceInstanceConfig consts system soa service instanceName instanceType cluster =
      .error e) : e.isTypeMismatch = true := by
  rw [loadServiceInstanceConfig_of_entry hname hget hnull] at h
  cases hauto : loadServiceInstanceAutoConfigs consts system soa service instanceType cluster with
  | error e' =>
      rw [hauto] at h
      cases h
      rw [loadServiceInstanceAutoConfigs_error hauto]; rfl
  | ok autoConfigs =>
      simp only [hauto, bind, Except.bind, mergeInstanceEntry] at h
      cases hentry : autoConfigs.getD instanceName (.dict []) with
      | error e' =>
          simp only [hentry] at h
          cases h
          rw [Value.getD_error hentry]; rfl
      | ok autoConfig =>
          have hbody := Value.getD_canonical (soa.read _ _).canonical (by decide) hget
          have hauto' := Value.getD_canonical (loadServiceInstanceAutoConfigs_canonical hauto)
            (by decide) hentry
          simp only [hentry] at h
          cases hm : deepMergeDictionaries body autoConfig true with
          | error e' =>
              simp only [hm] at h
              cases h
              exact deepMergeDictionaries_overlay_error hbody hauto' hm
          | ok m => simp [hm, Functor.map, Except.map, pure, Except.pure] at h

/-- The single load raises `NoConfigurationForServiceError` exactly when the name is not a
template and the user file has no entry, or a null one, under it. -/
theorem loadServiceInstanceConfig_noConfig_iff :
    (∃ msg, loadServiceInstanceConfig consts system soa service instanceName instanceType
        cluster = .error (.noConfigurationForService msg)) ↔
      startswith instanceName "_" = false ∧
        (soa.read service s!"{instanceType}-{cluster}").value.getD instanceName .null =
          .ok .null := by
  constructor
  · rintro ⟨msg, h⟩
    cases hname : startswith instanceName "_" with
    | true =>
        simp [loadServiceInstanceConfig, hname, throw, throwThe, MonadExceptOf.throw, bind,
          Except.bind] at h
    | false =>
        refine ⟨rfl, ?_⟩
        cases hget : (soa.read service s!"{instanceType}-{cluster}").value.getD instanceName .null
          with
        | error e =>
            simp only [loadServiceInstanceConfig, hname, hget] at h
            cases Value.getD_error hget
            cases h
        | ok body =>
            by_cases hnull : body = .null
            · rw [hnull]
            · cases loadServiceInstanceConfig_error_of_entry hname hget hnull h
  · rintro ⟨hname, hget⟩
    exact loadServiceInstanceConfig_of_null hname hget

/-- A single load that returns read a key of the user file that is not a template. -/
theorem loadServiceInstanceConfig_ok_entry {config : Value}
    (h : loadServiceInstanceConfig consts system soa service instanceName instanceType cluster =
      .ok config) :
    startswith instanceName "_" = false ∧ ∃ fields body,
      (soa.read service s!"{instanceType}-{cluster}").value = .dict fields ∧
        fields.lookup instanceName = some body := by
  cases hname : startswith instanceName "_" with
  | true =>
      simp [loadServiceInstanceConfig, hname, throw, throwThe, MonadExceptOf.throw, bind,
        Except.bind] at h
  | false =>
      refine ⟨rfl, ?_⟩
      cases hfile : (soa.read service s!"{instanceType}-{cluster}").value with
      | dict fields =>
          cases hbody : fields.lookup instanceName with
          | some body => exact ⟨fields, body, rfl, hbody⟩
          | none =>
              obtain ⟨msg, hmsg⟩ : ∃ msg, loadServiceInstanceConfig consts system soa service
                  instanceName instanceType cluster = .error (.noConfigurationForService msg) :=
                loadServiceInstanceConfig_of_null hname
                  (by simp [hfile, Value.getD, hbody, pure, Except.pure])
              cases hmsg.symm.trans h
      | _ =>
          simp [loadServiceInstanceConfig, hname, hfile, Value.getD, throw, throwThe,
            MonadExceptOf.throw] at h

/-- A single load of a mapping entry whose auto config is a mapping returns a config. -/
theorem loadServiceInstanceConfig_ok_of_dicts {userConfig autoConfig : List (String × Value)}
    (hname : startswith instanceName "_" = false)
    (hget : (soa.read service s!"{instanceType}-{cluster}").value.getD instanceName .null =
      .ok (.dict userConfig))
    (hauto : (loadServiceInstanceAutoConfigs consts system soa service instanceType cluster >>=
      fun autoConfigs => autoConfigs.getD instanceName (.dict [])) = .ok (.dict autoConfig)) :
    ∃ config, loadServiceInstanceConfig consts system soa service instanceName instanceType
      cluster = .ok config := by
  rw [loadServiceInstanceConfig_of_entry hname hget nofun]
  cases hload : loadServiceInstanceAutoConfigs consts system soa service instanceType cluster with
  | error e => simp [hload, bind, Except.bind] at hauto
  | ok autoConfigs =>
      simp only [hload, bind, Except.bind] at hauto
      have huser := Value.getD_canonical (soa.read _ _).canonical (by decide) hget
      have hautoc := Value.getD_canonical (loadServiceInstanceAutoConfigs_canonical hload)
        (by decide) hauto
      obtain ⟨m, hm⟩ : ∃ m, mergeEntry true "" (.dict userConfig) (.dict autoConfig) = .ok m :=
        mergeEntry_overlay_ok huser hautoc
      refine ⟨m, ?_⟩
      simp only [bind, Except.bind, mergeInstanceEntry, hauto]
      rw [show deepMergeDictionaries (.dict userConfig) (.dict autoConfig) true = .ok m from hm]
      rfl

theorem mergeInstanceEntry_eq (entry : String × Value) :
    mergeInstanceEntry autoConfigs entry = (entry.1, ·) <$>
      (autoConfigs.getD entry.1 (.dict []) >>= fun autoConfig =>
        deepMergeDictionaries entry.2 autoConfig true) := by
  simp [mergeInstanceEntry]

theorem mergeInstanceEntry_pair (entry : String × Value) :
    (entry.1, ·) <$> (Prod.snd <$> mergeInstanceEntry autoConfigs entry) =
      mergeInstanceEntry autoConfigs entry := by
  rw [mergeInstanceEntry_eq, Functor.map_map, Functor.map_map]

theorem mapM_toOption_congr {α β : Type} {f g : α → Except PyError β} :
    ∀ {l : List α}, (∀ x ∈ l, (f x).toOption = (g x).toOption) →
      (l.mapM f).toOption = (l.mapM g).toOption
  | [], _ => rfl
  | x :: xs, h => by
      simp only [List.mapM_cons, toOption_bind, h x (.head _),
        mapM_toOption_congr fun y hy => h y (.tail _ hy)]

/-- The bulk load of a user file that is a dict returns exactly when the single load returns
for each of its instances, and then it maps each instance to the single load's config. -/
theorem loadServiceInstanceConfigs_toOption
    (hfile : (soa.read service s!"{instanceType}-{cluster}").value = .dict fields)
    (hauto : loadServiceInstanceAutoConfigs consts system soa service instanceType cluster =
      .ok autoConfigs) :
    (loadServiceInstanceConfigs consts system soa service instanceType cluster).toOption =
      (((fields.filter fun item => !startswith item.1 "_").mapM fun item =>
          (item.1, ·) <$> loadServiceInstanceConfig consts system soa service item.1 instanceType
            cluster).toOption).map .dict := by
  have sorted : KeysSorted fields := by
    have := (soa.read service s!"{instanceType}-{cluster}").canonical
    rw [hfile, Value.canonical_dict] at this
    exact this.1
  have entries : ∀ item ∈ fields.filter (fun item => !startswith item.1 "_"),
      (mergeInstanceEntry autoConfigs item).toOption =
        ((item.1, ·) <$> loadServiceInstanceConfig consts system soa service item.1 instanceType
          cluster).toOption := by
    intro item hitem
    obtain ⟨hmem, hname⟩ := List.mem_filter.mp hitem
    have hbody := sorted.lookup_of_mem hmem
    by_cases hnull : item.2 = .null
    · have single : ∃ msg, loadServiceInstanceConfig consts system soa service item.1 instanceType
          cluster = .error (.noConfigurationForService msg) :=
        loadServiceInstanceConfig_of_null (by simpa using hname)
          (by rw [hfile]; exact Value.getD_dict_of_lookup (hnull ▸ hbody))
      obtain ⟨msg, hmsg⟩ := single
      rw [hmsg, mergeInstanceEntry_eq, hnull]
      cases autoConfigs.getD item.1 (.dict []) <;> rfl
    · rw [loadServiceInstanceConfig_of_entry (by simpa using hname)
        (by rw [hfile]; exact Value.getD_dict_of_lookup hbody) hnull, hauto]
      exact congrArg Except.toOption (mergeInstanceEntry_pair item).symm
  simp only [loadServiceInstanceConfigs, hfile, filterTemplatesFromConfig, hauto, pure_bind,
    toOption_bind, toOption_ok, Option.some_bind]
  rw [mapM_toOption_congr entries, Option.map_eq_bind]
  rfl

/-- A soa-configs directory in which every file holds `document`. -/
def SoaDir.uniform (document : Document) : SoaDir :=
  ⟨"/nail/etc/services", fun _ _ => document, fun _ => document⟩

/-- Constants for concrete runs: one instance type and the usual spacer. -/
def PaastaConst.example : PaastaConst := ⟨["marathon"], ".", [], "autotuned_defaults"⟩

/-- An empty system configuration. -/
def SystemPaastaConfig.empty : SystemPaastaConfig := ⟨.dict [], "/etc/paasta"⟩

theorem loadServiceInstanceConfigs_toOption_single_instance :
    ((SoaDir.uniform ⟨.dict [("main", .dict [("cpus", .int 1)])], by decide⟩).read
        "example_service" "marathon-norcal").value = .dict [("main", .dict [("cpus", .int 1)])] ∧
      loadServiceInstanceAutoConfigs .example .empty
        (.uniform ⟨.dict [("main", .dict [("cpus", .int 1)])], by decide⟩)
        "example_service" "marathon" "norcal" = .ok (.dict []) ∧
      (loadServiceInstanceConfigs .example .empty
          (.uniform ⟨.dict [("main", .dict [("cpus", .int 1)])], by decide⟩)
          "example_service" "marathon" "norcal").toOption =
        (((([("main", .dict [("cpus", .int 1)])] : List (String × Value)).filter
          fun item => !startswith item.1 "_").mapM
          fun item => (item.1, ·) <$> loadServiceInstanceConfig PaastaConst.example SystemPaastaConfig.empty
            (SoaDir.uniform ⟨.dict [("main", .dict [("cpus", .int 1)])], by decide⟩)
            "example_service" item.1 "marathon" "norcal").toOption).map .dict :=
  ⟨rfl, rfl, loadServiceInstanceConfigs_toOption rfl rfl⟩

/-- On a user file whose only instance has a null body, the single load raises
`NoConfigurationForServiceError`, while the bulk load hands `None` to the merge and raises an
`AttributeError`. -/
theorem loadServiceInstanceConfigs_null_entry
    (hfile : (soa.read service s!"{instanceType}-{cluster}").value =
      .dict [(instanceName, .null)])
    (hname : startswith instanceName "_" = false) :
    (∃ msg, loadServiceInstanceConfig consts system soa service instanceName instanceType
        cluster = .error (.noConfigurationForService msg)) ∧
      ∃ name, loadServiceInstanceConfigs consts system soa service instanceType cluster =
        .error (.attributeError name) := by
  refine ⟨loadServiceInstanceConfig_of_null hname (by simp [hfile, Value.getD_dict_of_lookup]), ?_⟩
  simp only [loadServiceInstanceConfigs, hfile, filterTemplatesFromConfig, List.filter, hname,
    Bool.not_false, pure_bind, List.mapM_cons, List.mapM_nil]
  cases hauto : loadServiceInstanceAutoConfigs consts system soa service instanceType cluster with
  | error e => exact ⟨"get", by rw [loadServiceInstanceAutoConfigs_error hauto]; rfl⟩
  | ok autoConfigs =>
      cases h : autoConfigs.getD instanceName (.dict []) with
      | error e =>
          exact ⟨"get", by simp [bind, Except.bind, mergeInstanceEntry, h, Value.getD_error h]⟩
      | ok autoConfig =>
          exact ⟨"items", by
            simp [bind, Except.bind, mergeInstanceEntry, h, deepMergeDictionaries_null_left]⟩

theorem loadServiceInstanceConfigs_null_entry_main :
    ((SoaDir.uniform ⟨.dict [("main", .null)], by decide⟩).read "example_service"
        "marathon-norcal").value = .dict [("main", .null)] ∧
      startswith "main" "_" = false ∧
      (∃ msg, loadServiceInstanceConfig .example .empty
          (.uniform ⟨.dict [("main", .null)], by decide⟩) "example_service" "main" "marathon"
          "norcal" = .error (.noConfigurationForService msg)) ∧
      ∃ name, loadServiceInstanceConfigs .example .empty
          (.uniform ⟨.dict [("main", .null)], by decide⟩) "example_service" "marathon"
          "norcal" = .error (.attributeError name) :=
  ⟨rfl, rfl, loadServiceInstanceConfigs_null_entry rfl rfl⟩

end Refinement

end PaastaConfig
