import PaastaConfig.Enumeration

/-!
# Validating an instance config

`InstanceConfig.validate(params)` runs `check(param)` for each name in `params` and collects
the messages of the checks that fail. `check` looks the name up in its table
`check_methods` (`cpus`, `mem`, `security`, `dependencies_reference`, `deploy_group`) and
reports any other name as an unsupported parameter. The numeric checks `check_cpus`,
`check_mem` and `check_disk` are one check with a field and a default (`checkNumeric`).

The loop collects messages in the order of `params`, and it splits over a concatenation of
`params` (`validate_append`). It collects every failure only while no check raises: a
`security` value that is not a dict, or a `dependencies` value that `in` cannot search,
makes the check raise, and the exception ends the whole validation
(`validate_raises_on_malformed_field`). `check_security` passes every block that sets
neither firewall before it looks at the keys, so a misspelt key is accepted
(`checkSecurity_ignores_unknown_keys`); otherwise it enforces the vocabulary
(`checkSecurity_passes_iff`). `check_methods` has no `disk` entry, so `check_disk` is never
reached and `validate(["disk"])` always reports `disk` as unsupported
(`validate_disk_unsupported`).

`config_dict` is the dict as the constructor leaves it; the constructor's interpolation of
`deploy_group` is modelled in `PaastaConfig.Interpolation`. `set(security.keys())` is iterated in an order Python does not
fix; the model joins the unknown keys in the dict's order.
-/

namespace PaastaConfig

/-- `part` occurs in `s` as a run of consecutive characters: `part in s` for strings. -/
def isInfix (part : List Char) : List Char → Bool
  | [] => part.isPrefixOf []
  | c :: rest => part.isPrefixOf (c :: rest) || isInfix part rest

/-- `item in container`. Values compare structurally: Python's equality between numbers of
different types (`1 == 1.0 == True`) is not modelled. -/
def Value.contains (container item : Value) : Except PyError Bool :=
  match container, item with
  | .list items, item => pure (items.contains item)
  | .dict _, .list _ | .dict _, .dict _ => throw (.typeError "unhashable type")
  | .dict fields, .str key => pure (fields.lookup key).isSome
  | .dict _, _ => pure false
  | .str s, .str part => pure (isInfix part.toList s.toList)
  | .str _, _ => throw (.typeError "'in <string>' requires string as left operand")
  | _, _ => throw (.typeError "argument is not iterable")

/-- `iter(value)`: the elements of a list, the keys of a dict, the characters of a
string. -/
def Value.iter : Value → Except PyError (List Value)
  | .list items => pure items
  | .dict fields => pure (fields.map fun field => .str field.1)
  | .str s => pure (s.toList.map fun c => .str (String.singleton c))
  | _ => throw (.typeError "object is not iterable")

/-- `get_pipeline_config(service, soa_dir)`. -/
def getPipelineConfig (soa : SoaDir) (service : String) : Except PyError Value := do
  let deploy ← (soa.readServiceConfiguration service).value.getD "deploy" (.dict [])
  deploy.getD "pipeline" (.list [])

/-- `is_deploy_step(step)`. -/
def isDeployStep (consts : PaastaConst) (step : Value) : Except PyError Bool :=
  if step ∈ consts.DEPLOY_PIPELINE_NON_DEPLOY_STEPS.map Value.str then pure false
  else
    match step with
    | .str step => pure !(startswith step "command-")
    | _ => throw (.attributeError "startswith")

/-- `get_pipeline_deploy_groups(service, soa_dir)`. -/
def getPipelineDeployGroups (consts : PaastaConst) (soa : SoaDir) (service : String) :
    Except PyError (List Value) := do
  let pipeline ← getPipelineConfig soa service
  let steps ← pipeline.iter
  let pipelineSteps ← steps.mapM fun step => step.getItem "step"
  pipelineSteps.filterM (isDeployStep consts)

/-- The fields of an `InstanceConfig` that its checks read. -/
structure InstanceConfig where
  /-- `cluster`. -/
  cluster : String
  /-- `instance`. -/
  instanceName : String
  /-- `service`. -/
  service : String
  /-- `config_dict`. -/
  config_dict : List (String × Value)
  /-- `soa_dir`, as the configuration files it holds. -/
  soa_dir : SoaDir

namespace InstanceConfig

variable (ic : InstanceConfig) (consts : PaastaConst)

/-- `self.config_dict.get(key, default)`. -/
def get (key : String) (default : Value) : Value := (ic.config_dict.lookup key).getD default

/-- `get_branch()`: `get_paasta_branch(cluster, instance)`, which is
`SPACER.join((cluster, instance))`. -/
def getBranch : String := ic.cluster ++ consts.SPACER ++ ic.instanceName

/-- `get_deploy_group()`. -/
def getDeployGroup : Value := ic.get "deploy_group" (.str (ic.getBranch consts))

/-- `check_cpus`, `check_mem` and `check_disk`: the value of `field`, `default` when it is
absent, must be `None`, an int or a float (a bool is an int). -/
def checkNumeric (field : String) (default : Value) : Bool × String :=
  let value := ic.get field default
  let shown := value.pyStr
  if value ≠ .null then
    if !value.isFloatOrInt then
      (false, s!"The specified {field} value \"{shown}\" is not a valid float or int.")
    else (true, "")
  else (true, "")

/-- `check_cpus()`: `get_cpus()` defaults to 1. -/
def checkCpus : Bool × String := ic.checkNumeric "cpus" (.int 1)

/-- `check_mem()`: `get_mem()` defaults to 4096. -/
def checkMem : Bool × String := ic.checkNumeric "mem" (.int 4096)

/-- `check_disk()`: `get_disk()` defaults to 1024. -/
def checkDisk : Bool × String := ic.checkNumeric "disk" (.int 1024)

/-- `check_security()`. -/
def checkSecurity : Except PyError (Bool × String) :=
  let security := ic.get "security" .null
  if security = .null then pure (true, "") else do
  let inboundFirewall ← security.getD "inbound_firewall" .null
  let outboundFirewall ← security.getD "outbound_firewall" .null
  if inboundFirewall = .null ∧ outboundFirewall = .null then pure (true, "")
  else if inboundFirewall ≠ .null ∧ inboundFirewall ∉ [.str "allow", .str "reject"] then
    let shown := inboundFirewall.pyStr
    pure (false, s!"Unrecognized inbound_firewall value \"{shown}\"")
  else if outboundFirewall ≠ .null ∧ outboundFirewall ∉ [.str "block", .str "monitor"] then
    let shown := outboundFirewall.pyStr
    pure (false, s!"Unrecognized outbound_firewall value \"{shown}\"")
  else do
    let keys ← security.keys
    let unknownKeys := keys.filter fun key => key ∉ ["inbound_firewall", "outbound_firewall"]
    if unknownKeys ≠ [] then
      let joined := ",".intercalate unknownKeys
      pure (false, s!"Unrecognized items in security dict of service config: \"{joined}\"")
    else pure (true, "")

/-- `check_dependencies_reference()`. -/
def checkDependenciesReference : Except PyError (Bool × String) :=
  let dependenciesReference := ic.get "dependencies_reference" .null
  let shown := dependenciesReference.pyStr
  if dependenciesReference = .null then pure (true, "") else
  let dependencies := ic.get "dependencies" .null
  if dependencies = .null then
    pure (false, s!"dependencies_reference \"{shown}\" declared but no dependencies found")
  else do
    let found ← dependencies.contains dependenciesReference
    if !found then
      pure (false, s!"dependencies_reference \"{shown}\" not found in dependencies dictionary")
    else pure (true, "")

/-- `check_deploy_group()`. -/
def checkDeployGroup : Except PyError (Bool × String) :=
  let deployGroup := ic.getDeployGroup consts
  if deployGroup = .null then pure (true, "") else do
  let pipelineDeployGroups ← getPipelineDeployGroups consts ic.soa_dir ic.service
  if deployGroup ∉ pipelineDeployGroups then
    let service := ic.service
    let instanceName := ic.instanceName
    let shown := deployGroup.pyStr
    pure (false, s!"{service}.{instanceName} uses deploy_group {shown}, but it is not deploy.yaml")
  else pure (true, "")

/-- The table `check_methods` of `check(param)`. -/
def checkMethods : List (String × Except PyError (Bool × String)) :=
  [("cpus", pure ic.checkCpus), ("mem", pure ic.checkMem), ("security", ic.checkSecurity),
    ("dependencies_reference", ic.checkDependenciesReference),
    ("deploy_group", ic.checkDeployGroup consts)]

/-- `check(param)`. -/
def check (param : String) : Except PyError (Bool × String) :=
  match (ic.checkMethods consts).lookup param with
  | some checkMethod => checkMethod
  | none => pure (false, s!"Your service config specifies \"{param}\", an unsupported parameter.")

/-- `validate(params)`. -/
def validate : List String → Except PyError (List String)
  | [] => pure []
  | param :: params => do
      let (checkPassed, checkMsg) ← ic.check consts param
      let errorMsgs ← validate params
      pure (if checkPassed then errorMsgs else checkMsg :: errorMsgs)

/-- The default `params` of `validate`. -/
def validateParams : List String :=
  ["cpus", "mem", "security", "dependencies_reference", "deploy_group"]

section Loop

variable {ic : InstanceConfig} {consts : PaastaConst}

/-- The messages `validate` returns are those of the failing checks, in the order of
`params`; it returns exactly when every check returns. -/
theorem validate_eq_filterMap (params : List String) :
    ic.validate consts params = (fun results => results.filterMap fun result =>
      if result.1 then none else some result.2) <$> params.mapM (ic.check consts) := by
  induction params with
  | nil => rfl
  | cons param params ih =>
      rw [validate, ih, List.mapM_cons]
      cases ic.check consts param with
      | error e => rfl
      | ok result =>
          cases params.mapM (ic.check consts) with
          | error e => rfl
          | ok results => cases result with | mk passed msg => cases passed <;> rfl

/-- `validate` over a concatenation of names runs the first part, then the second, and
joins their messages. -/
theorem validate_append (p q : List String) :
    ic.validate consts (p ++ q) = (ic.validate consts p >>= fun first =>
      ic.validate consts q >>= fun second => pure (first ++ second)) := by
  induction p with
  | nil => rw [List.nil_append]; cases ic.validate consts q <;> rfl
  | cons param p ih =>
      rw [List.cons_append, validate, validate, ih]
      cases ic.check consts param with
      | error e => rfl
      | ok result =>
          cases ic.validate consts p with
          | error e => rfl
          | ok first =>
              cases ic.validate consts q with
              | error e => rfl
              | ok second => cases result with | mk passed msg => cases passed <;> rfl

theorem validate_singleton (param : String) :
    ic.validate consts [param] =
      (fun result => if result.1 then [] else [result.2]) <$> ic.check consts param := by
  rw [validate_eq_filterMap, List.mapM_cons, List.mapM_nil]
  cases ic.check consts param with
  | error e => rfl
  | ok result => cases result with | mk passed msg => cases passed <;> rfl

end Loop

section Checks

variable {ic : InstanceConfig} {consts : PaastaConst} {key field : String}
  {v default : Value}

theorem get_of_lookup (h : ic.config_dict.lookup key = some v) : ic.get key default = v := by
  simp [get, h]

theorem get_of_lookup_none (h : ic.config_dict.lookup key = none) :
    ic.get key default = default := by
  simp [get, h]

/-- A numeric check passes exactly when the field is absent, `None`, an int or a float,
given a numeric default. -/
theorem checkNumeric_passes_iff (hdefault : default.isFloatOrInt = true) :
    (ic.checkNumeric field default).1 = true ↔
      ∀ v, ic.config_dict.lookup field = some v → v = .null ∨ v.isFloatOrInt = true := by
  cases h : ic.config_dict.lookup field with
  | none =>
      simp only [checkNumeric, get_of_lookup_none h, hdefault]
      simp
  | some v =>
      simp only [checkNumeric, get_of_lookup h, Option.some.injEq, forall_eq']
      by_cases hnull : v = .null
      · simp [hnull]
      · cases hv : v.isFloatOrInt <;> simp [hnull, hv]

/-- A numeric check of a value that is neither `None` nor numeric fails with the message
that names the field and shows the value. -/
theorem checkNumeric_of_malformed (h : ic.config_dict.lookup field = some v)
    (hnull : v ≠ .null) (hnum : v.isFloatOrInt = false) :
    ic.checkNumeric field default =
      (let shown := v.pyStr
       (false, s!"The specified {field} value \"{shown}\" is not a valid float or int.")) := by
  simp [checkNumeric, get_of_lookup h, hnull, hnum]

theorem check_cpus : ic.check consts "cpus" = pure ic.checkCpus := rfl

theorem check_mem : ic.check consts "mem" = pure ic.checkMem := rfl

theorem check_security : ic.check consts "security" = ic.checkSecurity := rfl

theorem check_dependenciesReference :
    ic.check consts "dependencies_reference" = ic.checkDependenciesReference := rfl

theorem check_disk :
    ic.check consts "disk" =
      pure (false, "Your service config specifies \"disk\", an unsupported parameter.") := rfl

/-- `check_security` of a block that is neither `None` nor a dict raises `AttributeError`
at `security.get`. -/
theorem checkSecurity_of_not_dict (hdict : (ic.get "security" .null).isDict = false)
    (hnull : ic.get "security" .null ≠ .null) :
    ic.checkSecurity = .error (.attributeError "get") := by
  simp only [checkSecurity, if_neg hnull, Value.getD_of_not_dict hdict, error_bind]

/-- `check_dependencies_reference` with a declared reference and numeric dependencies raises
`TypeError` at `in`. -/
theorem checkDependenciesReference_of_number
    (hnum : (ic.get "dependencies" .null).isFloatOrInt = true)
    (href : ic.get "dependencies_reference" .null ≠ .null) :
    ∃ message, ic.checkDependenciesReference = .error (.typeError message) := by
  unfold checkDependenciesReference
  generalize ic.get "dependencies" .null = dependencies at hnum ⊢
  generalize ic.get "dependencies_reference" .null = reference at href ⊢
  cases dependencies <;> simp_all [Value.isFloatOrInt, Value.contains, throw, throwThe,
    MonadExceptOf.throw]

end Checks

/-- The instance `example_service.main` on `norcal` with the given `config_dict`. -/
def mainNorcal (config : List (String × Value)) : InstanceConfig :=
  ⟨"norcal", "main", "example_service", config, .uniform ⟨.dict [], by decide⟩⟩

section Security

variable {ic : InstanceConfig} {consts : PaastaConst} {fields : List (String × Value)}

/-- The closed vocabulary of a security block: only the two firewall keys, each absent,
`None` or one of its two values. -/
def SecurityVocabulary (fields : List (String × Value)) : Prop :=
  (∀ p ∈ fields, p.1 = "inbound_firewall" ∨ p.1 = "outbound_firewall") ∧
    (fields.lookup "inbound_firewall").getD .null ∈ [.null, .str "allow", .str "reject"] ∧
    (fields.lookup "outbound_firewall").getD .null ∈ [.null, .str "block", .str "monitor"]

theorem checkSecurity_of_dict (hsecurity : ic.get "security" .null = .dict fields) :
    ic.checkSecurity =
      let inboundFirewall := (fields.lookup "inbound_firewall").getD .null
      let outboundFirewall := (fields.lookup "outbound_firewall").getD .null
      if inboundFirewall = .null ∧ outboundFirewall = .null then pure (true, "")
      else if inboundFirewall ≠ .null ∧ inboundFirewall ∉ [.str "allow", .str "reject"] then
        let shown := inboundFirewall.pyStr
        pure (false, s!"Unrecognized inbound_firewall value \"{shown}\"")
      else if outboundFirewall ≠ .null ∧ outboundFirewall ∉ [.str "block", .str "monitor"] then
        let shown := outboundFirewall.pyStr
        pure (false, s!"Unrecognized outbound_firewall value \"{shown}\"")
      else
        let unknownKeys := (fields.map Prod.fst).filter fun key =>
          key ∉ ["inbound_firewall", "outbound_firewall"]
        if unknownKeys ≠ [] then
          let joined := ",".intercalate unknownKeys
          pure (false, s!"Unrecognized items in security dict of service config: \"{joined}\"")
        else pure (true, "") := by
  simp only [checkSecurity, hsecurity]
  rfl

/-- The security dict has no unknown keys exactly when every key is a firewall key. -/
theorem unknownKeys_eq_nil_iff :
    ((fields.map Prod.fst).filter fun key => key ∉ ["inbound_firewall", "outbound_firewall"]) = [] ↔
      ∀ p ∈ fields, p.1 = "inbound_firewall" ∨ p.1 = "outbound_firewall" := by
  simp [List.filter_eq_nil_iff, or_iff_not_imp_left]

/-- On a dict, `check_security` passes exactly when neither firewall is set, or when the block
keeps to the closed vocabulary. -/
theorem checkSecurity_passes_iff (hsecurity : ic.get "security" .null = .dict fields) :
    ic.validate consts ["security"] = .ok [] ↔
      ((fields.lookup "inbound_firewall").getD .null = .null ∧
        (fields.lookup "outbound_firewall").getD .null = .null) ∨ SecurityVocabulary fields := by
  rw [validate_singleton, check_security, checkSecurity_of_dict hsecurity]
  simp only [SecurityVocabulary]
  generalize (fields.lookup "inbound_firewall").getD .null = inbound
  generalize (fields.lookup "outbound_firewall").getD .null = outbound
  by_cases hboth : inbound = .null ∧ outbound = .null
  · rw [if_pos hboth]
    exact iff_of_true rfl (.inl hboth)
  rw [if_neg hboth]
  by_cases hin : inbound ≠ .null ∧ inbound ∉ [.str "allow", .str "reject"]
  · rw [if_pos hin]
    refine iff_of_false (by rintro ⟨⟩) ?_
    rintro (h | ⟨-, h, -⟩)
    · exact hboth h
    · rcases List.mem_cons.mp h with h | h
      exacts [hin.1 h, hin.2 h]
  rw [if_neg hin]
  by_cases hout : outbound ≠ .null ∧ outbound ∉ [.str "block", .str "monitor"]
  · rw [if_pos hout]
    refine iff_of_false (by rintro ⟨⟩) ?_
    rintro (h | ⟨-, -, h⟩)
    · exact hboth h
    · rcases List.mem_cons.mp h with h | h
      exacts [hout.1 h, hout.2 h]
  rw [if_neg hout]
  have hin' : inbound ∈ [.null, .str "allow", .str "reject"] :=
    List.mem_cons.mpr ((not_and_or.mp hin).imp not_not.mp not_not.mp)
  have hout' : outbound ∈ [.null, .str "block", .str "monitor"] :=
    List.mem_cons.mpr ((not_and_or.mp hout).imp not_not.mp not_not.mp)
  by_cases hkeys : ((fields.map Prod.fst).filter fun key =>
      key ∉ ["inbound_firewall", "outbound_firewall"]) = []
  · rw [if_neg (not_not.mpr hkeys)]
    exact iff_of_true rfl (.inr ⟨unknownKeys_eq_nil_iff.mp hkeys, hin', hout'⟩)
  · rw [if_pos hkeys]
    refine iff_of_false (by rintro ⟨⟩) ?_
    rintro (h | ⟨h, -⟩)
    exacts [hboth h, hkeys (unknownKeys_eq_nil_iff.mpr h)]

theorem checkSecurity_passes_iff_firewalls :
    (mainNorcal [("security", .dict [("inbound_firewall", .str "allow"),
        ("outbound_firewall", .str "block")])]).get "security" .null =
        .dict [("inbound_firewall", .str "allow"), ("outbound_firewall", .str "block")] ∧
      ((mainNorcal [("security", .dict [("inbound_firewall", .str "allow"),
          ("outbound_firewall", .str "block")])]).validate .example ["security"] = .ok [] ↔
        (([("inbound_firewall", Value.str "allow"), ("outbound_firewall", .str "block")].lookup
            "inbound_firewall").getD .null = .null ∧
          ([("inbound_firewall", Value.str "allow"), ("outbound_firewall", .str "block")].lookup
            "outbound_firewall").getD .null = .null) ∨
        SecurityVocabulary [("inbound_firewall", .str "allow"), ("outbound_firewall", .str "block")]) :=
  ⟨rfl, checkSecurity_passes_iff rfl⟩

end Security

section Findings

variable {ic : InstanceConfig} {consts : PaastaConst}

/-- A `security` value that is neither `None` nor a dict, or numeric `dependencies` under a
declared reference, makes its check raise; the exception ends `validate` and hides the
messages of every check before it. -/
theorem validate_raises_on_malformed_field (p q : List String)
    (hp : ∃ msgs, ic.validate consts p = .ok msgs) :
    ((ic.get "security" .null).isDict = false → ic.get "security" .null ≠ .null →
      ic.validate consts (p ++ "security" :: q) = .error (.attributeError "get")) ∧
    ((ic.get "dependencies" .null).isFloatOrInt = true →
      ic.get "dependencies_reference" .null ≠ .null →
      ∃ message, ic.validate consts (p ++ "dependencies_reference" :: q) =
        .error (.typeError message)) := by
  obtain ⟨msgs, hmsgs⟩ := hp
  refine ⟨fun hdict hnull => ?_, fun hnum href => ?_⟩
  · rw [validate_append, hmsgs, ok_bind, validate, check_security,
      checkSecurity_of_not_dict hdict hnull]
    rfl
  · obtain ⟨message, hmessage⟩ := checkDependenciesReference_of_number hnum href
    refine ⟨message, ?_⟩
    rw [validate_append, hmsgs, ok_bind, validate, check_dependenciesReference, hmessage]
    rfl

theorem validate_raises_on_malformed_field_main :
    (mainNorcal [("cpus", .str "lots"), ("dependencies", .int 3),
        ("dependencies_reference", .str "main"), ("security", .str "allow")]).validate .example
        ["cpus"] = .ok ["The specified cpus value \"lots\" is not a valid float or int."] ∧
      (mainNorcal [("cpus", .str "lots"), ("dependencies", .int 3),
        ("dependencies_reference", .str "main"), ("security", .str "allow")]).validate .example
        (["cpus"] ++ ["security"]) = .error (.attributeError "get") ∧
      ∃ message, (mainNorcal [("cpus", .str "lots"), ("dependencies", .int 3),
        ("dependencies_reference", .str "main"), ("security", .str "allow")]).validate .example
        (["cpus"] ++ ["dependencies_reference"]) = .error (.typeError message) :=
  ⟨rfl, (validate_raises_on_malformed_field ["cpus"] [] ⟨_, rfl⟩).1 rfl (by decide),
    (validate_raises_on_malformed_field ["cpus"] [] ⟨_, rfl⟩).2 rfl (by decide)⟩

/-- A security dict that sets neither firewall passes `check_security`, whatever other keys
it holds. -/
theorem checkSecurity_ignores_unknown_keys {fields : List (String × Value)}
    (hsecurity : ic.get "security" .null = .dict fields)
    (hinbound : (fields.lookup "inbound_firewall").getD .null = .null)
    (houtbound : (fields.lookup "outbound_firewall").getD .null = .null) :
    ic.validate consts ["security"] = .ok [] := by
  rw [validate_singleton, check_security, checkSecurity_of_dict hsecurity]
  simp [hinbound, houtbound]
  rfl

theorem checkSecurity_ignores_unknown_keys_misspelt :
    (mainNorcal [("security", .dict [("inbound_firewal", .str "reject")])]).get "security"
        .null = .dict [("inbound_firewal", .str "reject")] ∧
      ([("inbound_firewal", Value.str "reject")].lookup "inbound_firewall").getD .null = .null ∧
      ([("inbound_firewal", Value.str "reject")].lookup "outbound_firewall").getD .null =
        .null ∧
      (mainNorcal [("security", .dict [("inbound_firewal", .str "reject")])]).validate .example
        ["security"] = .ok [] :=
  ⟨rfl, rfl, rfl, checkSecurity_ignores_unknown_keys rfl rfl rfl⟩

/-- `check` has no `disk` entry: `validate(["disk"])` reports `disk` as unsupported whatever
its value, while `check_disk` itself passes exactly the values the numeric contract
allows. -/
theorem validate_disk_unsupported :
    ic.validate consts ["disk"] =
        .ok ["Your service config specifies \"disk\", an unsupported parameter."] ∧
      (ic.checkDisk.1 = true ↔
        ∀ v, ic.config_dict.lookup "disk" = some v → v = .null ∨ v.isFloatOrInt = true) :=
  ⟨by rw [validate_singleton, check_disk]; rfl, checkNumeric_passes_iff rfl⟩

/-- For `cpus` and `mem` the numeric contract holds through `validate`: no message when the
value is absent, `None`, an int or a float, and otherwise the one message that shows it. -/
theorem validate_numeric_contract (field : String) (hfield : field = "cpus" ∨ field = "mem") :
    (ic.validate consts [field] = .ok [] ↔
      ∀ v, ic.config_dict.lookup field = some v → v = .null ∨ v.isFloatOrInt = true) ∧
    ∀ v, ic.config_dict.lookup field = some v → v ≠ .null → v.isFloatOrInt = false →
      ic.validate consts [field] =
        .ok [let shown := v.pyStr
             s!"The specified {field} value \"{shown}\" is not a valid float or int."] := by
  have hcheck : ic.check consts field = pure (ic.checkNumeric field
      (if field = "cpus" then .int 1 else .int 4096)) := by
    rcases hfield with rfl | rfl <;> rfl
  have hdefault : (if field = "cpus" then Value.int 1 else .int 4096).isFloatOrInt = true := by
    split <;> rfl
  rw [validate_singleton, hcheck]
  refine ⟨?_, fun v hv hnull hnum => ?_⟩
  · rw [← checkNumeric_passes_iff hdefault]
    cases hpassed : (ic.checkNumeric field _).1 <;>
      simp [hpassed, Functor.map, Except.map, pure, Except.pure]
  · rw [checkNumeric_of_malformed hv hnull hnum]
    rfl

theorem validate_numeric_contract_cpus :
    ("cpus" = "cpus" ∨ "cpus" = "mem") ∧
    ((mainNorcal [("cpus", .str "lots")]).validate .example ["cpus"] = .ok [] ↔
      ∀ v, [("cpus", Value.str "lots")].lookup "cpus" = some v →
        v = .null ∨ v.isFloatOrInt = true) ∧
    ∀ v, [("cpus", Value.str "lots")].lookup "cpus" = some v → v ≠ .null →
      v.isFloatOrInt = false →
      (mainNorcal [("cpus", .str "lots")]).validate .example ["cpus"] =
        .ok [let shown := v.pyStr
             s!"The specified cpus value \"{shown}\" is not a valid float or int."] :=
  ⟨.inl rfl, validate_numeric_contract "cpus" (.inl rfl)⟩

end Findings

end InstanceConfig

end PaastaConfig
