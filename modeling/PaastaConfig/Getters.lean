import PaastaConfig.ClusterFiles
import PaastaConfig.DockerUrl

/-!
# What the checks promise the getters

`validate()` runs `check_security` and `check_dependencies_reference` over the fields that
`get_inbound_firewall`, `get_outbound_firewall` and `get_dependencies` read later. The getters
read them in their own way: they take a falsy block for an absent one
(`if not security: return None`), and `get_dependencies` reads the entry `main` when the
reference is falsy.

A security block that passes its check gives each firewall getter `None` or a value of its
vocabulary (`getFirewalls_of_checkSecurity`). A non-empty reference that passes its check into
a dict of dependencies names the entry `get_dependencies` returns
(`getDependencies_of_checkDependenciesReference`). But `in` searches a list as well, so a list
of dependencies that holds the reference passes the check, and `get_dependencies` then raises
`AttributeError` at `.get` (`getDependencies_raises_of_list`).

`get_args()` is modelled with its `InvalidInstanceConfig` for a config that sets both `cmd` and
`args`.

The getters of `SystemPaastaConfig` that read a required key are applications of
`SystemPaastaConfig.getRequired`, which the system configuration's module defines for
`get_cluster` and `get_system_docker_registry`: `config_dict[key]`, with the `KeyError` turned
into a `PaastaNotConfiguredError` that names the key and the directory. `get_zk_hosts` also
strips a `zk://` prefix; `get_dashboard_links` and `get_api_endpoints` let the `KeyError`
through.
-/

namespace PaastaConfig

/-- `value.get(key)` with a key of any type. The model's dicts have string keys, so a key of
another hashable type finds nothing. -/
def Value.getKey (value key : Value) : Except PyError Value :=
  match value, key with
  | .dict fields, .str key => pure ((fields.lookup key).getD .null)
  | .dict _, .list _ | .dict _, .dict _ =>
      let typeName := key.typeName
      throw (.typeError s!"unhashable type: '{typeName}'")
  | .dict _, _ => pure .null
  | _, _ => throw (.attributeError "get")

namespace InstanceConfig

variable (ic : InstanceConfig)

/-- `get_inbound_firewall()` and `get_outbound_firewall()`: the field of the `security` block,
or `None` when the block is falsy. -/
def getFirewall (field : String) : Except PyError Value :=
  let security := ic.get "security" .null
  if !security.truthy then pure .null else security.getD field .null

/-- `get_inbound_firewall()`. -/
def getInboundFirewall : Except PyError Value := ic.getFirewall "inbound_firewall"

/-- `get_outbound_firewall()`. -/
def getOutboundFirewall : Except PyError Value := ic.getFirewall "outbound_firewall"

/-- `get_dependencies_reference()`. -/
def getDependenciesReference : Value := ic.get "dependencies_reference" .null

/-- `get_dependencies()`. -/
def getDependencies : Except PyError Value :=
  let dependencies := ic.get "dependencies" .null
  if !dependencies.truthy then pure .null else
  let reference := ic.getDependenciesReference
  let dependencyRef := if reference.truthy then reference else .str "main"
  dependencies.getKey dependencyRef

/-- `get_cmd()`. -/
def getCmd : Value := ic.get "cmd" .null

/-- `get_args()`. -/
def getArgs : Except PyError Value :=
  if ic.getCmd = .null then pure (ic.get "args" (.list []))
  else
    let args := ic.get "args" .null
    if args = .null then pure args
    else throw (.invalidInstanceConfig
      "Instance configuration can specify cmd or args, but not both.")

section Security

variable {ic : InstanceConfig} {fields : List (String × Value)} {field : String}

theorem getFirewall_of_null (absent : ic.get "security" .null = .null) :
    ic.getFirewall field = .ok .null := by
  rw [getFirewall, absent]
  rfl

theorem getFirewall_of_dict (security : ic.get "security" .null = .dict fields) :
    ic.getFirewall field = .ok ((fields.lookup field).getD .null) := by
  rw [getFirewall, security]
  cases fields <;> rfl

/-- The firewalls of a security dict that passes `check_security` keep to their vocabulary. -/
theorem firewalls_mem_of_checkSecurity (security : ic.get "security" .null = .dict fields)
    (passed : ic.checkSecurity = .ok (true, "")) :
    (fields.lookup "inbound_firewall").getD .null ∈ [.null, .str "allow", .str "reject"] ∧
      (fields.lookup "outbound_firewall").getD .null ∈ [.null, .str "block", .str "monitor"] := by
  rw [checkSecurity_of_dict security] at passed
  dsimp only at passed
  generalize (fields.lookup "inbound_firewall").getD .null = inbound at passed ⊢
  generalize (fields.lookup "outbound_firewall").getD .null = outbound at passed ⊢
  by_cases both : inbound = .null ∧ outbound = .null
  · simp [both]
  rw [if_neg both] at passed
  by_cases badInbound : inbound ≠ .null ∧ inbound ∉ [.str "allow", .str "reject"]
  · rw [if_pos badInbound] at passed
    cases passed
  rw [if_neg badInbound] at passed
  by_cases badOutbound : outbound ≠ .null ∧ outbound ∉ [.str "block", .str "monitor"]
  · rw [if_pos badOutbound] at passed
    cases passed
  exact ⟨List.mem_cons.mpr ((not_and_or.mp badInbound).imp not_not.mp not_not.mp),
    List.mem_cons.mpr ((not_and_or.mp badOutbound).imp not_not.mp not_not.mp)⟩

/-- A security block that passes `check_security` gives each firewall getter `None` or a value
of its vocabulary. -/
theorem getFirewalls_of_checkSecurity (passed : ic.checkSecurity = .ok (true, "")) :
    (∃ inbound ∈ [Value.null, .str "allow", .str "reject"],
        ic.getInboundFirewall = .ok inbound) ∧
      ∃ outbound ∈ [Value.null, .str "block", .str "monitor"],
        ic.getOutboundFirewall = .ok outbound := by
  by_cases absent : ic.get "security" .null = .null
  · exact ⟨⟨_, by simp, getFirewall_of_null absent⟩, ⟨_, by simp, getFirewall_of_null absent⟩⟩
  cases isDict : (ic.get "security" .null).isDict
  · rw [checkSecurity_of_not_dict isDict absent] at passed
    cases passed
  · obtain ⟨fields, security⟩ := Value.isDict_iff.mp isDict
    obtain ⟨inbound, outbound⟩ := firewalls_mem_of_checkSecurity security passed
    exact ⟨⟨_, inbound, getFirewall_of_dict security⟩, ⟨_, outbound, getFirewall_of_dict security⟩⟩

/-- An instance that rejects inbound traffic and monitors outbound traffic. -/
def firewalled : InstanceConfig :=
  mainNorcal [("security",
    .dict [("inbound_firewall", .str "reject"), ("outbound_firewall", .str "monitor")])]

theorem getFirewalls_of_checkSecurity_firewalled :
    firewalled.checkSecurity = .ok (true, "") ∧
      (∃ inbound ∈ [Value.null, .str "allow", .str "reject"],
          firewalled.getInboundFirewall = .ok inbound) ∧
        ∃ outbound ∈ [Value.null, .str "block", .str "monitor"],
          firewalled.getOutboundFirewall = .ok outbound :=
  ⟨rfl, getFirewalls_of_checkSecurity rfl⟩

end Security

section Dependencies

variable {ic : InstanceConfig} {fields : List (String × Value)}

/-- A declared reference passes `check_dependencies_reference` exactly when `in` finds it in the
declared dependencies. -/
theorem checkDependenciesReference_of_declared (declared : ic.getDependenciesReference ≠ .null)
    (present : ic.get "dependencies" .null ≠ .null) :
    ic.checkDependenciesReference =
      (fun found => if found then (true, "") else
        let shown := ic.getDependenciesReference.pyStr
        (false, s!"dependencies_reference \"{shown}\" not found in dependencies dictionary")) <$>
        (ic.get "dependencies" .null).contains ic.getDependenciesReference := by
  unfold checkDependenciesReference getDependenciesReference at *
  rw [if_neg declared]
  dsimp only
  rw [if_neg present]
  cases (ic.get "dependencies" .null).contains (ic.get "dependencies_reference" .null) with
  | error e => rfl
  | ok found => cases found <;> rfl

/-- A non-empty reference that passes its check into a dict of dependencies names the entry
`get_dependencies` returns. -/
theorem getDependencies_of_checkDependenciesReference {reference : String}
    (named : ic.getDependenciesReference = .str reference) (nonempty : reference ≠ "")
    (dict : ic.get "dependencies" .null = .dict fields)
    (passed : ic.checkDependenciesReference = .ok (true, "")) :
    ∃ dependency, fields.lookup reference = some dependency ∧
      ic.getDependencies = .ok dependency := by
  rw [checkDependenciesReference_of_declared (by rw [named]; nofun) (by rw [dict]; nofun),
    named, dict] at passed
  cases found : fields.lookup reference with
  | none =>
    simp [Value.contains, found] at passed
    cases passed
  | some dependency =>
    have declared : fields ≠ [] := by rintro rfl; cases found
    have truthy : reference.isEmpty = false :=
      Bool.eq_false_iff.mpr fun empty => nonempty ((String.isEmpty_iff _).mp empty)
    refine ⟨dependency, rfl, ?_⟩
    simp [getDependencies, dict, named, Value.truthy, truthy, declared, Value.getKey, found]
    rfl

/-- An instance whose reference names the entry `main` of its dependencies. -/
def withDependencies (dependencies : Value) : InstanceConfig :=
  mainNorcal [("dependencies_reference", .str "main"), ("dependencies", dependencies)]

/-- Dependencies with a `main` entry, as `dependencies.yaml` writes them. -/
def smartstackDependencies : List (String × Value) :=
  [("main", .list [.dict [("smartstack", .str "example_service.main:8888")]])]

theorem getDependencies_of_checkDependenciesReference_main :
    (withDependencies (.dict smartstackDependencies)).getDependenciesReference = .str "main" ∧
      "main" ≠ "" ∧
      (withDependencies (.dict smartstackDependencies)).get "dependencies" .null =
        .dict smartstackDependencies ∧
      (withDependencies (.dict smartstackDependencies)).checkDependenciesReference =
        .ok (true, "") ∧
      ∃ dependency, smartstackDependencies.lookup "main" = some dependency ∧
        (withDependencies (.dict smartstackDependencies)).getDependencies = .ok dependency :=
  ⟨rfl, by decide, rfl, rfl, getDependencies_of_checkDependenciesReference rfl (by decide) rfl rfl⟩

/-- `in` searches a list as well: a list of dependencies that holds the reference passes
`check_dependencies_reference`, and `get_dependencies` then raises at `.get`. -/
theorem getDependencies_raises_of_list {items : List Value}
    (declared : ic.getDependenciesReference ≠ .null)
    (listed : ic.get "dependencies" .null = .list items)
    (mem : ic.getDependenciesReference ∈ items) :
    ic.checkDependenciesReference = .ok (true, "") ∧
      ic.getDependencies = .error (.attributeError "get") := by
  have nonempty : items ≠ [] := List.ne_nil_of_mem mem
  refine ⟨?_, ?_⟩
  · rw [checkDependenciesReference_of_declared declared (by rw [listed]; nofun), listed]
    simp [Value.contains, List.elem_iff, mem]
    rfl
  · cases items with
    | nil => exact absurd rfl nonempty
    | cons item items => rw [getDependencies, listed]; rfl

theorem getDependencies_raises_of_list_main :
    (withDependencies (.list [.str "main"])).getDependenciesReference ≠ .null ∧
      (withDependencies (.list [.str "main"])).get "dependencies" .null = .list [.str "main"] ∧
      (withDependencies (.list [.str "main"])).getDependenciesReference ∈ [.str "main"] ∧
      (withDependencies (.list [.str "main"])).checkDependenciesReference = .ok (true, "") ∧
      (withDependencies (.list [.str "main"])).getDependencies = .error (.attributeError "get") :=
  ⟨by decide, rfl, by decide, getDependencies_raises_of_list (by decide) rfl (by decide)⟩

end Dependencies

end InstanceConfig

namespace SystemPaastaConfig

variable (system : SystemPaastaConfig)

/-- `get_zk_hosts()`: `zookeeper`, without its `zk://` prefix. -/
def getZkHosts : Except PyError Value := do
  let hosts ← system.getRequired "zookeeper" "zookeeper connection string"
  match hosts with
  | .str hosts => pure (.str (if startswith hosts "zk://" then hosts.drop 5 else hosts))
  | _ => throw (.attributeError "startswith")

/-- `SystemPaastaConfig.get_volumes()`. -/
def getVolumes : Except PyError Value := system.getRequired "volumes" "volumes"

/-- `get_log_writer()`. -/
def getLogWriter : Except PyError Value := system.getRequired "log_writer" "log_writer"

/-- `get_log_reader()`. -/
def getLogReader : Except PyError Value := system.getRequired "log_reader" "log_reader"

/-- `get_dashboard_links()`: `config_dict["dashboard_links"]`, its `KeyError` let through. -/
def getDashboardLinks : Except PyError Value := system.config_dict.getItem "dashboard_links"

/-- `get_api_endpoints()`: `config_dict["api_endpoints"]`, its `KeyError` let through. -/
def getApiEndpoints : Except PyError Value := system.config_dict.getItem "api_endpoints"

end SystemPaastaConfig

end PaastaConfig
