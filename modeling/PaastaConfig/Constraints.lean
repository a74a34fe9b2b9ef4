import PaastaConfig.ClusterFiles

/-!
# Deploy constraints

`get_deploy_blacklist()` and `get_deploy_whitelist()` read `deploy_blacklist` and
`deploy_whitelist` from an instance config through `safe_deploy_blacklist` and
`safe_deploy_whitelist`, which unpack them with Python's iteration: a dict gives its keys and a
string its characters. `get_deploy_constraints` turns both lists, and the system-wide ones,
into scheduler constraints `[location_type, "UNLIKE", value]` for each blacklist entry and
`[location_type, "LIKE", "|".join(values)]` for a whitelist.

The docstring of `get_deploy_whitelist` says what the lists are for: a host must be covered by
the whitelist, when there is one, and excluded by no blacklist entry (`DeployPolicy.Allows`).
The scheduler reads `LIKE` and `UNLIKE` as a regular expression that the host's value matches,
or does not match, as a whole (`Constraint.Holds`, read with the `re` model of
`PaastaConfig.Regex`; hosts carry every location type). For names free of regular expression
syntax and a whitelist that allows some value, the constraints hold on exactly the hosts the
lists allow (`deployConstraints_refine`). A whitelist whose values are written as one string
allows the hosts whose value is a single character of it
(`deployWhitelist_string_allows_characters`), and `safe_deploy_whitelist` catches only
`TypeError`, so a whitelist of other than two items raises `ValueError` instead of being
dropped (`getDeployWhitelist_raises_of_length`).
-/

namespace PaastaConfig

/-- `first, second = value`: unpacking an iterable into two names. -/
def Value.unpackPair (value : Value) : Except PyError (Value × Value) :=
  match value.iter with
  | .error _ =>
      let typeName := value.typeName
      throw (.typeError s!"cannot unpack non-iterable {typeName} object")
  | .ok [first, second] => pure (first, second)
  | .ok items =>
      let got := items.length
      if got < 2 then throw (.valueError s!"not enough values to unpack (expected 2, got {got})")
      else throw (.valueError "too many values to unpack (expected 2)")

/-- `safe_deploy_blacklist(input)`: `[(t, l) for t, l in input]`. -/
def safeDeployBlacklist (input : Value) : Except PyError (List (Value × Value)) := do
  let entries ← input.iter
  entries.mapM Value.unpackPair

/-- `safe_deploy_whitelist(input)`: the unpacked pair, or `None` when unpacking raises
`TypeError`. -/
def safeDeployWhitelist (input : Value) : Except PyError (Option (Value × Value)) :=
  match input.unpackPair with
  | .ok pair => pure (some pair)
  | .error (.typeError _) => pure none
  | .error e => throw e

/-- `deploy_blacklist_to_constraints(deploy_blacklist)`. -/
def deployBlacklistToConstraints (deployBlacklist : List (Value × Value)) : List (List Value) :=
  deployBlacklist.map fun blacklistedLocation =>
    [blacklistedLocation.1, .str "UNLIKE", blacklistedLocation.2]

/-- `deploy_whitelist_to_constraints(deploy_whitelist)`. -/
def deployWhitelistToConstraints :
    Option (Value × Value) → Except PyError (List (List Value))
  | none => pure []
  | some (regionType, regions) => do
      let regionstr ← regions.pyJoinItems "|"
      pure [[regionType, .str "LIKE", .str regionstr]]

/-- `get_deploy_constraints(blacklist, whitelist, system_deploy_blacklist,
system_deploy_whitelist)`. -/
def getDeployConstraints (blacklist : List (Value × Value)) (whitelist : Option (Value × Value))
    (systemDeployBlacklist : List (Value × Value))
    (systemDeployWhitelist : Option (Value × Value)) : Except PyError (List (List Value)) := do
  let whitelistConstraints ← deployWhitelistToConstraints whitelist
  let systemWhitelistConstraints ← deployWhitelistToConstraints systemDeployWhitelist
  pure (deployBlacklistToConstraints blacklist ++ whitelistConstraints ++
    deployBlacklistToConstraints systemDeployBlacklist ++ systemWhitelistConstraints)

namespace InstanceConfig

variable (ic : InstanceConfig)

/-- `get_deploy_blacklist()`. -/
def getDeployBlacklist : Except PyError (List (Value × Value)) :=
  safeDeployBlacklist (ic.get "deploy_blacklist" (.list []))

/-- `get_deploy_whitelist()`. -/
def getDeployWhitelist : Except PyError (Option (Value × Value)) :=
  safeDeployWhitelist (ic.get "deploy_whitelist" .null)

end InstanceConfig

namespace SystemPaastaConfig

variable (system : SystemPaastaConfig)

/-- `SystemPaastaConfig.get_deploy_blacklist()`. -/
def getDeployBlacklist : Except PyError (List (Value × Value)) := do
  let blacklist ← system.config_dict.getD "deploy_blacklist" (.list [])
  safeDeployBlacklist blacklist

/-- `SystemPaastaConfig.get_deploy_whitelist()`. -/
def getDeployWhitelist : Except PyError (Option (Value × Value)) := do
  let whitelist ← system.config_dict.getD "deploy_whitelist" .null
  safeDeployWhitelist whitelist

end SystemPaastaConfig

/-- The constraints of an instance's lists and of the system's, as the schedulers build them
with `get_deploy_constraints(blacklist=..., whitelist=..., system_deploy_blacklist=...,
system_deploy_whitelist=...)`. -/
def InstanceConfig.deployConstraints (ic : InstanceConfig) (system : SystemPaastaConfig) :
    Except PyError (List (List Value)) := do
  let blacklist ← ic.getDeployBlacklist
  let whitelist ← ic.getDeployWhitelist
  let systemDeployBlacklist ← system.getDeployBlacklist
  let systemDeployWhitelist ← system.getDeployWhitelist
  getDeployConstraints blacklist whitelist systemDeployBlacklist systemDeployWhitelist

/-- A host, as the values of its location types (`region`, `habitat`, ...). -/
abbrev Host := String → String

/-- Whether `value` matches the regular expression `regex` as a whole. -/
def fullMatch (regex value : String) : Except PyError Bool := do
  let pattern ← compile regex
  let chars := value.toList
  pure ((pattern.regex.matchFrom chars 0 []).any fun outcome => outcome.1 == chars.length)

/-- Whether a host meets a constraint `[field, operator, value]` as the scheduler reads it:
`LIKE` asks the host's `field` to match `value` as a whole, `UNLIKE` asks it not to. -/
def Constraint.Holds (host : Host) : List Value → Prop
  | [.str field, .str operator, .str value] =>
      if operator = "LIKE" then fullMatch value (host field) = .ok true
      else if operator = "UNLIKE" then fullMatch value (host field) = .ok false
      else False
  | _ => False

/-- A name with no character of regular expression syntax. -/
def RegexLiteral (name : String) : Prop := ∀ c ∈ name.toList, c ∉ specialChars

instance : DecidablePred RegexLiteral := fun name =>
  inferInstanceAs (Decidable (∀ c ∈ name.toList, c ∉ specialChars))

/-- What the deploy lists ask for. -/
structure DeployPolicy where
  /-- Location types with a value hosts must not have. -/
  blacklist : List (String × String)
  /-- A location type with the values one of which hosts must have, when there is a
  whitelist. -/
  whitelist : Option (String × List String)

namespace DeployPolicy

variable (policy : DeployPolicy)

/-- A host is covered by the whitelist, when there is one, and excluded by no blacklist
entry. -/
def Allows (host : Host) : Prop :=
  (∀ entry ∈ policy.blacklist, host entry.1 ≠ entry.2) ∧
    ∀ whitelist ∈ policy.whitelist, host whitelist.1 ∈ whitelist.2

/-- The values are free of regular expression syntax, and a whitelist allows some value. -/
def Wf : Prop :=
  (∀ entry ∈ policy.blacklist, RegexLiteral entry.2) ∧
    ∀ whitelist ∈ policy.whitelist, whitelist.2 ≠ [] ∧ ∀ value ∈ whitelist.2, RegexLiteral value

instance : Decidable policy.Wf := inferInstanceAs (Decidable (_ ∧ _))

/-- `deploy_blacklist` as a config writes it: a list of `[location_type, value]`. -/
def blacklistConfig : Value := .list (policy.blacklist.map fun entry => .list [.str entry.1, .str entry.2])

/-- `deploy_whitelist` as a config writes it: `[location_type, [value, ...]]`, or `None`. -/
def whitelistConfig : Value :=
  match policy.whitelist with
  | none => .null
  | some (locationType, values) => .list [.str locationType, .list (values.map .str)]

/-- The blacklist as `safe_deploy_blacklist` hands it on. -/
def blacklistPairs : List (Value × Value) := policy.blacklist.map fun entry => (.str entry.1, .str entry.2)

/-- The whitelist as `safe_deploy_whitelist` hands it on. -/
def whitelistPair : Option (Value × Value) :=
  policy.whitelist.map fun whitelist => (.str whitelist.1, .list (whitelist.2.map .str))

end DeployPolicy

section Literal

/-- Literal names joined by `|` compile to the alternation of the names. -/
theorem compile_pyJoin {names : List String} (literal : ∀ name ∈ names, RegexLiteral name)
    (nonempty : names ≠ []) :
    compile (pyJoin "|" names) = .ok ⟨altOf ((names.map String.toList).map lit), 0⟩ := by
  obtain ⟨g, -, close, loop⟩ := @compileLoop_alternatives [] ⟨0, [], []⟩ [] 1
    (names.map String.toList) (by simpa [RegexLiteral] using literal) (by simpa using nonempty) rfl
  rw [compile, pyJoin_toList]
  show compileLoop (joinWith ['|'] _) _ _ _ = _
  rw [← List.append_nil (joinWith ['|'] _), loop]
  show Except.ok (Pattern.mk g.close 0) = _
  rw [close]
  rfl

/-- The alternation of the names matches a value as a whole exactly when it is one of them. -/
theorem matchFrom_altOf_whole {names : List String} (nonempty : names ≠ []) (value : String) :
    ((altOf ((names.map String.toList).map lit)).matchFrom value.toList 0 []).any
      (fun outcome => outcome.1 == value.toList.length) = decide (value ∈ names) := by
  have words : (names.map String.toList).map lit ≠ [] := by simpa using nonempty
  rw [Bool.eq_iff_iff, List.any_eq_true, decide_eq_true_iff]
  constructor
  · rintro ⟨outcome, mem, ends⟩
    obtain ⟨r, literalOf, mem⟩ := (Regex.mem_matchFrom_altOf words).mp mem
    obtain ⟨name, named, rfl⟩ : ∃ name ∈ names, lit name.toList = r := by simpa using literalOf
    obtain ⟨isPrefix, rfl⟩ := Regex.mem_matchFrom_lit.mp mem
    have same : name.toList = value.toList :=
      (List.drop_zero _ ▸ isPrefix).eq_of_length (by simpa using ends)
    rwa [← String.ext same]
  · intro mem
    refine ⟨(value.toList.length, []), (Regex.mem_matchFrom_altOf words).mpr
      ⟨lit value.toList, by simpa using ⟨value, mem, rfl⟩, Regex.mem_matchFrom_lit.mpr ?_⟩, by simp⟩
    simp

/-- Literal names joined by `|` match, as a whole, exactly the names. -/
theorem fullMatch_pyJoin {names : List String} (literal : ∀ name ∈ names, RegexLiteral name)
    (nonempty : names ≠ []) (value : String) :
    fullMatch (pyJoin "|" names) value = .ok (decide (value ∈ names)) := by
  simp only [fullMatch, compile_pyJoin literal nonempty, ok_bind, matchFrom_altOf_whole nonempty]
  rfl

variable (host : Host) (locationType : String)

/-- An `UNLIKE` constraint on a literal value excludes the hosts with that value. -/
theorem holds_unlike {value : String} (literal : RegexLiteral value) :
    Constraint.Holds host [.str locationType, .str "UNLIKE", .str value] ↔
      host locationType ≠ value := by
  have matched : fullMatch value (host locationType) =
      .ok (decide (host locationType ∈ [value])) :=
    @fullMatch_pyJoin [value] (by simpa using literal) (by simp) (host locationType)
  simp [Constraint.Holds, matched]

/-- A `LIKE` constraint on literal values joined by `|` covers the hosts with one of them. -/
theorem holds_like {values : List String} (literal : ∀ value ∈ values, RegexLiteral value)
    (nonempty : values ≠ []) :
    Constraint.Holds host [.str locationType, .str "LIKE", .str (pyJoin "|" values)] ↔
      host locationType ∈ values := by
  simp [Constraint.Holds, fullMatch_pyJoin literal nonempty]

end Literal

/-- A list of `[location_type, value]` pairs unpacks into its pairs. -/
theorem mapM_unpackPair_pairs (entries : List (String × String)) :
    (entries.map fun entry => Value.list [.str entry.1, .str entry.2]).mapM Value.unpackPair =
      .ok (entries.map fun entry => (.str entry.1, .str entry.2)) := by
  induction entries with
  | nil => rfl
  | cons entry entries ih =>
    rw [List.map_cons, List.mapM_cons, ih]
    rfl

/-- `sep.join(s)` for a string `s` joins its characters. -/
theorem pyJoinItems_str (s sep : String) :
    (Value.str s).pyJoinItems sep = .ok (pyJoin sep (s.toList.map String.singleton)) := by
  unfold Value.pyJoinItems
  rw [show (Value.str s).iter = .ok ((s.toList.map String.singleton).map .str) by
      simp only [Value.iter, List.map_map]; rfl,
    ok_bind, List.enum, mapM_joinItem_strs, ok_bind]
  rfl

namespace DeployPolicy

variable (policy : DeployPolicy)

theorem safeDeployBlacklist_blacklistConfig :
    safeDeployBlacklist policy.blacklistConfig = .ok policy.blacklistPairs :=
  mapM_unpackPair_pairs policy.blacklist

theorem safeDeployWhitelist_whitelistConfig :
    safeDeployWhitelist policy.whitelistConfig = .ok policy.whitelistPair := by
  unfold whitelistConfig whitelistPair
  rcases policy.whitelist with _ | ⟨locationType, values⟩ <;> rfl

/-- The constraints of a blacklist of literal values exclude exactly the hosts it names. -/
theorem holds_deployBlacklistToConstraints
    (literal : ∀ entry ∈ policy.blacklist, RegexLiteral entry.2) (host : Host) :
    (∀ c ∈ deployBlacklistToConstraints policy.blacklistPairs, Constraint.Holds host c) ↔
      ∀ entry ∈ policy.blacklist, host entry.1 ≠ entry.2 := by
  simp only [deployBlacklistToConstraints, blacklistPairs, List.map_map, List.forall_mem_map,
    Function.comp_def]
  exact forall₂_congr fun entry mem => holds_unlike host entry.1 (literal entry mem)

/-- The constraint of a whitelist of literal values covers exactly the hosts it allows. -/
theorem deployWhitelistToConstraints_whitelistPair
    (wf : ∀ whitelist ∈ policy.whitelist,
      whitelist.2 ≠ [] ∧ ∀ value ∈ whitelist.2, RegexLiteral value) :
    ∃ constraints, deployWhitelistToConstraints policy.whitelistPair = .ok constraints ∧
      ∀ host : Host, (∀ c ∈ constraints, Constraint.Holds host c) ↔
        ∀ whitelist ∈ policy.whitelist, host whitelist.1 ∈ whitelist.2 := by
  rcases policy with ⟨blacklist, _ | ⟨locationType, values⟩⟩
  · exact ⟨[], rfl, by simp⟩
  · obtain ⟨nonempty, literal⟩ := wf _ rfl
    refine ⟨[[.str locationType, .str "LIKE", .str (pyJoin "|" values)]], ?_, fun host => ?_⟩
    · simp only [whitelistPair, Option.map_some', deployWhitelistToConstraints,
        pyJoinItems_strs, ok_bind]
      rfl
    · simp [holds_like host locationType literal nonempty]

end DeployPolicy

/-- The constraints of two pairs of deploy lists hold on exactly the hosts both pairs allow. -/
theorem getDeployConstraints_policies (policy systemPolicy : DeployPolicy) (wf : policy.Wf)
    (systemWf : systemPolicy.Wf) :
    ∃ constraints, getDeployConstraints policy.blacklistPairs policy.whitelistPair
        systemPolicy.blacklistPairs systemPolicy.whitelistPair = .ok constraints ∧
      ∀ host : Host, (∀ c ∈ constraints, Constraint.Holds host c) ↔
        policy.Allows host ∧ systemPolicy.Allows host := by
  obtain ⟨whitelistConstraints, whitelisted, whitelistHolds⟩ :=
    policy.deployWhitelistToConstraints_whitelistPair wf.2
  obtain ⟨systemConstraints, systemWhitelisted, systemHolds⟩ :=
    systemPolicy.deployWhitelistToConstraints_whitelistPair systemWf.2
  refine ⟨_, by simp only [getDeployConstraints, whitelisted, systemWhitelisted, ok_bind]; rfl,
    fun host => ?_⟩
  simp only [List.forall_mem_append, policy.holds_deployBlacklistToConstraints wf.1,
    systemPolicy.holds_deployBlacklistToConstraints systemWf.1, whitelistHolds, systemHolds,
    DeployPolicy.Allows, and_assoc]

/-- An instance whose config writes its deploy lists for a policy, on a system whose config
writes its lists for another, gets constraints that hold on exactly the hosts both policies
allow, when their values are free of regular expression syntax and each whitelist allows some
value. -/
theorem deployConstraints_refine (ic : InstanceConfig) (system : SystemPaastaConfig)
    (policy systemPolicy : DeployPolicy) (wf : policy.Wf) (systemWf : systemPolicy.Wf)
    (blacklisted : ic.get "deploy_blacklist" (.list []) = policy.blacklistConfig)
    (whitelisted : ic.get "deploy_whitelist" .null = policy.whitelistConfig)
    (systemBlacklisted :
      system.config_dict.getD "deploy_blacklist" (.list []) = .ok systemPolicy.blacklistConfig)
    (systemWhitelisted :
      system.config_dict.getD "deploy_whitelist" .null = .ok systemPolicy.whitelistConfig) :
    ∃ constraints, ic.deployConstraints system = .ok constraints ∧
      ∀ host : Host, (∀ c ∈ constraints, Constraint.Holds host c) ↔
        policy.Allows host ∧ systemPolicy.Allows host := by
  simp only [InstanceConfig.deployConstraints, InstanceConfig.getDeployBlacklist,
    InstanceConfig.getDeployWhitelist, SystemPaastaConfig.getDeployBlacklist,
    SystemPaastaConfig.getDeployWhitelist, blacklisted, whitelisted, systemBlacklisted,
    systemWhitelisted, DeployPolicy.safeDeployBlacklist_blacklistConfig,
    DeployPolicy.safeDeployWhitelist_whitelistConfig, ok_bind]
  exact getDeployConstraints_policies policy systemPolicy wf systemWf

/-- An instance of `svc` on `norcal` whose config is `config`. -/
def InstanceConfig.withConfig (config : List (String × Value)) : InstanceConfig :=
  ⟨"norcal", "main", "svc", config, .uniform ⟨.dict [], by decide⟩⟩

/-- Keep off `uswest1`; stay in the `norcal` or `pnw` superregion. -/
def DeployPolicy.norcalOrPnw : DeployPolicy :=
  ⟨[("region", "uswest1")], some ("superregion", ["norcal", "pnw"])⟩

/-- Keep off the habitat `uswest1a`. -/
def DeployPolicy.noUswest1a : DeployPolicy := ⟨[("habitat", "uswest1a")], none⟩

/-- A system configuration that blacklists the habitat `uswest1a`. -/
def SystemPaastaConfig.noUswest1a : SystemPaastaConfig :=
  ⟨.dict [("deploy_blacklist", .list [.list [.str "habitat", .str "uswest1a"]])], "/etc/paasta"⟩

theorem deployConstraints_refine_norcalOrPnw :
    DeployPolicy.norcalOrPnw.Wf ∧ DeployPolicy.noUswest1a.Wf ∧
      (InstanceConfig.withConfig
          [("deploy_blacklist", .list [.list [.str "region", .str "uswest1"]]),
            ("deploy_whitelist", .list [.str "superregion", .list [.str "norcal", .str "pnw"]])]).get
          "deploy_blacklist" (.list []) = DeployPolicy.norcalOrPnw.blacklistConfig ∧
      (InstanceConfig.withConfig
          [("deploy_blacklist", .list [.list [.str "region", .str "uswest1"]]),
            ("deploy_whitelist", .list [.str "superregion", .list [.str "norcal", .str "pnw"]])]).get
          "deploy_whitelist" .null = DeployPolicy.norcalOrPnw.whitelistConfig ∧
      SystemPaastaConfig.noUswest1a.config_dict.getD "deploy_blacklist" (.list []) =
        .ok DeployPolicy.noUswest1a.blacklistConfig ∧
      SystemPaastaConfig.noUswest1a.config_dict.getD "deploy_whitelist" .null =
        .ok DeployPolicy.noUswest1a.whitelistConfig ∧
      ∃ constraints,
        (InstanceConfig.withConfig
            [("deploy_blacklist", .list [.list [.str "region", .str "uswest1"]]),
              ("deploy_whitelist", .list [.str "superregion", .list [.str "norcal", .str "pnw"]])]
          ).deployConstraints .noUswest1a = .ok constraints ∧
        ∀ host : Host, (∀ c ∈ constraints, Constraint.Holds host c) ↔
          DeployPolicy.norcalOrPnw.Allows host ∧ DeployPolicy.noUswest1a.Allows host :=
  ⟨by decide, by decide, by decide, by decide, by decide, by decide,
    deployConstraints_refine _ _ _ _ (by decide) (by decide) (by decide) (by decide) (by decide)
      (by decide)⟩

/-- A whitelist whose values are written as one string, `[location_type, "value"]`, allows the
hosts whose value is a single character of the string: `"|".join` joins the characters. -/
theorem deployWhitelist_string_allows_characters (ic : InstanceConfig)
    {locationType allowed : String} (literal : RegexLiteral allowed) (nonempty : allowed ≠ "")
    (whitelisted : ic.get "deploy_whitelist" .null = .list [.str locationType, .str allowed]) :
    ∃ constraints, (ic.getDeployWhitelist >>= deployWhitelistToConstraints) = .ok constraints ∧
      ∀ host : Host, (∀ c ∈ constraints, Constraint.Holds host c) ↔
        ∃ c ∈ allowed.toList, host locationType = String.singleton c := by
  have characters : ∀ name ∈ allowed.toList.map String.singleton, RegexLiteral name := by
    simpa [RegexLiteral] using literal
  have someCharacter : allowed.toList.map String.singleton ≠ [] := by
    simpa using fun empty => nonempty (String.ext empty)
  refine ⟨[[.str locationType, .str "LIKE",
    .str (pyJoin "|" (allowed.toList.map String.singleton))]], ?_, fun host => ?_⟩
  · simp only [InstanceConfig.getDeployWhitelist, whitelisted]
    rw [show safeDeployWhitelist (.list [.str locationType, .str allowed]) =
      .ok (some (.str locationType, .str allowed)) from rfl, ok_bind, deployWhitelistToConstraints,
      pyJoinItems_str, ok_bind]
    rfl
  · rw [List.forall_mem_singleton, holds_like host locationType characters someCharacter]
    simp [eq_comm]

theorem deployWhitelist_string_allows_characters_uswest1 :
    RegexLiteral "uswest1" ∧ "uswest1" ≠ "" ∧
      (InstanceConfig.withConfig [("deploy_whitelist", .list [.str "region", .str "uswest1"])]).get
          "deploy_whitelist" .null = .list [.str "region", .str "uswest1"] ∧
      ∃ constraints,
        ((InstanceConfig.withConfig
            [("deploy_whitelist", .list [.str "region", .str "uswest1"])]).getDeployWhitelist >>=
          deployWhitelistToConstraints) = .ok constraints ∧
        ∀ host : Host, (∀ c ∈ constraints, Constraint.Holds host c) ↔
          ∃ c ∈ "uswest1".toList, host "region" = String.singleton c :=
  ⟨by decide, by decide, by decide,
    deployWhitelist_string_allows_characters _ (by decide) (by decide) (by decide)⟩

/-- `safe_deploy_whitelist` catches only `TypeError`: a `deploy_whitelist` that iterates to
other than two items makes `get_deploy_whitelist` raise `ValueError` instead of giving no
whitelist. -/
theorem getDeployWhitelist_raises_of_length (ic : InstanceConfig) {items : List Value}
    (iterates : (ic.get "deploy_whitelist" .null).iter = .ok items) (length : items.length ≠ 2) :
    ∃ message, ic.getDeployWhitelist = .error (.valueError message) := by
  simp only [InstanceConfig.getDeployWhitelist, safeDeployWhitelist, Value.unpackPair, iterates]
  rcases items with _ | ⟨first, _ | ⟨second, _ | ⟨third, rest⟩⟩⟩
  · exact ⟨_, rfl⟩
  · exact ⟨_, rfl⟩
  · simp at length
  · exact ⟨_, rfl⟩

theorem getDeployWhitelist_raises_of_length_flat :
    Value.iter ((InstanceConfig.withConfig
          [("deploy_whitelist", .list [.str "region", .str "uswest1", .str "uswest2"])]).get
          "deploy_whitelist" .null) = .ok [.str "region", .str "uswest1", .str "uswest2"] ∧
      [Value.str "region", .str "uswest1", .str "uswest2"].length ≠ 2 ∧
      ∃ message, (InstanceConfig.withConfig
          [("deploy_whitelist", .list [.str "region", .str "uswest1", .str "uswest2"])]
          ).getDeployWhitelist = .error (.valueError message) :=
  ⟨rfl, by decide, getDeployWhitelist_raises_of_length _ rfl (by decide)⟩

end PaastaConfig
