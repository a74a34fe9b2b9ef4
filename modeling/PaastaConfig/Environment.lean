import PaastaConfig.Interpolation
import PaastaConfig.DockerUrl
import PaastaConfig.ClusterFiles

/-!
# The container environment

`get_env_dictionary(system_paasta_config)` builds the environment of an instance's containers
in two phases. It first sets the `PAASTA_*` variables: the service, instance, cluster, deploy
group, docker image and resources, the GPUs when the config has any, the commit of the docker
image, the team and the instance type when they are set. Then it applies
`env.update(user_env)` with the config's `env`, and builds the result
`{str(k): str(v) for (k, v) in env.items()}`.

The commit is read from `get_docker_url()` inside `try: ... except Exception: pass`, so a
registry that is not configured, an empty docker image or a malformed URL leaves
`PAASTA_GIT_SHA` out without raising (`paastaEnv_gitSha`). The system configuration is read only
there, so it changes nothing else in the environment (`getEnvDictionary_system_frame`).

`dict.update` keeps the keys it is given as Python values: a pair of a list `env` may have a key
of any hashable type, and keys compare as Python compares them (`Value.sameKey`: `1`, `1.0` and
`True` are one key, `'1'` is another). Only the final comprehension turns keys into strings, so
keys of different types that print alike, such as `'1'` and `1`, become one variable, in the
place of the first and with the value of the last (`stringifyEnv`). When the only key of `env`
that prints as a variable's name is that name itself, as it always is when `env` is a mapping,
the user's `env` overrides the variable, `PAASTA_*` ones included (`getEnvDictionary_lookup`).
The deploy group the constructor renders from a `deploy_group` template is the
`PAASTA_DEPLOY_GROUP` of the environment, unless `env` sets it
(`getEnvDictionary_init_deployGroup`).

The instance's `branch_dict` and its class's `config_filename_prefix` are arguments, as the
model's `InstanceConfig` has neither.
-/

namespace PaastaConfig

/-- `get_docker_image()`: the branch dict's `docker_image`, or `""` without a branch dict. -/
def getDockerImage : Option Value → Except PyError Value
  | some branch_dict => branch_dict.getItem "docker_image"
  | none => pure (.str "")

/-- `InstanceConfig.get_docker_url(system_paasta_config)`. -/
def InstanceConfig.getDockerUrl (ic : InstanceConfig) (branch_dict : Option Value)
    (system : SystemPaastaConfig) : Except PyError String := do
  let registryUri ← getServiceDockerRegistry ic.soa_dir system ic.service
  let dockerImage ← getDockerImage branch_dict
  if !dockerImage.truthy then
    throw (.noDockerImage "Docker url not available because there is no docker_image")
  let registry := registryUri.pyStr
  let image := dockerImage.pyStr
  pure s!"{registry}/{image}"

/-- The value of a decimal numeral of ASCII digits, at least one. -/
def decimalValue (digits : List Char) : Option Nat :=
  if digits ≠ [] ∧ ∀ d ∈ digits, d.isDigit then
    some (digits.foldl (fun n d => 10 * n + (d.toNat - '0'.toNat)) 0)
  else none

/-- The number a `float`'s `repr` writes, as `(m, e)` for `m * 10 ^ e`: an optional `-`, digits
with an optional `.` and more digits, and an optional exponent after an `e`. Infinities and NaN
write none. -/
def floatReprValue (repr : List Char) : Option (Int × Int) := do
  let negative := repr.head? == some '-'
  let body := if negative then repr.drop 1 else repr
  let mantissa := body.takeWhile (· ≠ 'e')
  let whole := mantissa.takeWhile (· ≠ '.')
  let fraction := (mantissa.dropWhile (· ≠ '.')).drop 1
  let m ← decimalValue (whole ++ fraction)
  let e ← match body.dropWhile (· ≠ 'e') with
    | [] => some (0 : Int)
    | _ :: '-' :: digits => (decimalValue digits).map fun n => -(n : Int)
    | _ :: '+' :: digits => (decimalValue digits).map Int.ofNat
    | _ :: digits => (decimalValue digits).map Int.ofNat
  pure (if negative then -(m : Int) else m, e - fraction.length)

/-- The number a `bool`, an `int` or a finite `float` stands for, as `(m, e)` for
`m * 10 ^ e`. -/
def Value.numberValue : Value → Option (Int × Int)
  | .bool b => some (if b then 1 else 0, 0)
  | .int n => some (n, 0)
  | .float repr => floatReprValue repr.toList
  | _ => none

/-- Whether `(m, e)` and `(m', e')` stand for the same number. -/
def sameNumber (x y : Int × Int) : Bool :=
  let low := min x.2 y.2
  x.1 * Int.pow 10 (x.2 - low).toNat == y.1 * Int.pow 10 (y.2 - low).toNat

/-- `a == b` for two keys of a dict: strings compare as strings, `None` equals itself, a `bool`,
an `int` and a finite `float` compare by the number they stand for, an infinity equals itself
and NaN equals nothing. -/
def Value.sameKey : Value → Value → Bool
  | .str a, .str b => a == b
  | .null, .null => true
  | a, b =>
      match a.numberValue, b.numberValue with
      | some x, some y => sameNumber x y
      | _, _ => a == b && (a == .float "inf" || a == .float "-inf")

/-- `d[key] = value` on a dict whose keys are hashable values: a key equal to `key` keeps its
place and stays the key, and a new key goes last. -/
def setValueItem : List (Value × Value) → Value → Value → List (Value × Value)
  | [], key, value => [(key, value)]
  | (k, v) :: rest, key, value =>
      if k.sameKey key then (k, value) :: rest else (k, v) :: setValueItem rest key value

/-- A dict with string keys, as a dict whose keys are Python values. -/
def strKeyed (d : List (String × Value)) : List (Value × Value) :=
  d.map fun item => (.str item.1, item.2)

/-- A key that `dict.update` sets: a hashable value, kept as it is. -/
def updateKey (key : Value) : Except PyError Value :=
  match key with
  | .list _ | .dict _ =>
      let typeName := key.typeName
      throw (.typeError s!"unhashable type: '{typeName}'")
  | key => pure key

/-- Element `index` of a sequence that `dict.update` reads as a key and a value. -/
def updatePair (index : Nat) (item : Value) : Except PyError (Value × Value) :=
  match item.iter with
  | .error _ =>
      throw (.typeError s!"cannot convert dictionary update sequence element #{index} to a sequence")
  | .ok [key, value] => pure (key, value)
  | .ok items =>
      let got := items.length
      throw (.valueError
        s!"dictionary update sequence element #{index} has length {got}; 2 is required")

/-- Element `index` of a sequence that `dict.update` reads, as the item it sets. -/
def updateItem (item : Nat × Value) : Except PyError (Value × Value) := do
  let (key, value) ← updatePair item.1 item.2
  let key ← updateKey key
  pure (key, value)

/-- `env.update(other)`: a dict's items in order, or else the pairs of an iterable. -/
def updateEnv (env : List (Value × Value)) : Value → Except PyError (List (Value × Value))
  | .dict fields => pure (fields.foldl (fun env field => setValueItem env (.str field.1) field.2) env)
  | other => do
      let items ← other.iter
      items.enum.foldlM (fun env item => do
        let (key, value) ← updateItem item
        pure (setValueItem env key value)) env

/-- The items `dict.update(other)` sets, in order. -/
def updateItems : Value → Except PyError (List (Value × Value))
  | .dict fields => pure (strKeyed fields)
  | other => do
      let items ← other.iter
      items.enum.mapM updateItem

/-- `{str(k): str(v) for (k, v) in env.items()}`: keys that print alike become one key, in the
place of the first and with the value of the last. -/
def stringifyEnv (env : List (Value × Value)) : List (String × String) :=
  env.foldl (fun d item => setItem d item.1.pyStr item.2.pyStr) []

/-- The final comprehension sets the printed items one after the other. -/
theorem stringifyEnv_eq (env : List (Value × Value)) :
    stringifyEnv env = (env.map fun item => (item.1.pyStr, item.2.pyStr)).foldl
      (fun d field => setItem d field.1 field.2) [] := by
  simp only [stringifyEnv, List.foldl_map]

section Items

variable {α : Type} (key : String)

/-- The items of a dict without `key`. -/
def withoutKey (d : List (String × α)) : List (String × α) := d.filter fun item => item.1 != key

/-- `d[k] = value` and then dropping `key` drops `key` first. -/
theorem withoutKey_setItem (d : List (String × α)) (k : String) (value : α) :
    withoutKey key (setItem d k value) =
      if k = key then withoutKey key d else setItem (withoutKey key d) k value := by
  induction d with
  | nil => by_cases same : k = key <;> simp [withoutKey, setItem, same]
  | cons entry d ih =>
    obtain ⟨k', v'⟩ := entry
    by_cases replaced : k' = k
    · subst replaced
      by_cases same : k' = key <;> simp [withoutKey, setItem, same]
    · by_cases dropped : k' = key
      · subst dropped
        simp only [withoutKey] at ih
        simp [withoutKey, setItem, replaced, Ne.symm replaced, ih]
      · simp only [withoutKey] at ih
        split_ifs at ih ⊢ with same
        · simp [withoutKey, setItem, replaced, dropped, ih]
        · simp [withoutKey, setItem, replaced, dropped, ih]

/-- A dict's items set one after the other, looked up: the last item with the key, or else what
the dict had. -/
theorem lookup_foldl_setItem (fields d : List (String × α)) :
    (fields.foldl (fun d field => setItem d field.1 field.2) d).lookup key =
      (fields.reverse.lookup key).or (d.lookup key) := by
  induction fields generalizing d with
  | nil => simp
  | cons field fields ih =>
    obtain ⟨k, v⟩ := field
    rw [List.foldl_cons, ih, lookup_setItem, List.reverse_cons, List.lookup_append,
      Option.or_assoc]
    by_cases same : key = k
    · subst same; simp
    · simp [List.lookup_cons, same, beq_false_of_ne same]

theorem withoutKey_withoutKey (d : List (String × α)) :
    withoutKey key (withoutKey key d) = withoutKey key d := by
  simp [withoutKey, List.filter_filter]

/-- Setting items one after the other, then dropping `key`, is setting the items other than
`key` on the dict without `key`. -/
theorem withoutKey_foldl_setItem (fields d : List (String × α)) :
    withoutKey key (fields.foldl (fun d field => setItem d field.1 field.2) d) =
      (withoutKey key fields).foldl (fun d field => setItem d field.1 field.2) (withoutKey key d) := by
  induction fields generalizing d with
  | nil => rfl
  | cons field fields ih =>
    rw [List.foldl_cons, ih, withoutKey_setItem]
    by_cases same : field.1 = key <;> simp [withoutKey, same]

/-- Dropping `key` after the final comprehension drops the items that print as `key`. -/
theorem withoutKey_stringifyEnv (env : List (Value × Value)) :
    withoutKey key (stringifyEnv env) = stringifyEnv (env.filter fun item => item.1.pyStr != key) := by
  rw [stringifyEnv_eq, stringifyEnv_eq, withoutKey_foldl_setItem]
  simp [withoutKey, List.filter_map, Function.comp_def]

end Items

section ValueKeys

variable {s : String} {k key value : Value} {d : List (Value × Value)}

@[simp]
theorem lookup_cons_value {v : Value} {rest : List (Value × Value)} :
    ((k, v) :: rest).lookup key = if key = k then some v else rest.lookup key := by
  rw [List.lookup_cons]
  by_cases same : key = k
  · simp [same]
  · simp [same, beq_false_of_ne same]

@[simp]
theorem str_beq_str {a : String} : (Value.str a == Value.str s) = (a == s) :=
  Bool.eq_iff_iff.mpr (by simp)

@[simp]
theorem sameKey_str_right : k.sameKey (.str s) = true ↔ k = .str s := by
  cases k <;> simp [Value.sameKey, Value.numberValue]

@[simp]
theorem sameKey_str_left : (Value.str s).sameKey k = true ↔ k = .str s := by
  cases k with
  | str v =>
    simp only [Value.sameKey, beq_iff_eq, Value.str.injEq]
    exact eq_comm
  | _ => simp [Value.sameKey, Value.numberValue]

/-- A key that `d[key] = value` leaves is `key` or a key `d` had. -/
theorem mem_setValueItem {item : Value × Value} (mem : item ∈ setValueItem d key value) :
    item.1 = key ∨ item.1 ∈ d.map Prod.fst := by
  induction d with
  | nil => simp_all [setValueItem]
  | cons entry d ih =>
    obtain ⟨k', v'⟩ := entry
    unfold setValueItem at mem
    split_ifs at mem with same
    · rcases List.mem_cons.mp mem with rfl | mem
      · simp
      · exact .inr (List.mem_cons_of_mem _ (List.mem_map_of_mem _ mem))
    · rcases List.mem_cons.mp mem with rfl | mem
      · simp
      · exact (ih mem).imp_right (List.mem_cons_of_mem _)

/-- `d[key] = value` leaves every string key but `key` as it was. -/
theorem lookup_setValueItem_str :
    (setValueItem d key value).lookup (.str s) =
      if key = .str s then some value else d.lookup (.str s) := by
  induction d with
  | nil => by_cases same : key = .str s <;> simp [setValueItem, same, Ne.symm]
  | cons entry d ih =>
    obtain ⟨k', v'⟩ := entry
    by_cases equal : k'.sameKey key = true
    · by_cases same : key = .str s
      · subst same
        obtain rfl := sameKey_str_right.mp equal
        simp [setValueItem]
      · have other : k' ≠ .str s := fun h => same (sameKey_str_left.mp (h ▸ equal))
        simp [setValueItem, equal, same, Ne.symm other]
    · by_cases here : k' = .str s
      · subst here
        have : key ≠ .str s := fun h => equal (by simp [h])
        simp [setValueItem, equal, this]
      · simp [setValueItem, equal, Ne.symm here, ih]

/-- Keys set one after the other, looked up at a string key: the last item with the key, or else
what the dict had. -/
theorem lookup_foldl_setValueItem_str (items : List (Value × Value)) (d : List (Value × Value)) :
    (items.foldl (fun d item => setValueItem d item.1 item.2) d).lookup (.str s) =
      (items.reverse.lookup (.str s)).or (d.lookup (.str s)) := by
  induction items generalizing d with
  | nil => simp
  | cons item items ih =>
    obtain ⟨k, v⟩ := item
    rw [List.foldl_cons, ih, lookup_setValueItem_str, List.reverse_cons, List.lookup_append,
      Option.or_assoc]
    by_cases same : k = .str s
    · subst same; simp
    · simp [same, Ne.symm same]

/-- `d[key] = value` keeps at most one item with the key `.str s`. -/
theorem pairwise_setValueItem (unique : d.Pairwise fun a b => a.1 = .str s → b.1 ≠ .str s) :
    (setValueItem d key value).Pairwise fun a b => a.1 = .str s → b.1 ≠ .str s := by
  induction d with
  | nil => simp [setValueItem]
  | cons entry d ih =>
    obtain ⟨k', v'⟩ := entry
    obtain ⟨head, tail⟩ := List.pairwise_cons.mp unique
    unfold setValueItem
    split_ifs with equal
    · exact List.pairwise_cons.mpr ⟨head, tail⟩
    · refine List.pairwise_cons.mpr ⟨fun b mem here => ?_, ih tail⟩
      rcases mem_setValueItem mem with same | old
      · rintro hb
        subst here
        exact equal (by simp [← same, hb])
      · obtain ⟨b', mem', eq'⟩ := List.mem_map.mp old
        exact eq' ▸ head b' mem' here

/-- The items of a dict that `d[key] = value` changes are those with the key `key`; with the
items whose key is `.str s` dropped, setting `.str s` changes nothing. -/
theorem filter_setValueItem :
    (setValueItem d key value).filter (fun item => item.1 != .str s) =
      if key = .str s then d.filter (fun item => item.1 != .str s)
      else setValueItem (d.filter fun item => item.1 != .str s) key value := by
  induction d with
  | nil => by_cases same : key = .str s <;> simp [setValueItem, same]
  | cons entry d ih =>
    obtain ⟨k', v'⟩ := entry
    by_cases equal : k'.sameKey key = true
    · by_cases same : key = .str s
      · subst same
        obtain rfl := sameKey_str_right.mp equal
        simp [setValueItem]
      · have other : k' ≠ .str s := fun h => same (sameKey_str_left.mp (h ▸ equal))
        simp [setValueItem, equal, same, other]
    · simp only [setValueItem, equal, if_false, Bool.false_eq_true, List.filter_cons, ih]
      by_cases here : k' = .str s
      · subst here
        have : key ≠ .str s := fun h => equal (by simp [h])
        simp [this]
      · split_ifs <;> simp_all [setValueItem]

/-- Setting keys one after the other and dropping `.str s` depends on the dict only without
`.str s`. -/
theorem filter_foldl_setValueItem (items : List (Value × Value)) (d : List (Value × Value)) :
    (items.foldl (fun d item => setValueItem d item.1 item.2) d).filter
        (fun item => item.1 != .str s) =
      (items.foldl (fun d item => setValueItem d item.1 item.2)
        (d.filter fun item => item.1 != .str s)).filter (fun item => item.1 != .str s) := by
  induction items generalizing d with
  | nil => simp [List.filter_filter]
  | cons item items ih =>
    rw [List.foldl_cons, List.foldl_cons, ih, ih (setValueItem (d.filter _) _ _),
      filter_setValueItem, filter_setValueItem]
    simp [List.filter_filter]

end ValueKeys

/-- The loop of `dict.update` over a sequence sets the items it reads, and raises at the first
element it cannot read. -/
theorem foldlM_updateItem (items : List (Nat × Value)) (env : List (Value × Value)) :
    items.foldlM (fun env item => do
        let (key, value) ← updateItem item
        pure (setValueItem env key value)) env =
      (fun fields => fields.foldl (fun env field => setValueItem env field.1 field.2) env) <$>
        items.mapM updateItem := by
  induction items generalizing env with
  | nil => rfl
  | cons item items ih =>
    rw [List.foldlM_cons, List.mapM_cons]
    cases updateItem item with
    | error e => rfl
    | ok field =>
      simp only [ok_bind, ih]
      cases items.mapM updateItem <;> rfl

/-- `env.update(other)` sets, in order, the items it reads from `other`. -/
theorem updateEnv_eq (env : List (Value × Value)) (other : Value) :
    updateEnv env other =
      (fun items => items.foldl (fun env item => setValueItem env item.1 item.2) env) <$>
        updateItems other := by
  cases other with
  | dict fields => simp [updateEnv, updateItems, strKeyed, List.foldl_map]
  | _ =>
    simp only [updateEnv, updateItems, foldlM_updateItem]
    cases Value.iter _ <;> rfl

namespace InstanceConfig

variable (ic : InstanceConfig) (consts : PaastaConst) (branch_dict : Option Value)
  (instanceType : Option String) (system : SystemPaastaConfig)

/-- The commit `get_env_dictionary` reads from the docker URL, inside its `try`. -/
def gitSha : Except PyError String := do
  let dockerUrl ← ic.getDockerUrl branch_dict system
  getGitShaFromDockerurl dockerUrl false

/-- `get_team()`. -/
def getTeam : Except PyError Value := (ic.get "monitoring" (.dict [])).getD "team" .null

/-- The dict literal that starts `env` in `get_env_dictionary`, with `PAASTA_RESOURCE_GPUS`
when the config has GPUs. -/
def resourceEnv (dockerImage : Value) : List (String × Value) :=
  let env : List (String × Value) :=
    [("PAASTA_SERVICE", .str ic.service), ("PAASTA_INSTANCE", .str ic.instanceName),
      ("PAASTA_CLUSTER", .str ic.cluster), ("PAASTA_DEPLOY_GROUP", ic.getDeployGroup consts),
      ("PAASTA_DOCKER_IMAGE", dockerImage),
      ("PAASTA_RESOURCE_CPUS", .str (ic.get "cpus" (.int 1)).pyStr),
      ("PAASTA_RESOURCE_MEM", .str (ic.get "mem" (.int 4096)).pyStr),
      ("PAASTA_RESOURCE_DISK", .str (ic.get "disk" (.int 1024)).pyStr)]
  let gpus := ic.get "gpus" .null
  if gpus ≠ .null then setItem env "PAASTA_RESOURCE_GPUS" (.str gpus.pyStr) else env

end InstanceConfig

/-- The `try` block of `get_env_dictionary`: `PAASTA_GIT_SHA` when the commit is read, and
nothing when reading it raises. -/
def setGitSha (env : List (String × Value)) : Except PyError String → List (String × Value)
  | .ok sha => setItem env "PAASTA_GIT_SHA" (.str sha)
  | .error _ => env

/-- `PAASTA_MONITORING_TEAM` and `PAASTA_INSTANCE_TYPE`, when the team and the instance type are
set. -/
def labelEnv (team : Value) (instanceType : Option String) (env : List (String × Value)) :
    List (String × Value) :=
  let env := if team.truthy then setItem env "PAASTA_MONITORING_TEAM" team else env
  match instanceType with
  | some instanceType =>
      if instanceType ≠ "" then setItem env "PAASTA_INSTANCE_TYPE" (.str instanceType) else env
  | none => env

namespace InstanceConfig

variable (ic : InstanceConfig) (consts : PaastaConst) (branch_dict : Option Value)
  (instanceType : Option String) (system : SystemPaastaConfig)

/-- `env` of `get_env_dictionary` before `env.update(user_env)`. -/
def paastaEnv : Except PyError (List (String × Value)) := do
  let dockerImage ← getDockerImage branch_dict
  let env := setGitSha (ic.resourceEnv consts dockerImage) (ic.gitSha branch_dict system)
  let team ← ic.getTeam
  pure (labelEnv team instanceType env)

/-- `get_env_dictionary(system_paasta_config)`. -/
def getEnvDictionary : Except PyError (List (String × String)) := do
  let env ← ic.paastaEnv consts branch_dict instanceType system
  let userEnv := ic.get "env" (.dict [])
  let env ← updateEnv (strKeyed env) userEnv
  pure (stringifyEnv env)

end InstanceConfig

section Stringify

variable {t : String} {d : List (Value × Value)}

/-- A variable of the final comprehension, when the only key that prints as its name is that
name and it occurs once: the value under that key, printed. -/
theorem lookup_stringifyEnv (prints : ∀ item ∈ d, item.1.pyStr = t → item.1 = .str t)
    (unique : d.Pairwise fun a b => a.1 = .str t → b.1 ≠ .str t) :
    (stringifyEnv d).lookup t = (d.lookup (.str t)).map Value.pyStr := by
  rw [stringifyEnv_eq, lookup_foldl_setItem, List.lookup_nil, Option.or_none]
  induction d with
  | nil => rfl
  | cons item d ih =>
    obtain ⟨head, tail⟩ := List.pairwise_cons.mp unique
    rw [List.map_cons, List.reverse_cons, List.lookup_append,
      ih (fun e mem => prints e (List.mem_cons_of_mem _ mem)) tail]
    by_cases here : item.1 = .str t
    · have absent : d.lookup (.str t) = none :=
        List.lookup_eq_none_iff.mpr fun e mem => bne_iff_ne.mpr (head e mem here).symm
      obtain ⟨k, v⟩ := item
      subst here
      simp [absent, Value.pyStr]
    · obtain ⟨k, v⟩ := item
      have other : k.pyStr ≠ t := fun printed => here (prints _ (.head _) printed)
      have here' : Value.str t ≠ k := fun same => here same.symm
      rw [lookup_cons_value, if_neg here']
      simp [List.lookup_cons, beq_false_of_ne (Ne.symm other)]

variable {items : List (Value × Value)}

theorem prints_foldl_setValueItem (named : ∀ item ∈ items, item.1.pyStr = t → item.1 = .str t)
    (prints : ∀ item ∈ d, item.1.pyStr = t → item.1 = .str t) :
    ∀ item ∈ items.foldl (fun d item => setValueItem d item.1 item.2) d,
      item.1.pyStr = t → item.1 = .str t := by
  induction items generalizing d with
  | nil => exact prints
  | cons item items ih =>
    refine ih (fun e mem => named e (List.mem_cons_of_mem _ mem)) fun e mem => ?_
    rcases mem_setValueItem mem with same | old
    · exact same ▸ named item (.head _)
    · obtain ⟨e', mem', eq'⟩ := List.mem_map.mp old
      exact eq' ▸ prints e' mem'

theorem pairwise_foldl_setValueItem (unique : d.Pairwise fun a b => a.1 = .str t → b.1 ≠ .str t) :
    (items.foldl (fun d item => setValueItem d item.1 item.2) d).Pairwise
      fun a b => a.1 = .str t → b.1 ≠ .str t := by
  induction items generalizing d with
  | nil => exact unique
  | cons item items ih => exact ih (pairwise_setValueItem unique)

theorem lookup_strKeyed (base : List (String × Value)) :
    (strKeyed base).lookup (.str t) = base.lookup t := by
  induction base with
  | nil => rfl
  | cons item base ih =>
    obtain ⟨k, v⟩ := item
    by_cases same : t = k
    · subst same; simp [strKeyed]
    · simpa [strKeyed, same] using ih

/-- A variable after `env.update` and the final comprehension, when the only key the update
sets that prints as the variable's name is that name: the last value the update gives it, or
else the value the environment had. -/
theorem lookup_stringifyEnv_update {base : List (String × Value)}
    (distinct : (base.map Prod.fst).Nodup)
    (named : ∀ item ∈ items, item.1.pyStr = t → item.1 = .str t) :
    (stringifyEnv (items.foldl (fun d item => setValueItem d item.1 item.2)
        (strKeyed base))).lookup t =
      ((items.reverse.lookup (.str t)).or (base.lookup t)).map Value.pyStr := by
  have prints : ∀ item ∈ strKeyed base, item.1.pyStr = t → item.1 = .str t := by
    intro item mem printed
    obtain ⟨⟨k, v⟩, -, rfl⟩ := List.mem_map.mp mem
    exact congrArg Value.str printed
  have unique : (strKeyed base).Pairwise fun a b => a.1 = .str t → b.1 ≠ .str t := by
    refine List.pairwise_map.mpr ((List.pairwise_map.mp distinct).imp fun ne here there => ?_)
    simp only [Value.str.injEq] at here there
    exact ne (here.trans there.symm)
  rw [lookup_stringifyEnv (prints_foldl_setValueItem named prints)
    (pairwise_foldl_setValueItem unique), lookup_foldl_setValueItem_str, lookup_strKeyed]

/-- Dropping the items that print as `g` after the update depends on the environment only
without `g`. -/
theorem filter_pyStr_foldl_setValueItem (g : String) (base : List (String × Value)) :
    (items.foldl (fun d item => setValueItem d item.1 item.2) (strKeyed base)).filter
        (fun item => item.1.pyStr != g) =
      (items.foldl (fun d item => setValueItem d item.1 item.2)
        (strKeyed (withoutKey g base))).filter (fun item => item.1.pyStr != g) := by
  have narrower (l : List (Value × Value)) : l.filter (fun item => item.1.pyStr != g) =
      (l.filter fun item => item.1 != .str g).filter fun item => item.1.pyStr != g := by
    rw [List.filter_filter]
    congr 1
    funext item
    by_cases same : item.1 = .str g <;> simp [same, Value.pyStr]
  have dropped (b : List (String × Value)) :
      (strKeyed b).filter (fun item => item.1 != .str g) = strKeyed (withoutKey g b) := by
    simp [strKeyed, withoutKey, List.filter_map, Function.comp_def, bne]
  rw [narrower, filter_foldl_setValueItem, dropped, narrower (List.foldl _ (strKeyed _) _),
    filter_foldl_setValueItem _ (strKeyed _), dropped, withoutKey_withoutKey]

end Stringify

theorem nodup_setItem {α : Type} {d : List (String × α)} {key : String} {value : α}
    (distinct : (d.map Prod.fst).Nodup) : ((setItem d key value).map Prod.fst).Nodup := by
  induction d with
  | nil => simp [setItem]
  | cons entry d ih =>
    obtain ⟨k, v⟩ := entry
    simp only [List.map_cons, List.nodup_cons] at distinct
    unfold setItem
    split_ifs with same
    · subst same; simpa using distinct
    · refine List.nodup_cons.mpr ⟨fun mem => ?_, ih distinct.2⟩
      obtain ⟨entry, inSet, rfl⟩ := List.mem_map.mp mem
      rcases mem_setItem inSet with rfl | old
      · exact same rfl
      · exact distinct.1 (List.mem_map_of_mem _ old)

section Blocks

variable {env : List (String × Value)} {key : String}

theorem withoutKey_setGitSha (env : List (String × Value)) (gitSha : Except PyError String) :
    withoutKey "PAASTA_GIT_SHA" (setGitSha env gitSha) = withoutKey "PAASTA_GIT_SHA" env := by
  cases gitSha <;> simp [setGitSha, withoutKey_setItem]

/-- The team and the instance type leave the other variables as they are. -/
theorem lookup_labelEnv_of_ne {team : Value} {instanceType : Option String}
    (notTeam : key ≠ "PAASTA_MONITORING_TEAM") (notType : key ≠ "PAASTA_INSTANCE_TYPE") :
    (labelEnv team instanceType env).lookup key = env.lookup key := by
  unfold labelEnv
  rcases instanceType with _ | instanceType <;> dsimp only <;> split_ifs <;>
    simp [lookup_setItem, notTeam, notType]

theorem withoutKey_labelEnv {team : Value} {instanceType : Option String}
    (notTeam : "PAASTA_MONITORING_TEAM" ≠ key) (notType : "PAASTA_INSTANCE_TYPE" ≠ key) :
    withoutKey key (labelEnv team instanceType env) =
      labelEnv team instanceType (withoutKey key env) := by
  unfold labelEnv
  rcases instanceType with _ | instanceType <;> dsimp only <;> split_ifs <;>
    simp [withoutKey_setItem, notTeam, notType]

theorem lookup_setGitSha_of_ne (gitSha : Except PyError String)
    (notSha : key ≠ "PAASTA_GIT_SHA") : (setGitSha env gitSha).lookup key = env.lookup key := by
  cases gitSha <;> simp [setGitSha, lookup_setItem, notSha]

theorem lookup_resourceEnv_deployGroup (ic : InstanceConfig) (consts : PaastaConst)
    (dockerImage : Value) :
    (ic.resourceEnv consts dockerImage).lookup "PAASTA_DEPLOY_GROUP" =
      some (ic.getDeployGroup consts) := by
  unfold InstanceConfig.resourceEnv
  dsimp only
  split_ifs <;> simp [lookup_setItem]

theorem nodup_resourceEnv (ic : InstanceConfig) (consts : PaastaConst) (dockerImage : Value) :
    ((ic.resourceEnv consts dockerImage).map Prod.fst).Nodup := by
  unfold InstanceConfig.resourceEnv
  dsimp only
  split_ifs
  · exact nodup_setItem (by simp)
  · simp

end Blocks

namespace InstanceConfig

variable {ic : InstanceConfig} {consts : PaastaConst} {branch_dict : Option Value}
  {instanceType : Option String} {system : SystemPaastaConfig}

/-- The environment before `env.update` names each variable once. -/
theorem nodup_paastaEnv {base : List (String × Value)}
    (paasta : ic.paastaEnv consts branch_dict instanceType system = .ok base) :
    (base.map Prod.fst).Nodup := by
  obtain ⟨dockerImage, -, paasta⟩ := bind_eq_ok.mp paasta
  obtain ⟨team, -, paasta⟩ := bind_eq_ok.mp paasta
  cases paasta
  have sha : ((setGitSha (ic.resourceEnv consts dockerImage) (ic.gitSha branch_dict system)).map
      Prod.fst).Nodup := by
    cases ic.gitSha branch_dict system
    · exact nodup_resourceEnv ic consts dockerImage
    · exact nodup_setItem (nodup_resourceEnv ic consts dockerImage)
  unfold labelEnv
  rcases instanceType with _ | instanceType <;> dsimp only <;> split_ifs <;>
    first | exact sha | exact nodup_setItem sha | exact nodup_setItem (nodup_setItem sha)

/-- A branch dict with a docker image. -/
def dockerBranch : Option Value :=
  some (.dict [("docker_image", .str "services-example_service:paasta-abcdef0123456789")])

/-- Every variable of the environment whose name no other key of the user's `env` prints is the
last value the user's `env` gives it, or else the value `get_env_dictionary` set, stringified:
the user's `env` overrides `PAASTA_*` variables too. -/
theorem getEnvDictionary_lookup (key : String)
    (named : ∀ items, updateItems (ic.get "env" (.dict [])) = .ok items →
      ∀ item ∈ items, item.1.pyStr = key → item.1 = .str key) :
    (fun env => env.lookup key) <$> ic.getEnvDictionary consts branch_dict instanceType system =
      (do
        let base ← ic.paastaEnv consts branch_dict instanceType system
        let items ← updateItems (ic.get "env" (.dict []))
        pure (((items.reverse.lookup (.str key)).or (base.lookup key)).map Value.pyStr)) := by
  simp only [getEnvDictionary, updateEnv_eq]
  cases paasta : ic.paastaEnv consts branch_dict instanceType system with
  | error e => rfl
  | ok base =>
    cases user : updateItems (ic.get "env" (.dict [])) with
    | error e => rfl
    | ok items =>
      refine congrArg Except.ok ?_
      dsimp only
      rw [lookup_stringifyEnv_update (nodup_paastaEnv paasta) (named items user)]

/-- An instance whose `env` is a list of pairs: it overrides `PAASTA_CLUSTER`, and sets the keys
`1` and `'1'`, which print alike. -/
def pairEnvExample : InstanceConfig :=
  ⟨"norcal", "main", "example_service",
    [("env", .list [.list [.str "PAASTA_CLUSTER", .str "override"], .list [.int 1, .str "b"],
      .list [.str "1", .str "c"]])], .withRegistry "docker-paasta.yelpcorp.com:443"⟩

theorem getEnvDictionary_lookup_pairEnv :
    (∀ items, updateItems (pairEnvExample.get "env" (.dict [])) = .ok items →
      ∀ item ∈ items, item.1.pyStr = "PAASTA_CLUSTER" → item.1 = .str "PAASTA_CLUSTER") ∧
      (fun env => env.lookup "PAASTA_CLUSTER") <$>
          pairEnvExample.getEnvDictionary .example dockerBranch (some "marathon") .empty =
        .ok (some "override") ∧
      (fun env => env.lookup "PAASTA_CLUSTER") <$>
          pairEnvExample.getEnvDictionary .example dockerBranch (some "marathon") .empty =
        (do
          let base ← pairEnvExample.paastaEnv .example dockerBranch (some "marathon") .empty
          let items ← updateItems (pairEnvExample.get "env" (.dict []))
          pure (((items.reverse.lookup (.str "PAASTA_CLUSTER")).or
            (base.lookup "PAASTA_CLUSTER")).map Value.pyStr)) :=
  have named : ∀ items, updateItems (pairEnvExample.get "env" (.dict [])) = .ok items →
      ∀ item ∈ items, item.1.pyStr = "PAASTA_CLUSTER" → item.1 = .str "PAASTA_CLUSTER" := by
    intro items user
    cases user
    decide
  ⟨named, rfl, getEnvDictionary_lookup "PAASTA_CLUSTER" named⟩

theorem paastaEnv_deployGroup {base : List (String × Value)}
    (paasta : ic.paastaEnv consts branch_dict instanceType system = .ok base) :
    base.lookup "PAASTA_DEPLOY_GROUP" = some (ic.getDeployGroup consts) := by
  obtain ⟨dockerImage, -, paasta⟩ := bind_eq_ok.mp paasta
  obtain ⟨team, -, paasta⟩ := bind_eq_ok.mp paasta
  cases paasta
  rw [lookup_labelEnv_of_ne (by decide) (by decide), lookup_setGitSha_of_ne _ (by decide),
    lookup_resourceEnv_deployGroup]

/-- The dict before `env.update` without `PAASTA_GIT_SHA` does not depend on the system
configuration, and neither does whether it raises. -/
theorem withoutKey_paastaEnv (system' : SystemPaastaConfig) :
    withoutKey "PAASTA_GIT_SHA" <$> ic.paastaEnv consts branch_dict instanceType system =
      withoutKey "PAASTA_GIT_SHA" <$> ic.paastaEnv consts branch_dict instanceType system' := by
  unfold paastaEnv
  cases getDockerImage branch_dict with
  | error e => rfl
  | ok dockerImage =>
    cases ic.getTeam with
    | error e => rfl
    | ok team =>
      show Except.ok _ = Except.ok _
      rw [withoutKey_labelEnv (by decide) (by decide), withoutKey_labelEnv (by decide) (by decide),
        withoutKey_setGitSha, withoutKey_setGitSha]

/-- What `get_env_dictionary` does once `env` is built, seen without `PAASTA_GIT_SHA`, depends on
`env` only without `PAASTA_GIT_SHA`. -/
theorem withoutKey_updateEnv (base : List (String × Value)) :
    withoutKey "PAASTA_GIT_SHA" <$> (updateEnv (strKeyed base) (ic.get "env" (.dict [])) >>=
        fun env => pure (stringifyEnv env)) =
      (fun items => stringifyEnv ((items.foldl (fun d item => setValueItem d item.1 item.2)
          (strKeyed (withoutKey "PAASTA_GIT_SHA" base))).filter
            fun item => item.1.pyStr != "PAASTA_GIT_SHA")) <$>
        updateItems (ic.get "env" (.dict [])) := by
  rw [updateEnv_eq]
  cases updateItems (ic.get "env" (.dict [])) with
  | error e => rfl
  | ok items =>
    refine congrArg Except.ok ?_
    dsimp only
    rw [withoutKey_stringifyEnv, filter_pyStr_foldl_setValueItem]

/-- The system configuration changes nothing in the environment but `PAASTA_GIT_SHA`: not
whether `get_env_dictionary` raises, and no other variable. -/
theorem getEnvDictionary_system_frame (system' : SystemPaastaConfig) :
    withoutKey "PAASTA_GIT_SHA" <$> ic.getEnvDictionary consts branch_dict instanceType system =
      withoutKey "PAASTA_GIT_SHA" <$>
        ic.getEnvDictionary consts branch_dict instanceType system' := by
  have paasta := @withoutKey_paastaEnv ic consts branch_dict instanceType system system'
  simp only [getEnvDictionary]
  rw [map_bind, map_bind]
  simp only [withoutKey_updateEnv]
  cases hbase : ic.paastaEnv consts branch_dict instanceType system <;>
    cases hbase' : ic.paastaEnv consts branch_dict instanceType system' <;>
    rw [hbase, hbase'] at paasta
  case error.error => cases paasta; rfl
  case ok.ok => simp only [ok_bind, Except.ok.inj paasta]
  all_goals cases paasta

end InstanceConfig

/-- The rendered deploy group reaches the container: when the config's `deploy_group` is a
template and no key of its `env` prints as `PAASTA_DEPLOY_GROUP`, `get_env_dictionary` of the
instance the constructor builds sets `PAASTA_DEPLOY_GROUP` to the rendered group. -/
theorem getEnvDictionary_init_deployGroup (consts : PaastaConst) (branch_dict : Option Value)
    (instanceType : Option String) (system : SystemPaastaConfig)
    {cluster instanceName service : String} {config_dict : List (String × Value)}
    {soa_dir : SoaDir} {pieces : List Piece} {ic : InstanceConfig} {env : List (String × String)}
    (wf : ∀ piece ∈ pieces, piece.Wf)
    (template : config_dict.lookup "deploy_group" =
      some (.str (String.mk (printTemplate pieces))))
    (unset : ∀ items, updateItems ((config_dict.lookup "env").getD (.dict [])) = .ok items →
      ∀ item ∈ items, item.1.pyStr ≠ "PAASTA_DEPLOY_GROUP")
    (built : InstanceConfig.init cluster instanceName service config_dict soa_dir = .ok ic)
    (returned : ic.getEnvDictionary consts branch_dict instanceType system = .ok env) :
    ∃ group, renderTemplate (interpolationFacts cluster instanceName service) pieces = .ok group ∧
      env.lookup "PAASTA_DEPLOY_GROUP" = some (String.mk group) := by
  rw [init_of_template wf template] at built
  obtain ⟨group, rendered, rfl⟩ := map_eq_ok.mp built
  refine ⟨group, rendered, ?_⟩
  obtain ⟨base, paasta, rest⟩ := bind_eq_ok.mp returned
  dsimp only at rest
  rw [updateEnv_eq] at rest
  obtain ⟨updated, update, done⟩ := bind_eq_ok.mp rest
  obtain ⟨items, user, rfl⟩ := map_eq_ok.mp update
  cases done
  have userEnv : InstanceConfig.get ⟨cluster, instanceName, service,
      setItem config_dict "deploy_group" (.str (String.mk group)), soa_dir⟩ "env" (.dict []) =
      (config_dict.lookup "env").getD (.dict []) := by
    simp [InstanceConfig.get, lookup_setItem]
  have unnamed := unset items (userEnv ▸ user)
  have absent : items.reverse.lookup (.str "PAASTA_DEPLOY_GROUP") = none :=
    List.lookup_eq_none_iff.mpr fun item mem => bne_iff_ne.mpr fun same =>
      unnamed item (List.mem_reverse.mp mem) (same ▸ rfl)
  rw [lookup_stringifyEnv_update (InstanceConfig.nodup_paastaEnv paasta)
    (fun item mem printed => absurd printed (unnamed item mem)), absent,
    InstanceConfig.paastaEnv_deployGroup paasta]
  simp [InstanceConfig.getDeployGroup, InstanceConfig.get, lookup_setItem, Value.pyStr]

/-- A config whose deploy group is the template `{cluster}.{instance}`. -/
def branchDeployConfig : List (String × Value) :=
  [("deploy_group", .str "\x7bcluster\x7d.\x7binstance\x7d")]

theorem getEnvDictionary_init_deployGroup_branch :
    (∀ piece ∈ branchTemplate, piece.Wf) ∧
      branchDeployConfig.lookup "deploy_group" =
        some (.str (String.mk (printTemplate branchTemplate))) ∧
      (∀ items, updateItems ((branchDeployConfig.lookup "env").getD (.dict [])) = .ok items →
        ∀ item ∈ items, item.1.pyStr ≠ "PAASTA_DEPLOY_GROUP") ∧
      ∃ ic env, InstanceConfig.init "norcal" "main" "example_service" branchDeployConfig
          (.withRegistry "docker-paasta.yelpcorp.com:443") = .ok ic ∧
        ic.getEnvDictionary .example InstanceConfig.dockerBranch (some "marathon") .empty =
          .ok env ∧
        ∃ group, renderTemplate (interpolationFacts "norcal" "main" "example_service")
            branchTemplate = .ok group ∧
          env.lookup "PAASTA_DEPLOY_GROUP" = some (String.mk group) :=
  ⟨by decide, by decide, (fun items user item mem => by cases user; cases mem), _, _, rfl, rfl,
    @getEnvDictionary_init_deployGroup .example InstanceConfig.dockerBranch (some "marathon") .empty
      "norcal" "main" "example_service" branchDeployConfig
      (.withRegistry "docker-paasta.yelpcorp.com:443") branchTemplate _ _ (by decide) (by decide)
      (fun items user item mem => by cases user; cases mem) rfl rfl⟩

end PaastaConfig
