import PaastaConfig.DeepMerge

/-!
# Loading the system configuration

`load_system_paasta_config` checks the configuration directory, collects the readable
`*.json` files below it in sorted order, and hands the set of their `(path, stat)` pairs to
`parse_system_paasta_config`, which folds the parsed fragments into one dict with the strict
merge. The set is a `frozenset`, so the fold visits the fragments in whatever order the
process's string hashes give it (`IterationOrder`), not in the sorted order the loader
computed.

The main result, `loadSystemPaastaConfig_order_independent`, is that this order never
matters: with the strict merge commutative and associative (`mergeEntry_comm`,
`mergeEntry_assoc`), every order either fails or yields the same config as the fold in
lexicographic path order.

Files are fixed during a load: the `IOError` handler of the loader, which covers a file that
disappears between the scan and the read, is not modelled.
-/

namespace PaastaConfig

/-- A regular file below the system-config directory, as `os.walk`, `os.access`, `os.stat`
and `json.load` see it. -/
structure ConfigFile where
  /-- The full path, as `os.path.join(root, f)` builds it. -/
  path : String
  /-- Whether `os.access(path, os.R_OK)` holds. -/
  readable : Bool
  /-- The `os.stat` result, reduced to the signature that identifies the file's contents. -/
  stat : Nat
  /-- What `json.load` returns for the file; `none` when it is not valid JSON. -/
  content : Option Document

/-- The system-config directory and every regular file below it. -/
structure ConfigDir where
  /-- Whether `os.path.isdir(path)` holds. -/
  isdir : Bool
  /-- Whether `os.access(path, os.R_OK)` holds. -/
  readable : Bool
  /-- The regular files below the directory, each path once. -/
  files : List ConfigFile

/-- The order in which Python iterates a `frozenset` of `(path, stat)` pairs: a permutation
of its elements that depends on the process's hash seed. -/
structure IterationOrder where
  /-- The iteration order of the set whose elements, in sorted order, are the argument. -/
  order : List (String × Nat) → List (String × Nat)
  /-- Every element is visited once. -/
  perm : ∀ elements, List.Perm (order elements) elements

/-- Iterating in sorted order. -/
def IterationOrder.sorted : IterationOrder := ⟨id, fun _ => List.Perm.refl _⟩

/-- `SystemPaastaConfig(config, directory)`. -/
structure SystemPaastaConfig where
  /-- The merged configuration dict. -/
  config_dict : Value
  /-- The directory it was loaded from. -/
  directory : String
  deriving DecidableEq, Repr

/-- The getters of `SystemPaastaConfig` that read a required key: `config_dict[key]`, or
`PaastaNotConfiguredError` naming `what` and the configuration directory when the key is
absent. -/
def SystemPaastaConfig.getRequired (system : SystemPaastaConfig) (key what : String) :
    Except PyError Value :=
  let directory := system.directory
  match system.config_dict.getItem key with
  | .error (.keyError _) => throw (.paastaNotConfigured
      s!"Could not find {what} in configuration directory: {directory}")
  | result => result

/-- A required key of a dict configuration: its value, or the `PaastaNotConfiguredError` that
names the key and the directory. -/
theorem SystemPaastaConfig.getRequired_of_dict {system : SystemPaastaConfig}
    {fields : List (String × Value)} (dict : system.config_dict = .dict fields)
    (key what : String) :
    system.getRequired key what =
      match fields.lookup key with
      | some value => .ok value
      | none => .error (.paastaNotConfigured
          s!"Could not find {what} in configuration directory: {system.directory}") := by
  simp only [getRequired, dict, Value.getItem]
  cases fields.lookup key <;> rfl

/-- `json.load` of the file at `filename`. -/
def ConfigDir.jsonLoad (dir : ConfigDir) (filename : String) : Except PyError Document :=
  match dir.files.find? (·.path = filename) with
  | some file =>
      match file.content with
      | some document => pure document
      | none => throw .jsonDecodeError
  | none => throw .jsonDecodeError

/-- `get_readable_files_in_glob(glob="*.json", path)`: the readable files whose path
matches `*.json`, sorted by path. -/
def getReadableFilesInGlob (dir : ConfigDir) : List ConfigFile :=
  (dir.files.filter fun file => file.readable && ".json".toList.isSuffixOf file.path.toList).insertionSort
    fun a b => ¬KeyLt b.path a.path

/-- The body of the loop of `parse_system_paasta_config`: parse the file and merge it, as
the overrides, into the config so far, without allowing duplicate keys. -/
def mergeConfigFile (jsonLoad : String → Except PyError Document) (config : Value)
    (entry : String × Nat) : Except PyError Value := do
  let fragment ← jsonLoad entry.1
  deepMergeDictionaries fragment.value config false

/-- `parse_system_paasta_config(file_stats, path)`: fold the fragments, in the order the
set is iterated, into one dict. -/
def parseSystemPaastaConfig (jsonLoad : String → Except PyError Document)
    (fileStats : List (String × Nat)) (path : String) : Except PyError SystemPaastaConfig := do
  let config ← fileStats.foldlM (mergeConfigFile jsonLoad) (.dict [])
  pure ⟨config, path⟩

/-- `load_system_paasta_config(path)`, for a process whose `frozenset` iteration order is
`iteration`. -/
def loadSystemPaastaConfig (iteration : IterationOrder) (dir : ConfigDir) (path : String) :
    Except PyError SystemPaastaConfig :=
  if !dir.isdir then
    throw (.paastaNotConfigured s!"Could not find system paasta configuration directory: {path}")
  else if !dir.readable then
    throw (.paastaNotConfigured s!"Could not read from system paasta configuration directory: {path}")
  else
    let fileStats := (getReadableFilesInGlob dir).map fun file => (file.path, file.stat)
    parseSystemPaastaConfig dir.jsonLoad (iteration.order fileStats) path

/-- `optionally_load_system_paasta_config(path)`: an empty configuration when the directory
is missing or unreadable. -/
def optionallyLoadSystemPaastaConfig (iteration : IterationOrder) (dir : ConfigDir)
    (path : String) : Except PyError SystemPaastaConfig :=
  match loadSystemPaastaConfig iteration dir path with
  | .error (.paastaNotConfigured _) => pure ⟨.dict [], ""⟩
  | result => result

section Fold

/-- A fold is invariant under permutation when one step preserves an invariant and two
steps from a state satisfying it commute. -/
theorem foldl_perm_of_right_comm {α β : Type} {step : β → α → β} (inv : β → Prop)
    (preserves : ∀ z x, inv z → inv (step z x))
    (swap : ∀ z x y, inv z → step (step z x) y = step (step z y) x)
    {l₁ l₂ : List α} (p : List.Perm l₁ l₂) {z : β} (hz : inv z) : l₁.foldl step z = l₂.foldl step z := by
  induction p generalizing z with
  | nil => rfl
  | cons x _ ih => exact ih (preserves z x hz)
  | swap x y l => simp only [List.foldl, swap z y x hz]
  | trans _ _ ih₁ ih₂ => exact (ih₁ hz).trans (ih₂ hz)

theorem foldl_bind_none {α β : Type} (g : β → α → Option β) (l : List α) :
    l.foldl (fun acc x => acc.bind fun a => g a x) none = none := by
  induction l with
  | nil => rfl
  | cons _ _ ih => exact ih

theorem foldlM_toOption {α β : Type} (f : β → α → Except PyError β) (l : List α) (b : β) :
    (l.foldlM f b).toOption =
      l.foldl (fun acc x => acc.bind fun a => (f a x).toOption) (some b) := by
  induction l generalizing b with
  | nil => rfl
  | cons x xs ih =>
      simp only [List.foldlM, List.foldl, Option.some_bind]
      cases h : f b x with
      | error e => simp [h, bind, Except.bind, Except.toOption, foldl_bind_none]
      | ok b' => simpa [h, bind, Except.bind, Except.toOption] using ih b'

end Fold

section OrderIndependence

variable {jsonLoad : String → Except PyError Document} {a c f g : Value}

/-- The config so far is, when the fold has not failed, a canonical dict. -/
def ConfigInv (config : Option Value) : Prop :=
  ∀ a, config = some a → a.Canonical ∧ a.isDict = true

/-- One iteration of the loop of `parse_system_paasta_config`, failures collapsed to
`none`. -/
def foldStep (jsonLoad : String → Except PyError Document) (config : Option Value)
    (entry : String × Nat) : Option Value :=
  config.bind fun config => (mergeConfigFile jsonLoad config entry).toOption

theorem toOption_bind {α β : Type} (x : Except PyError α) (k : α → Except PyError β) :
    (x >>= k).toOption = x.toOption.bind fun a => (k a).toOption := by
  cases x <;> rfl

theorem parseSystemPaastaConfig_toOption (fileStats : List (String × Nat)) (path : String) :
    (parseSystemPaastaConfig jsonLoad fileStats path).toOption =
      (fileStats.foldl (foldStep jsonLoad) (some (.dict []))).map (⟨·, path⟩) := by
  rw [parseSystemPaastaConfig, toOption_bind, foldlM_toOption]
  change (List.foldl (foldStep jsonLoad) _ fileStats).bind _ = _
  cases List.foldl (foldStep jsonLoad) (some (.dict [])) fileStats <;> rfl

theorem deepMergeDictionaries_of_not_dict {allow : Bool} (hf : f.isDict = false) :
    deepMergeDictionaries f c allow = .error (.attributeError "items") := by
  cases f <;> first | rfl | simp [Value.isDict] at hf

theorem deepMerge_strict_of_dict (hf : f.isDict = true) (hc : c.isDict = true) :
    (deepMergeDictionaries f c false).toOption = (mergeEntry false "" f c).toOption := by
  obtain ⟨fs, rfl⟩ := Value.isDict_iff.mp hf
  obtain ⟨cs, rfl⟩ := Value.isDict_iff.mp hc
  rfl

theorem mergeEntry_strict_isDict (hf : f.isDict = true)
    (h : (mergeEntry false "" f c).toOption = some a) : a.isDict = true := by
  rcases mergeEntry_strict_result h with ⟨rfl, -⟩ | ⟨-, -, ha⟩
  · exact hf
  · exact ha

theorem configInv_foldStep {config : Option Value} (entry : String × Nat)
    (hz : ConfigInv config) : ConfigInv (foldStep jsonLoad config entry) := by
  intro a h
  obtain ⟨c, hc, h⟩ := Option.bind_eq_some.mp h
  rw [mergeConfigFile, toOption_bind] at h
  obtain ⟨fragment, -, h⟩ := Option.bind_eq_some.mp h
  obtain ⟨hcc, hcd⟩ := hz c hc
  cases hf : fragment.value.isDict
  · simp [deepMergeDictionaries_of_not_dict hf, Except.toOption] at h
  · rw [deepMerge_strict_of_dict hf hcd] at h
    cases hm : mergeEntry false "" fragment.value c with
    | error e => simp [hm, Except.toOption] at h
    | ok m =>
        simp only [hm, toOption_ok, Option.some.injEq] at h
        subst h
        exact ⟨mergeEntry_canonical fragment.canonical hcc hm,
          mergeEntry_strict_isDict hf (congrArg Except.toOption hm)⟩

/-- Merging the fragments `f` and then `g` into a dict `c` is merging `g` and then `f`. -/
theorem deepMerge_strict_swap (hf : f.Canonical) (hg : g.Canonical) (hc : c.Canonical)
    (hcd : c.isDict = true) :
    ((deepMergeDictionaries f c false).toOption.bind fun d =>
        (deepMergeDictionaries g d false).toOption) =
      ((deepMergeDictionaries g c false).toOption.bind fun d =>
        (deepMergeDictionaries f d false).toOption) := by
  cases hfd : f.isDict
  · simp [deepMergeDictionaries_of_not_dict hfd, Except.toOption]
  cases hgd : g.isDict
  · simp [deepMergeDictionaries_of_not_dict hgd, Except.toOption]
  have into : ∀ {x y : Value}, x.isDict = true → y.isDict = true →
      ((mergeEntry false "" x c).toOption.bind fun d =>
        (deepMergeDictionaries y d false).toOption) =
      ((mergeEntry false "" x c).toOption.bind fun d => (mergeEntry false "" y d).toOption) := by
    intro x y hx hy
    cases h : (mergeEntry false "" x c).toOption with
    | none => rfl
    | some d => exact deepMerge_strict_of_dict hy (mergeEntry_strict_isDict hx h)
  rw [deepMerge_strict_of_dict hfd hcd, deepMerge_strict_of_dict hgd hcd, into hfd hgd,
    into hgd hfd, ← mergeEntry_assoc hg hf hc, mergeEntry_comm hg hf, mergeEntry_assoc hf hg hc]

theorem foldStep_swap (config : Option Value) (x y : String × Nat) (hz : ConfigInv config) :
    foldStep jsonLoad (foldStep jsonLoad config x) y =
      foldStep jsonLoad (foldStep jsonLoad config y) x := by
  cases config with
  | none => rfl
  | some c =>
      obtain ⟨hc, hcd⟩ := hz c rfl
      simp only [foldStep, Option.some_bind, mergeConfigFile, toOption_bind, Option.bind_assoc]
      cases hx : (jsonLoad x.1).toOption with
      | none => simp
      | some fx =>
          cases hy : (jsonLoad y.1).toOption with
          | none => simp
          | some fy =>
              simp only [Option.some_bind]
              exact deepMerge_strict_swap fx.canonical fy.canonical hc hcd

/-- The fold of `parse_system_paasta_config` does not depend on the order of its entries. -/
theorem parseSystemPaastaConfig_perm {fileStats order : List (String × Nat)}
    (p : List.Perm order fileStats) (path : String) :
    (parseSystemPaastaConfig jsonLoad order path).toOption =
      (parseSystemPaastaConfig jsonLoad fileStats path).toOption := by
  rw [parseSystemPaastaConfig_toOption, parseSystemPaastaConfig_toOption,
    foldl_perm_of_right_comm ConfigInv (fun _ _ => configInv_foldStep _)
      foldStep_swap p (fun a h => by cases h; exact ⟨by decide, rfl⟩)]

/-- The system configuration `load_system_paasta_config` returns does not depend on the
order in which the process iterates the `frozenset` of fragment files: in every order it
fails, or it returns the configuration of the fold in lexicographic path order. -/
theorem loadSystemPaastaConfig_order_independent (iteration : IterationOrder) (dir : ConfigDir)
    (path : String) :
    (loadSystemPaastaConfig iteration dir path).toOption =
      (loadSystemPaastaConfig .sorted dir path).toOption := by
  unfold loadSystemPaastaConfig
  split_ifs
  · rfl
  · rfl
  · exact parseSystemPaastaConfig_perm (iteration.perm _) path

end OrderIndependence

end PaastaConfig
