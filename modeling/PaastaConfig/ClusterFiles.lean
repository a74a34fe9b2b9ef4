import PaastaConfig.Validation
import PaastaConfig.Regex
import PaastaConfig.Glob
import Mathlib.Data.List.Dedup

/-!
# The clusters a service deploys to

`get_soa_cluster_deploy_files(service, soa_dir, instance_type)` lists the files that
`glob.glob("%s/*.yaml" % service_path)` gives. For each file that opens, it searches the file's
path with the pattern `/.*/(TYPES)-(CLUSTERS)\.yaml$` and yields the second group as the file's
cluster. `TYPES` is `instance_type` when it is one of `INSTANCE_TYPES`, and all of them joined by
`|` otherwise; `CLUSTERS` is the configured clusters joined by `|`. `list_clusters` sorts the
distinct clusters.

The names go into the pattern as they are, so each is read as a regular expression. When the
instance types and the cluster names are literal (no character special to `re`, no `/`), the
instance types hold no `-`, and both lists are non-empty, `list_clusters` returns exactly the
configured clusters `c` for which the directory holds a readable file `{t}-{c}.yaml`
(`listClusters_eq_deployedClusters`), provided `soa_dir` and the service name hold none of the
characters `glob` expands, so that the directory globbed is the service's own. Otherwise it need
not: a `.` in a cluster name matches any character, and an empty cluster list leaves the group
`()`, which matches an empty name (`listClusters_reads_names_as_patterns`).

`service=None` is `service="*"`, which the model takes as the given name `*`: `glob` expands it
to every service directory.
-/

namespace PaastaConfig

/-- `sep.join(strings)`. -/
def pyJoin (sep : String) : List String → String
  | [] => ""
  | [s] => s
  | s :: rest => s ++ sep ++ pyJoin sep rest

/-- The name of a value's type, as Python's messages give it. -/
def Value.typeName : Value → String
  | .null => "NoneType"
  | .bool _ => "bool"
  | .int _ => "int"
  | .float _ => "float"
  | .str _ => "str"
  | .list _ => "list"
  | .dict _ => "dict"

/-- Item `index` of what `sep.join` joins: a string, or else `TypeError`. -/
def joinItem : Nat × Value → Except PyError String
  | (_, .str s) => pure s
  | (index, other) =>
      let typeName := other.typeName
      throw (.typeError s!"sequence item {index}: expected str instance, {typeName} found")

/-- `sep.join(value)`, for any iterable value. -/
def Value.pyJoinItems (value : Value) (sep : String) : Except PyError String := do
  let items ← value.iter
  let strings ← items.enum.mapM joinItem
  pure (pyJoin sep strings)

/-- `SystemPaastaConfig.get_clusters()`. -/
def SystemPaastaConfig.getClusters (system : SystemPaastaConfig) : Except PyError Value :=
  system.config_dict.getD "clusters" (.list [])

/-- `instance_types` of `get_soa_cluster_deploy_files`. -/
def instanceTypesPattern (consts : PaastaConst) (instanceType : Option String) : String :=
  match instanceType with
  | some t => if t ∈ consts.INSTANCE_TYPES then t else pyJoin "|" consts.INSTANCE_TYPES
  | none => pyJoin "|" consts.INSTANCE_TYPES

/-- `search_re` of `get_soa_cluster_deploy_files`. -/
def deploySearchRe (instanceTypes validClusters : String) : String :=
  "/.*/(" ++ instanceTypes ++ ")-(" ++ validClusters ++ ")\\.yaml$"

/-- The body of the loop of `get_soa_cluster_deploy_files`: a file that opens and whose path
the pattern matches yields the second group and the path. -/
def deployFile (fs : FileSystem) (searchRe yamlFile : String) :
    Except PyError (List (Option String × String)) :=
  if fs.readable yamlFile then do
    let clusterReMatch ← reSearch searchRe yamlFile
    match clusterReMatch with
    | some m => do
        let cluster ← m.group 2
        pure [(cluster, yamlFile)]
    | none => pure []
  else pure []

/-- The loop of `get_soa_cluster_deploy_files` over the files `glob` lists. -/
def deployFilesLoop (fs : FileSystem) (searchRe : String) :
    List String → Except PyError (List (Option String × String))
  | [] => pure []
  | yamlFile :: rest => do
      let found ← deployFile fs searchRe yamlFile
      let more ← deployFilesLoop fs searchRe rest
      pure (found ++ more)

/-- `get_soa_cluster_deploy_files(service, soa_dir, instance_type)` for a given service. -/
def getSoaClusterDeployFiles (fs : FileSystem) (consts : PaastaConst)
    (system : SystemPaastaConfig) (service soaDir : String) (instanceType : Option String) :
    Except PyError (List (Option String × String)) := do
  let servicePath := osPathJoin soaDir service
  let validClusters ← system.getClusters >>= (Value.pyJoinItems · "|")
  let instanceTypes := instanceTypesPattern consts instanceType
  let searchRe := deploySearchRe instanceTypes validClusters
  let yamlFiles ← glob fs (servicePath ++ "/*.yaml")
  deployFilesLoop fs searchRe yamlFiles

/-- `sorted(clusters)` of distinct clusters: `None` sorts alone, and next to a string it raises
`TypeError`. -/
def sortedClusters (clusters : List (Option String)) : Except PyError (List (Option String)) :=
  match clusters.mapM id with
  | some names => pure ((names.insertionSort (· ≤ ·)).map some)
  | none =>
      if clusters.length ≤ 1 then pure clusters
      else throw (.typeError "'<' not supported between instances of 'NoneType' and 'str'")

/-- `list_clusters(service, soa_dir, instance_type)` for a given service. -/
def listClusters (fs : FileSystem) (consts : PaastaConst) (system : SystemPaastaConfig)
    (service soaDir : String) (instanceType : Option String) :
    Except PyError (List (Option String)) := do
  let deployFiles ← getSoaClusterDeployFiles fs consts system service soaDir instanceType
  sortedClusters (deployFiles.map Prod.fst).dedup

/-- The instance types `search_re` accepts. -/
def selectedInstanceTypes (consts : PaastaConst) (instanceType : Option String) : List String :=
  match instanceType with
  | some t => if t ∈ consts.INSTANCE_TYPES then [t] else consts.INSTANCE_TYPES
  | none => consts.INSTANCE_TYPES

theorem mem_of_mem_selectedInstanceTypes {consts : PaastaConst} {instanceType : Option String}
    {t : String} (ht : t ∈ selectedInstanceTypes consts instanceType) : t ∈ consts.INSTANCE_TYPES := by
  unfold selectedInstanceTypes at ht
  split at ht
  · split at ht <;> simp_all
  · exact ht

theorem selectedInstanceTypes_ne_nil {consts : PaastaConst} {instanceType : Option String}
    (h : consts.INSTANCE_TYPES ≠ []) : selectedInstanceTypes consts instanceType ≠ [] := by
  unfold selectedInstanceTypes
  split
  · split <;> simp_all
  · exact h

/-- What `list_clusters` is meant to return: the configured clusters `c`, sorted and without
duplicates, for which the directory holds a readable file `{t}-{c}.yaml` for an accepted
instance type `t`. -/
def deployedClusters (fs : FileSystem) (types clusters : List String) (directory : String) :
    List String :=
  ((clusters.filter fun c => types.any fun t => (fs.listdir directory).any fun name =>
    name == t ++ "-" ++ c ++ ".yaml" && fs.readable (directory ++ "/" ++ name)).dedup).insertionSort
    (· ≤ ·)

/-- A name whose characters all stand for themselves in a pattern, with no `/`. -/
def LiteralName (name : String) : Prop := ∀ x ∈ name.toList, x ∉ specialChars ∧ x ≠ '/'

instance : DecidablePred LiteralName := fun name =>
  inferInstanceAs (Decidable (∀ x ∈ name.toList, x ∉ specialChars ∧ x ≠ '/'))

/-- The tree `search_re` compiles to, for literal instance types and cluster names. -/
def deployFileRegex (types clusters : List (List Char)) : Regex :=
  seqOf ([.char '/', .star .any true, .char '/', .group 1 (altOf (types.map lit)), .char '-',
    .group 2 (altOf (clusters.map lit))] ++ (".yaml".toList.map .char ++ [.lineEnd]))

section Pattern

theorem pyJoin_toList (sep : String) (ws : List String) :
    (pyJoin sep ws).toList = joinWith sep.toList (ws.map String.toList) := by
  induction ws using pyJoin.induct sep with
  | case1 => rfl
  | case2 s => rfl
  | case3 s s' hs' ih =>
      obtain ⟨x, xs, rfl⟩ := List.exists_cons_of_ne_nil hs'
      simp only [String.toList] at ih
      simp [pyJoin, joinWith, String.toList, ih]

theorem instanceTypesPattern_eq (consts : PaastaConst) (instanceType : Option String) :
    instanceTypesPattern consts instanceType =
      pyJoin "|" (selectedInstanceTypes consts instanceType) := by
  cases instanceType with
  | none => rfl
  | some t => by_cases ht : t ∈ consts.INSTANCE_TYPES <;> simp [instanceTypesPattern,
      selectedInstanceTypes, ht, pyJoin]

variable {rest : List Char} {f : Frame} {stack : List Frame} {next : Nat}

theorem compileLoop_open {x : Char} (hx : x ≠ '?') :
    compileLoop ('(' :: x :: rest) f stack next =
      compileLoop (x :: rest) ⟨next, [], []⟩ (f :: stack) (next + 1) := by
  conv_lhs => unfold compileLoop
  simp [specialChars, hx]

/-- After `(`, literal words joined by `|` do not start an extension `(?`. -/
theorem joinWith_close_head {ws : List (List Char)} (hws : ∀ w ∈ ws, ∀ c ∈ w, c ∉ specialChars) :
    ∃ x rest', joinWith ['|'] ws ++ ')' :: rest = x :: rest' ∧ x ≠ '?' := by
  match ws, hws with
  | [], _ => exact ⟨_, _, rfl, by decide⟩
  | [] :: [], _ => exact ⟨_, _, rfl, by decide⟩
  | [] :: _ :: _, _ => exact ⟨_, _, rfl, by decide⟩
  | (c :: w) :: ws, hws =>
      have hc : c ∉ specialChars := hws (c :: w) (List.mem_cons_self _ _) c (List.mem_cons_self _ _)
      have hq : c ≠ '?' := by
        rintro rfl
        exact hc (by decide)
      cases ws with
      | nil => exact ⟨c, _, rfl, hq⟩
      | cons => exact ⟨c, _, rfl, hq⟩

/-- A group of literal words joined by `|` is read as the alternation of the words. -/
theorem compileLoop_group {ws : List (List Char)} (hws : ∀ w ∈ ws, ∀ c ∈ w, c ∉ specialChars)
    (hne : ws ≠ []) :
    compileLoop ('(' :: (joinWith ['|'] ws ++ ')' :: rest)) f stack next =
      compileLoop rest (f.push (.group next (altOf (ws.map lit)))) stack (next + 1) := by
  obtain ⟨x, rest', hhead, hx⟩ := @joinWith_close_head rest ws hws
  obtain ⟨g, hindex, hclose, hloop⟩ :=
    @compileLoop_alternatives (')' :: rest) ⟨next, [], []⟩ (f :: stack) (next + 1) ws hws hne rfl
  rw [hhead, compileLoop_open hx, ← hhead, hloop]
  conv_lhs => unfold compileLoop
  simp [specialChars, hindex, hclose]

/-- For literal, non-empty lists of instance types and cluster names, `search_re` compiles to
`deployFileRegex`, with two groups. -/
theorem compile_deploySearchRe {types clusters : List String}
    (htypes : ∀ t ∈ types, LiteralName t) (hclusters : ∀ c ∈ clusters, LiteralName c)
    (htypesNe : types ≠ []) (hclustersNe : clusters ≠ []) :
    compile (deploySearchRe (pyJoin "|" types) (pyJoin "|" clusters)) =
      .ok ⟨deployFileRegex (types.map String.toList) (clusters.map String.toList), 2⟩ := by
  have hwords : ∀ names : List String, (∀ n ∈ names, LiteralName n) →
      ∀ w ∈ names.map String.toList, ∀ c ∈ w, c ∉ specialChars := by
    intro names h w hw c hc
    obtain ⟨n, hn, rfl⟩ := List.mem_map.mp hw
    exact (h n hn c hc).1
  have htext : (deploySearchRe (pyJoin "|" types) (pyJoin "|" clusters)).toList =
      '/' :: '.' :: '*' :: '/' :: '(' :: (joinWith ['|'] (types.map String.toList) ++
        ')' :: '-' :: '(' :: (joinWith ['|'] (clusters.map String.toList) ++
          [')', '\\', '.', 'y', 'a', 'm', 'l', '$'])) := by
    simp only [deploySearchRe, String.toList, String.data_append]
    rw [← String.toList, ← String.toList, pyJoin_toList, pyJoin_toList]
    simp
  have hstart : ∀ rest, compileLoop ('/' :: '.' :: '*' :: '/' :: rest) ⟨0, [], []⟩ [] 1 =
      compileLoop rest ⟨0, [], [.char '/', .star .any true, .char '/']⟩ [] 1 := fun _ => rfl
  rw [compile, htext, hstart, compileLoop_group (hwords _ htypes) (by simpa using htypesNe),
    compileLoop_literal (by decide), compileLoop_group (hwords _ hclusters)
      (by simpa using hclustersNe)]
  rfl

end Pattern

section Positions

variable {α : Type} {l w rest : List α} {i : Nat}

theorem drop_add_of_drop_eq (h : l.drop i = w ++ rest) : l.drop (i + w.length) = rest := by
  rw [← List.drop_drop, h, List.drop_left]

theorem getElem?_of_drop_eq_cons {a : α} (h : l.drop i = a :: rest) : l[i]? = some a := by
  rw [← List.head?_drop, h]
  rfl

theorem drop_eq_cons_of_getElem? {a : α} (h : l[i]? = some a) : l.drop i = a :: l.drop (i + 1) := by
  obtain ⟨hi, rfl⟩ := List.getElem?_eq_some_iff.mp h
  exact List.drop_eq_getElem_cons hi

end Positions

section Matching

variable {input : List Char} {ts cs : List (List Char)} {o : Nat × Captures} {p : Nat}

theorem deployFileRegex_eq : deployFileRegex ts cs =
    .seq (.char '/') (.seq (.star .any true) (.seq (.char '/') (.seq (.group 1 (altOf (ts.map lit)))
      (.seq (.char '-') (.seq (.group 2 (altOf (cs.map lit)))
        (seqOf (".yaml".toList.map .char ++ [.lineEnd]))))))) :=
  rfl

/-- What a match of the pattern reads: a `/`, an accepted type, `-`, a configured cluster and
`.yaml`, up to the end or a final newline; group 2 spans the cluster. -/
theorem deployFileRegex_sound (htsNe : ts ≠ []) (hcsNe : cs ≠ [])
    (h : o ∈ (deployFileRegex ts cs).matchFrom input p []) :
    ∃ j t c tail, t ∈ ts ∧ c ∈ cs ∧
      input.drop j = '/' :: (t ++ '-' :: (c ++ (".yaml".toList ++ tail))) ∧
      (tail = [] ∨ tail = ['\n']) ∧
      o.2 = [(2, j + 1 + t.length + 1, j + 1 + t.length + 1 + c.length),
        (1, j + 1, j + 1 + t.length)] := by
  have htsNe' : ts.map lit ≠ [] := by simpa using htsNe
  have hcsNe' : cs.map lit ≠ [] := by simpa using hcsNe
  rw [deployFileRegex_eq] at h
  obtain ⟨m1, hm1, h⟩ := Regex.mem_matchFrom_seq.mp h
  obtain ⟨-, rfl⟩ := Regex.mem_matchFrom_char.mp hm1
  obtain ⟨⟨j, caps⟩, hm2, h⟩ := Regex.mem_matchFrom_seq.mp h
  obtain rfl : caps = [] := Regex.repeatMatches_any_captures hm2
  obtain ⟨m3, hm3, h⟩ := Regex.mem_matchFrom_seq.mp h
  obtain ⟨hslash, rfl⟩ := Regex.mem_matchFrom_char.mp hm3
  obtain ⟨m4, hm4, h⟩ := Regex.mem_matchFrom_seq.mp h
  obtain ⟨m4', hm4', rfl⟩ := Regex.mem_matchFrom_group.mp hm4
  obtain ⟨r, hr, hm4'⟩ := (Regex.mem_matchFrom_altOf htsNe').mp hm4'
  obtain ⟨t, ht, rfl⟩ := List.mem_map.mp hr
  obtain ⟨htype, rfl⟩ := Regex.mem_matchFrom_lit.mp hm4'
  obtain ⟨m5, hm5, h⟩ := Regex.mem_matchFrom_seq.mp h
  obtain ⟨hdash, rfl⟩ := Regex.mem_matchFrom_char.mp hm5
  obtain ⟨m6, hm6, h⟩ := Regex.mem_matchFrom_seq.mp h
  obtain ⟨m6', hm6', rfl⟩ := Regex.mem_matchFrom_group.mp hm6
  obtain ⟨r, hr, hm6'⟩ := (Regex.mem_matchFrom_altOf hcsNe').mp hm6'
  obtain ⟨c, hc, rfl⟩ := List.mem_map.mp hr
  obtain ⟨hcluster, rfl⟩ := Regex.mem_matchFrom_lit.mp hm6'
  obtain ⟨hyaml, h⟩ := Regex.mem_matchFrom_seqOf_chars.mp h
  simp only [seqOf] at h
  obtain ⟨m7, hm7, h⟩ := Regex.mem_matchFrom_seq.mp h
  obtain ⟨hend, rfl⟩ := Regex.mem_matchFrom_lineEnd.mp hm7
  simp only [Regex.matchFrom, List.mem_singleton] at h
  subst h
  dsimp only at hslash htype hdash hcluster hyaml hend
  refine ⟨j, t, c, input.drop (j + 1 + t.length + 1 + c.length + ".yaml".toList.length), ht, hc,
    ?_, ?_, rfl⟩
  · rw [drop_eq_cons_of_getElem? hslash, drop_eq_of_prefix htype, drop_eq_cons_of_getElem? hdash,
      drop_eq_of_prefix hcluster, drop_eq_of_prefix hyaml]
  · rcases hend with hend | ⟨hend, hnewline⟩
    · exact .inl (List.drop_eq_nil_of_le (by omega))
    · exact .inr (by rw [drop_eq_cons_of_getElem? hnewline, List.drop_eq_nil_of_le (by omega)])

/-- Every `{t}-{c}.yaml` after a `/` and a run of characters without newline from a `/` is a
match of the pattern. -/
theorem deployFileRegex_complete {mid t c : List Char} (htsNe : ts ≠ []) (hcsNe : cs ≠ [])
    (hdrop : input.drop p = '/' :: (mid ++ '/' :: (t ++ '-' :: (c ++ ".yaml".toList))))
    (hmid : '\n' ∉ mid) (ht : t ∈ ts) (hc : c ∈ cs) :
    ∃ o, o ∈ (deployFileRegex ts cs).matchFrom input p [] := by
  have htsNe' : ts.map lit ≠ [] := by simpa using htsNe
  have hcsNe' : cs.map lit ≠ [] := by simpa using hcsNe
  have hd1 : input.drop (p + 1) = mid ++ '/' :: (t ++ '-' :: (c ++ ".yaml".toList)) :=
    drop_add_of_drop_eq (show input.drop p = ['/'] ++ _ from hdrop)
  have hd2 := drop_add_of_drop_eq hd1
  have hd3 : input.drop (p + 1 + mid.length + 1) = t ++ '-' :: (c ++ ".yaml".toList) :=
    drop_add_of_drop_eq (show _ = ['/'] ++ _ from hd2)
  have hd4 := drop_add_of_drop_eq hd3
  have hd5 : input.drop (p + 1 + mid.length + 1 + t.length + 1) = c ++ ".yaml".toList :=
    drop_add_of_drop_eq (show _ = ['-'] ++ _ from hd4)
  have hd6 := drop_add_of_drop_eq hd5
  have hend : p + 1 + mid.length + 1 + t.length + 1 + c.length + ".yaml".toList.length =
      input.length := by
    have hlen := congrArg List.length hd6
    rw [List.length_drop] at hlen
    have hfive : ".yaml".toList.length = 5 := rfl
    omega
  have hline : ∀ k, p + 1 ≤ k → k < p + 1 + mid.length → ∃ x, input[k]? = some x ∧ x ≠ '\n' := by
    intro k hk hkj
    have hm : k - (p + 1) < mid.length := by omega
    have hget := List.getElem?_drop input (p + 1) (k - (p + 1))
    rw [hd1, List.getElem?_append_left hm, show p + 1 + (k - (p + 1)) = k by omega] at hget
    exact ⟨mid[k - (p + 1)], by rw [← hget, List.getElem?_eq_getElem hm],
      fun hx => hmid (hx ▸ List.getElem_mem hm)⟩
  have hstar : (p + 1 + mid.length, ([] : Captures)) ∈
      repeatMatches (Regex.any.matchFrom input) true (input.length + 1 - (p + 1)) (p + 1) [] :=
    Regex.mem_repeatMatches_any (by omega) (by omega) hline
  have htype : t <+: input.drop (p + 1 + mid.length + 1) := hd3 ▸ List.prefix_append _ _
  have hcluster : c <+: input.drop (p + 1 + mid.length + 1 + t.length + 1) :=
    hd5 ▸ List.prefix_append _ _
  have hyaml : ".yaml".toList <+: input.drop (p + 1 + mid.length + 1 + t.length + 1 + c.length) :=
    hd6 ▸ List.prefix_refl _
  rw [deployFileRegex_eq]
  refine ⟨(p + 1 + mid.length + 1 + t.length + 1 + c.length + ".yaml".toList.length,
    [(2, p + 1 + mid.length + 1 + t.length + 1, p + 1 + mid.length + 1 + t.length + 1 + c.length),
      (1, p + 1 + mid.length + 1, p + 1 + mid.length + 1 + t.length)]), ?_⟩
  refine Regex.mem_matchFrom_seq.mpr ⟨_, Regex.mem_matchFrom_char.mpr
    ⟨getElem?_of_drop_eq_cons hdrop, rfl⟩, Regex.mem_matchFrom_seq.mpr ⟨_, hstar, ?_⟩⟩
  refine Regex.mem_matchFrom_seq.mpr ⟨_, Regex.mem_matchFrom_char.mpr
    ⟨getElem?_of_drop_eq_cons hd2, rfl⟩, Regex.mem_matchFrom_seq.mpr ⟨_,
      Regex.mem_matchFrom_group.mpr ⟨_, (Regex.mem_matchFrom_altOf htsNe').mpr
        ⟨lit t, List.mem_map_of_mem lit ht, Regex.mem_matchFrom_lit.mpr ⟨htype, rfl⟩⟩, rfl⟩, ?_⟩⟩
  refine Regex.mem_matchFrom_seq.mpr ⟨_, Regex.mem_matchFrom_char.mpr
    ⟨getElem?_of_drop_eq_cons hd4, rfl⟩, Regex.mem_matchFrom_seq.mpr ⟨_,
      Regex.mem_matchFrom_group.mpr ⟨_, (Regex.mem_matchFrom_altOf hcsNe').mpr
        ⟨lit c, List.mem_map_of_mem lit hc, Regex.mem_matchFrom_lit.mpr ⟨hcluster, rfl⟩⟩, rfl⟩, ?_⟩⟩
  refine Regex.mem_matchFrom_seqOf_chars.mpr ⟨hyaml, ?_⟩
  simp only [seqOf]
  exact Regex.mem_matchFrom_seq.mpr ⟨_, Regex.mem_matchFrom_lineEnd.mpr ⟨.inl hend, rfl⟩,
    by simp [Regex.matchFrom]⟩

/-- The last `/` of `{dir}/{name}` is the one before the name. -/
theorem drop_eq_slash_cons {dir name rest : List Char} {j : Nat} (hname : '/' ∉ name)
    (hrest : '/' ∉ rest) (h : (dir ++ '/' :: name).drop j = '/' :: rest) :
    j = dir.length ∧ rest = name := by
  rcases Nat.lt_trichotomy j dir.length with hj | rfl | hj
  · rw [List.drop_append_of_le_length hj.le] at h
    obtain ⟨d, ds, hds⟩ := List.exists_cons_of_ne_nil
      (by simpa [List.drop_eq_nil_iff] using hj : dir.drop j ≠ [])
    rw [hds, List.cons_append, List.cons.injEq] at h
    exact absurd (h.2 ▸ List.mem_append_right ds (List.mem_cons_self '/' name)) hrest
  · rw [List.drop_left] at h
    exact ⟨rfl, (List.cons.inj h).2.symm⟩
  · obtain ⟨k, hk⟩ := Nat.exists_eq_add_of_lt hj
    rw [List.drop_append_eq_append_drop, List.drop_eq_nil_of_le hj.le, List.nil_append,
      show j - dir.length = k + 1 by omega, List.drop_succ_cons] at h
    exact absurd (List.mem_of_mem_drop (h ▸ List.mem_cons_self '/' rest)) hname

/-- A name `{t}-{c}.yaml` with no `-` in `t` names one type and one cluster. -/
theorem decode_unique {t t' c c' : List Char} (ht : '-' ∉ t) (ht' : '-' ∉ t')
    (h : t ++ '-' :: c = t' ++ '-' :: c') : t = t' ∧ c = c' := by
  induction t generalizing t' with
  | nil =>
      cases t' with
      | nil => simpa using h
      | cons x t' =>
          obtain ⟨rfl, -⟩ := List.cons.inj h
          exact absurd (List.mem_cons_self _ _) ht'
  | cons x t ih =>
      cases t' with
      | nil =>
          obtain ⟨rfl, -⟩ := List.cons.inj h
          exact absurd (List.mem_cons_self _ _) ht
      | cons y t' =>
          obtain ⟨rfl, htail⟩ := List.cons.inj h
          obtain ⟨rfl, rfl⟩ := ih (fun hm => ht (List.mem_cons_of_mem x hm))
            (fun hm => ht' (List.mem_cons_of_mem x hm)) htail
          exact ⟨rfl, rfl⟩

/-- Searching `{pre}/{service}/{name}` with the pattern of literal names: a match reads the name
as `{t}-{c}.yaml` for an accepted type and a configured cluster, and its group 2 is `c`; and
every such name is matched. -/
theorem search_deployFileRegex {pre service name : List Char}
    (hts : ∀ t ∈ ts, '/' ∉ t) (hcs : ∀ c ∈ cs, '/' ∉ c) (htsNe : ts ≠ []) (hcsNe : cs ≠ [])
    (hservice : '\n' ∉ service) (hname : '/' ∉ name) (hyaml : ".yaml".toList <:+ name) :
    (∀ m, (Pattern.mk (deployFileRegex ts cs) 2).search (pre ++ '/' :: service ++ '/' :: name) =
        some m → ∃ t ∈ ts, ∃ c ∈ cs, name = t ++ '-' :: (c ++ ".yaml".toList) ∧
          m.group 2 = .ok (some ⟨c⟩)) ∧
      ((∃ t ∈ ts, ∃ c ∈ cs, name = t ++ '-' :: (c ++ ".yaml".toList)) →
        ((Pattern.mk (deployFileRegex ts cs) 2).search
          (pre ++ '/' :: service ++ '/' :: name)).isSome) := by
  constructor
  · intro m hm
    obtain ⟨hstring, hgroups, o, ho, hcaps⟩ := Pattern.search_sound hm
    obtain ⟨j, t, c, tail, ht, hc, hdrop, htail, ho2⟩ := deployFileRegex_sound htsNe hcsNe ho
    have hrest : '/' ∉ t ++ '-' :: (c ++ (".yaml".toList ++ tail)) := by
      rcases htail with rfl | rfl <;> simp [hts t ht, hcs c hc]
    obtain ⟨-, hnameEq⟩ := drop_eq_slash_cons hname hrest hdrop
    obtain rfl : tail = [] := by
      rcases htail with rfl | rfl
      · rfl
      · rw [← hnameEq, ← List.reverse_prefix] at hyaml
        simp at hyaml
    have hcluster : (pre ++ '/' :: service ++ '/' :: name).drop (j + 1 + t.length + 1) =
        c ++ ".yaml".toList := by
      have hdropType := drop_add_of_drop_eq (show _ = ['/'] ++ _ from hdrop)
      have hdropDash := drop_add_of_drop_eq hdropType
      exact drop_add_of_drop_eq (show _ = ['-'] ++ _ from hdropDash)
    refine ⟨t, ht, c, hc, by simpa using hnameEq.symm, ?_⟩
    simp only [List.append_assoc, List.cons_append] at hcluster
    simp [Match.group, hgroups, hcaps, ho2, hstring, slice, hcluster, List.take_left', pure,
      Except.pure]
  · rintro ⟨t, ht, c, hc, rfl⟩
    have hdrop : (pre ++ '/' :: service ++ '/' :: (t ++ '-' :: (c ++ ".yaml".toList))).drop
        pre.length = '/' :: (service ++ '/' :: (t ++ '-' :: (c ++ ".yaml".toList))) := by
      simp
    obtain ⟨o, ho⟩ := deployFileRegex_complete htsNe hcsNe hdrop hservice ht hc
    exact Pattern.search_isSome (by simp) ho

end Matching

section Files

variable {fs : FileSystem}

theorem mapM_joinItem_strs (names : List String) (n : Nat) :
    ((names.map Value.str).enumFrom n).mapM joinItem = .ok names := by
  induction names generalizing n with
  | nil => rfl
  | cons s names ih =>
      rw [List.map_cons, List.enumFrom_cons, List.mapM_cons, ih]
      rfl

theorem pyJoinItems_strs (names : List String) (sep : String) :
    (Value.list (names.map .str)).pyJoinItems sep = .ok (pyJoin sep names) := by
  unfold Value.pyJoinItems
  rw [show (Value.list (names.map .str)).iter = .ok (names.map .str) from rfl, ok_bind, List.enum,
    mapM_joinItem_strs, ok_bind]
  rfl

theorem osPathJoin_toList {soaDir service : String} (hsoa : soaDir ≠ "")
    (hservice : '/' ∉ service.toList) :
    ∃ pre, (osPathJoin soaDir service).toList = pre ++ '/' :: service.toList := by
  have hempty : (soaDir == "") = false := by simpa using hsoa
  unfold osPathJoin
  rw [startswith_slash_eq_false hservice, hempty]
  by_cases hslash : endswith soaDir "/" = true
  · obtain ⟨pre, hpre⟩ := List.isSuffixOf_iff_suffix.mp hslash
    refine ⟨pre, ?_⟩
    simp only [String.toList] at hpre ⊢
    simp [hslash, ← hpre]
  · exact ⟨soaDir.toList, by simp [hslash, String.toList]⟩

theorem hasMagic_osPathJoin {a b : String} (ha : hasMagic a = false) (hb : hasMagic b = false) :
    hasMagic (osPathJoin a b) = false := by
  unfold osPathJoin
  split_ifs <;> simp [hasMagic_append, ha, hb, show hasMagic "/" = false from rfl]

/-- A path that ends in `/` and a non-empty name without `/` is not empty and does not end in
`/`. -/
theorem endswith_slash_of_toList {path name : String} {pre : List Char}
    (h : path.toList = pre ++ '/' :: name.toList) (hname : name ≠ "" ∧ '/' ∉ name.toList) :
    path ≠ "" ∧ endswith path "/" = false := by
  obtain ⟨init, x, hlast⟩ := (List.eq_nil_or_concat name.toList).resolve_left
    fun hnil => hname.1 (String.ext hnil)
  rw [List.concat_eq_append] at hlast
  have hx : x ≠ '/' := fun hx => hname.2 (by
    rw [hlast, hx]; exact List.mem_append_right _ (List.mem_singleton_self _))
  refine ⟨fun hpath => by simp [hpath] at h, ?_⟩
  simp only [endswith, List.isSuffixOf, h, hlast]
  simp [List.isPrefixOf, Ne.symm hx]

theorem yamlName_iff {name t c : String} :
    name = t ++ "-" ++ c ++ ".yaml" ↔
      name.toList = t.toList ++ '-' :: (c.toList ++ ".yaml".toList) := by
  rw [← String.toList_inj]
  simp [String.toList]

/-- With literal names, the body of the loop yields `(c, path)` for a file that opens and whose
name is `{t}-{c}.yaml`, and nothing for any other file. -/
theorem deployFile_literal {types clusters : List String} {dir name : String}
    {pre service : List Char}
    (htypes : ∀ t ∈ types, LiteralName t ∧ '-' ∉ t.toList)
    (hclusters : ∀ c ∈ clusters, LiteralName c) (htypesNe : types ≠ [])
    (hclustersNe : clusters ≠ []) (hdir : dir.toList = pre ++ '/' :: service)
    (hservice : '\n' ∉ service) (hname : '/' ∉ name.toList) (hyaml : endswith name ".yaml" = true) :
    ∃ found, deployFile fs (deploySearchRe (pyJoin "|" types) (pyJoin "|" clusters))
        (dir ++ "/" ++ name) = .ok found ∧
      ∀ x, x ∈ found ↔ fs.readable (dir ++ "/" ++ name) = true ∧
        ∃ t ∈ types, ∃ c ∈ clusters, name = t ++ "-" ++ c ++ ".yaml" ∧
          x = (some c, dir ++ "/" ++ name) := by
  have hts : ∀ t ∈ types.map String.toList, '/' ∉ t := by
    intro t ht hslash
    obtain ⟨t', ht', rfl⟩ := List.mem_map.mp ht
    exact ((htypes t' ht').1 '/' hslash).2 rfl
  have hcs : ∀ c ∈ clusters.map String.toList, '/' ∉ c := by
    intro c hc hslash
    obtain ⟨c', hc', rfl⟩ := List.mem_map.mp hc
    exact (hclusters c' hc' '/' hslash).2 rfl
  obtain ⟨hsound, hcomplete⟩ := @search_deployFileRegex (types.map String.toList)
    (clusters.map String.toList) pre service name.toList hts hcs (by simpa using htypesNe)
    (by simpa using hclustersNe) hservice hname (List.isSuffixOf_iff_suffix.mp hyaml)
  have hpath : (dir ++ "/" ++ name).toList = pre ++ '/' :: service ++ '/' :: name.toList := by
    simp only [String.toList, String.data_append] at hdir ⊢
    rw [hdir]
    simp
  have hre : reSearch (deploySearchRe (pyJoin "|" types) (pyJoin "|" clusters))
      (dir ++ "/" ++ name) = .ok ((Pattern.mk (deployFileRegex (types.map String.toList)
        (clusters.map String.toList)) 2).search (pre ++ '/' :: service ++ '/' :: name.toList)) := by
    rw [reSearch, compile_deploySearchRe (fun t ht => (htypes t ht).1) hclusters htypesNe
      hclustersNe, ok_bind, hpath]
    rfl
  unfold deployFile
  by_cases hread : fs.readable (dir ++ "/" ++ name) = true
  · rw [if_pos hread, hre, ok_bind]
    cases hm : (Pattern.mk (deployFileRegex (types.map String.toList)
        (clusters.map String.toList)) 2).search (pre ++ '/' :: service ++ '/' :: name.toList) with
    | none =>
        refine ⟨[], rfl, fun x => ?_⟩
        simp only [List.not_mem_nil, false_iff, not_and, not_exists]
        intro _ t ht c hc hnameEq
        have hsome := hcomplete ⟨t.toList, List.mem_map_of_mem _ ht, c.toList,
          List.mem_map_of_mem _ hc, yamlName_iff.mp hnameEq⟩
        rw [hm] at hsome
        exact absurd hsome (by simp)
    | some m =>
        obtain ⟨t, ht, c, hc, hnameEq, hgroup⟩ := hsound m hm
        obtain ⟨t, ht', rfl⟩ := List.mem_map.mp ht
        obtain ⟨c, hc', rfl⟩ := List.mem_map.mp hc
        refine ⟨[(some c, dir ++ "/" ++ name)], by simp [hgroup, pure, Except.pure], fun x => ?_⟩
        constructor
        · rintro hx
          rw [List.mem_singleton.mp hx]
          exact ⟨hread, t, ht', c, hc', yamlName_iff.mpr hnameEq, rfl⟩
        · rintro ⟨-, t'', ht'', c'', hc'', hnameEq', rfl⟩
          obtain ⟨-, hsuffix⟩ := decode_unique (htypes t ht').2 (htypes t'' ht'').2
            (hnameEq.symm.trans (yamlName_iff.mp hnameEq'))
          rw [String.toList_inj.mp (List.append_cancel_right hsuffix)]
          exact List.mem_singleton_self _
  · rw [if_neg hread]
    exact ⟨[], rfl, by simp [hread]⟩

/-- The loop yields, in order, what the body yields for each file. -/
theorem deployFilesLoop_map {searchRe dir : String} {names : List String}
    {spec : String → Option String × String → Prop}
    (h : ∀ name ∈ names, ∃ found, deployFile fs searchRe (dir ++ "/" ++ name) = .ok found ∧
      ∀ x, x ∈ found ↔ spec name x) :
    ∃ out, deployFilesLoop fs searchRe (names.map fun name => dir ++ "/" ++ name) = .ok out ∧
      ∀ x, x ∈ out ↔ ∃ name ∈ names, spec name x := by
  induction names with
  | nil => exact ⟨[], rfl, by simp⟩
  | cons name names ih =>
      obtain ⟨found, hfound, hspec⟩ := h name (List.mem_cons_self _ _)
      obtain ⟨out, hout, hmem⟩ := ih fun n hn => h n (List.mem_cons_of_mem _ hn)
      refine ⟨found ++ out, by simp [deployFilesLoop, hfound, hout, pure, Except.pure], fun x => ?_⟩
      simp [hspec, hmem]

theorem mapM_id_map_some {β : Type} (l : List β) : (l.map some).mapM id = some l := by
  induction l with
  | nil => rfl
  | cons b l ih =>
      rw [List.map_cons, List.mapM_cons, ih]
      rfl

theorem map_eq_map_some_filterMap {α β : Type} {l : List α} {f : α → Option β}
    (h : ∀ x ∈ l, (f x).isSome) : l.map f = (l.filterMap f).map some := by
  induction l with
  | nil => rfl
  | cons x l ih =>
      obtain ⟨b, hb⟩ := Option.isSome_iff_exists.mp (h x (List.mem_cons_self x l))
      simp [hb, ih fun y hy => h y (List.mem_cons_of_mem x hy)]

/-- `glob` lists every name `{t}-{c}.yaml` for a literal type `t`: it ends in `.yaml` and is not
hidden. -/
theorem yamlName_visible {t c : String} (ht : LiteralName t) :
    (endswith (t ++ "-" ++ c ++ ".yaml") ".yaml" && !ishidden (t ++ "-" ++ c ++ ".yaml")) =
      true := by
  have hend : endswith (t ++ "-" ++ c ++ ".yaml") ".yaml" = true :=
    List.isSuffixOf_iff_suffix.mpr ⟨t.toList ++ '-' :: c.toList, by simp [String.toList]⟩
  have hstart : ishidden (t ++ "-" ++ c ++ ".yaml") = false := by
    unfold ishidden startswith
    cases h : t.toList with
    | nil => simp [String.toList] at h ⊢; simp [h, List.isPrefixOf]
    | cons x rest =>
        have hx : x ≠ '.' := by
          rintro rfl
          exact (ht '.' (by rw [h]; exact List.mem_cons_self _ _)).1 (by decide)
        simp [String.toList] at h ⊢
        simp [h, List.isPrefixOf, Ne.symm hx]
  simp [hend, hstart]

/-- For literal, non-empty lists of instance types and cluster names, instance types without
`-`, a non-empty `soa_dir` and a non-empty service name without `/` or newline, neither of them
holding a character `glob` expands, `list_clusters` returns the configured clusters `c` for
which the service's directory holds a readable `{t}-{c}.yaml`, `t` an accepted type: sorted,
without duplicates, and nothing else. -/
theorem listClusters_eq_deployedClusters {consts : PaastaConst} {system : SystemPaastaConfig}
    {service soaDir : String} {instanceType : Option String} {clusters : List String}
    (hclusters : system.getClusters = .ok (.list (clusters.map .str)))
    (hclustersNe : clusters ≠ []) (hclusterNames : ∀ c ∈ clusters, LiteralName c)
    (htypesNe : consts.INSTANCE_TYPES ≠ [])
    (htypeNames : ∀ t ∈ consts.INSTANCE_TYPES, LiteralName t ∧ '-' ∉ t.toList)
    (hsoa : soaDir ≠ "")
    (hservice : service ≠ "" ∧ '/' ∉ service.toList ∧ '\n' ∉ service.toList)
    (plain : hasMagic soaDir = false ∧ hasMagic service = false) :
    listClusters fs consts system service soaDir instanceType =
      .ok ((deployedClusters fs (selectedInstanceTypes consts instanceType) clusters
        (osPathJoin soaDir service)).map some) := by
  have hsel : ∀ t ∈ selectedInstanceTypes consts instanceType, t ∈ consts.INSTANCE_TYPES :=
    fun _ => mem_of_mem_selectedInstanceTypes
  obtain ⟨pre, hdir⟩ := osPathJoin_toList hsoa hservice.2.1
  obtain ⟨dirNe, dirSlash⟩ := endswith_slash_of_toList hdir ⟨hservice.1, hservice.2.1⟩
  have hglob := @glob_yaml _ fs dirNe dirSlash (hasMagic_osPathJoin plain.1 plain.2)
  obtain ⟨out, hout, hmem⟩ := @deployFilesLoop_map fs
    (deploySearchRe (pyJoin "|" (selectedInstanceTypes consts instanceType)) (pyJoin "|" clusters))
    (osPathJoin soaDir service)
    ((fs.listdir (osPathJoin soaDir service)).filter fun name =>
      endswith name ".yaml" && !ishidden name) _
    fun name hname => by
      rw [List.mem_filter, Bool.and_eq_true] at hname
      exact deployFile_literal (fun t ht => htypeNames t (hsel t ht)) hclusterNames
        (selectedInstanceTypes_ne_nil htypesNe) hclustersNe hdir hservice.2.2
        (fs.listdir_wf _ name hname.1).2 hname.2.1
  have hget : getSoaClusterDeployFiles fs consts system service soaDir instanceType = .ok out := by
    rw [getSoaClusterDeployFiles, hclusters, ok_bind, pyJoinItems_strs, ok_bind,
      instanceTypesPattern_eq, hglob, ok_bind]
    exact hout
  have hsome : ∀ x ∈ out, x.1.isSome := by
    intro x hx
    obtain ⟨_, _, _, _, _, _, _, _, rfl⟩ := (hmem x).mp hx
    rfl
  have hfound : ∀ c, c ∈ out.filterMap Prod.fst ↔ c ∈ clusters ∧
      ((selectedInstanceTypes consts instanceType).any fun t =>
        (fs.listdir (osPathJoin soaDir service)).any fun name =>
          name == t ++ "-" ++ c ++ ".yaml" &&
            fs.readable (osPathJoin soaDir service ++ "/" ++ name)) = true := by
    intro c
    simp only [List.mem_filterMap, hmem, List.any_eq_true, Bool.and_eq_true, beq_iff_eq]
    constructor
    · rintro ⟨x, ⟨name, hname, hread, t, ht, c', hc', rfl, rfl⟩, hc⟩
      obtain rfl := Option.some.inj hc
      exact ⟨hc', t, ht, _, (List.mem_filter.mp hname).1, rfl, hread⟩
    · rintro ⟨hc, t, ht, name, hname, rfl, hread⟩
      exact ⟨_, ⟨_, List.mem_filter.mpr ⟨hname, yamlName_visible (htypeNames t (hsel t ht)).1⟩,
        hread, t, ht, c, hc, rfl, rfl⟩, rfl⟩
  rw [listClusters, hget, ok_bind, map_eq_map_some_filterMap hsome,
    List.dedup_map_of_injective (Option.some_injective _)]
  simp only [sortedClusters, mapM_id_map_some]
  congr 2
  apply List.eq_of_perm_of_sorted _ (List.sorted_insertionSort _ _) (List.sorted_insertionSort _ _)
  refine (List.perm_insertionSort _ _).trans (List.Perm.trans ?_ (List.perm_insertionSort _ _).symm)
  exact (List.perm_ext_iff_of_nodup (List.nodup_dedup _) (List.nodup_dedup _)).mpr fun c => by
    simp only [List.mem_dedup, hfound, List.mem_filter]

/-- A file system whose directory `/soa/svc` holds the readable files `names`. -/
def FileSystem.serviceDir (names : List String) : FileSystem :=
  .ofDirs [("/soa/svc", names)]

/-- A system configuration whose `clusters` are `clusters`. -/
def SystemPaastaConfig.withClusters (clusters : List String) : SystemPaastaConfig :=
  ⟨.dict [("clusters", .list (clusters.map .str))], "/etc/paasta"⟩

theorem listClusters_eq_deployedClusters_norcal :
    SystemPaastaConfig.getClusters (.withClusters ["norcal", "pnw-prod"]) =
        .ok (.list (["norcal", "pnw-prod"].map .str)) ∧
      ["norcal", "pnw-prod"] ≠ [] ∧ (∀ c ∈ ["norcal", "pnw-prod"], LiteralName c) ∧
      PaastaConst.example.INSTANCE_TYPES ≠ [] ∧
      (∀ t ∈ PaastaConst.example.INSTANCE_TYPES, LiteralName t ∧ '-' ∉ t.toList) ∧
      "/soa" ≠ "" ∧ ("svc" ≠ "" ∧ '/' ∉ "svc".toList ∧ '\n' ∉ "svc".toList) ∧
      (hasMagic "/soa" = false ∧ hasMagic "svc" = false) ∧
      listClusters (.serviceDir ["marathon-norcal.yaml", "tron-norcal.yaml", "README.md"]) .example
          (.withClusters ["norcal", "pnw-prod"]) "svc" "/soa" none =
        .ok ((deployedClusters (.serviceDir ["marathon-norcal.yaml", "tron-norcal.yaml", "README.md"])
          (selectedInstanceTypes .example none) ["norcal", "pnw-prod"]
          (osPathJoin "/soa" "svc")).map some) :=
  ⟨rfl, by decide, by decide, by decide, by decide, by decide, by decide, by decide,
    listClusters_eq_deployedClusters rfl (by decide) (by decide) (by decide) (by decide) (by decide)
      (by decide) (by decide)⟩

/-- `list_clusters` reads cluster names as patterns: with the configured cluster `pnw.prod`, the
file `marathon-pnwXprod.yaml` gives the cluster `pnwXprod`; with no cluster configured,
`marathon-.yaml` gives the cluster `""`. Neither is a configured cluster with such a file. -/
theorem listClusters_reads_names_as_patterns :
    listClusters (.serviceDir ["marathon-pnwXprod.yaml"]) .example (.withClusters ["pnw.prod"])
        "svc" "/soa" none = .ok [some "pnwXprod"] ∧
      deployedClusters (.serviceDir ["marathon-pnwXprod.yaml"]) ["marathon"] ["pnw.prod"]
        "/soa/svc" = [] ∧
      listClusters (.serviceDir ["marathon-.yaml"]) .example (.withClusters []) "svc" "/soa" none =
        .ok [some ""] ∧
      deployedClusters (.serviceDir ["marathon-.yaml"]) ["marathon"] [] "/soa/svc" = [] :=
  ⟨rfl, by decide, rfl, by decide⟩

end Files

end PaastaConfig
