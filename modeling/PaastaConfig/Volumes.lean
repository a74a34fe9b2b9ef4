import PaastaConfig.Basic
import Mathlib.Data.Prod.Lex
import Mathlib.Data.List.Dedup

/-!
# Docker volumes

`_reorder_docker_volumes(volumes)` drops duplicate volumes and sorts the rest. Its dict
comprehension, keyed by `containerPath.rstrip("/") + hostPath.rstrip("/")`, keeps for each key
the last volume with it, at the place of the key's first occurrence; `sort_dicts` then sorts
the kept volumes by their items. `InstanceConfig.get_volumes` applies it to the system
volumes followed by the instance's extra volumes, and
`SystemPaastaConfig.get_hacheck_sidecar_volumes` to the configured sidecar volumes.

The output holds one volume per key, the last with that key, in strictly increasing order
(`reorderDockerVolumes_spec`); the reordering is idempotent and, when the volumes sharing a key
are equal, independent of the order of its input (`reorderDockerVolumes_canonical`). The key
joins the two paths with nothing between them, so two mounts with different paths can share a
key, and then one of them is dropped (`reorderDockerVolumes_merges_colliding_paths`).

A volume is modelled by its three string fields, and `get_extra_volumes()` is taken to return
such volumes.
-/

namespace PaastaConfig

/-- `DockerVolume`: a dict of `containerPath`, `hostPath` and `mode`. -/
structure DockerVolume where
  /-- `containerPath`. -/
  containerPath : String
  /-- `hostPath`. -/
  hostPath : String
  /-- `mode`. -/
  mode : String
  deriving DecidableEq, Repr

/-- `s.rstrip(chars)`: `s` without its trailing characters that occur in `chars`. -/
def rstrip (s chars : String) : String :=
  ⟨(s.toList.reverse.dropWhile fun c => c ∈ chars.toList).reverse⟩

namespace DockerVolume

/-- The key of the dict comprehension of `_reorder_docker_volumes`. -/
def dedupKey (v : DockerVolume) : String :=
  rstrip v.containerPath "/" ++ rstrip v.hostPath "/"

/-- `key(dct)` of `sort_dicts`, `tuple(sorted(dct.items()))`: the items sort by name,
`containerPath` before `hostPath` before `mode`, so the tuples compare the three values
lexicographically. -/
def sortKey (v : DockerVolume) : Lex (List Char × Lex (List Char × List Char)) :=
  toLex (v.containerPath.toList, toLex (v.hostPath.toList, v.mode.toList))

/-- The order `sorted(dcts, key=key)` sorts by. -/
def SortLe (a b : DockerVolume) : Prop := a.sortKey ≤ b.sortKey

instance : DecidableRel SortLe := fun a b => inferInstanceAs (Decidable (a.sortKey ≤ b.sortKey))

theorem sortKey_injective : Function.Injective sortKey := by
  rintro ⟨c, h, m⟩ ⟨c', h', m'⟩ e
  simp only [sortKey, toLex_inj, Prod.mk.injEq] at e
  obtain ⟨ec, eh, em⟩ := e
  rw [String.ext ec, String.ext eh, String.ext em]

instance : IsTotal DockerVolume SortLe := ⟨fun a b => le_total a.sortKey b.sortKey⟩

instance : IsTrans DockerVolume SortLe := ⟨fun _ _ _ => le_trans⟩

instance : IsAntisymm DockerVolume SortLe :=
  ⟨fun _ _ hab hba => sortKey_injective (le_antisymm hab hba)⟩

end DockerVolume

/-- `sort_dicts(dcts)` on volumes: `sorted(dcts, key=key)`, a stable sort. -/
def sortDicts (dcts : List DockerVolume) : List DockerVolume :=
  dcts.insertionSort DockerVolume.SortLe

/-- `d[key] = value` on a dict given as its items in insertion order: a present key keeps its
place, a new one goes last. -/
def setItem {α : Type} : List (String × α) → String → α → List (String × α)
  | [], key, value => [(key, value)]
  | (k, v) :: rest, key, value =>
      if k = key then (key, value) :: rest else (k, v) :: setItem rest key value

/-- One iteration of the comprehension `{key(v): v for v in volumes}`. -/
def dedupStep (deduped : List (String × DockerVolume)) (v : DockerVolume) :
    List (String × DockerVolume) :=
  setItem deduped v.dedupKey v

/-- `{key(v): v for v in volumes}.values()`. -/
def dedupVolumes (volumes : List DockerVolume) : List DockerVolume :=
  (volumes.foldl dedupStep []).map Prod.snd

/-- `_reorder_docker_volumes(volumes)`. -/
def reorderDockerVolumes (volumes : List DockerVolume) : List DockerVolume :=
  sortDicts (dedupVolumes volumes)

/-- `InstanceConfig.get_volumes(system_volumes)`, given the instance's extra volumes. -/
def getVolumes (systemVolumes extraVolumes : List DockerVolume) : List DockerVolume :=
  reorderDockerVolumes (systemVolumes ++ extraVolumes)

section SetItem

variable {α : Type} {d : List (String × α)} {key : String} {value : α} {p : String × α}

theorem mem_setItem (h : p ∈ setItem d key value) : p = (key, value) ∨ p ∈ d := by
  induction d with
  | nil => simpa [setItem] using h
  | cons q rest ih =>
      obtain ⟨k, v⟩ := q
      by_cases hk : k = key
      · simp only [setItem, hk, if_true, List.mem_cons] at h
        exact h.imp_right (.tail _)
      · simp only [setItem, hk, if_false, List.mem_cons] at h
        rcases h with h | h
        · exact .inr (h ▸ .head _)
        · exact (ih h).imp_right (.tail _)

theorem mem_setItem_self : (key, value) ∈ setItem d key value := by
  induction d with
  | nil => simp [setItem]
  | cons q rest ih =>
      obtain ⟨k, v⟩ := q
      by_cases hk : k = key <;> simp [setItem, hk, ih]

theorem keys_setItem : (setItem d key value).map Prod.fst =
    if key ∈ d.map Prod.fst then d.map Prod.fst else d.map Prod.fst ++ [key] := by
  induction d with
  | nil => simp [setItem]
  | cons q rest ih =>
      obtain ⟨k, v⟩ := q
      by_cases hk : k = key
      · simp [setItem, hk]
      · simp only [setItem, hk, if_false, List.map_cons, ih, List.mem_cons, Ne.symm hk,
          false_or]
        split <;> rfl

theorem nodup_keys_setItem (hd : (d.map Prod.fst).Nodup) :
    ((setItem d key value).map Prod.fst).Nodup := by
  rw [keys_setItem]
  split
  · exact hd
  · exact List.nodup_append.mpr ⟨hd, List.nodup_singleton _, List.disjoint_singleton.mpr ‹_›⟩

theorem setItem_of_not_mem (h : key ∉ d.map Prod.fst) :
    setItem d key value = d ++ [(key, value)] := by
  induction d with
  | nil => rfl
  | cons q rest ih =>
      obtain ⟨k, v⟩ := q
      simp only [List.map_cons, List.mem_cons, not_or] at h
      simp [setItem, Ne.symm h.1, ih h.2]

/-- With distinct keys, the one item of `setItem` under its key is the new one. -/
theorem eq_of_mem_setItem (hd : (d.map Prod.fst).Nodup) (h : p ∈ setItem d key value)
    (hp : p.1 = key) : p = (key, value) :=
  List.inj_on_of_nodup_map (nodup_keys_setItem hd) h mem_setItem_self hp

theorem exists_key_setItem (h : p ∈ d) : ∃ q ∈ setItem d key value, q.1 = p.1 := by
  by_cases hk : p.1 = key
  · exact ⟨(key, value), mem_setItem_self, hk.symm⟩
  · induction d with
    | nil => simp at h
    | cons q rest ih =>
        obtain ⟨k, v⟩ := q
        by_cases hq : k = key
        · rcases List.mem_cons.mp h with e | h
          · exact absurd (by rw [e]; exact hq) hk
          · exact ⟨p, by simp [setItem, hq, h], rfl⟩
        · rcases List.mem_cons.mp h with e | h
          · exact ⟨p, by simp [setItem, hq, e], rfl⟩
          · obtain ⟨q, hq', e⟩ := ih h
            exact ⟨q, by simp [setItem, hq, hq'], e⟩

end SetItem

/-- What the comprehension keeps: distinct keys, each holding a volume with that key. -/
structure DedupInv (deduped : List (String × DockerVolume)) : Prop where
  /-- No key occurs twice. -/
  keys_nodup : (deduped.map Prod.fst).Nodup
  /-- Each volume sits under its own key. -/
  key_eq : ∀ p ∈ deduped, p.2.dedupKey = p.1

section Dedup

variable {d : List (String × DockerVolume)} {v : DockerVolume} {vs : List DockerVolume}
  {p : String × DockerVolume}

theorem DedupInv.empty : DedupInv [] := ⟨List.nodup_nil, nofun⟩

theorem DedupInv.step (hd : DedupInv d) : DedupInv (dedupStep d v) := by
  refine ⟨nodup_keys_setItem hd.keys_nodup, fun p hp => ?_⟩
  rcases mem_setItem hp with rfl | hp
  · rfl
  · exact hd.key_eq p hp

theorem DedupInv.foldl (hd : DedupInv d) : DedupInv (vs.foldl dedupStep d) := by
  induction vs generalizing d with
  | nil => exact hd
  | cons v vs ih => exact ih hd.step

theorem mem_foldl_dedupStep (h : p ∈ vs.foldl dedupStep d) : p ∈ d ∨ p.2 ∈ vs := by
  induction vs generalizing d with
  | nil => exact .inl h
  | cons v vs ih =>
      rcases ih h with h | h
      · rcases mem_setItem h with rfl | h
        · exact .inr (.head _)
        · exact .inl h
      · exact .inr (.tail _ h)

theorem exists_key_foldl {key : String}
    (h : (∃ q ∈ d, q.1 = key) ∨ ∃ v ∈ vs, v.dedupKey = key) :
    ∃ p ∈ vs.foldl dedupStep d, p.1 = key := by
  induction vs generalizing d with
  | nil => simpa using h
  | cons v vs ih =>
      apply ih
      rcases h with ⟨q, hq, rfl⟩ | ⟨u, hu, rfl⟩
      · exact .inl (exists_key_setItem hq)
      · rcases List.mem_cons.mp hu with rfl | hu
        · exact .inl ⟨_, mem_setItem_self, rfl⟩
        · exact .inr ⟨u, hu, rfl⟩

/-- The volume kept under a key that occurs in the input is the last volume with that
key. -/
theorem last_of_mem_foldl (hd : DedupInv d) (h : p ∈ vs.foldl dedupStep d)
    (hkey : ∃ u ∈ vs, u.dedupKey = p.1) :
    ∃ pre post, vs = pre ++ p.2 :: post ∧ ∀ u ∈ post, u.dedupKey ≠ p.1 := by
  induction vs generalizing d with
  | nil => simp at hkey
  | cons v vs ih =>
      by_cases hlater : ∃ u ∈ vs, u.dedupKey = p.1
      · obtain ⟨pre, post, rfl, hpost⟩ := ih hd.step h hlater
        exact ⟨v :: pre, post, rfl, hpost⟩
      · have hnot : ∀ u ∈ vs, u.dedupKey ≠ p.1 := fun u hu e => hlater ⟨u, hu, e⟩
        have hv : v.dedupKey = p.1 := by
          obtain ⟨u, hu, e⟩ := hkey
          rcases List.mem_cons.mp hu with rfl | hu
          · exact e
          · exact absurd e (hnot u hu)
        have hstep : p ∈ dedupStep d v := by
          have htail : p ∈ vs.foldl dedupStep (dedupStep d v) := h
          rcases mem_foldl_dedupStep htail with h' | h'
          · exact h'
          · exact absurd ((hd.step.foldl).key_eq p h) (hnot _ h')
        have hp := eq_of_mem_setItem hd.keys_nodup hstep hv.symm
        exact ⟨[], vs, by rw [hp]; rfl, hnot⟩

/-- Over volumes with distinct keys, the comprehension appends each in turn. -/
theorem foldl_dedupStep_of_pairwise
    (hnew : ∀ u ∈ vs, u.dedupKey ∉ d.map Prod.fst)
    (hvs : vs.Pairwise fun a b => a.dedupKey ≠ b.dedupKey) :
    vs.foldl dedupStep d = d ++ vs.map fun u => (u.dedupKey, u) := by
  induction vs generalizing d with
  | nil => simp
  | cons v vs ih =>
      rw [List.foldl_cons, dedupStep, setItem_of_not_mem (hnew v (.head _)), ih]
      · simp
      · intro u hu
        simp only [List.map_append, List.map_cons, List.map_nil, List.mem_append,
          List.mem_singleton, not_or]
        exact ⟨hnew u (.tail _ hu), fun e => (List.rel_of_pairwise_cons hvs hu) e.symm⟩
      · exact hvs.of_cons

theorem mem_dedupVolumes (h : v ∈ dedupVolumes vs) : v ∈ vs := by
  obtain ⟨p, hp, rfl⟩ := List.mem_map.mp h
  simpa using mem_foldl_dedupStep hp

theorem exists_mem_dedupVolumes (h : v ∈ vs) :
    ∃ w ∈ dedupVolumes vs, w.dedupKey = v.dedupKey := by
  obtain ⟨p, hp, e⟩ : ∃ p ∈ vs.foldl dedupStep [], p.1 = v.dedupKey :=
    exists_key_foldl (.inr ⟨v, h, rfl⟩)
  exact ⟨p.2, List.mem_map_of_mem _ hp, (DedupInv.empty.foldl.key_eq p hp).trans e⟩

theorem pairwise_dedupVolumes :
    (dedupVolumes vs).Pairwise fun a b => a.dedupKey ≠ b.dedupKey := by
  have hinv : DedupInv (vs.foldl dedupStep []) := DedupInv.empty.foldl
  have hkeys : (vs.foldl dedupStep []).Pairwise fun p q => p.1 ≠ q.1 :=
    List.pairwise_map.mp hinv.keys_nodup
  exact List.pairwise_map.mpr (hkeys.imp_of_mem fun ha hb ne => by
    rwa [hinv.key_eq _ ha, hinv.key_eq _ hb])

theorem last_of_mem_dedupVolumes (h : v ∈ dedupVolumes vs) :
    ∃ pre post, vs = pre ++ v :: post ∧ ∀ u ∈ post, u.dedupKey ≠ v.dedupKey := by
  obtain ⟨p, hp, rfl⟩ := List.mem_map.mp h
  have hkey := DedupInv.empty.foldl.key_eq p hp
  rw [hkey]
  exact last_of_mem_foldl DedupInv.empty hp
    ⟨p.2, by simpa using mem_foldl_dedupStep hp, hkey⟩

theorem dedupVolumes_of_pairwise (hvs : vs.Pairwise fun a b => a.dedupKey ≠ b.dedupKey) :
    dedupVolumes vs = vs := by
  rw [dedupVolumes, foldl_dedupStep_of_pairwise (by simp) hvs]
  simp [Function.comp_def]

end Dedup

section Sorting

variable {vs ws : List DockerVolume}

theorem sorted_sortDicts : (sortDicts vs).Sorted DockerVolume.SortLe :=
  List.sorted_insertionSort _ _

theorem perm_sortDicts : (sortDicts vs).Perm vs := List.perm_insertionSort _ _

theorem sortDicts_eq_of_perm (h : ws.Perm vs) : sortDicts ws = sortDicts vs :=
  List.eq_of_perm_of_sorted ((perm_sortDicts.trans h).trans perm_sortDicts.symm)
    sorted_sortDicts sorted_sortDicts

end Sorting

section Reorder

variable {vs ws : List DockerVolume} {v : DockerVolume}

theorem pairwise_dedupKey_reorderDockerVolumes :
    (reorderDockerVolumes vs).Pairwise fun a b => a.dedupKey ≠ b.dedupKey :=
  (perm_sortDicts.pairwise_iff fun h e => h e.symm).mpr pairwise_dedupVolumes

theorem pairwise_sortKey_reorderDockerVolumes :
    (reorderDockerVolumes vs).Pairwise fun a b => a.sortKey < b.sortKey :=
  (sorted_sortDicts.and pairwise_dedupKey_reorderDockerVolumes).imp fun ⟨hle, hne⟩ =>
    lt_of_le_of_ne hle fun e => hne (congrArg DockerVolume.dedupKey
      (DockerVolume.sortKey_injective e))

/-- For each key of the input, `_reorder_docker_volumes` keeps exactly one volume, the last one
with that key, and it returns them in strictly increasing order. -/
theorem reorderDockerVolumes_spec (vs : List DockerVolume) :
    (∀ v ∈ vs, ∃ w ∈ reorderDockerVolumes vs, w.dedupKey = v.dedupKey) ∧
    (∀ w ∈ reorderDockerVolumes vs, ∃ pre post,
      vs = pre ++ w :: post ∧ ∀ u ∈ post, u.dedupKey ≠ w.dedupKey) ∧
    (reorderDockerVolumes vs).Pairwise (fun a b => a.dedupKey ≠ b.dedupKey) ∧
    (reorderDockerVolumes vs).Pairwise (fun a b => a.sortKey < b.sortKey) := by
  refine ⟨fun v hv => ?_, fun w hw => ?_, pairwise_dedupKey_reorderDockerVolumes,
    pairwise_sortKey_reorderDockerVolumes⟩
  · obtain ⟨w, hw, e⟩ := exists_mem_dedupVolumes hv
    exact ⟨w, perm_sortDicts.mem_iff.mpr hw, e⟩
  · exact last_of_mem_dedupVolumes (perm_sortDicts.mem_iff.mp hw)

theorem reorderDockerVolumes_spec_nested :
    (∀ v ∈ [⟨"/a/", "/x", "RO"⟩, ⟨"/a", "/x/", "RW"⟩],
      ∃ w ∈ reorderDockerVolumes [⟨"/a/", "/x", "RO"⟩, ⟨"/a", "/x/", "RW"⟩],
        w.dedupKey = DockerVolume.dedupKey v) ∧
    (∀ w ∈ reorderDockerVolumes [⟨"/a/", "/x", "RO"⟩, ⟨"/a", "/x/", "RW"⟩], ∃ pre post,
      [⟨"/a/", "/x", "RO"⟩, ⟨"/a", "/x/", "RW"⟩] = pre ++ w :: post ∧
        ∀ u ∈ post, DockerVolume.dedupKey u ≠ w.dedupKey) ∧
    (reorderDockerVolumes [⟨"/a/", "/x", "RO"⟩, ⟨"/a", "/x/", "RW"⟩]).Pairwise
      (fun a b => a.dedupKey ≠ b.dedupKey) ∧
    (reorderDockerVolumes [⟨"/a/", "/x", "RO"⟩, ⟨"/a", "/x/", "RW"⟩]).Pairwise
      (fun a b => a.sortKey < b.sortKey) :=
  reorderDockerVolumes_spec _

theorem dedupVolumes_perm_dedup
    (hsame : ∀ a ∈ vs, ∀ b ∈ vs, a.dedupKey = b.dedupKey → a = b) :
    (dedupVolumes vs).Perm vs.dedup := by
  refine (List.perm_ext_iff_of_nodup ?_ (List.nodup_dedup vs)).mpr fun v => ?_
  · exact pairwise_dedupVolumes.imp fun hne e => hne (congrArg _ e)
  · rw [List.mem_dedup]
    refine ⟨mem_dedupVolumes, fun hv => ?_⟩
    obtain ⟨w, hw, e⟩ := exists_mem_dedupVolumes hv
    rwa [← hsame w (mem_dedupVolumes hw) v hv e]

/-- `_reorder_docker_volumes` is a canonical form: idempotent, strictly increasing under the
sort key, one volume per key, and, when the volumes sharing a key are equal, independent of the
order of its input. -/
theorem reorderDockerVolumes_canonical (vs : List DockerVolume) :
    reorderDockerVolumes (reorderDockerVolumes vs) = reorderDockerVolumes vs ∧
    (reorderDockerVolumes vs).Pairwise (fun a b => a.sortKey < b.sortKey) ∧
    (reorderDockerVolumes vs).Pairwise (fun a b => a.dedupKey ≠ b.dedupKey) ∧
    ∀ ws, ws.Perm vs → (∀ a ∈ vs, ∀ b ∈ vs, a.dedupKey = b.dedupKey → a = b) →
      reorderDockerVolumes ws = reorderDockerVolumes vs := by
  refine ⟨?_, pairwise_sortKey_reorderDockerVolumes, pairwise_dedupKey_reorderDockerVolumes,
    fun ws hperm hsame => ?_⟩
  · rw [reorderDockerVolumes, dedupVolumes_of_pairwise pairwise_dedupKey_reorderDockerVolumes]
    exact sorted_sortDicts.insertionSort_eq
  · have hsame' : ∀ a ∈ ws, ∀ b ∈ ws, a.dedupKey = b.dedupKey → a = b :=
      fun a ha b hb => hsame a (hperm.mem_iff.mp ha) b (hperm.mem_iff.mp hb)
    exact sortDicts_eq_of_perm ((dedupVolumes_perm_dedup hsame').trans
      (hperm.dedup.trans (dedupVolumes_perm_dedup hsame).symm))

theorem reorderDockerVolumes_canonical_pair :
    reorderDockerVolumes (reorderDockerVolumes [⟨"/b", "/y", "RO"⟩, ⟨"/a", "/x", "RW"⟩]) =
        reorderDockerVolumes [⟨"/b", "/y", "RO"⟩, ⟨"/a", "/x", "RW"⟩] ∧
    (reorderDockerVolumes [⟨"/b", "/y", "RO"⟩, ⟨"/a", "/x", "RW"⟩]).Pairwise
      (fun a b => a.sortKey < b.sortKey) ∧
    (reorderDockerVolumes [⟨"/b", "/y", "RO"⟩, ⟨"/a", "/x", "RW"⟩]).Pairwise
      (fun a b => a.dedupKey ≠ b.dedupKey) ∧
    ∀ ws, ws.Perm [⟨"/b", "/y", "RO"⟩, ⟨"/a", "/x", "RW"⟩] →
      (∀ a ∈ [(⟨"/b", "/y", "RO"⟩ : DockerVolume), ⟨"/a", "/x", "RW"⟩],
        ∀ b ∈ [(⟨"/b", "/y", "RO"⟩ : DockerVolume), ⟨"/a", "/x", "RW"⟩],
          a.dedupKey = b.dedupKey → a = b) →
      reorderDockerVolumes ws = reorderDockerVolumes [⟨"/b", "/y", "RO"⟩, ⟨"/a", "/x", "RW"⟩] :=
  reorderDockerVolumes_canonical _

/-- Two volumes whose keys coincide are merged into the later one, whatever their paths. -/
theorem reorderDockerVolumes_merges_colliding_paths {a b : DockerVolume}
    (h : a.dedupKey = b.dedupKey) : reorderDockerVolumes [a, b] = [b] := by
  simp [reorderDockerVolumes, dedupVolumes, dedupStep, setItem, h, sortDicts]

theorem reorderDockerVolumes_merges_colliding_paths_mounts :
    (rstrip "/a" "/", rstrip "/b/c" "/") ≠ (rstrip "/a/b" "/", rstrip "/c" "/") ∧
      DockerVolume.dedupKey ⟨"/a", "/b/c", "RO"⟩ = DockerVolume.dedupKey ⟨"/a/b", "/c", "RO"⟩ ∧
      getVolumes [⟨"/a", "/b/c", "RO"⟩] [⟨"/a/b", "/c", "RO"⟩] = [⟨"/a/b", "/c", "RO"⟩] :=
  ⟨by decide, by decide, reorderDockerVolumes_merges_colliding_paths (by decide)⟩

end Reorder

end PaastaConfig
