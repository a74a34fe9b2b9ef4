import PaastaConfig.Basic

/-!
# The deep merge of configuration dicts

`deep_merge_dictionaries` lives in `paasta_tools.util.deep_merge`, which is not among the
sources, so it is modelled from the spec's `FragmentMerger` contract: dicts under a common
key merge recursively; two other values under a common key stay when they are equal, and
otherwise the duplicate-key policy decides. With `allow_duplicate_keys` the override wins
silently (the instance overlay, user config over auto config); without it the merge fails
with a `DuplicateKeyError` naming the key (the system layer). Lists are leaves: they are
replaced whole, never concatenated.

The model follows the loop the contract describes: it walks the items of the overrides and
inserts each into the result, which starts as the defaults. Keeping dicts in canonical order
(`Value.Canonical`), the result of a merge is determined by what happens at each key
(`mergeFields_toOption_eq_some_iff`), and the strict merge is commutative and associative as a
partial operation (`mergeEntry_comm`, `mergeEntry_assoc`). The system-config loader relies on
both to be independent of the order in which it reads its fragments.
-/

namespace PaastaConfig

/-- Modelled from the spec: insert `(key, value)` into dict items in key order; where `key` is
already present, `combine` computes its new value from the present one. -/
def insertWith (combine : Value → Except PyError Value) (key : String) (value : Value) :
    List (String × Value) → Except PyError (List (String × Value))
  | [] => pure [(key, value)]
  | (k, v) :: rest =>
      if KeyLt k key then ((k, v) :: ·) <$> insertWith combine key value rest
      else if k = key then (fun merged => (key, merged) :: rest) <$> combine v
      else pure ((key, value) :: (k, v) :: rest)

/-- Modelled from the spec: two values under `key` that are not both dicts. Equal values
stay; otherwise the override replaces the default when duplicate keys are allowed, and the
merge fails with a `DuplicateKeyError` naming the key when they are not. -/
def mergeLeaves (allowDuplicateKeys : Bool) (key : String) (override default : Value) :
    Except PyError Value :=
  if override = default ∨ allowDuplicateKeys = true then pure override
  else throw (.duplicateKey key)

mutual

/-- Modelled from the spec: the merge of the values that the overrides and the defaults hold
under `key`. Two dicts merge recursively, anything else is a leaf. -/
def mergeEntry (allowDuplicateKeys : Bool) (key : String) : Value → Value → Except PyError Value
  | .dict overrides, .dict defaults => .dict <$> mergeFields allowDuplicateKeys overrides defaults
  | override, default => mergeLeaves allowDuplicateKeys key override default

/-- Modelled from the spec: fold the items of the overrides into `result`, which starts as
the items of the defaults. -/
def mergeFields (allowDuplicateKeys : Bool) :
    List (String × Value) → List (String × Value) → Except PyError (List (String × Value))
  | [], result => pure result
  | (key, value) :: overrides, result => do
      let result ← insertWith (mergeEntry allowDuplicateKeys key value) key value result
      mergeFields allowDuplicateKeys overrides result

end

/-- Modelled from the spec: `deep_merge_dictionaries(overrides, defaults,
allow_duplicate_keys)` of `paasta_tools.util.deep_merge`, which is not among the sources.
Both arguments must be dicts: the overrides' items are iterated, and the defaults are
indexed by key. -/
def deepMergeDictionaries (overrides defaults : Value) (allowDuplicateKeys : Bool) :
    Except PyError Value :=
  match overrides, defaults with
  | .dict overrides, .dict defaults => .dict <$> mergeFields allowDuplicateKeys overrides defaults
  | .dict _, _ => throw (.typeError "defaults is not a dict")
  | _, _ => throw (.attributeError "items")

/-- What `insertWith` leaves under its key, given the value present there. -/
def insertAt (combine : Value → Except PyError Value) (value : Value) :
    Option Value → Except PyError Value
  | none => pure value
  | some present => combine present

/-- What the merge leaves under `key`, given the key's value in the overrides and in the
defaults. -/
def mergeAt (allowDuplicateKeys : Bool) (key : String) :
    Option Value → Option Value → Except PyError (Option Value)
  | none, present => pure present
  | some override, none => pure (some override)
  | some override, some present => some <$> mergeEntry allowDuplicateKeys key override present

section InsertWith

variable {combine : Value → Except PyError Value} {key : String} {value : Value}
  {result result' : List (String × Value)} {e : PyError}

theorem insertWith_ok (hs : KeysSorted result)
    (h : insertWith combine key value result = .ok result') :
    KeysSorted result' ∧ (∀ q ∈ result', q.1 = key ∨ (result.lookup q.1).isSome) ∧
      (∀ k, k ≠ key → result'.lookup k = result.lookup k) ∧
      ∃ merged, insertAt combine value (result.lookup key) = .ok merged ∧
        result'.lookup key = some merged := by
  induction result generalizing result' with
  | nil =>
      simp only [insertWith, pure, Except.pure, Except.ok.injEq] at h
      subst h
      refine ⟨List.pairwise_singleton _ _, by simp, fun k hk => by simp [hk], value, rfl, by simp⟩
  | cons p ps ih =>
      obtain ⟨k, v⟩ := p
      have hp := keysSorted_cons_iff.mp hs
      by_cases hlt : KeyLt k key
      · simp only [insertWith, hlt, if_true] at h
        cases hr : insertWith combine key value ps with
        | error e => simp [hr, Functor.map, Except.map] at h
        | ok r =>
            simp only [hr, Functor.map, Except.map, Except.ok.injEq] at h
            subst h
            obtain ⟨hsr, hkeys, hother, merged, hm, hl⟩ := ih hp.2 hr
            have hne : key ≠ k := fun e => keyLt_irrefl k (e ▸ hlt)
            refine ⟨keysSorted_cons_iff.mpr ⟨fun q hq => ?_, hsr⟩, fun q hq => ?_,
              fun k' hk' => ?_, merged, by simpa [hne] using hm, by simpa [hne] using hl⟩
            · rcases hkeys q hq with e | e
              · exact e ▸ hlt
              · obtain ⟨w, hw⟩ := Option.isSome_iff_exists.mp e
                exact hp.1 (q.1, w) (mem_of_lookup_eq_some hw)
            · rcases List.mem_cons.mp hq with e | e
              · simp [e]
              · rcases hkeys q e with e' | e'
                · exact .inl e'
                · by_cases hqk : q.1 = k <;> simp [hqk, e']
            · by_cases hk : k' = k
              · simp [hk]
              · simp [hk, hother k' hk']
      · by_cases heq : k = key
        · subst heq
          simp only [insertWith, hlt, if_false, if_true] at h
          cases hc : combine v with
          | error e => simp [hc, Functor.map, Except.map] at h
          | ok merged =>
              simp only [hc, Functor.map, Except.map, Except.ok.injEq] at h
              subst h
              refine ⟨keysSorted_cons_iff.mpr ⟨hp.1, hp.2⟩, fun q hq => ?_,
                fun k' hk' => by simp [hk'], merged, by simpa [insertAt] using hc, by simp⟩
              rcases List.mem_cons.mp hq with e | e
              · exact .inl (congrArg Prod.fst e)
              · exact .inr (lookup_isSome_of_mem (.tail _ e))
        · simp only [insertWith, hlt, heq, if_false, pure, Except.pure, Except.ok.injEq] at h
          subst h
          have hgt : KeyLt key k := by
            rcases keyLt_trichotomy key k with h' | h' | h'
            · exact h'
            · exact absurd h'.symm heq
            · exact absurd h' hlt
          have hnone : ((k, v) :: ps).lookup key = none :=
            lookup_eq_none_of_forall_lt fun q hq => by
              rcases List.mem_cons.mp hq with e | e
              · exact e ▸ hgt
              · exact keyLt_trans hgt (hp.1 _ e)
          refine ⟨keysSorted_cons_iff.mpr ⟨fun q hq => ?_, hs⟩, fun q hq => ?_,
            fun k' hk' => by simp [hk'], value, by simp [hnone, insertAt, pure, Except.pure], by simp⟩
          · rcases List.mem_cons.mp hq with e | e
            · exact e ▸ hgt
            · exact keyLt_trans hgt (hp.1 _ e)
          · rcases List.mem_cons.mp hq with e | e
            · exact .inl (congrArg Prod.fst e)
            · exact .inr (lookup_isSome_of_mem e)

theorem insertWith_error (hs : KeysSorted result)
    (h : insertWith combine key value result = .error e) :
    insertAt combine value (result.lookup key) = .error e := by
  induction result with
  | nil => simp [insertWith, pure, Except.pure] at h
  | cons p ps ih =>
      obtain ⟨k, v⟩ := p
      have hp := keysSorted_cons_iff.mp hs
      by_cases hlt : KeyLt k key
      · simp only [insertWith, hlt, if_true] at h
        have hne : key ≠ k := fun e => keyLt_irrefl k (e ▸ hlt)
        cases hr : insertWith combine key value ps with
        | error e' =>
            simp only [hr, Functor.map, Except.map, Except.error.injEq] at h
            subst h
            simpa [hne] using ih hp.2 hr
        | ok r => simp [hr, Functor.map, Except.map] at h
      · by_cases heq : k = key
        · subst heq
          simp only [insertWith, hlt, if_false, if_true] at h
          cases hc : combine v with
          | error e' =>
              simp only [hc, Functor.map, Except.map, Except.error.injEq] at h
              simp [insertAt, hc, h]
          | ok merged => simp [hc, Functor.map, Except.map] at h
        · simp [insertWith, hlt, heq, pure, Except.pure] at h

end InsertWith

section MergeFields

variable {allow : Bool} {overrides result merged : List (String × Value)} {e : PyError}

theorem mergeFields_ok (hos : KeysSorted overrides) (hrs : KeysSorted result)
    (h : mergeFields allow overrides result = .ok merged) :
    KeysSorted merged ∧
      ∀ k, mergeAt allow k (overrides.lookup k) (result.lookup k) = .ok (merged.lookup k) := by
  induction overrides generalizing result with
  | nil =>
      simp only [mergeFields, pure, Except.pure, Except.ok.injEq] at h
      exact h ▸ ⟨hrs, fun k => rfl⟩
  | cons p os ih =>
      obtain ⟨key, value⟩ := p
      have hp := keysSorted_cons_iff.mp hos
      cases hi : insertWith (mergeEntry allow key value) key value result with
      | error e' => simp [mergeFields, hi, bind, Except.bind] at h
      | ok inserted =>
          simp only [mergeFields, hi, bind, Except.bind] at h
          obtain ⟨hsi, -, hother, m, hm, hl⟩ := insertWith_ok hrs hi
          obtain ⟨hsm, hpoint⟩ := ih hp.2 hsi h
          refine ⟨hsm, fun k => ?_⟩
          by_cases hk : k = key
          · subst hk
            have atKey := hpoint k
            rw [hos.lookup_head, hl] at atKey
            simp only [mergeAt, pure, Except.pure, Except.ok.injEq] at atKey
            rw [← atKey]
            cases hr : result.lookup k with
            | none => simpa [hr, insertAt, mergeAt, pure, Except.pure] using hm
            | some present =>
                simp only [hr, insertAt] at hm
                simp [mergeAt, hm, Functor.map, Except.map]
          · simpa [hk, hother k hk] using hpoint k

theorem mergeFields_error (hos : KeysSorted overrides) (hrs : KeysSorted result)
    (h : mergeFields allow overrides result = .error e) :
    ∃ k, mergeAt allow k (overrides.lookup k) (result.lookup k) = .error e := by
  induction overrides generalizing result with
  | nil => simp [mergeFields, pure, Except.pure] at h
  | cons p os ih =>
      obtain ⟨key, value⟩ := p
      have hp := keysSorted_cons_iff.mp hos
      cases hi : insertWith (mergeEntry allow key value) key value result with
      | error e' =>
          simp only [mergeFields, hi, bind, Except.bind, Except.error.injEq] at h
          subst h
          have hat := insertWith_error hrs hi
          refine ⟨key, ?_⟩
          cases hr : result.lookup key with
          | none => simp [hr, insertAt, pure, Except.pure] at hat
          | some present =>
              simp only [hr, insertAt] at hat
              simp [mergeAt, hat, Functor.map, Except.map]
      | ok inserted =>
          simp only [mergeFields, hi, bind, Except.bind] at h
          obtain ⟨hsi, -, hother, -⟩ := insertWith_ok hrs hi
          obtain ⟨k, hk⟩ := ih hp.2 hsi h
          have hne : k ≠ key := by
            rintro rfl
            simp [hos.lookup_head, mergeAt, pure, Except.pure] at hk
          exact ⟨k, by simpa [hne, hother k hne] using hk⟩

/-- The merge of two canonical dicts succeeds with `merged` exactly when `merged` is canonical
and holds, under every key, what the merge at that key gives. -/
theorem mergeFields_toOption_eq_some_iff (hos : KeysSorted overrides)
    (hrs : KeysSorted result) :
    (mergeFields allow overrides result).toOption = some merged ↔
      KeysSorted merged ∧ ∀ k,
        (mergeAt allow k (overrides.lookup k) (result.lookup k)).toOption =
          some (merged.lookup k) := by
  constructor
  · intro h
    cases hm : mergeFields allow overrides result with
    | error e => simp [hm, Except.toOption] at h
    | ok m =>
        simp only [hm, Except.toOption, Option.some.injEq] at h
        subst h
        obtain ⟨hs, hpoint⟩ := mergeFields_ok hos hrs hm
        exact ⟨hs, fun k => by simp [hpoint k, Except.toOption]⟩
  · rintro ⟨hs, hpoint⟩
    cases hm : mergeFields allow overrides result with
    | error e =>
        obtain ⟨k, hk⟩ := mergeFields_error hos hrs hm
        simpa [hk, Except.toOption] using hpoint k
    | ok m =>
        obtain ⟨hsm, hpoint'⟩ := mergeFields_ok hos hrs hm
        have same : ∀ k, m.lookup k = merged.lookup k := fun k => by
          simpa [hpoint' k, Except.toOption] using hpoint k
        simp [Except.toOption, KeysSorted.ext hsm hs same]

end MergeFields

section Lift

variable {allow : Bool} {os ds cs m : List (String × Value)}

/-- A merge of canonical dicts is commutative when it is commutative at every key. -/
theorem mergeFields_comm_of_pointwise (hos : KeysSorted os) (hds : KeysSorted ds)
    (pointwise : ∀ k, (mergeAt allow k (os.lookup k) (ds.lookup k)).toOption =
      (mergeAt allow k (ds.lookup k) (os.lookup k)).toOption) :
    (mergeFields allow os ds).toOption = (mergeFields allow ds os).toOption :=
  Option.ext fun merged => by
    simp only [Option.mem_def, mergeFields_toOption_eq_some_iff hos hds,
      mergeFields_toOption_eq_some_iff hds hos, pointwise]

theorem mergeFields_bind_left_iff (hos : KeysSorted os) (hds : KeysSorted ds)
    (hcs : KeysSorted cs) :
    ((mergeFields allow os ds).toOption.bind fun ab => (mergeFields allow ab cs).toOption) =
        some m ↔
      KeysSorted m ∧ ∀ k, ((mergeAt allow k (os.lookup k) (ds.lookup k)).toOption.bind
        fun x => (mergeAt allow k x (cs.lookup k)).toOption) = some (m.lookup k) := by
  constructor
  · intro h
    obtain ⟨ab, hab, habc⟩ := Option.bind_eq_some.mp h
    obtain ⟨hsab, hpab⟩ := (mergeFields_toOption_eq_some_iff hos hds).mp hab
    obtain ⟨hsm, hpm⟩ := (mergeFields_toOption_eq_some_iff hsab hcs).mp habc
    exact ⟨hsm, fun k => by rw [hpab k, Option.some_bind, hpm k]⟩
  · rintro ⟨hsm, hpm⟩
    cases hab : mergeFields allow os ds with
    | error e =>
        obtain ⟨k, hk⟩ := mergeFields_error hos hds hab
        simpa [hk, Except.toOption] using hpm k
    | ok ab =>
        obtain ⟨hsab, hpab⟩ := mergeFields_ok hos hds hab
        refine Option.bind_eq_some.mpr ⟨ab, by simp [Except.toOption], ?_⟩
        refine (mergeFields_toOption_eq_some_iff hsab hcs).mpr ⟨hsm, fun k => ?_⟩
        simpa [hpab k, Except.toOption] using hpm k

theorem mergeFields_bind_right_iff (hos : KeysSorted os) (hds : KeysSorted ds)
    (hcs : KeysSorted cs) :
    ((mergeFields allow ds cs).toOption.bind fun bc => (mergeFields allow os bc).toOption) =
        some m ↔
      KeysSorted m ∧ ∀ k, ((mergeAt allow k (ds.lookup k) (cs.lookup k)).toOption.bind
        fun y => (mergeAt allow k (os.lookup k) y).toOption) = some (m.lookup k) := by
  constructor
  · intro h
    obtain ⟨bc, hbc, habc⟩ := Option.bind_eq_some.mp h
    obtain ⟨hsbc, hpbc⟩ := (mergeFields_toOption_eq_some_iff hds hcs).mp hbc
    obtain ⟨hsm, hpm⟩ := (mergeFields_toOption_eq_some_iff hos hsbc).mp habc
    exact ⟨hsm, fun k => by rw [hpbc k, Option.some_bind, hpm k]⟩
  · rintro ⟨hsm, hpm⟩
    cases hbc : mergeFields allow ds cs with
    | error e =>
        obtain ⟨k, hk⟩ := mergeFields_error hds hcs hbc
        simpa [hk, Except.toOption] using hpm k
    | ok bc =>
        obtain ⟨hsbc, hpbc⟩ := mergeFields_ok hds hcs hbc
        refine Option.bind_eq_some.mpr ⟨bc, by simp [Except.toOption], ?_⟩
        refine (mergeFields_toOption_eq_some_iff hos hsbc).mpr ⟨hsm, fun k => ?_⟩
        simpa [hpbc k, Except.toOption] using hpm k

/-- A merge of canonical dicts is associative when it is associative at every key. -/
theorem mergeFields_assoc_of_pointwise (hos : KeysSorted os) (hds : KeysSorted ds)
    (hcs : KeysSorted cs)
    (pointwise : ∀ k, ((mergeAt allow k (os.lookup k) (ds.lookup k)).toOption.bind
        fun x => (mergeAt allow k x (cs.lookup k)).toOption) =
      ((mergeAt allow k (ds.lookup k) (cs.lookup k)).toOption.bind
        fun y => (mergeAt allow k (os.lookup k) y).toOption)) :
    ((mergeFields allow os ds).toOption.bind fun ab => (mergeFields allow ab cs).toOption) =
      ((mergeFields allow ds cs).toOption.bind fun bc => (mergeFields allow os bc).toOption) :=
  Option.ext fun merged => by
    simp only [Option.mem_def, mergeFields_bind_left_iff hos hds hcs,
      mergeFields_bind_right_iff hos hds hcs, pointwise]

end Lift

/-- Induction on values, with a hypothesis for every value held by a dict. -/
theorem Value.induction_fields {motive : Value → Prop}
    (step : ∀ v, (∀ fields, v = .dict fields → ∀ p ∈ fields, motive p.2) → motive v)
    (v : Value) : motive v :=
  step v fun fields _hv p _hp => Value.induction_fields step p.2
termination_by sizeOf v
decreasing_by
  subst _hv
  have := List.sizeOf_lt_of_mem _hp
  obtain ⟨k, x⟩ := p
  simp only [Value.dict.sizeOf_spec, Prod.mk.sizeOf_spec] at this ⊢
  omega

section Values

variable {allow : Bool} {key : String} {a b c m : Value}

theorem toOption_map {α β : Type} (f : α → β) (x : Except PyError α) :
    (f <$> x).toOption = x.toOption.map f := by
  cases x <;> rfl

@[simp]
theorem mergeEntry_dict_dict (os ds : List (String × Value)) :
    mergeEntry allow key (.dict os) (.dict ds) = .dict <$> mergeFields allow os ds := by
  rw [mergeEntry]

theorem mergeEntry_of_not_dict (h : ¬(a.isDict = true ∧ b.isDict = true)) :
    mergeEntry allow key a b = mergeLeaves allow key a b :=
  mergeEntry.eq_2 _ _ _ _ fun _ _ ha hb => h (by subst ha hb; simp [Value.isDict])

theorem mergeEntry_strict_of_not_dict (h : ¬(a.isDict = true ∧ b.isDict = true)) :
    (mergeEntry false key a b).toOption = if a = b then some a else none := by
  rw [mergeEntry_of_not_dict h]
  by_cases hab : a = b <;> simp [mergeLeaves, hab, Except.toOption, pure, Except.pure, throw,
    throwThe, MonadExceptOf.throw]

theorem ne_of_isDict_ne (h : a.isDict ≠ b.isDict) : a ≠ b := fun e => h (e ▸ rfl)

/-- A strict merge that succeeds returns its first argument, equal to the second, or it
merged two dicts into a dict. -/
theorem mergeEntry_strict_result (h : (mergeEntry false key a b).toOption = some m) :
    (m = a ∧ a = b) ∨ (a.isDict = true ∧ b.isDict = true ∧ m.isDict = true) := by
  by_cases hd : a.isDict = true ∧ b.isDict = true
  · obtain ⟨os, rfl⟩ := Value.isDict_iff.mp hd.1
    obtain ⟨ds, rfl⟩ := Value.isDict_iff.mp hd.2
    rw [mergeEntry_dict_dict, toOption_map] at h
    obtain ⟨ms, -, rfl⟩ := Option.map_eq_some'.mp h
    exact .inr ⟨rfl, rfl, rfl⟩
  · rw [mergeEntry_strict_of_not_dict hd] at h
    by_cases hab : a = b <;> simp_all

/-- The merge of canonical values is canonical. -/
theorem mergeEntry_canonical (ha : a.Canonical) (hb : b.Canonical)
    (h : mergeEntry allow key a b = .ok m) : m.Canonical := by
  induction a using Value.induction_fields generalizing b key m with
  | step a ih =>
      by_cases hd : a.isDict = true ∧ b.isDict = true
      · obtain ⟨os, rfl⟩ := Value.isDict_iff.mp hd.1
        obtain ⟨ds, rfl⟩ := Value.isDict_iff.mp hd.2
        rw [Value.canonical_dict] at ha hb
        rw [mergeEntry_dict_dict] at h
        cases hm : mergeFields allow os ds with
        | error e => simp [hm, Functor.map, Except.map] at h
        | ok ms =>
            simp only [hm, Functor.map, Except.map, Except.ok.injEq] at h
            subst h
            obtain ⟨hsm, hpoint⟩ := mergeFields_ok ha.1 hb.1 hm
            refine (Value.canonical_dict ms).mpr ⟨hsm, fun p hp => ?_⟩
            have atKey := hpoint p.1
            rw [hsm.lookup_of_mem hp] at atKey
            cases hok : os.lookup p.1 with
            | none =>
                simp only [hok, mergeAt, pure, Except.pure, Except.ok.injEq] at atKey
                exact hb.2 _ (mem_of_lookup_eq_some atKey)
            | some x =>
                have hx := mem_of_lookup_eq_some hok
                cases hdk : ds.lookup p.1 with
                | none =>
                    simp only [hok, hdk, mergeAt, pure, Except.pure, Except.ok.injEq,
                      Option.some.injEq] at atKey
                    exact atKey ▸ ha.2 _ hx
                | some y =>
                    simp only [hok, hdk, mergeAt] at atKey
                    cases he : mergeEntry allow p.1 x y with
                    | error e => simp [he, Functor.map, Except.map] at atKey
                    | ok z =>
                        simp only [he, Functor.map, Except.map, Except.ok.injEq,
                          Option.some.injEq] at atKey
                        exact atKey ▸ ih os rfl _ hx (ha.2 _ hx)
                          (hb.2 _ (mem_of_lookup_eq_some hdk)) he
      · rw [mergeEntry_of_not_dict hd] at h
        by_cases hab : a = b ∨ allow = true
        · simp only [mergeLeaves, hab, if_true, pure, Except.pure, Except.ok.injEq] at h
          exact h ▸ ha
        · simp [mergeLeaves, hab, throw, throwThe, MonadExceptOf.throw] at h

@[simp]
theorem toOption_ok {α : Type} (x : α) : (Except.ok x : Except PyError α).toOption = some x := rfl

@[simp]
theorem mergeAt_none_left (present : Option Value) :
    mergeAt allow key none present = .ok present := rfl

@[simp]
theorem mergeAt_none_right (override : Value) :
    mergeAt allow key (some override) none = .ok (some override) := rfl

@[simp]
theorem mergeAt_some_some (override present : Value) :
    mergeAt allow key (some override) (some present) =
      some <$> mergeEntry allow key override present := rfl

/-- A strict merge of a value that is not a dict succeeds only with an equal value. -/
theorem mergeEntry_strict_of_not_dict_left (h : a.isDict = false) (b : Value) :
    (mergeEntry false key a b).toOption = if a = b then some a else none :=
  mergeEntry_strict_of_not_dict (by simp [h])

/-- The strict merge is commutative: swapping the arguments changes neither whether it fails
nor what it returns. -/
theorem mergeEntry_comm (ha : a.Canonical) (hb : b.Canonical) :
    (mergeEntry false key a b).toOption = (mergeEntry false key b a).toOption := by
  induction a using Value.induction_fields generalizing b key with
  | step a ih =>
      by_cases hd : a.isDict = true ∧ b.isDict = true
      · obtain ⟨os, rfl⟩ := Value.isDict_iff.mp hd.1
        obtain ⟨ds, rfl⟩ := Value.isDict_iff.mp hd.2
        rw [Value.canonical_dict] at ha hb
        simp only [mergeEntry_dict_dict, toOption_map]
        rw [mergeFields_comm_of_pointwise ha.1 hb.1 fun k => ?_]
        cases hok : os.lookup k with
        | none => cases ds.lookup k <;> rfl
        | some x =>
            cases hdk : ds.lookup k with
            | none => rfl
            | some y =>
                have hx := mem_of_lookup_eq_some hok
                simp only [mergeAt_some_some, toOption_map]
                rw [ih os rfl _ hx (ha.2 _ hx) (hb.2 _ (mem_of_lookup_eq_some hdk))]
      · have hd' : ¬(b.isDict = true ∧ a.isDict = true) := fun h => hd ⟨h.2, h.1⟩
        rw [mergeEntry_strict_of_not_dict hd, mergeEntry_strict_of_not_dict hd']
        by_cases hab : a = b
        · subst hab; rfl
        · simp [hab, Ne.symm hab]

/-- The strict merge is associative as a partial operation: merging `a` with `b` and then
with `c` fails exactly when merging `b` with `c` and then `a` with that fails, and otherwise
both give the same value. -/
theorem mergeEntry_assoc (ha : a.Canonical) (hb : b.Canonical) (hc : c.Canonical) :
    ((mergeEntry false key a b).toOption.bind fun ab => (mergeEntry false key ab c).toOption) =
      ((mergeEntry false key b c).toOption.bind
        fun bc => (mergeEntry false key a bc).toOption) := by
  induction a using Value.induction_fields generalizing b c key with
  | step a ih =>
      cases hda : a.isDict
      · -- `a` is a leaf: the chain succeeds only when all three values are equal.
        rw [mergeEntry_strict_of_not_dict_left hda b]
        by_cases hab : a = b
        · subst hab
          rw [if_pos rfl, Option.some_bind, mergeEntry_strict_of_not_dict_left hda c]
          by_cases hac : a = c
          · subst hac; simp [mergeEntry_strict_of_not_dict_left hda]
          · simp [hac]
        · rw [if_neg hab, Option.none_bind]
          cases hbc : (mergeEntry false key b c).toOption with
          | none => rfl
          | some y =>
              rw [Option.some_bind, mergeEntry_strict_of_not_dict_left hda y]
              rcases mergeEntry_strict_result hbc with ⟨rfl, -⟩ | ⟨-, -, hy⟩
              · simp [hab]
              · simp [ne_of_isDict_ne (by simp [hda, hy] : a.isDict ≠ y.isDict)]
      cases hdb : b.isDict
      · -- a dict against a leaf `b` fails, whatever `b` first merges with.
        have hab : ∀ y, y = b → (mergeEntry false key a y).toOption = none := by
          rintro y rfl
          rw [mergeEntry_strict_of_not_dict (by simp [hdb])]
          simp [ne_of_isDict_ne (by simp [hda, hdb] : a.isDict ≠ y.isDict)]
        rw [hab b rfl, Option.none_bind, mergeEntry_strict_of_not_dict (by simp [hdb])]
        by_cases hbc : b = c
        · simp [hbc, hab c hbc.symm]
        · simp [hbc]
      cases hdc : c.isDict
      · -- two dicts against a leaf `c` fail in either order.
        have hleaf : ∀ y, y.isDict = true → (mergeEntry false key y c).toOption = none := by
          intro y hy
          rw [mergeEntry_strict_of_not_dict (by simp [hdc])]
          simp [ne_of_isDict_ne (by simp [hy, hdc] : y.isDict ≠ c.isDict)]
        rw [hleaf b hdb, Option.none_bind]
        cases hab : (mergeEntry false key a b).toOption with
        | none => rfl
        | some y =>
            rcases mergeEntry_strict_result hab with ⟨rfl, -⟩ | ⟨-, -, hy⟩
            · exact hleaf y hda
            · exact hleaf y hy
      -- three dicts: the merge is associative at every key.
      obtain ⟨os, rfl⟩ := Value.isDict_iff.mp hda
      obtain ⟨ds, rfl⟩ := Value.isDict_iff.mp hdb
      obtain ⟨cs, rfl⟩ := Value.isDict_iff.mp hdc
      rw [Value.canonical_dict] at ha hb hc
      have lifted := @mergeFields_assoc_of_pointwise false os ds cs ha.1 hb.1 hc.1 fun k => ?_
      · simp only [mergeEntry_dict_dict, toOption_map, Option.bind_map, Function.comp_def]
        rw [← Option.map_bind', ← Option.map_bind', lifted]
      cases hok : os.lookup k <;> cases hdk : ds.lookup k <;> cases hck : cs.lookup k
      case some.some.some x y z =>
        have hx := mem_of_lookup_eq_some hok
        simp only [mergeAt_some_some, toOption_map, Option.bind_map, Function.comp_def]
        rw [← Option.map_bind', ← Option.map_bind', ih os rfl _ hx (ha.2 _ hx)
          (hb.2 _ (mem_of_lookup_eq_some hdk)) (hc.2 _ (mem_of_lookup_eq_some hck))]
      all_goals
        simp only [mergeAt_none_left, mergeAt_none_right, mergeAt_some_some, toOption_ok,
          toOption_map, Option.some_bind] <;> cases (mergeEntry false k _ _).toOption <;> rfl

/-- The overlay merge (duplicate keys allowed) of canonical values never fails. -/
theorem mergeEntry_overlay_ok (ha : a.Canonical) (hb : b.Canonical) :
    ∃ m, mergeEntry true key a b = .ok m := by
  induction a using Value.induction_fields generalizing b key with
  | step a ih =>
      by_cases hd : a.isDict = true ∧ b.isDict = true
      · obtain ⟨os, rfl⟩ := Value.isDict_iff.mp hd.1
        obtain ⟨ds, rfl⟩ := Value.isDict_iff.mp hd.2
        rw [Value.canonical_dict] at ha hb
        rw [mergeEntry_dict_dict]
        cases hm : mergeFields true os ds with
        | ok ms => exact ⟨.dict ms, rfl⟩
        | error e =>
            obtain ⟨k, hk⟩ := mergeFields_error ha.1 hb.1 hm
            cases hok : os.lookup k with
            | none => simp [hok] at hk
            | some x =>
                cases hdk : ds.lookup k with
                | none => simp [hok, hdk] at hk
                | some y =>
                    have hx := mem_of_lookup_eq_some hok
                    obtain ⟨z, hz⟩ : ∃ z, mergeEntry true k x y = .ok z :=
                      ih os rfl _ hx (ha.2 _ hx) (hb.2 _ (mem_of_lookup_eq_some hdk))
                    simp [hok, hdk, hz, Functor.map, Except.map] at hk
      · rw [mergeEntry_of_not_dict hd]
        exact ⟨a, by simp [mergeLeaves, pure, Except.pure]⟩

end Values

end PaastaConfig
