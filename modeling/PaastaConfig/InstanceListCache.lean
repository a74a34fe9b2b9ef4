import PaastaConfig.Enumeration

/-!
# The time caches of the instance enumeration

`get_service_instance_list` is wrapped in `time_cache(ttl=5)` and `validate_service_instance` in
`time_cache(ttl=60)`, and `validate_service_instance` searches through the cached
`get_service_instance_list`, once per instance type. `time_cache` lives in
`paasta_tools.util.cache`, which is not among the sources, so `TimeCache` follows the spec's
contract: an entry holds a value and the time it was computed; a call answers from an entry
younger than the TTL, and otherwise calls the wrapped function and stores what it returns with
the time of the call (read-through). A call that raises stores nothing. Times are in
milliseconds, and a call takes no time.

A process is a run of calls, each on the files as they are at its time (`history`). The main
result, `run_answers_uncached`, holds for every such run from a fresh process whose call times
never go back: a call answers exactly as the uncached function does on the current files,
provided the files have not changed for as long as its answer may lag them. That is 5 s for
`get_service_instance_list`. For `validate_service_instance` it is 65 s, because a validation
kept for 60 s may rest on instance lists that were already up to 5 s old when it was computed.
The witness shows a validation that still reflects files replaced 64.997 s earlier.

Each call is keyed by its arguments as they are passed; the model does not decide whether a
positional and a keyword call share an entry. Threads are not modelled.
-/

namespace PaastaConfig

/-- Modelled from the spec: a `time_cache(ttl)`, which holds for each key the value and the
time at which it was computed. -/
structure TimeCache (κ ν : Type) where
  /-- The remembered keys, values and computation times. -/
  entries : List (κ × ν × Nat)
  /-- Each key is remembered once. -/
  keys_nodup : (entries.map Prod.fst).Nodup

namespace TimeCache

variable {κ ν σ : Type} [DecidableEq κ]

/-- Modelled from the spec: the cache of a fresh process. -/
def empty : TimeCache κ ν := ⟨[], List.nodup_nil⟩

/-- Modelled from the spec: the value remembered for `key`, when it was computed less than
`ttl` before `now`. -/
def fresh? (cache : TimeCache κ ν) (ttl now : Nat) (key : κ) : Option ν :=
  match cache.entries.lookup key with
  | some (value, computedAt) => if now < computedAt + ttl then some value else none
  | none => none

/-- Modelled from the spec: remember `value`, computed at `now`, for `key`, in place of an
older entry. -/
def store (cache : TimeCache κ ν) (key : κ) (value : ν) (now : Nat) : TimeCache κ ν where
  entries := (key, value, now) :: cache.entries.filter (·.1 != key)
  keys_nodup := by
    rw [List.map_cons, List.nodup_cons]
    exact ⟨by simp, cache.keys_nodup.sublist ((List.filter_sublist _).map _)⟩

/-- Modelled from the spec: a call at `now` of a function wrapped in `time_cache(ttl)`: a fresh
entry answers; otherwise `f` runs, threading the state `s`, and a value it returns is stored
with `now`. -/
def call (cache : TimeCache κ ν) (ttl now : Nat) (f : κ → σ → Except PyError ν × σ) (key : κ)
    (s : σ) : Except PyError ν × TimeCache κ ν × σ :=
  match cache.fresh? ttl now key with
  | some value => (pure value, cache, s)
  | none =>
      match f key s with
      | (.ok value, s) => (pure value, cache.store key value now, s)
      | (.error e, s) => (throw e, cache, s)

theorem mem_of_fresh? {cache : TimeCache κ ν} {ttl now : Nat} {key : κ} {value : ν}
    (hfresh : cache.fresh? ttl now key = some value) :
    ∃ computedAt, (key, value, computedAt) ∈ cache.entries ∧ now < computedAt + ttl := by
  unfold fresh? at hfresh
  split at hfresh
  · next found computedAt hlookup =>
      split at hfresh
      · next hlt =>
          cases hfresh
          obtain ⟨l₁, l₂, heq, -⟩ := List.lookup_eq_some_iff.mp hlookup
          exact ⟨computedAt, heq ▸ List.mem_append_right _ (List.mem_cons_self _ _), hlt⟩
      · cases hfresh
  · cases hfresh

/-- What a call can do: answer from a fresh entry, leaving everything as it was; or run `f`,
answer as it does, and at most add an entry for `key` computed at `now`. -/
theorem call_cases (cache : TimeCache κ ν) (ttl now : Nat) (f : κ → σ → Except PyError ν × σ)
    (key : κ) (s : σ) :
    (∃ value computedAt, (key, value, computedAt) ∈ cache.entries ∧ now < computedAt + ttl ∧
      cache.call ttl now f key s = (.ok value, cache, s)) ∨
    ((cache.call ttl now f key s).1 = (f key s).1 ∧ (cache.call ttl now f key s).2.2 = (f key s).2 ∧
      ∀ entry ∈ (cache.call ttl now f key s).2.1.entries, entry ∈ cache.entries ∨
        ∃ value, (f key s).1 = .ok value ∧ entry = (key, value, now)) := by
  unfold call
  split
  · next value hfresh =>
      obtain ⟨computedAt, hmem, hlt⟩ := mem_of_fresh? hfresh
      exact .inl ⟨value, computedAt, hmem, hlt, rfl⟩
  · split
    · next value s' hf =>
        refine .inr ⟨by rw [hf]; rfl, by rw [hf], fun entry hentry => ?_⟩
        rcases List.mem_cons.mp hentry with rfl | hentry
        · exact .inr ⟨value, by rw [hf], rfl⟩
        · exact .inl (List.mem_of_mem_filter hentry)
    · next e s' hf => exact .inr ⟨by rw [hf]; rfl, by rw [hf], fun entry hentry => .inl hentry⟩

end TimeCache

/-- What the files hold at one moment: the system configuration, and each soa-configs directory
by its path. -/
structure Files where
  /-- What `load_system_paasta_config()` returns. -/
  system : SystemPaastaConfig
  /-- The soa-configs directory at a path. -/
  soaDir : String → SoaDir

/-- The arguments of `get_service_instance_list`, the key of its cache. -/
structure InstanceListArgs where
  /-- `service`. -/
  service : String
  /-- `cluster`. -/
  cluster : Option String
  /-- `instance_type`. -/
  instance_type : Option String
  /-- `soa_dir`. -/
  soa_dir : String
  deriving DecidableEq

/-- The arguments of `validate_service_instance`, the key of its cache. -/
structure ValidateArgs where
  /-- `service`. -/
  service : String
  /-- `instance`. -/
  instanceName : String
  /-- `cluster`. -/
  cluster : String
  /-- `soa_dir`. -/
  soa_dir : String
  deriving DecidableEq

/-- The cache of `get_service_instance_list`. -/
abbrev InstanceListCache := TimeCache InstanceListArgs (List (String × String))

/-- The cache of `validate_service_instance`. -/
abbrev ValidateCache := TimeCache ValidateArgs String

/-- The two time caches of a process. -/
structure Caches where
  /-- The cache of `get_service_instance_list`. -/
  instanceLists : InstanceListCache
  /-- The cache of `validate_service_instance`. -/
  validations : ValidateCache

/-- The caches of a fresh process. -/
def Caches.empty : Caches := ⟨.empty, .empty⟩

/-- A call a process makes. -/
inductive Request where
  /-- `get_service_instance_list(service, cluster, instance_type, soa_dir)`. -/
  | getServiceInstanceList (args : InstanceListArgs)
  /-- `validate_service_instance(service, instance, cluster, soa_dir)`. -/
  | validateServiceInstance (args : ValidateArgs)

/-- What a call returns. -/
inductive Response where
  /-- The instances of a service, or the exception. -/
  | instanceList (result : Except PyError (List (String × String)))
  /-- The instance type of an instance, or the exception. -/
  | instanceType (result : Except PyError String)
  deriving DecidableEq

section Calls

variable (consts : PaastaConst) (getCloseMatches : String → List String → Nat → List String)
  (composeJobId : String → String → String)

/-- `get_service_instance_list_no_cache` on `files`. -/
def getServiceInstanceListOn (files : Files) (args : InstanceListArgs) :
    Except PyError (List (String × String)) :=
  getServiceInstanceListNoCache consts files.system (files.soaDir args.soa_dir) args.service
    args.cluster args.instance_type

/-- `validate_service_instance` without its cache, on `files`, its searches uncached too. -/
def validateServiceInstanceOn (files : Files) (args : ValidateArgs) : Except PyError String :=
  validateServiceInstance consts files.system (files.soaDir args.soa_dir) getCloseMatches
    composeJobId args.service args.instanceName args.cluster

/-- `get_service_instance_list(...)` at `now` on `files`, behind `time_cache(ttl=5)`. -/
def getServiceInstanceList (files : Files) (now : Nat) (cache : InstanceListCache)
    (args : InstanceListArgs) : Except PyError (List (String × String)) × InstanceListCache :=
  let step := cache.call 5000 now (fun args (_ : Unit) => (getServiceInstanceListOn consts files args, ()))
    args ()
  (step.1, step.2.1)

/-- The `for ... else` loop of `validate_service_instance`, each search going through the cache
of `get_service_instance_list`. -/
def validateServiceInstanceLoopCached (files : Files) (now : Nat)
    (service instanceName cluster soaDir : String) :
    List String → List String → InstanceListCache → Except PyError String × InstanceListCache
  | [], possibilities, cache =>
      (validateServiceInstanceLoop consts files.system (files.soaDir soaDir) getCloseMatches
        composeJobId service instanceName cluster [] possibilities, cache)
  | instanceType :: instanceTypes, possibilities, cache =>
      let step := getServiceInstanceList consts files now cache
        ⟨service, some cluster, some instanceType, soaDir⟩
      match step.1 with
      | .error e => (throw e, step.2)
      | .ok sis =>
          if (service, instanceName) ∈ sis then (pure instanceType, step.2)
          else validateServiceInstanceLoopCached files now service instanceName cluster soaDir
            instanceTypes (possibilities ++ sis.map Prod.snd) step.2

/-- `validate_service_instance(...)` at `now` on `files`, behind `time_cache(ttl=60)`. -/
def validateServiceInstanceCached (files : Files) (now : Nat) (caches : Caches)
    (args : ValidateArgs) : Except PyError String × Caches :=
  let step := caches.validations.call 60000 now (fun args instanceLists =>
      validateServiceInstanceLoopCached consts getCloseMatches composeJobId files now args.service
        args.instanceName args.cluster args.soa_dir consts.INSTANCE_TYPES [] instanceLists)
    args caches.instanceLists
  (step.1, ⟨step.2.2, step.2.1⟩)

/-- One call of a process at `now`, on the files as they are then. -/
def serve (files : Files) (now : Nat) (caches : Caches) : Request → Response × Caches
  | .getServiceInstanceList args =>
      let step := getServiceInstanceList consts files now caches.instanceLists args
      (.instanceList step.1, { caches with instanceLists := step.2 })
  | .validateServiceInstance args =>
      let step := validateServiceInstanceCached consts getCloseMatches composeJobId files now caches args
      (.instanceType step.1, step.2)

/-- What a call returns without the caches. -/
def serveUncached (files : Files) : Request → Response
  | .getServiceInstanceList args => .instanceList (getServiceInstanceListOn consts files args)
  | .validateServiceInstance args =>
      .instanceType (validateServiceInstanceOn consts getCloseMatches composeJobId files args)

/-- A process's calls, each at its time, on the files as `history` gives them then. -/
def run (history : Nat → Files) : Caches → List (Nat × Request) → List Response × Caches
  | caches, [] => ([], caches)
  | caches, (now, request) :: calls =>
      let step := serve consts getCloseMatches composeJobId (history now) now caches request
      let rest := run history step.2 calls
      (step.1 :: rest.1, rest.2)

end Calls

/-- How long the answer to a call may lag the files: the TTL of its cache plus those of the
caches it reads through. -/
def Request.staleness : Request → Nat
  | .getServiceInstanceList _ => 5000
  | .validateServiceInstance _ => 65000

/-- The files were `files` throughout the `window` milliseconds up to `now`. -/
def UnchangedFor (history : Nat → Files) (window now : Nat) (files : Files) : Prop :=
  ∀ t, t ≤ now → now < t + window → history t = files

/-- Files unchanged over a window are unchanged over every window inside it. -/
theorem UnchangedFor.within {history : Nat → Files} {window window' now now' : Nat}
    {files : Files} (h : UnchangedFor history window now files) (hle : now' ≤ now)
    (hwithin : now + window' ≤ now' + window) : UnchangedFor history window' now' files :=
  fun t ht hlt => h t (ht.trans hle) (by omega)

/-- Each remembered instance list was computed, at a time no later than `clock`, from the files
then. -/
def InstanceListsSound (consts : PaastaConst) (history : Nat → Files) (clock : Nat)
    (cache : InstanceListCache) : Prop :=
  ∀ entry ∈ cache.entries, entry.2.2 ≤ clock ∧
    getServiceInstanceListOn consts (history entry.2.2) entry.1 = .ok entry.2.1

/-- Each remembered validation was computed at a time no later than `clock`, and is what the
uncached validation gives on any files unchanged for the 5 s before then. -/
def ValidationsSound (consts : PaastaConst)
    (getCloseMatches : String → List String → Nat → List String)
    (composeJobId : String → String → String) (history : Nat → Files) (clock : Nat)
    (cache : ValidateCache) : Prop :=
  ∀ entry ∈ cache.entries, entry.2.2 ≤ clock ∧ ∀ files, UnchangedFor history 5000 entry.2.2 files →
    validateServiceInstanceOn consts getCloseMatches composeJobId files entry.1 = .ok entry.2.1

/-- What the caches of a process hold after its calls up to `clock` along `history`. -/
structure CachesSound (consts : PaastaConst)
    (getCloseMatches : String → List String → Nat → List String)
    (composeJobId : String → String → String) (history : Nat → Files) (clock : Nat)
    (caches : Caches) : Prop where
  /-- The cache of `get_service_instance_list`. -/
  instanceLists : InstanceListsSound consts history clock caches.instanceLists
  /-- The cache of `validate_service_instance`. -/
  validations : ValidationsSound consts getCloseMatches composeJobId history clock caches.validations

section Soundness

variable {consts : PaastaConst} {getCloseMatches : String → List String → Nat → List String}
  {composeJobId : String → String → String} {history : Nat → Files} {clock now : Nat}

theorem InstanceListsSound.mono {cache : InstanceListCache}
    (hsound : InstanceListsSound consts history clock cache) (hclock : clock ≤ now) :
    InstanceListsSound consts history now cache :=
  fun entry hentry => (hsound entry hentry).imp_left (·.trans hclock)

theorem ValidationsSound.mono {cache : ValidateCache}
    (hsound : ValidationsSound consts getCloseMatches composeJobId history clock cache)
    (hclock : clock ≤ now) : ValidationsSound consts getCloseMatches composeJobId history now cache :=
  fun entry hentry => (hsound entry hentry).imp_left (·.trans hclock)

theorem cachesSound_empty : CachesSound consts getCloseMatches composeJobId history 0 .empty :=
  ⟨fun _ h => (nomatch h), fun _ h => (nomatch h)⟩

/-- One cached `get_service_instance_list`: its answer is the uncached one on the files of some
moment of the last 5 s, and the cache stays sound. -/
theorem getServiceInstanceList_sound {cache : InstanceListCache} {args : InstanceListArgs}
    (hsound : InstanceListsSound consts history clock cache) (hclock : clock ≤ now) :
    (∃ t, t ≤ now ∧ now < t + 5000 ∧ (getServiceInstanceList consts (history now) now cache args).1 =
        getServiceInstanceListOn consts (history t) args) ∧
      InstanceListsSound consts history now (getServiceInstanceList consts (history now) now cache args).2 := by
  rcases TimeCache.call_cases cache 5000 now
      (fun args (_ : Unit) => (getServiceInstanceListOn consts (history now) args, ())) args () with
    ⟨value, computedAt, hmem, hlt, hcall⟩ | ⟨hresult, -, hentries⟩
  · obtain ⟨hle, hon⟩ := hsound _ hmem
    simp only [getServiceInstanceList, hcall]
    exact ⟨⟨computedAt, hle.trans hclock, hlt, hon.symm⟩, hsound.mono hclock⟩
  · refine ⟨⟨now, le_rfl, by omega, hresult⟩, fun entry hentry => ?_⟩
    rcases hentries entry hentry with hold | ⟨value, hvalue, rfl⟩
    · exact (hsound entry hold).imp_left (·.trans hclock)
    · exact ⟨le_rfl, hvalue⟩

/-- The loop of `validate_service_instance` through the cache keeps it sound, and answers as the
uncached loop on files unchanged for the last 5 s. -/
theorem validateServiceInstanceLoopCached_sound {service instanceName cluster soaDir : String} :
    ∀ {instanceTypes possibilities : List String} {cache : InstanceListCache} {clock : Nat},
      InstanceListsSound consts history clock cache → clock ≤ now →
      InstanceListsSound consts history now (validateServiceInstanceLoopCached consts getCloseMatches
        composeJobId (history now) now service instanceName cluster soaDir instanceTypes
        possibilities cache).2 ∧
      ∀ files, UnchangedFor history 5000 now files →
        (validateServiceInstanceLoopCached consts getCloseMatches composeJobId (history now) now
          service instanceName cluster soaDir instanceTypes possibilities cache).1 =
        validateServiceInstanceLoop consts files.system (files.soaDir soaDir) getCloseMatches
          composeJobId service instanceName cluster instanceTypes possibilities
  | [], _, _, _, hsound, hclock => ⟨hsound.mono hclock, fun _ _ => rfl⟩
  | instanceType :: instanceTypes, possibilities, cache, _, hsound, hclock => by
      obtain ⟨⟨t, hle, hlt, hfetch⟩, hstep⟩ := @getServiceInstanceList_sound consts history _ now cache
        ⟨service, some cluster, some instanceType, soaDir⟩ hsound hclock
      have hquietFetch : ∀ files, UnchangedFor history 5000 now files →
          getServiceInstanceListNoCache consts files.system (files.soaDir soaDir) service
            (some cluster) (some instanceType) =
          (getServiceInstanceList consts (history now) now cache
            ⟨service, some cluster, some instanceType, soaDir⟩).1 :=
        fun files hquiet => by rw [hfetch, hquiet t hle hlt]; rfl
      simp only [validateServiceInstanceLoopCached]
      cases hresult : (getServiceInstanceList consts (history now) now cache
          ⟨service, some cluster, some instanceType, soaDir⟩).1 with
      | error e =>
          refine ⟨hstep, fun files hquiet => ?_⟩
          simp only [validateServiceInstanceLoop, hquietFetch files hquiet, hresult]
          rfl
      | ok sis =>
          have hrest := @validateServiceInstanceLoopCached_sound service instanceName cluster soaDir
            instanceTypes (possibilities ++ sis.map Prod.snd) _ _ hstep le_rfl
          simp only [hresult]
          split
          · next hmem =>
              refine ⟨hstep, fun files hquiet => ?_⟩
              simp only [validateServiceInstanceLoop, hquietFetch files hquiet, hresult, ok_bind,
                if_pos hmem]
          · next hmem =>
              refine ⟨hrest.1, fun files hquiet => ?_⟩
              simp only [validateServiceInstanceLoop, hquietFetch files hquiet, hresult, ok_bind,
                if_neg hmem]
              exact hrest.2 files hquiet

/-- One cached `validate_service_instance`: the caches stay sound, and on files unchanged for
the last 65 s the answer is the uncached one. -/
theorem validateServiceInstanceCached_sound {caches : Caches} {args : ValidateArgs}
    (hsound : CachesSound consts getCloseMatches composeJobId history clock caches)
    (hclock : clock ≤ now) :
    CachesSound consts getCloseMatches composeJobId history now
        (validateServiceInstanceCached consts getCloseMatches composeJobId (history now) now caches
          args).2 ∧
      ∀ files, UnchangedFor history 65000 now files →
        (validateServiceInstanceCached consts getCloseMatches composeJobId (history now) now caches
          args).1 = validateServiceInstanceOn consts getCloseMatches composeJobId files args := by
  have hloop := @validateServiceInstanceLoopCached_sound consts getCloseMatches composeJobId history
    now args.service args.instanceName args.cluster args.soa_dir consts.INSTANCE_TYPES [] _ _
    hsound.instanceLists hclock
  rcases TimeCache.call_cases caches.validations 60000 now (fun args instanceLists =>
      validateServiceInstanceLoopCached consts getCloseMatches composeJobId (history now) now
        args.service args.instanceName args.cluster args.soa_dir consts.INSTANCE_TYPES [] instanceLists)
      args caches.instanceLists with
    ⟨value, computedAt, hmem, hlt, hcall⟩ | ⟨hresult, hlists, hentries⟩
  · obtain ⟨hle, hvalue⟩ := hsound.validations _ hmem
    dsimp only at hle hvalue
    simp only [validateServiceInstanceCached, hcall]
    refine ⟨⟨hsound.instanceLists.mono hclock, hsound.validations.mono hclock⟩,
      fun files hquiet => (hvalue files (hquiet.within (hle.trans hclock) (by omega))).symm⟩
  · simp only [validateServiceInstanceCached, hresult, hlists]
    refine ⟨⟨hloop.1, fun entry hentry => ?_⟩,
      fun files hquiet => hloop.2 files (hquiet.within le_rfl (by omega))⟩
    rcases hentries entry hentry with hold | ⟨value, hvalue, rfl⟩
    · exact (hsound.validations entry hold).imp_left (·.trans hclock)
    · exact ⟨le_rfl, fun files hquiet => (hloop.2 files hquiet).symm.trans hvalue⟩

/-- One call of a process keeps its caches sound, and answers as the uncached call does on files
unchanged for as long as its answer may lag them. -/
theorem serve_sound {caches : Caches} (request : Request)
    (hsound : CachesSound consts getCloseMatches composeJobId history clock caches)
    (hclock : clock ≤ now) :
    CachesSound consts getCloseMatches composeJobId history now
        (serve consts getCloseMatches composeJobId (history now) now caches request).2 ∧
      (UnchangedFor history request.staleness now (history now) →
        (serve consts getCloseMatches composeJobId (history now) now caches request).1 =
          serveUncached consts getCloseMatches composeJobId (history now) request) := by
  cases request with
  | getServiceInstanceList args =>
      obtain ⟨⟨t, hle, hlt, hfetch⟩, hstep⟩ :=
        @getServiceInstanceList_sound consts history _ now caches.instanceLists args
          hsound.instanceLists hclock
      refine ⟨⟨hstep, hsound.validations.mono hclock⟩, fun hquiet => ?_⟩
      simp only [serve, serveUncached, hfetch, hquiet t hle hlt]
  | validateServiceInstance args =>
      obtain ⟨hstep, hanswer⟩ := @validateServiceInstanceCached_sound consts getCloseMatches
        composeJobId history _ now caches args hsound hclock
      exact ⟨hstep, fun hquiet => by simp only [serve, serveUncached, hanswer _ hquiet]⟩

/-- Every run from sound caches, with call times that never go back and never precede `clock`:
each call answers as the uncached call does on files unchanged for as long as its answer may lag
them. -/
theorem run_sound {calls : List (Nat × Request)} {caches : Caches}
    (hsound : CachesSound consts getCloseMatches composeJobId history clock caches)
    (hclock : ∀ call ∈ calls, clock ≤ call.1) (hmono : calls.Pairwise fun a b => a.1 ≤ b.1) :
    List.Forall₂ (fun response call => UnchangedFor history call.2.staleness call.1 (history call.1) →
        response = serveUncached consts getCloseMatches composeJobId (history call.1) call.2)
      (run consts getCloseMatches composeJobId history caches calls).1 calls := by
  induction calls generalizing caches clock with
  | nil => exact .nil
  | cons call calls ih =>
      obtain ⟨now, request⟩ := call
      obtain ⟨hstep, hanswer⟩ := serve_sound request hsound (hclock _ (List.mem_cons_self _ _))
      obtain ⟨hafter, hrest⟩ := List.pairwise_cons.mp hmono
      exact .cons hanswer (ih hstep hafter hrest)

end Soundness

/-- The time caches are sound: in every run of a fresh process whose call times never go back,
a call of `get_service_instance_list` or `validate_service_instance` answers exactly as the
uncached function does on the current files, when the files have not changed for the last 5 s
or 65 s respectively. -/
theorem run_answers_uncached (consts : PaastaConst)
    (getCloseMatches : String → List String → Nat → List String)
    (composeJobId : String → String → String) (history : Nat → Files)
    {calls : List (Nat × Request)} (hmono : calls.Pairwise fun a b => a.1 ≤ b.1) :
    List.Forall₂ (fun response call => UnchangedFor history call.2.staleness call.1 (history call.1) →
        response = serveUncached consts getCloseMatches composeJobId (history call.1) call.2)
      (run consts getCloseMatches composeJobId history .empty calls).1 calls :=
  run_sound cachesSound_empty (fun _ _ => Nat.zero_le _) hmono

/-- The soa-configs directory `/soa` in which `svc` has, on `norcal`, the `marathon` instances
of `instances`. -/
def SoaDir.marathonNorcal (instances : Document) : SoaDir :=
  ⟨"/soa", fun service name => if service = "svc" ∧ name = "marathon-norcal" then instances
    else ⟨.dict [], by decide⟩, fun _ => ⟨.dict [], by decide⟩⟩

/-- `svc.main` and `svc.other` until the first millisecond, when `main` is removed. -/
def mainRemovedAt1ms (t : Nat) : Files :=
  ⟨.empty, fun _ => SoaDir.marathonNorcal (if t = 0
    then ⟨.dict [("main", .dict []), ("other", .dict [])], by decide⟩
    else ⟨.dict [("other", .dict [])], by decide⟩)⟩

theorem run_answers_uncached_mainRemoved :
    [(0, Request.validateServiceInstance ⟨"svc", "other", "norcal", "/soa"⟩),
        (4999, .validateServiceInstance ⟨"svc", "main", "norcal", "/soa"⟩),
        (64998, .validateServiceInstance ⟨"svc", "main", "norcal", "/soa"⟩)].Pairwise
        (fun a b => a.1 ≤ b.1) ∧
      List.Forall₂ (fun response call => UnchangedFor mainRemovedAt1ms call.2.staleness call.1
          (mainRemovedAt1ms call.1) →
          response = serveUncached .example noCloseMatches dottedJobId (mainRemovedAt1ms call.1) call.2)
        (run .example noCloseMatches dottedJobId mainRemovedAt1ms .empty
          [(0, .validateServiceInstance ⟨"svc", "other", "norcal", "/soa"⟩),
            (4999, .validateServiceInstance ⟨"svc", "main", "norcal", "/soa"⟩),
            (64998, .validateServiceInstance ⟨"svc", "main", "norcal", "/soa"⟩)]).1
        [(0, .validateServiceInstance ⟨"svc", "other", "norcal", "/soa"⟩),
          (4999, .validateServiceInstance ⟨"svc", "main", "norcal", "/soa"⟩),
          (64998, .validateServiceInstance ⟨"svc", "main", "norcal", "/soa"⟩)] ∧
      (run .example noCloseMatches dottedJobId mainRemovedAt1ms .empty
          [(0, .validateServiceInstance ⟨"svc", "other", "norcal", "/soa"⟩),
            (4999, .validateServiceInstance ⟨"svc", "main", "norcal", "/soa"⟩),
            (64998, .validateServiceInstance ⟨"svc", "main", "norcal", "/soa"⟩)]).1 =
        [.instanceType (.ok "marathon"), .instanceType (.ok "marathon"),
          .instanceType (.ok "marathon")] ∧
      UnchangedFor mainRemovedAt1ms 64997 64998 (mainRemovedAt1ms 64998) ∧
      ∃ message, serveUncached .example noCloseMatches dottedJobId (mainRemovedAt1ms 64998)
          (.validateServiceInstance ⟨"svc", "main", "norcal", "/soa"⟩) =
        .instanceType (.error (.noConfigurationForService message)) := by
  have hmono : [(0, Request.validateServiceInstance ⟨"svc", "other", "norcal", "/soa"⟩),
      (4999, .validateServiceInstance ⟨"svc", "main", "norcal", "/soa"⟩),
      (64998, .validateServiceInstance ⟨"svc", "main", "norcal", "/soa"⟩)].Pairwise
      (fun a b => a.1 ≤ b.1) := by decide
  refine ⟨hmono, run_answers_uncached .example noCloseMatches dottedJobId mainRemovedAt1ms hmono,
    rfl, fun t _ ht => ?_, ⟨_, rfl⟩⟩
  simp only [mainRemovedAt1ms, if_neg (show t ≠ 0 by omega), if_neg (show (64998 : Nat) ≠ 0 by decide)]

end PaastaConfig
