import PaastaConfig.Validation

/-!
# Docker image names and the commit they carry

`build_docker_tag(service, commit)` names the image of a service at a commit:
`{registry}/services-{service}:paasta-{commit}`, where the registry is the service's
`docker_registry` or else the system's. `get_git_sha_from_dockerurl` reads the commit back: it
takes the text after the last `/` and, in it, the text after the last `-`;
`get_code_sha_from_dockerurl` prefixes the short form with `git`, falling back to `gitUNKNOWN`
when the extraction raises.

For a service name without `/` and a commit without `-` or `/`, reading a tag back gives the
commit, whatever the registry (`getGitShaFromDockerurl_buildDockerTag`). A split always has a
last piece, so the extraction never raises and the fallback is dead code.

`str.split` with a one-character separator is `List.splitOn` on the characters.
-/

namespace PaastaConfig

/-- `s.split(sep)` for a one-character separator. -/
def pySplit (s : String) (sep : Char) : List String := (s.toList.splitOn sep).map String.mk

/-- `parts[-1]`. -/
def lastItem (parts : List String) : Except PyError String :=
  match parts.getLast? with
  | some part => pure part
  | none => throw .indexError

/-- `get_git_sha_from_dockerurl(docker_url, long)`. -/
def getGitShaFromDockerurl (dockerUrl : String) (long : Bool) : Except PyError String := do
  let parts := pySplit dockerUrl '/'
  let lastPart ← lastItem parts
  let parts := pySplit lastPart '-'
  let sha ← lastItem parts
  pure (if long then sha else sha.take 8)

/-- `get_code_sha_from_dockerurl(docker_url)`. -/
def getCodeShaFromDockerurl (dockerUrl : String) : String :=
  match getGitShaFromDockerurl dockerUrl false with
  | .ok gitSha => s!"git{gitSha}"
  | .error _ => "gitUNKNOWN"

/-- `SystemPaastaConfig.get_system_docker_registry()`. -/
def SystemPaastaConfig.getSystemDockerRegistry (system : SystemPaastaConfig) :
    Except PyError Value :=
  system.getRequired "docker_registry" "docker registry"

/-- `get_service_docker_registry(service, soa_dir, system_config)`. -/
def getServiceDockerRegistry (soa : SoaDir) (system : SystemPaastaConfig) (service : String) :
    Except PyError Value :=
  match (soa.readServiceConfiguration service).value.getItem "docker_registry" with
  | .error (.keyError _) => system.getSystemDockerRegistry
  | result => result

/-- `build_docker_image_name(service)`. -/
def buildDockerImageName (soa : SoaDir) (system : SystemPaastaConfig) (service : String) :
    Except PyError String := do
  let dockerRegistryUrl ← Value.pyStr <$> getServiceDockerRegistry soa system service
  pure s!"{dockerRegistryUrl}/services-{service}"

/-- `build_docker_tag(service, upstream_git_commit)`. -/
def buildDockerTag (soa : SoaDir) (system : SystemPaastaConfig)
    (service upstreamGitCommit : String) : Except PyError String := do
  let name ← buildDockerImageName soa system service
  pure s!"{name}:paasta-{upstreamGitCommit}"

section Split

variable {α : Type} {p : α → Bool} {x : α}

/-- A split at a separator is the concatenation of the splits on either side. -/
theorem splitOnP_append_sep (hx : p x = true) (xs ys : List α) :
    (xs ++ x :: ys).splitOnP p = xs.splitOnP p ++ ys.splitOnP p := by
  induction xs with
  | nil => simp [hx]
  | cons a xs ih =>
      rw [List.cons_append, List.splitOnP_cons, List.splitOnP_cons, ih]
      split
      · rfl
      · obtain ⟨w, ws, e⟩ := List.exists_cons_of_ne_nil (List.splitOnP_ne_nil p xs)
        rw [e]
        rfl

theorem lastItem_pySplit_of_getLast? {s : String} {sep : Char} {part : List Char}
    (h : (s.toList.splitOn sep).getLast? = some part) : lastItem (pySplit s sep) = .ok ⟨part⟩ := by
  unfold lastItem pySplit
  rw [List.getLast?_map, h]
  rfl

/-- The last piece of a split is what follows the last separator. -/
theorem lastItem_pySplit {s : String} {sep : Char} {xs ys : List Char}
    (hs : s.toList = xs ++ sep :: ys) (hys : sep ∉ ys) :
    lastItem (pySplit s sep) = .ok ⟨ys⟩ := by
  have hsingle : ys.splitOnP (· == sep) = [ys] :=
    List.splitOnP_eq_single _ _ fun c hc => by simpa using ne_of_mem_of_not_mem hc hys
  apply lastItem_pySplit_of_getLast?
  rw [hs, List.splitOn, splitOnP_append_sep (by simp), hsingle, List.getLast?_append]
  rfl

/-- Every split has a last piece: `parts[-1]` never raises. -/
theorem lastItem_pySplit_ok (s : String) (sep : Char) :
    ∃ part, lastItem (pySplit s sep) = .ok part := by
  cases h : (s.toList.splitOn sep).getLast? with
  | none => exact absurd (List.getLast?_eq_none_iff.mp h) (List.splitOnP_ne_nil _ _)
  | some part => exact ⟨⟨part⟩, lastItem_pySplit_of_getLast? h⟩

end Split

section Tags

variable {soa : SoaDir} {system : SystemPaastaConfig} {service commit tag : String}

/-- `get_git_sha_from_dockerurl` never raises, so `get_code_sha_from_dockerurl` never falls
back to `gitUNKNOWN`. -/
theorem getCodeShaFromDockerurl_eq (dockerUrl : String) :
    ∃ sha, getGitShaFromDockerurl dockerUrl false = .ok sha ∧
      getCodeShaFromDockerurl dockerUrl = "git" ++ sha := by
  obtain ⟨lastPart, hlast⟩ := lastItem_pySplit_ok dockerUrl '/'
  obtain ⟨sha, hsha⟩ := lastItem_pySplit_ok lastPart '-'
  have h : getGitShaFromDockerurl dockerUrl false = .ok (sha.take 8) := by
    simp [getGitShaFromDockerurl, hlast, hsha, pure, Except.pure]
  exact ⟨_, h, by simp [getCodeShaFromDockerurl, h, toString_string]⟩

/-- A built tag is the registry, `/services-`, the service, `:paasta-` and the commit. -/
theorem buildDockerTag_toList (htag : buildDockerTag soa system service commit = .ok tag) :
    ∃ registry : String, tag.toList =
      registry.toList ++ '/' :: ("services-".toList ++ service.toList ++
        (":paasta".toList ++ '-' :: commit.toList)) := by
  simp only [buildDockerTag, buildDockerImageName] at htag
  cases hregistry : getServiceDockerRegistry soa system service with
  | error e => simp [hregistry] at htag
  | ok registry =>
      simp only [hregistry, Functor.map, Except.map, ok_bind, pure, Except.pure,
        Except.ok.injEq] at htag
      subst htag
      exact ⟨registry.pyStr, by simp [String.toList, String.data_append, toString_string]⟩

/-- Reading a built tag back gives the commit, long or short, whatever the registry, for a
service without `/` and a commit without `-` or `/`; and the extraction never raises. -/
theorem getGitShaFromDockerurl_buildDockerTag (hservice : '/' ∉ service.toList)
    (hcommitDash : '-' ∉ commit.toList) (hcommitSlash : '/' ∉ commit.toList)
    (htag : buildDockerTag soa system service commit = .ok tag) :
    getGitShaFromDockerurl tag true = .ok commit ∧
      getGitShaFromDockerurl tag false = .ok (commit.take 8) ∧
      getCodeShaFromDockerurl tag = "git" ++ commit.take 8 ∧
      ∀ dockerUrl, ∃ sha, getGitShaFromDockerurl dockerUrl false = .ok sha ∧
        getCodeShaFromDockerurl dockerUrl = "git" ++ sha := by
  obtain ⟨registry, htoList⟩ := buildDockerTag_toList htag
  have hlast := lastItem_pySplit htoList (by simp; exact ⟨hservice, hcommitSlash⟩)
  have hsha : lastItem (pySplit ⟨"services-".toList ++ service.toList ++
      (":paasta".toList ++ '-' :: commit.toList)⟩ '-') = .ok commit :=
    lastItem_pySplit (List.append_assoc _ _ _).symm hcommitDash
  have hlong : ∀ long, getGitShaFromDockerurl tag long =
      .ok (if long then commit else commit.take 8) := by
    intro long
    show (lastItem (pySplit tag '/') >>= fun lastPart => lastItem (pySplit lastPart '-') >>=
      fun sha => pure (if long then sha else sha.take 8)) = _
    rw [hlast, ok_bind, hsha, ok_bind]
    rfl
  have hshort : getGitShaFromDockerurl tag false = .ok (commit.take 8) := by
    simpa using hlong false
  refine ⟨by simpa using hlong true, hshort, ?_, getCodeShaFromDockerurl_eq⟩
  simp [getCodeShaFromDockerurl, hshort, toString_string]

/-- A soa-configs directory whose service configuration names a registry. -/
def SoaDir.withRegistry (registry : String) : SoaDir :=
  .uniform ⟨.dict [("docker_registry", .str registry)],
    by simp [KeysSorted, Value.Canonical, Value.isCanonical, Value.fieldsCanonical]⟩

theorem getGitShaFromDockerurl_buildDockerTag_yelpcorp :
    '/' ∉ "example_service".toList ∧ '-' ∉ "abcdef0123456789".toList ∧
      '/' ∉ "abcdef0123456789".toList ∧
      buildDockerTag (.withRegistry "docker-paasta.yelpcorp.com:443") .empty "example_service"
        "abcdef0123456789" =
        .ok "docker-paasta.yelpcorp.com:443/services-example_service:paasta-abcdef0123456789" ∧
      getGitShaFromDockerurl
          "docker-paasta.yelpcorp.com:443/services-example_service:paasta-abcdef0123456789" true =
        .ok "abcdef0123456789" ∧
      getGitShaFromDockerurl
          "docker-paasta.yelpcorp.com:443/services-example_service:paasta-abcdef0123456789" false =
        .ok ("abcdef0123456789".take 8) ∧
      getCodeShaFromDockerurl
          "docker-paasta.yelpcorp.com:443/services-example_service:paasta-abcdef0123456789" =
        "git" ++ "abcdef0123456789".take 8 ∧
      ∀ dockerUrl, ∃ sha, getGitShaFromDockerurl dockerUrl false = .ok sha ∧
        getCodeShaFromDockerurl dockerUrl = "git" ++ sha :=
  ⟨by decide, by decide, by decide, rfl,
    getGitShaFromDockerurl_buildDockerTag (by decide) (by decide) (by decide)
      (show buildDockerTag (.withRegistry "docker-paasta.yelpcorp.com:443") .empty
        "example_service" "abcdef0123456789" =
        .ok "docker-paasta.yelpcorp.com:443/services-example_service:paasta-abcdef0123456789"
        from rfl)⟩

end Tags

end PaastaConfig
