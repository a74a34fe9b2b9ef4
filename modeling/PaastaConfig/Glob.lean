import PaastaConfig.Basic
import Mathlib.Data.List.Infix

/-!
# `glob.glob` and `fnmatch`

`get_soa_cluster_deploy_files` lists a service's deploy files with
`glob.glob("%s/*.yaml" % service_path)`. This module models `glob.glob` of CPython 3.11 without
`root_dir`, `dir_fd` or `recursive`: `_iglob` splits the pattern with `os.path.split`, expands a
directory part that holds `*`, `?` or `[` by the same function restricted to directories, lists
each directory with `_iterdir` and keeps the names `fnmatch.filter` accepts (`_glob1`), or checks
that a name without magic exists (`_glob0`). Hidden names are left out unless the pattern is
hidden too.

`fnmatch.translate` turns `*` into a run of any characters, `?` into any one character, and
every other character into itself, under `(?s:...)\Z`, which `re.match` matches against the
whole name; runs of `*`, which it folds into one, and the atomic groups it builds for a `*`
followed by more pattern match the same names as this reading, which the model matches directly
(`piecesMatch`). A `[` with a later `]` opens a character set, which `re` receives; like the
model of `re`, the model stops there with `unmodelledRegex`. A `[` with no `]` after it stands for
itself.

The file system is what `os.scandir`, `os.path.isdir`, `os.path.lexists` and `open` report. Its
directory entries carry the one fact the operating system guarantees of them, that they are
non-empty names without `/` (`FileSystem.listdir_wf`), which `_ishidden` and `os.path.join`
rely on. For a directory part without magic, `glob` lists that directory
(`glob_of_literal_dir`), and `dir/*.yaml` gives its visible names that end in `.yaml`
(`glob_yaml`).
-/

namespace PaastaConfig

/-- Whether a name can name a directory entry: it is not empty and holds no `/`. -/
def EntryName (name : String) : Prop := name ≠ "" ∧ '/' ∉ name.toList

instance : DecidablePred EntryName := fun name =>
  inferInstanceAs (Decidable (name ≠ "" ∧ '/' ∉ name.toList))

/-- What `glob` and `open` see of the file system. -/
structure FileSystem where
  /-- The names `os.scandir` lists in the directory at a path, in its order; none for a path
  that is not a directory or cannot be listed. -/
  listdir : String → List String
  /-- `os.path.isdir(path)`. -/
  isdir : String → Bool
  /-- `os.path.lexists(path)`. -/
  lexists : String → Bool
  /-- Whether `open(path)` succeeds. -/
  readable : String → Bool
  /-- A directory entry is a non-empty name without `/`. -/
  listdir_wf : ∀ path, ∀ name ∈ listdir path, EntryName name

/-- `s.endswith(suffix)`. -/
def endswith (s suffix : String) : Bool := suffix.toList.isSuffixOf s.toList

/-- `os.path.join(a, b)`. -/
def osPathJoin (a b : String) : String :=
  if startswith b "/" then b
  else if a == "" || endswith a "/" then a ++ b
  else a ++ "/" ++ b

/-- `os.path.split(p)`: the text up to the last `/`, stripped of its trailing `/`s unless it is
all `/`, and the text after it. -/
def osPathSplit (p : String) : String × String :=
  let tail := (p.toList.reverse.takeWhile (· != '/')).reverse
  let head := (p.toList.reverse.dropWhile (· != '/')).reverse
  let head := if head.all (· == '/') then head else (head.reverse.dropWhile (· == '/')).reverse
  (String.mk head, String.mk tail)

/-- `glob.has_magic(s)`: whether `s` holds `*`, `?` or `[`. -/
def hasMagic (s : String) : Bool := s.toList.any fun c => c == '*' || c == '?' || c == '['

/-- `glob._ishidden(path)`: whether the name starts with `.`. -/
def ishidden (path : String) : Bool := startswith path "."

/-- `glob._join(dirname, basename)`. -/
def globJoin (dirname basename : String) : String :=
  if dirname = "" ∨ basename = "" then (if dirname ≠ "" then dirname else basename)
  else osPathJoin dirname basename

/-- A piece of a shell pattern, as `fnmatch.translate` reads it. -/
inductive PatternPiece where
  /-- `*`: any run of characters. -/
  | star
  /-- `?`: any one character. -/
  | any
  | char (c : Char)
  deriving DecidableEq, Repr

/-- Whether the `[` before `rest` opens a set in `fnmatch.translate`: past an optional `!` and
an optional `]`, a `]` follows. -/
def opensSet (rest : List Char) : Bool :=
  let rest := match rest with
    | '!' :: more => more
    | _ => rest
  let rest := match rest with
    | ']' :: more => more
    | _ => rest
  rest.contains ']'

/-- `fnmatch.translate(pat)`, read as the pieces it matches in order. -/
def translate : List Char → Except PyError (List PatternPiece)
  | [] => pure []
  | '*' :: rest => (.star :: ·) <$> translate rest
  | '?' :: rest => (.any :: ·) <$> translate rest
  | '[' :: rest =>
      if opensSet rest then throw (.unmodelledRegex "[")
      else (.char '[' :: ·) <$> translate rest
  | c :: rest => (.char c :: ·) <$> translate rest

/-- Whether the pieces match the whole of `name`, as the pattern `translate` builds does under
`re.match`. -/
def piecesMatch : List PatternPiece → List Char → Bool
  | [], name => name.isEmpty
  | .star :: pieces, name => name.tails.any (piecesMatch pieces)
  | .any :: pieces, _ :: name => piecesMatch pieces name
  | .char c :: pieces, c' :: name => c == c' && piecesMatch pieces name
  | _ :: _, [] => false

/-- `fnmatch.filter(names, pat)`: the pattern is compiled before any name is tried. -/
def fnmatchFilter (names : List String) (pat : String) : Except PyError (List String) := do
  let pieces ← translate pat.toList
  pure (names.filter fun name => piecesMatch pieces name.toList)

/-- `glob._iterdir(dirname, None, dironly)`: the names `os.scandir` lists in the directory, the
current one for an empty name, only the directories among them when `dironly`. -/
def FileSystem.iterdir (fs : FileSystem) (dirname : String) (dironly : Bool) : List String :=
  let arg := if dirname = "" then "." else dirname
  (fs.listdir arg).filter fun name => !dironly || fs.isdir (osPathJoin arg name)

/-- `glob._glob1(dirname, pattern, None, dironly)`: the names of the directory that the pattern
matches, hidden ones only for a hidden pattern. -/
def glob1 (fs : FileSystem) (dirname pattern : String) (dironly : Bool) :
    Except PyError (List String) :=
  let names := fs.iterdir dirname dironly
  let names := if ishidden pattern then names else names.filter fun x => !ishidden x
  fnmatchFilter names pattern

/-- `glob._glob0(dirname, basename, None, dironly)`: the name itself, when it exists. -/
def glob0 (fs : FileSystem) (dirname basename : String) : List String :=
  if basename ≠ "" then
    if fs.lexists (globJoin dirname basename) then [basename] else []
  else if fs.isdir dirname then [basename] else []

/-- `glob._iglob(pathname, '', None, False, dironly)`, listed. The directory part of a pattern
with magic is shorter than the pattern, so `fuel` at least the pattern's length never runs out;
the generators are read to the end, and every error they can raise is the same, so reading them
eagerly raises where they do. -/
def iglob (fs : FileSystem) (fuel : Nat) (pathname : String) (dironly : Bool) :
    Except PyError (List String) :=
  let (dirname, basename) := osPathSplit pathname
  if !hasMagic pathname then
    if basename ≠ "" then pure (if fs.lexists pathname then [pathname] else [])
    else pure (if fs.isdir dirname then [pathname] else [])
  else if dirname = "" then glob1 fs "" basename dironly
  else do
    let dirs ← if dirname ≠ pathname ∧ hasMagic dirname then
        match fuel with
        | 0 => pure []
        | fuel + 1 => iglob fs fuel dirname true
      else pure [dirname]
    let found ← dirs.mapM fun dir => do
      let names ← if hasMagic basename then glob1 fs dir basename dironly
        else pure (glob0 fs dir basename)
      pure (names.map (osPathJoin dir))
    pure found.flatten

/-- `glob.glob(pathname)`: `iglob` skips the one name an empty pattern can give, the empty one. -/
def glob (fs : FileSystem) (pathname : String) : Except PyError (List String) :=
  if pathname = "" then pure [] else iglob fs pathname.length pathname false

/-- The file system whose directories are `dirs`, each listing its names, in which every path is
readable and the listed names and the directories exist; names no directory entry can have are
dropped. -/
def FileSystem.ofDirs (dirs : List (String × List String)) : FileSystem where
  listdir path := ((dirs.lookup path).getD []).filter fun name => decide (EntryName name)
  isdir path := dirs.any fun dir => dir.1 == path
  lexists path := dirs.any fun dir =>
    dir.1 == path || dir.2.any fun name => osPathJoin dir.1 name == path
  readable _ := true
  listdir_wf _ _ h := of_decide_eq_true (List.mem_filter.mp h).2

/-- A directory part with `*` is expanded: `/soa/s*/*.yaml` reads the `.yaml` files of every
directory of `/soa` whose name starts with `s`. -/
example : glob (.ofDirs [("/soa", ["svc", "web", "sub"]), ("/soa/svc", ["a.yaml", ".b.yaml"]),
    ("/soa/web", ["c.yaml"])]) "/soa/s*/*.yaml" = .ok ["/soa/svc/a.yaml"] := by
  rfl

section Literal

variable {dir base name : String} {w : List Char}

theorem translate_chars (plain : ∀ c ∈ w, c ≠ '*' ∧ c ≠ '?' ∧ c ≠ '[') :
    translate w = .ok (w.map .char) := by
  induction w with
  | nil => rfl
  | cons c w ih =>
      obtain ⟨star, any, bracket⟩ := plain c (List.mem_cons_self c w)
      rw [translate.eq_5 _ _ star any bracket,
        ih fun x hx => plain x (List.mem_cons_of_mem c hx)]
      rfl

theorem piecesMatch_chars (name : List Char) : piecesMatch (w.map .char) name = (name == w) := by
  induction w generalizing name with
  | nil => cases name <;> rfl
  | cons c w ih =>
      cases name with
      | nil => rfl
      | cons x name => simp [piecesMatch, ih, Bool.beq_comm]

/-- `*` followed by characters without magic matches the names that end in them. -/
theorem piecesMatch_star_chars (name : List Char) :
    piecesMatch (.star :: w.map .char) name = w.isSuffixOf name := by
  rw [Bool.eq_iff_iff, piecesMatch, List.any_eq_true, List.isSuffixOf_iff_suffix,
    ← List.mem_tails]
  simp [piecesMatch_chars]

theorem hasMagic_eq_false_iff :
    hasMagic name = false ↔ ∀ c ∈ name.toList, c ≠ '*' ∧ c ≠ '?' ∧ c ≠ '[' := by
  simp [hasMagic, or_assoc]

/-- `fnmatch.filter(names, "*" + suffix)` keeps the names that end in a suffix without magic. -/
theorem fnmatchFilter_star (names : List String) (plain : hasMagic base = false) :
    fnmatchFilter names ("*" ++ base) = .ok (names.filter fun name => endswith name base) := by
  have pieces : translate ("*" ++ base).toList = .ok (.star :: base.toList.map .char) := by
    rw [show ("*" ++ base).toList = '*' :: base.toList from rfl, translate,
      translate_chars (hasMagic_eq_false_iff.mp plain)]
    rfl
  simp only [fnmatchFilter, pieces, ok_bind, piecesMatch_star_chars]
  rfl

theorem startswith_slash_eq_false (hname : '/' ∉ name.toList) : startswith name "/" = false := by
  rw [startswith]
  cases h : name.toList with
  | nil => rfl
  | cons x rest =>
      have hx : x ≠ '/' := fun hx => hname (by rw [h, hx]; exact List.mem_cons_self _ _)
      simp [List.isPrefixOf, Ne.symm hx]

theorem osPathJoin_of_entry (hdir : dir ≠ "") (hslash : endswith dir "/" = false)
    (hname : '/' ∉ name.toList) : osPathJoin dir name = dir ++ "/" ++ name := by
  simp [osPathJoin, startswith_slash_eq_false hname, hdir, hslash]

/-- A non-empty path that does not end in `/` ends in another character. -/
theorem eq_append_of_endswith (hdir : dir ≠ "") (hslash : endswith dir "/" = false) :
    ∃ init x, dir = String.mk (init ++ [x]) ∧ x ≠ '/' := by
  obtain ⟨init, x, h⟩ := List.eq_nil_or_concat dir.toList |>.resolve_left
    fun h => hdir (String.ext h)
  rw [List.concat_eq_append] at h
  refine ⟨init, x, String.ext h, ?_⟩
  rintro rfl
  have suffix : endswith dir "/" = true := List.isSuffixOf_iff_suffix.mpr ⟨init, h.symm⟩
  exact Bool.false_ne_true (hslash.symm.trans suffix)

/-- `os.path.split` of `dir/base`, for a base without `/` and a directory that does not end in
`/`, gives them back. -/
theorem osPathSplit_append (hdir : dir ≠ "") (hslash : endswith dir "/" = false)
    (hbase : '/' ∉ base.toList) : osPathSplit (dir ++ "/" ++ base) = (dir, base) := by
  obtain ⟨init, x, rfl, hx⟩ := eq_append_of_endswith hdir hslash
  have noSlash : ∀ c ∈ base.data.reverse, (c != '/') = true := fun c hc => by
    simpa using ne_of_mem_of_not_mem (List.mem_reverse.mp hc) hbase
  have htext : (String.mk (init ++ [x]) ++ "/" ++ base).data.reverse =
      base.data.reverse ++ '/' :: x :: init.reverse := by
    simp
  simp only [osPathSplit, String.toList, htext, List.takeWhile_append_of_pos noSlash,
    List.dropWhile_append_of_pos noSlash]
  simp [List.takeWhile_cons, List.dropWhile_cons, hx]

variable {fs : FileSystem}

theorem hasMagic_append {a b : String} : hasMagic (a ++ b) = (hasMagic a || hasMagic b) := by
  simp [hasMagic, String.toList]

/-- For a directory part without magic that does not end in `/` and a base with magic, `glob`
gives the names `_glob1` keeps in that directory, each joined to it. -/
theorem glob_of_literal_dir (hdir : dir ≠ "") (hslash : endswith dir "/" = false)
    (plainDir : hasMagic dir = false) (hbase : '/' ∉ base.toList) (magic : hasMagic base = true) :
    glob fs (dir ++ "/" ++ base) = List.map (osPathJoin dir) <$> glob1 fs dir base false := by
  have nonempty : dir ++ "/" ++ base ≠ "" := fun h => hdir (String.ext (by
    simpa using congrArg (fun s => s.data.take dir.length) h))
  have notSelf : dir ≠ dir ++ "/" ++ base := fun h => by
    simpa using congrArg (fun s => s.data.length) h
  rw [glob, if_neg nonempty, iglob]
  simp only [osPathSplit_append hdir hslash hbase, hasMagic_append, plainDir, magic,
    Bool.or_true, Bool.not_true, if_false, if_neg hdir, ne_eq, notSelf, not_false_eq_true,
    Bool.false_eq_true, and_false, if_true, pure_bind, List.mapM_cons, List.mapM_nil]
  cases glob1 fs dir base false with
  | error => rfl
  | ok names => exact congrArg Except.ok (List.append_nil _)

/-- `glob.glob(dir + "/*.yaml")`, for a directory without magic that does not end in `/`: the
names in it that end in `.yaml` and are not hidden, each joined to it. -/
theorem glob_yaml (hdir : dir ≠ "") (hslash : endswith dir "/" = false)
    (plainDir : hasMagic dir = false) :
    glob fs (dir ++ "/*.yaml") = .ok (((fs.listdir dir).filter fun name =>
      endswith name ".yaml" && !ishidden name).map fun name => dir ++ "/" ++ name) := by
  have pattern : dir ++ "/*.yaml" = dir ++ "/" ++ ("*" ++ ".yaml") := String.ext (by simp)
  have listing : glob1 fs dir ("*" ++ ".yaml") false =
      .ok (((fs.listdir dir).filter fun name => !ishidden name).filter fun name =>
        endswith name ".yaml") := by
    simp only [glob1, FileSystem.iterdir, if_neg hdir, Bool.not_false, Bool.true_or,
      List.filter_true]
    exact fnmatchFilter_star _ rfl
  rw [pattern, glob_of_literal_dir hdir hslash plainDir (by decide) (by decide), listing,
    List.filter_filter]
  refine congrArg Except.ok (List.map_congr_left fun name hname => ?_)
  exact osPathJoin_of_entry hdir hslash (fs.listdir_wf dir name (List.mem_filter.mp hname).1).2

end Literal

end PaastaConfig
