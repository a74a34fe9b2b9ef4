import PaastaConfig.Basic

/-!
# Python regular expressions

`get_soa_cluster_deploy_files` builds a pattern from the instance types and the configured
cluster names and runs `re.search` with it. This module models the part of Python's `re` that
such a pattern reaches: the parser of `sre_parse` and the backtracking matcher.

The parser (`compileLoop`) reads the pattern left to right with a stack of open groups. It
covers literal characters, `.`, `^`, `$`, groups, alternation, the repetitions `*`, `+` and `?`
(greedy, or lazy with a further `?`) and escaped punctuation, and raises `re.error` where
`sre_parse` does: an unbalanced parenthesis, an unterminated group, a repetition of nothing, of
an anchor or of a repetition, a trailing backslash. Character sets, counted repetitions, escapes
of letters and digits and `(?...)` extensions stop the model with `unmodelledRegex`. Messages
leave out Python's `at position n` suffix, and `*+` is a repetition of a repetition, as before
Python 3.11.

The matcher (`Regex.matchFrom`) lists every way a pattern matches from a position, in the order
the engine tries them, so that the engine's match is the head of the list. A repetition takes
no iteration that matches the empty string; Python's guard against such iterations differs in
detail, which changes only the captures of a repetition whose body can match the empty string.
-/

namespace PaastaConfig

/-- A compiled pattern, as `sre_parse` builds it. -/
inductive Regex where
  | empty
  | char (c : Char)
  /-- `.`: any character but a newline. -/
  | any
  /-- `^`: the start of the string. -/
  | lineStart
  /-- `$`: the end of the string, or just before a newline that ends it. -/
  | lineEnd
  | seq (r s : Regex)
  /-- `r|s`, trying `r` first. -/
  | alt (r s : Regex)
  | star (r : Regex) (greedy : Bool)
  | plus (r : Regex) (greedy : Bool)
  | opt (r : Regex) (greedy : Bool)
  /-- The capturing group numbered `index`. -/
  | group (index : Nat) (r : Regex)
  deriving DecidableEq, Repr

/-- The spans the capturing groups record along a match, the latest first: the group's number,
where its text starts and where it stops. -/
abbrev Captures := List (Nat × Nat × Nat)

/-- The ways to repeat a pattern whose single matches are `step`, at most `fuel` times, in the
order the engine tries them: a greedy repetition tries one more iteration before it stops, a
lazy one stops first. -/
def repeatMatches (step : Nat → Captures → List (Nat × Captures)) (greedy : Bool) :
    Nat → Nat → Captures → List (Nat × Captures)
  | 0, i, caps => [(i, caps)]
  | fuel + 1, i, caps =>
      let more := ((step i caps).filter fun next => next.1 != i).flatMap
        fun next => repeatMatches step greedy fuel next.1 next.2
      if greedy then more ++ [(i, caps)] else (i, caps) :: more

namespace Regex

/-- Every way `r` matches `input` from position `i`, the captures so far being `caps`: where it
stops and the captures then, in the order the backtracking engine tries them. A repetition runs
at most once per character left, as often as iterations that each consume a character can. -/
def matchFrom (input : List Char) : Regex → Nat → Captures → List (Nat × Captures)
  | empty, i, caps => [(i, caps)]
  | char c, i, caps => if input[i]? = some c then [(i + 1, caps)] else []
  | any, i, caps =>
      match input[i]? with
      | some c => if c = '\n' then [] else [(i + 1, caps)]
      | none => []
  | lineStart, i, caps => if i = 0 then [(i, caps)] else []
  | lineEnd, i, caps =>
      if i = input.length ∨ i + 1 = input.length ∧ input[i]? = some '\n' then [(i, caps)]
      else []
  | seq r s, i, caps =>
      (r.matchFrom input i caps).flatMap fun next => s.matchFrom input next.1 next.2
  | alt r s, i, caps => r.matchFrom input i caps ++ s.matchFrom input i caps
  | star r greedy, i, caps =>
      repeatMatches (r.matchFrom input) greedy (input.length + 1 - i) i caps
  | plus r greedy, i, caps =>
      (r.matchFrom input i caps).flatMap fun next =>
        repeatMatches (r.matchFrom input) greedy (input.length + 1 - next.1) next.1 next.2
  | opt r greedy, i, caps =>
      if greedy then r.matchFrom input i caps ++ [(i, caps)]
      else (i, caps) :: r.matchFrom input i caps
  | group n r, i, caps =>
      (r.matchFrom input i caps).map fun next => (next.1, (n, i, next.1) :: next.2)

end Regex

/-- A compiled pattern: its tree and its number of groups. -/
structure Pattern where
  regex : Regex
  groups : Nat
  deriving DecidableEq, Repr

/-- A match object: the string searched, the number of groups of the pattern, where the match
starts and stops, and its captures. -/
structure Match where
  string : List Char
  groups : Nat
  start : Nat
  stop : Nat
  captures : Captures
  deriving DecidableEq, Repr

/-- `pattern.search(string)`: the engine's match from the leftmost position that has one. -/
def Pattern.search (pattern : Pattern) (string : List Char) : Option Match :=
  (List.range (string.length + 1)).findSome? fun start =>
    (pattern.regex.matchFrom string start []).head?.map fun outcome =>
      ⟨string, pattern.groups, start, outcome.1, outcome.2⟩

/-- `string[start:stop]`. -/
def slice (string : List Char) (start stop : Nat) : String :=
  ⟨(string.drop start).take (stop - start)⟩

/-- `match.group(n)`: the whole match for `0`, else the text of the latest capture of group
`n`, `None` when the group took no part in the match. -/
def Match.group (m : Match) (n : Nat) : Except PyError (Option String) :=
  if m.groups < n then throw .indexError
  else if n = 0 then pure (some (slice m.string m.start m.stop))
  else pure ((m.captures.find? fun span => span.1 == n).map fun span =>
    slice m.string span.2.1 span.2.2)

/-- `SPECIAL_CHARS` of `sre_parse`: the characters that do not stand for themselves. -/
def specialChars : List Char := ['.', '\\', '[', '{', '(', ')', '*', '+', '?', '^', '$', '|']

/-- The items `rs` one after the other. -/
def seqOf : List Regex → Regex
  | [] => .empty
  | r :: rs => .seq r (seqOf rs)

/-- The branches `rs`, tried in order. -/
def altOf : List Regex → Regex
  | [] => .empty
  | [r] => r
  | r :: rs => .alt r (altOf rs)

/-- The pattern of a word whose characters all stand for themselves. -/
def lit (w : List Char) : Regex := seqOf (w.map .char)

/-- The words `ws` joined by `sep`: `sep.join(ws)` on the characters. -/
def joinWith {α : Type} (sep : List α) : List (List α) → List α
  | [] => []
  | [w] => w
  | w :: ws => w ++ sep ++ joinWith sep ws

/-- A group the parser is reading. -/
structure Frame where
  /-- Its number; `0` for the whole pattern. -/
  index : Nat
  /-- The branches before its last `|`, the latest first. -/
  branches : List Regex
  /-- The items of the branch being read, the latest first. -/
  items : List Regex

namespace Frame

/-- Adds an item to the branch being read. -/
def push (f : Frame) (item : Regex) : Frame := { f with items := item :: f.items }

/-- Ends the branch being read, at a `|`. -/
def branch (f : Frame) : Frame :=
  { f with branches := seqOf f.items.reverse :: f.branches, items := [] }

/-- The group as read so far. -/
def close (f : Frame) : Regex := altOf (f.branches.reverse ++ [seqOf f.items.reverse])

/-- Repeats the last item, which `sre_parse` refuses for nothing, an anchor or a repetition. -/
def repeatLast (f : Frame) (repetition : Regex → Regex) : Except PyError Frame :=
  match f.items with
  | [] | .lineStart :: _ | .lineEnd :: _ => throw (.reError "nothing to repeat")
  | .star .. :: _ | .plus .. :: _ | .opt .. :: _ => throw (.reError "multiple repeat")
  | item :: items => pure { f with items := repetition item :: items }

end Frame

/-- The loop of `sre_parse.parse`: reads the rest of a pattern with the group `f` open inside the
groups of `stack`, the next group to open being numbered `next`. -/
def compileLoop : List Char → Frame → List Frame → Nat → Except PyError Pattern
  | [], f, [], next => pure ⟨f.close, next - 1⟩
  | [], _, _ :: _, _ => throw (.reError "missing ), unterminated subpattern")
  | c :: rest, f, stack, next =>
      if c ∉ specialChars then compileLoop rest (f.push (.char c)) stack next
      else match c, rest with
        | '.', rest => compileLoop rest (f.push .any) stack next
        | '^', rest => compileLoop rest (f.push .lineStart) stack next
        | '$', rest => compileLoop rest (f.push .lineEnd) stack next
        | '|', rest => compileLoop rest f.branch stack next
        | '(', '?' :: _ => throw (.unmodelledRegex "(?")
        | '(', rest => compileLoop rest ⟨next, [], []⟩ (f :: stack) (next + 1)
        | ')', rest =>
            match stack with
            | [] => throw (.reError "unbalanced parenthesis")
            | outer :: stack => compileLoop rest (outer.push (.group f.index f.close)) stack next
        | '\\', [] => throw (.reError "bad escape (end of pattern)")
        | '\\', c :: rest =>
            if c.isAlphanum then throw (.unmodelledRegex "\\")
            else compileLoop rest (f.push (.char c)) stack next
        | '*', '?' :: rest => f.repeatLast (.star · false) >>= fun f => compileLoop rest f stack next
        | '*', rest => f.repeatLast (.star · true) >>= fun f => compileLoop rest f stack next
        | '+', '?' :: rest => f.repeatLast (.plus · false) >>= fun f => compileLoop rest f stack next
        | '+', rest => f.repeatLast (.plus · true) >>= fun f => compileLoop rest f stack next
        | '?', '?' :: rest => f.repeatLast (.opt · false) >>= fun f => compileLoop rest f stack next
        | '?', rest => f.repeatLast (.opt · true) >>= fun f => compileLoop rest f stack next
        | c, _ => throw (.unmodelledRegex (String.singleton c))

/-- `re.compile(pattern)`. -/
def compile (pattern : String) : Except PyError Pattern :=
  compileLoop pattern.toList ⟨0, [], []⟩ [] 1

/-- `re.search(pattern, string)`. -/
def reSearch (pattern string : String) : Except PyError (Option Match) := do
  let compiled ← compile pattern
  pure (compiled.search string.toList)

section Matching

variable {input : List Char} {i j : Nat} {caps : Captures} {o : Nat × Captures}

theorem cons_prefix_drop {α : Type} {l w : List α} {c : α} :
    c :: w <+: l.drop i ↔ l[i]? = some c ∧ w <+: l.drop (i + 1) := by
  rw [← List.head?_drop, ← List.tail_drop]
  generalize l.drop i = d
  cases d <;> simp [List.cons_prefix_cons, eq_comm]

/-- A prefix of a suffix, followed by what is left. -/
theorem drop_eq_of_prefix {α : Type} {l w : List α} (h : w <+: l.drop i) :
    l.drop i = w ++ l.drop (i + w.length) := by
  have happend := List.prefix_iff_eq_append.mp h
  rw [List.drop_drop] at happend
  exact happend.symm

namespace Regex

theorem mem_matchFrom_char {c : Char} :
    o ∈ (char c).matchFrom input i caps ↔ input[i]? = some c ∧ o = (i + 1, caps) := by
  by_cases h : input[i]? = some c <;> simp [matchFrom, h]

theorem mem_matchFrom_any :
    o ∈ any.matchFrom input i caps ↔ (∃ c, input[i]? = some c ∧ c ≠ '\n') ∧ o = (i + 1, caps) := by
  simp only [matchFrom]
  cases input[i]? with
  | none => simp
  | some c => by_cases hc : c = '\n' <;> simp [hc]

theorem mem_matchFrom_lineEnd :
    o ∈ lineEnd.matchFrom input i caps ↔
      (i = input.length ∨ i + 1 = input.length ∧ input[i]? = some '\n') ∧ o = (i, caps) := by
  simp only [matchFrom]
  split <;> simp_all

theorem mem_matchFrom_seq {r s : Regex} :
    o ∈ (seq r s).matchFrom input i caps ↔
      ∃ mid ∈ r.matchFrom input i caps, o ∈ s.matchFrom input mid.1 mid.2 := by
  simp [matchFrom]

theorem mem_matchFrom_group {n : Nat} {r : Regex} :
    o ∈ (group n r).matchFrom input i caps ↔
      ∃ mid ∈ r.matchFrom input i caps, o = (mid.1, (n, i, mid.1) :: mid.2) := by
  simp [matchFrom, eq_comm]

theorem mem_matchFrom_altOf {rs : List Regex} (hne : rs ≠ []) :
    o ∈ (altOf rs).matchFrom input i caps ↔ ∃ r ∈ rs, o ∈ r.matchFrom input i caps := by
  induction rs using altOf.induct with
  | case1 => exact absurd rfl hne
  | case2 r => simp [altOf]
  | case3 r r' hr' ih => simp [altOf, matchFrom, ih hr']

/-- Literal characters match exactly where the text continues with them. -/
theorem matchFrom_seqOf_chars (w : List Char) (rs : List Regex) :
    (seqOf (w.map char ++ rs)).matchFrom input i caps =
      if w <+: input.drop i then (seqOf rs).matchFrom input (i + w.length) caps else [] := by
  induction w generalizing i with
  | nil => simp
  | cons c w ih =>
      simp only [List.map_cons, List.cons_append, seqOf, matchFrom, cons_prefix_drop]
      by_cases hc : input[i]? = some c
      · simp [hc, ih, Nat.add_assoc, Nat.add_comm 1]
      · simp [hc]

theorem matchFrom_lit (w : List Char) :
    (lit w).matchFrom input i caps = if w <+: input.drop i then [(i + w.length, caps)] else [] := by
  simpa [seqOf, matchFrom] using @matchFrom_seqOf_chars input i caps w []

theorem mem_matchFrom_seqOf_chars {w : List Char} {rs : List Regex} :
    o ∈ (seqOf (w.map char ++ rs)).matchFrom input i caps ↔
      w <+: input.drop i ∧ o ∈ (seqOf rs).matchFrom input (i + w.length) caps := by
  rw [matchFrom_seqOf_chars]
  split_ifs with h <;> simp [h]

theorem mem_matchFrom_lit {w : List Char} :
    o ∈ (lit w).matchFrom input i caps ↔ w <+: input.drop i ∧ o = (i + w.length, caps) := by
  rw [matchFrom_lit]
  split_ifs with h <;> simp [h]

/-- `.*` and its kin never record a capture. -/
theorem repeatMatches_any_captures {greedy : Bool} {fuel : Nat}
    (h : o ∈ repeatMatches (any.matchFrom input) greedy fuel i caps) : o.2 = caps := by
  induction fuel generalizing i o with
  | zero => simp_all [repeatMatches]
  | succ fuel ih =>
      have hmore : ∀ next ∈ (any.matchFrom input i caps).filter (fun next => next.1 != i),
          ∀ o ∈ repeatMatches (any.matchFrom input) greedy fuel next.1 next.2, o.2 = caps := by
        intro next hnext o ho
        obtain ⟨-, rfl⟩ := mem_matchFrom_any.mp (List.mem_of_mem_filter hnext)
        exact ih ho
      have hstop : o = (i, caps) → o.2 = caps := fun hi => by rw [hi]
      cases greedy
      · simp only [repeatMatches, Bool.false_eq_true, if_false, List.mem_cons,
          List.mem_flatMap] at h
        rcases h with h | ⟨next, hnext, ho⟩
        · exact hstop h
        · exact hmore next hnext o ho
      · simp only [repeatMatches, if_true, List.mem_append, List.mem_flatMap,
          List.mem_singleton] at h
        rcases h with ⟨next, hnext, ho⟩ | h
        · exact hmore next hnext o ho
        · exact hstop h

/-- `.*` reaches every position up to the next newline, as far as its fuel lets it. -/
theorem mem_repeatMatches_any {greedy : Bool} {fuel : Nat} (hij : i ≤ j) (hfuel : j - i ≤ fuel)
    (hline : ∀ k, i ≤ k → k < j → ∃ c, input[k]? = some c ∧ c ≠ '\n') :
    (j, caps) ∈ repeatMatches (any.matchFrom input) greedy fuel i caps := by
  induction fuel generalizing i with
  | zero => cases greedy <;> simp [repeatMatches, show j = i by omega]
  | succ fuel ih =>
      by_cases hji : j = i
      · subst hji
        cases greedy <;> simp [repeatMatches]
      · have hstep : (i + 1, caps) ∈ (any.matchFrom input i caps).filter (fun next => next.1 != i) :=
          List.mem_filter.mpr ⟨mem_matchFrom_any.mpr ⟨hline i le_rfl (by omega), rfl⟩, by simp⟩
        have hrest := @ih (i + 1) (by omega) (by omega)
          fun k hk hkj => hline k (by omega) hkj
        have hmore : (j, caps) ∈ ((any.matchFrom input i caps).filter fun next => next.1 != i).flatMap
            fun next => repeatMatches (any.matchFrom input) greedy fuel next.1 next.2 :=
          List.mem_flatMap.mpr ⟨_, hstep, hrest⟩
        cases greedy <;> simp only [repeatMatches, if_true, if_false] <;> simp [hmore]

end Regex

/-- A search returns the engine's first match from some position. -/
theorem Pattern.search_sound {p : Pattern} {m : Match} (h : p.search input = some m) :
    m.string = input ∧ m.groups = p.groups ∧
      ∃ o ∈ p.regex.matchFrom input m.start [], m.captures = o.2 := by
  obtain ⟨start, -, hstart⟩ := List.exists_of_findSome?_eq_some h
  cases hhead : (p.regex.matchFrom input start []).head? with
  | none => simp [hhead] at hstart
  | some o =>
      simp only [hhead, Option.map_some', Option.some.injEq] at hstart
      subst hstart
      exact ⟨rfl, rfl, o, List.mem_of_mem_head? hhead, rfl⟩

/-- A search finds a match when there is one from some position. -/
theorem Pattern.search_isSome {p : Pattern} {start : Nat} (hstart : start ≤ input.length)
    (ho : o ∈ p.regex.matchFrom input start []) : (p.search input).isSome := by
  rw [Pattern.search, List.findSome?_isSome_iff]
  refine ⟨start, List.mem_range.mpr (by omega), ?_⟩
  cases h : p.regex.matchFrom input start [] with
  | nil => simp [h] at ho
  | cons => simp

end Matching

section Parsing

variable {rest : List Char} {f : Frame} {stack : List Frame} {next : Nat}

theorem compileLoop_literal {c : Char} (hc : c ∉ specialChars) :
    compileLoop (c :: rest) f stack next = compileLoop rest (f.push (.char c)) stack next := by
  conv_lhs => unfold compileLoop
  rw [if_pos hc]

/-- A word of literal characters is read as those characters. -/
theorem compileLoop_word {w : List Char} (hw : ∀ c ∈ w, c ∉ specialChars) :
    compileLoop (w ++ rest) f stack next =
      compileLoop rest { f with items := (w.map .char).reverse ++ f.items } stack next := by
  induction w generalizing f with
  | nil => rfl
  | cons c w ih =>
      rw [List.cons_append, compileLoop_literal (hw c (List.mem_cons_self c w)),
        ih fun d hd => hw d (List.mem_cons_of_mem c hd)]
      simp [Frame.push]

theorem compileLoop_bar : compileLoop ('|' :: rest) f stack next = compileLoop rest f.branch stack next :=
  rfl

/-- Literal words joined by `|` are read as the alternation of the words. -/
theorem compileLoop_alternatives {ws : List (List Char)}
    (hws : ∀ w ∈ ws, ∀ c ∈ w, c ∉ specialChars) (hne : ws ≠ []) (hf : f.items = []) :
    ∃ g : Frame, g.index = f.index ∧ g.close = altOf (f.branches.reverse ++ ws.map lit) ∧
      compileLoop (joinWith ['|'] ws ++ rest) f stack next = compileLoop rest g stack next := by
  induction ws generalizing f with
  | nil => exact absurd rfl hne
  | cons w ws ih =>
      have hw := hws w (List.mem_cons_self w ws)
      cases ws with
      | nil =>
          refine ⟨{ f with items := (w.map .char).reverse ++ f.items }, rfl, ?_,
            compileLoop_word hw⟩
          simp [Frame.close, hf, lit]
      | cons w' ws =>
          obtain ⟨g, hindex, hclose, hloop⟩ :=
            @ih (Frame.branch { f with items := (w.map .char).reverse ++ f.items })
              (fun v hv => hws v (List.mem_cons_of_mem w hv)) (List.cons_ne_nil w' ws) rfl
          refine ⟨g, hindex, ?_, ?_⟩
          · simp [hclose, Frame.branch, hf, lit]
          · rw [joinWith, List.append_assoc, List.append_assoc, compileLoop_word hw,
              List.singleton_append, compileLoop_bar, hloop]
            exact List.cons_ne_nil w' ws

end Parsing

end PaastaConfig
