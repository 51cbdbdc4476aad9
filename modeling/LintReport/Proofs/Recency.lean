/-
The kept texts of a session are those of the paths read last.

* `byRecency` — the paths that were read, each at the place of its latest read;
* `length_takeWhile_byRecency` — the place of a path is the number of other paths read since;
* `Reader.map_fst_cache` — the kept texts are those of the first paths in this order;
* `Reader.exists_missed_of_mem_cache` — each kept text was that of the file at the latest read of
  it that went to the file;
* `Reader.reads_of_session` — which reads of a session find a kept text, and what they give.

Design notes: the induction is over the session.  Its two invariants speak of all steps so far,
and each is kept by a single step: a step that reads a path puts it in front of the order, and a
step that changes files changes no kept text.
-/
import Mathlib.Data.Finset.Card
import Mathlib.Data.Finset.Dedup
import LintReport.Files.Reader

namespace LintReport

/-! ### The order of latest reads -/

/-- The paths of a list, each where it comes first. -/
def byRecency : List String → List String
  | [] => []
  | ref :: refs => ref :: (byRecency refs).filter (· != ref)

theorem mem_byRecency {ref : String} {refs : List String} : ref ∈ byRecency refs ↔ ref ∈ refs := by
  induction refs with
  | nil => rfl
  | cons other refs ih =>
    rw [byRecency, List.mem_cons, List.mem_cons, List.mem_filter, ih]
    by_cases h : ref = other
    · simp [h]
    · simp [h]

theorem nodup_byRecency (refs : List String) : (byRecency refs).Nodup := by
  induction refs with
  | nil => exact List.nodup_nil
  | cons ref refs ih =>
    rw [byRecency, List.nodup_cons]
    exact ⟨by simp, ih.filter _⟩

/-- Before the place of a path stand the other paths read since. -/
theorem toFinset_takeWhile_byRecency (ref : String) (refs : List String) :
    ((byRecency refs).takeWhile (· != ref)).toFinset = (refs.takeWhile (· != ref)).toFinset := by
  induction refs with
  | nil => rfl
  | cons other refs ih =>
    rw [byRecency]
    by_cases h : other = ref
    · have hstop : (other != ref) = false := by simp [h]
      rw [List.takeWhile_cons_of_neg (by simp [hstop]),
        List.takeWhile_cons_of_neg (by simp [hstop])]
    · have hgo : (other != ref) = true := by simp [h]
      -- the path that is taken out further back is not the one that is looked for
      have hpred : (fun x => !(x != other) || x != ref) = fun x : String => x != ref := by
        funext x
        by_cases hx : x = other
        · subst hx
          simp [hgo]
        · simp [hx]
      have hcons : ∀ xs, (other :: xs).takeWhile (· != ref) = other :: xs.takeWhile (· != ref) :=
        fun xs => List.takeWhile_cons_of_pos (p := (· != ref)) hgo
      rw [hcons, hcons, List.takeWhile_filter, hpred, List.toFinset_cons, List.toFinset_cons,
        List.toFinset_filter, ih]
      ext x
      by_cases hx : x = other
      · simp [hx]
      · simp [hx]

/-- The place of a path is the number of other paths read since. -/
theorem length_takeWhile_byRecency (ref : String) (refs : List String) :
    ((byRecency refs).takeWhile (· != ref)).length
      = (refs.takeWhile (· != ref)).toFinset.card := by
  have hnodup : ((byRecency refs).takeWhile (· != ref)).Nodup :=
    (nodup_byRecency refs).sublist (List.takeWhile_sublist _)
  rw [← toFinset_takeWhile_byRecency, List.toFinset_card_of_nodup hnodup]

/-- The first elements of a list are those with few others before them. -/
theorem mem_take_iff {ref : String} {refs : List String} {n : Nat} :
    ref ∈ refs.take n ↔ ref ∈ refs ∧ (refs.takeWhile (· != ref)).length < n := by
  induction refs generalizing n with
  | nil => simp
  | cons other refs ih =>
    cases n with
    | zero => simp
    | succ n =>
      rw [List.take_succ_cons, List.mem_cons, List.mem_cons, ih]
      by_cases h : other = ref
      · subst h
        simp
      · have hgo : (other != ref) = true := by simp [h]
        have hne : ref ≠ other := fun heq => h heq.symm
        rw [List.takeWhile_cons_of_pos (p := (· != ref)) hgo, List.length_cons,
          Nat.add_lt_add_iff_right]
        simp [hne]

/-- Of one element more than is kept, an element may be taken out without a loss. -/
theorem take_filter_take {ref : String} {refs : List String} (hnodup : refs.Nodup) (n : Nat) :
    ((refs.take (n + 1)).filter (· != ref)).take n = (refs.filter (· != ref)).take n := by
  induction refs generalizing n with
  | nil => rfl
  | cons other refs ih =>
    obtain ⟨hnew, hnodup⟩ := List.nodup_cons.mp hnodup
    rw [List.take_succ_cons]
    by_cases h : other = ref
    · subst h
      have hkeep : ∀ {xs : List String}, (∀ x ∈ xs, x ∈ refs) →
          (other :: xs).filter (· != other) = xs := by
        intro xs hxs
        rw [List.filter_cons_of_neg (by simp), List.filter_eq_self]
        intro x hx
        have hne : x ≠ other := fun heq => hnew (heq ▸ hxs x hx)
        simpa using hne
      rw [hkeep fun x hx => List.mem_of_mem_take hx, hkeep fun x hx => hx, List.take_take,
        Nat.min_self]
    · have hcons : ∀ xs, (other :: xs).filter (· != ref) = other :: xs.filter (· != ref) :=
        fun xs => List.filter_cons_of_pos (by simp [h])
      rw [hcons, hcons]
      cases n with
      | zero => rfl
      | succ n => rw [List.take_succ_cons, List.take_succ_cons, ih hnodup n]

/-! ### The cache -/

namespace SourceCache

variable {cache : SourceCache} {ref text : String}

theorem mem_of_find? (h : cache.find? ref = some text) : (ref, text) ∈ cache := by
  obtain ⟨before, after, rfl, -⟩ := List.lookup_eq_some_iff.mp h
  simp

theorem isSome_find? : (cache.find? ref).isSome = true ↔ ref ∈ cache.map (·.1) := by
  rw [find?, List.lookup_isSome_iff, List.mem_map]
  constructor
  · rintro ⟨e, he, heq⟩
    exact ⟨e, he, (beq_iff_eq.mp heq).symm⟩
  · rintro ⟨e, he, rfl⟩
    exact ⟨e, he, beq_self_eq_true _⟩

/-- A text that is used moves to the front of the order. -/
theorem map_fst_touch {refs : List String} (hnodup : refs.Nodup)
    (h : cache.map (·.1) = refs.take capacity) :
    (cache.touch ref text).map (·.1) = (ref :: refs.filter (· != ref)).take capacity := by
  have hmap : (cache.filter fun e => e.1 != ref).map (·.1)
      = (refs.take capacity).filter (· != ref) := by
    rw [← h, List.filter_map]
    rfl
  rw [touch, List.map_take, List.map_cons, hmap]
  show (ref :: _).take (255 + 1) = (ref :: _).take (255 + 1)
  rw [List.take_succ_cons, List.take_succ_cons]
  exact congrArg _ (take_filter_take hnodup 255)

theorem mem_touch {e : String × String} (h : e ∈ cache.touch ref text) :
    e = (ref, text) ∨ e ∈ cache ∧ e.1 ≠ ref := by
  rcases List.mem_cons.mp (List.mem_of_mem_take h) with h | h
  · exact .inl h
  · obtain ⟨hmem, hne⟩ := List.mem_filter.mp h
    exact .inr ⟨hmem, by simpa using hne⟩

end SourceCache

/-! ### Sessions -/

namespace Reader

variable {tree : FileTree} {past : List Step} {s : Source}

/-- What one read by a path does: a kept text is used, or else a text is read and kept, or else
nothing is read and nothing kept. -/
theorem read_cases (r : Reader) (hbody : s.body = none) :
    (∃ text, r.cache.find? s.ref = some text ∧ r.keeps s.ref = true ∧ r.answer s = .ok text ∧
        r.next (.read s) = { r with cache := r.cache.touch s.ref text }) ∨
      (∃ text, r.keeps s.ref = false ∧ r.tree.readText s.ref = .ok text ∧ r.answer s = .ok text ∧
        r.next (.read s) = { r with cache := r.cache.touch s.ref text }) ∨
      (∃ e, r.keeps s.ref = false ∧ r.tree.readText s.ref = .error e ∧ r.answer s = .error e ∧
        r.next (.read s) = r) := by
  rw [answer_of_ref hbody, next_read_of_ref hbody, keeps, SourceCache.read]
  cases hfound : r.cache.find? s.ref with
  | some text => exact .inl ⟨text, rfl, rfl, rfl, rfl⟩
  | none =>
    cases hread : r.tree.readText s.ref with
    | ok text => exact .inr (.inl ⟨text, rfl, rfl, rfl, rfl⟩)
    | error e => exact .inr (.inr ⟨e, rfl, rfl, rfl, rfl⟩)

theorem lookups_read_of_body {body : String} (h : s.body = some body) :
    lookups tree (.read s :: past) = lookups tree past := by
  rw [lookups, h]

theorem lookups_read_of_ref (h : s.body = none) :
    lookups tree (.read s :: past)
      = ⟨s.ref, (after tree past).tree, (after tree past).keeps s.ref, (after tree past).answer s⟩
        :: lookups tree past := by
  rw [lookups, h]

theorem readRefs_cons_ok {l : Lookup} {ls : List Lookup} {text : String}
    (h : l.answer = .ok text) : readRefs (l :: ls) = l.ref :: readRefs ls := by
  rw [readRefs, List.filterMap_cons, h]
  rfl

theorem readRefs_cons_error {l : Lookup} {ls : List Lookup} {e : ReadError}
    (h : l.answer = .error e) : readRefs (l :: ls) = readRefs ls := by
  rw [readRefs, List.filterMap_cons, h]
  rfl

/-- **The kept texts are those of the paths read last**, the latest first. -/
theorem map_fst_cache (tree : FileTree) (past : List Step) :
    (after tree past).cache.map (·.1)
      = (byRecency (readRefs (lookups tree past))).take SourceCache.capacity := by
  induction past with
  | nil => rfl
  | cons step past ih =>
    cases step with
    | change f => exact ih
    | clear => rfl
    | read s =>
      rw [after]
      cases hbody : s.body with
      | some body => rw [next_read_of_body hbody, lookups_read_of_body hbody, ih]
      | none =>
        have htouch : ∀ text, ((after tree past).cache.touch s.ref text).map (·.1)
            = (byRecency (s.ref :: readRefs (lookups tree past))).take SourceCache.capacity :=
          fun _ => SourceCache.map_fst_touch (nodup_byRecency _) ih
        rw [lookups_read_of_ref hbody]
        rcases read_cases (after tree past) hbody with
          ⟨text, -, -, hanswer, hnext⟩ | ⟨text, -, -, hanswer, hnext⟩ | ⟨e, -, -, hanswer, hnext⟩
        · rw [hnext, htouch, readRefs_cons_ok hanswer]
        · rw [hnext, htouch, readRefs_cons_ok hanswer]
        · -- a read that fails has no place in the order
          rw [hnext, ih, readRefs_cons_error hanswer]

/-- The latest text that was asked for by a path and not kept. -/
def missed? (ref : String) (ls : List Lookup) : Option Lookup :=
  ls.find? fun l => l.ref = ref && !l.kept

/-- Each kept text was that of the file at the latest read of it that went to the file. -/
theorem exists_missed_of_mem_cache {e : String × String} (h : e ∈ (after tree past).cache) :
    ∃ seen, missed? e.1 (lookups tree past) = some ⟨e.1, seen, false, .ok e.2⟩ ∧
      seen.readText e.1 = .ok e.2 := by
  induction past with
  | nil => cases h
  | cons step past ih =>
    cases step with
    | change f => exact ih h
    | clear => cases h
    | read s =>
      rw [after] at h
      cases hbody : s.body with
      | some body =>
        rw [next_read_of_body hbody] at h
        rw [lookups_read_of_body hbody]
        exact ih h
      | none =>
        rw [lookups_read_of_ref hbody, missed?, List.find?_cons]
        rcases read_cases (after tree past) hbody with
          ⟨text, hfound, hkept, hanswer, hnext⟩ | ⟨text, hkept, hread, hanswer, hnext⟩ |
          ⟨e', hkept, -, -, hnext⟩
        · -- a kept text that is used again was read before
          rw [hnext] at h
          simp only [hkept, Bool.not_true, Bool.and_false]
          rcases SourceCache.mem_touch h with rfl | ⟨h, -⟩
          · exact ih (SourceCache.mem_of_find? hfound)
          · exact ih h
        · -- a text that is kept from now on was just read
          rw [hnext] at h
          rcases SourceCache.mem_touch h with rfl | ⟨h, hne⟩
          · simp only [hkept, hanswer, Bool.not_false, Bool.and_true, decide_true]
            exact ⟨_, rfl, hread⟩
          · have hother : (s.ref = e.1) = False := eq_false fun heq => hne heq.symm
            simp only [hother, decide_false, Bool.false_and]
            exact ih h
        · -- what could not be read was not kept, so it is not the text in question
          rw [hnext] at h
          have hother : s.ref ≠ e.1 := by
            intro heq
            have hmem := SourceCache.isSome_find?.mpr (List.mem_map_of_mem (f := (·.1)) h)
            rw [← heq] at hmem
            cases hkept.symm.trans hmem
          simp only [hother, decide_false, Bool.false_and]
          exact ih h

/-- While no file changes, texts are asked for among the files as they are now. -/
theorem tree_of_mem_lookups (hstill : ∀ step ∈ sinceClear past, ∀ f, step ≠ .change f)
    {l : Lookup} (hl : l ∈ lookups tree past) : l.tree = (after tree past).tree := by
  induction past with
  | nil => cases hl
  | cons step past ih =>
    cases step with
    | change f => exact absurd rfl (hstill _ List.mem_cons_self f)
    | clear => cases hl
    | read s =>
      have hbefore : l ∈ lookups tree past → l.tree = (after tree past).tree :=
        ih fun step hstep => hstill step (List.mem_cons_of_mem _ hstep)
      show l.tree = (after tree past).tree
      cases hbody : s.body with
      | some body =>
        rw [lookups_read_of_body hbody] at hl
        exact hbefore hl
      | none =>
        rw [lookups_read_of_ref hbody] at hl
        rcases List.mem_cons.mp hl with rfl | hl
        · rfl
        · exact hbefore hl

/-- A path is asked of the kept texts exactly if it is one of those read last. -/
theorem keeps_iff {ref : String} :
    (after tree past).keeps ref = true ↔
      ref ∈ readRefs (lookups tree past) ∧
        ((readRefs (lookups tree past)).takeWhile (· != ref)).toFinset.card
          < SourceCache.capacity := by
  rw [keeps, SourceCache.isSome_find?, map_fst_cache, mem_take_iff, mem_byRecency,
    length_takeWhile_byRecency]

/-- What a kept text is: that of the file at the latest read that went to the file. -/
theorem answer_of_keeps (hbody : s.body = none) (hkept : (after tree past).keeps s.ref = true) :
    ∃ text seen, (after tree past).answer s = .ok text ∧
      missed? s.ref (lookups tree past) = some ⟨s.ref, seen, false, .ok text⟩ ∧
      seen.readText s.ref = .ok text := by
  rcases read_cases (after tree past) hbody with
    ⟨text, hfound, -, hanswer, -⟩ | ⟨text, hmiss, -⟩ | ⟨e, hmiss, -⟩
  · obtain ⟨seen, hmissed, hread⟩ :=
      exists_missed_of_mem_cache (SourceCache.mem_of_find? hfound)
    exact ⟨text, seen, hanswer, hmissed, hread⟩
  · cases hmiss.symm.trans hkept
  · cases hmiss.symm.trans hkept

/-- What is not kept is read from the file as it is now. -/
theorem answer_of_not_keeps {r : Reader} (hbody : s.body = none) (hmiss : r.keeps s.ref = false) :
    r.answer s = r.tree.readText s.ref := by
  rcases read_cases r hbody with ⟨text, -, hkept, -⟩ | ⟨text, -, hread, hanswer, -⟩ |
    ⟨e, -, hread, hanswer, -⟩
  · cases hmiss.symm.trans hkept
  · rw [hanswer, hread]
  · rw [hanswer, hread]

/-- A read that fails keeps nothing and forgets nothing. -/
theorem next_read_of_error {r : Reader} (hbody : s.body = none) {e : ReadError}
    (h : r.answer s = .error e) : r.next (.read s) = r := by
  rcases read_cases r hbody with ⟨text, -, -, hanswer, -⟩ | ⟨text, -, -, hanswer, -⟩ |
    ⟨e', -, -, -, hnext⟩
  · cases hanswer.symm.trans h
  · cases hanswer.symm.trans h
  · exact hnext

/-- While no file changes, a reader with kept texts gets what one without them gets. -/
theorem answer_eq_fresh (hstill : ∀ step ∈ sinceClear past, ∀ f, step ≠ .change f) (s : Source) :
    (after tree past).answer s = (fresh (after tree past).tree).answer s := by
  cases hbody : s.body with
  | some body => rw [answer_of_body hbody, answer_of_body hbody]
  | none =>
    have huncached : (fresh (after tree past).tree).answer s
        = (after tree past).tree.readText s.ref := answer_of_not_keeps hbody rfl
    rw [huncached]
    cases hkept : (after tree past).keeps s.ref with
    | false => exact answer_of_not_keeps hbody hkept
    | true =>
      obtain ⟨text, seen, hanswer, hmissed, hread⟩ := answer_of_keeps hbody hkept
      have htree : seen = (after tree past).tree :=
        tree_of_mem_lookups hstill (List.mem_of_find?_eq_some hmissed)
      rw [hanswer, ← hread, htree]

/-- **Which reads find a kept text, and what they give.**  After every session that starts with no
text kept, at most 256 texts are kept, of different paths.  A path is asked of the kept texts
exactly if it was read since they were last forgotten, and fewer than 256 other paths after its
latest read; the text is then the one that the file had at the latest read that went to the file.
Otherwise it is that of the file as it is now, and a read that fails changes nothing.  A source
that carries its text neither asks for a kept text nor changes one.  If no file was changed since
the texts were last forgotten, every source gives what it gives to a reader who kept nothing. -/
theorem reads_of_session (tree : FileTree) (past : List Step) :
    let r := after tree past
    let asked := lookups tree past
    let reads := readRefs asked
    r.cache.length ≤ 256 ∧ (r.cache.map (·.1)).Nodup ∧
      (∀ (s : Source) (body : String), s.body = some body →
        (∀ docs, s.text docs = pure body) ∧ r.answer s = .ok body ∧ r.next (.read s) = r) ∧
      (∀ s : Source, s.body = none →
        (r.keeps s.ref = true ↔
          s.ref ∈ reads ∧ (reads.takeWhile (· != s.ref)).toFinset.card < 256) ∧
        (r.keeps s.ref = true → ∃ text seen, r.answer s = .ok text ∧
          missed? s.ref asked = some ⟨s.ref, seen, false, .ok text⟩ ∧
          seen.readText s.ref = .ok text) ∧
        (r.keeps s.ref = false → r.answer s = r.tree.readText s.ref) ∧
        (∀ e, r.answer s = .error e → r.next (.read s) = r)) ∧
      ((∀ step ∈ sinceClear past, ∀ f, step ≠ .change f) →
        ∀ s, r.answer s = (fresh r.tree).answer s) := by
  intro r asked reads
  have hrefs : r.cache.map (·.1) = (byRecency reads).take 256 := map_fst_cache tree past
  refine ⟨?_, ?_, fun s body hbody => ⟨text_of_body hbody, answer_of_body hbody,
    next_read_of_body hbody⟩, fun s hbody => ⟨keeps_iff, answer_of_keeps hbody,
    answer_of_not_keeps hbody, fun e => next_read_of_error hbody⟩, answer_eq_fresh⟩
  · rw [← List.length_map (f := (·.1)), hrefs]
    exact List.length_take_le _ _
  · rw [hrefs]
    exact (nodup_byRecency reads).sublist (List.take_sublist _ _)

/-- A text that is kept while its file changes, a file that is deleted before it is read, and what
is read after all texts were forgotten. -/
theorem reads_of_session_stale :
    let tree : FileTree := ⟨"/", []⟩
    let a : Source := ⟨"/a", none⟩
    let b : Source := ⟨"/b", none⟩
    let carried : Source := ⟨"/a", some ""⟩
    let past : List Step :=
      [.delete ["b"], .write ["a"] [0x79], .read a, .write ["b"] [0x7a], .write ["a"] [0x78]]
    let r := after tree past
    let later := after tree (.read a :: .clear :: past)
    r.keeps "/a" = true ∧ r.answer a = .ok "x" ∧ r.tree.readText "/a" = .ok "y" ∧
      r.keeps "/b" = false ∧ r.answer b = .error (.refused .notFound "/b") ∧
      r.next (.read b) = r ∧
      r.answer carried = .ok "" ∧ r.next (.read carried) = r ∧
      later.keeps "/a" = true ∧ later.answer a = .ok "y" ∧
      later.answer a = (fresh later.tree).answer a := by
  intro tree a b carried past r later
  obtain ⟨-, -, hcarried, hread, -⟩ := reads_of_session tree past
  obtain ⟨-, -, -, -, hstill⟩ := reads_of_session tree (.read a :: .clear :: past)
  obtain ⟨hkeeps, -, -, -⟩ := hread a rfl
  obtain ⟨-, -, hmiss, hfail⟩ := hread b rfl
  have hforgotten : r.keeps "/b" = false := by decide +kernel
  have hgone : r.answer b = .error (.refused .notFound "/b") := by
    rw [hmiss hforgotten]
    decide +kernel
  refine ⟨hkeeps.mpr (by decide +kernel), by decide +kernel, by decide +kernel, hforgotten, hgone,
    hfail _ hgone, (hcarried carried "" rfl).2.1, (hcarried carried "" rfl).2.2,
    by decide +kernel, by decide +kernel, hstill ?_ a⟩
  intro step hstep f hchange
  have hsince : sinceClear (.read a :: .clear :: past) = [.read a] := rfl
  rw [hsince, List.mem_singleton, hchange] at hstep
  cases hstep

end Reader

end LintReport
