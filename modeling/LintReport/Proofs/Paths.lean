/-
Paths through the nodes of a document.

* `Yaml.Document.Leads` — where one segment leads from a node;
* `Yaml.Document.Reaches` — where segments lead from the root, one after the other;
* `Yaml.Document.Leads.unique`, `Yaml.Document.Reaches.unique` — they lead to one node at most;
* `Yaml.Document.walk_reaches` — a walk ends where no further segment leads;
* `Location.resolve?_longest` — a location has the span of the node at the longest prefix of its
  pointer that can be followed, or of the key of that node.

Design notes: nodes can be shared and can be below themselves, so a path is a list of segments and
nothing is said about the nodes that it meets.  The walk stops at the first segment that leads
nowhere, and that no longer prefix leads anywhere follows from the fact that paths do not fork.
-/
import LintReport.Proofs.Graph
import LintReport.Proofs.Marking
import Mathlib.Order.Bounds.Basic

namespace LintReport

open Outcome

namespace Yaml.Document

variable {d : Document} {id next last stop : Nat} {key nextKey lastKey : Option Nat}
  {segment : String} {path segments : List String}

/-! ### One segment -/

/-- A node is the scalar with a text. -/
def IsScalar (d : Document) (text : String) (id : Nat) : Prop :=
  ∃ start stop, d.node? id = some ⟨.scalar (some text), start, stop⟩

theorem hasText_iff {text : String} : d.hasText text id = true ↔ d.IsScalar text id := by
  unfold hasText IsScalar
  split
  · rename_i t start stop heq
    simp [heq]
  · rename_i hnone
    refine iff_of_false Bool.false_ne_true ?_
    rintro ⟨start, stop, h⟩
    exact hnone _ _ _ h

/-- A segment leads from a mapping to the value of the first entry whose key is its text, over this
key, and from a sequence to the item whose number its digits stand for. -/
inductive Leads (d : Document) (id : Nat) (segment : String) : Nat → Option Nat → Prop
  | entry {before after : List (Nat × Nat)} {key value start stop : Nat}
      (h : d.node? id = some ⟨.mapping (before ++ (key, value) :: after), start, stop⟩)
      (hbefore : ∀ e ∈ before, ¬ d.IsScalar segment e.1) (hkey : d.IsScalar segment key) :
      Leads d id segment value (some key)
  | item {items : List Nat} {k item start stop : Nat}
      (h : d.node? id = some ⟨.sequence items, start, stop⟩)
      (hk : Text.Numeral.Denotes segment k) (hitem : items[k]? = some item) :
      Leads d id segment item none

/-- The numeral of an item can be read, if the segment looks like one. -/
def Readable (segment : String) : Prop :=
  segment ≠ "" → (∀ c ∈ segment.toList, Text.isDigit c = true) →
    ∃ n, Text.Numeral.read segment = .ok n

/-- The first entry with the text of a segment as its key. -/
theorem find?_eq_some_iff {entries : List (Nat × Nat)} {e : Nat × Nat} :
    entries.find? (fun e => d.hasText segment e.1) = some e ↔ d.IsScalar segment e.1 ∧
      ∃ before after, entries = before ++ e :: after ∧
        ∀ e ∈ before, ¬ d.IsScalar segment e.1 := by
  simp only [List.find?_eq_some_iff_append, hasText_iff, Bool.not_eq_true', ← Bool.not_eq_true]

/-- **The step of a walk finds where a segment leads**, if it can read the number of an item. -/
theorem child?_of_readable (d : Document) (id : Nat) (hread : Readable segment) :
    ∃ found, d.child? id segment = .ok found ∧
      ∀ next key, found = some (next, key) ↔ d.Leads id segment next key := by
  unfold child?
  split
  · -- a mapping: the entry found is the first one with the key, as a step to it demands
    rename_i entries start stop hnode
    refine ⟨_, rfl, fun next key => ?_⟩
    rw [Option.map_eq_some_iff]
    constructor
    · rintro ⟨⟨k, value⟩, hfind, heq⟩
      obtain ⟨rfl, rfl⟩ := Prod.mk.inj heq
      obtain ⟨hkey, before, after, rfl, hbefore⟩ := find?_eq_some_iff.mp hfind
      exact .entry hnode hbefore hkey
    · intro h
      cases h with
      | entry h hbefore hkey =>
        cases hnode.symm.trans h
        exact ⟨_, find?_eq_some_iff.mpr ⟨hkey, _, _, rfl, hbefore⟩, rfl⟩
      | item h => cases hnode.symm.trans h
  · -- a sequence: only digits lead on, and what they are read as is the only number they denote
    rename_i items start stop hnode
    by_cases hdigits : (segment.toList.all Text.isDigit && !segment.isEmpty) = true
    · rw [if_pos hdigits]
      obtain ⟨hne, hall⟩ := Text.Numeral.all_isDigit_iff.mp hdigits
      obtain ⟨n, hn⟩ := hread hne hall
      obtain ⟨k, rfl, hk⟩ := Text.Numeral.denotes_of_read hall hn
      refine ⟨_, by rw [hn], fun next key => ?_⟩
      rw [Int.toNat_natCast, Option.map_eq_some_iff]
      constructor
      · rintro ⟨item, hitem, heq⟩
        obtain ⟨rfl, rfl⟩ := Prod.mk.inj heq
        exact .item hnode hk hitem
      · intro h
        cases h with
        | entry h => cases hnode.symm.trans h
        | item h hk' hitem =>
          cases hnode.symm.trans h
          obtain rfl := hk.unique hk'
          exact ⟨_, hitem, rfl⟩
    · rw [if_neg hdigits]
      refine ⟨none, rfl, fun next key => iff_of_false (fun h => by cases h) fun h => hdigits ?_⟩
      cases h with
      | entry h => cases hnode.symm.trans h
      | item h hk => exact Text.Numeral.all_isDigit_iff.mpr hk.isDigit
  · -- no step leads from any other node
    rename_i hmapping hsequence
    refine ⟨none, rfl, fun next key => iff_of_false (fun h => by cases h) fun h => ?_⟩
    cases h with
    | entry h => exact hmapping _ _ _ h
    | item h => exact hsequence _ _ _ h

theorem Leads.unique (h : d.Leads id segment next key) (h' : d.Leads id segment last lastKey)
    (hread : Readable segment) : next = last ∧ key = lastKey := by
  obtain ⟨found, -, hfound⟩ := child?_of_readable d id hread
  have hsame := ((hfound _ _).mpr h).symm.trans ((hfound _ _).mpr h')
  exact Prod.mk.inj (Option.some.inj hsame)

/-- Where a segment leads, there are nodes, if the document is closed. -/
theorem Leads.lt (h : d.Leads id segment next key) (hd : d.Closed) :
    next < d.nodes.size ∧ ∀ k ∈ key, k < d.nodes.size := by
  cases h with
  | @entry before after k _ start stop hnode =>
    have hmem : (k, next) ∈ before ++ (k, next) :: after :=
      List.mem_append_right _ List.mem_cons_self
    have hbelow : ∀ x ∈ [k, next], x < d.nodes.size := fun x hx =>
      hd.below_lt _ (Array.mem_of_getElem? hnode) x (List.mem_flatMap.mpr ⟨_, hmem, hx⟩)
    refine ⟨hbelow next (by simp), fun k' hk' => ?_⟩
    obtain rfl := Option.some.inj hk'
    exact hbelow k (by simp)
  | item hnode _ hitem =>
    refine ⟨hd.below_lt _ (Array.mem_of_getElem? hnode) _ (List.mem_of_getElem? hitem), ?_⟩
    intro k hk
    cases hk

/-! ### Paths -/

/-- Segments lead from the root to a node, the last one over a key if it leads from a mapping. -/
inductive Reaches (d : Document) : List String → Nat → Option Nat → Prop
  | root : Reaches d [] d.root none
  | step {path : List String} {segment : String} {id next : Nat} {key nextKey : Option Nat}
      (h : Reaches d path id key) (hlead : d.Leads id segment next nextKey) :
      Reaches d (path ++ [segment]) next nextKey

theorem reaches_concat : d.Reaches (path ++ [segment]) next nextKey
    ↔ ∃ id key, d.Reaches path id key ∧ d.Leads id segment next nextKey := by
  constructor
  · generalize hwhole : path ++ [segment] = whole
    intro h
    cases h with
    | root => simp at hwhole
    | step h hlead =>
      obtain ⟨rfl, hlast⟩ := List.append_inj' hwhole rfl
      obtain rfl := List.singleton_inj.mp hlast
      exact ⟨_, _, h, hlead⟩
  · rintro ⟨id, key, h, hlead⟩
    exact .step h hlead

theorem Reaches.unique (h : d.Reaches path next nextKey) (h' : d.Reaches path last lastKey)
    (hread : ∀ s ∈ path, Readable s) : next = last ∧ nextKey = lastKey := by
  induction h generalizing last lastKey with
  | root =>
    generalize hnil : ([] : List String) = path at h'
    cases h' with
    | root => exact ⟨rfl, rfl⟩
    | step => simp at hnil
  | step h hlead ih =>
    obtain ⟨id', key', hstart, hlead'⟩ := reaches_concat.mp h'
    obtain ⟨rfl, -⟩ := ih hstart fun s hs => hread s (List.mem_append_left _ hs)
    exact hlead.unique hlead' (hread _ (List.mem_append_right _ List.mem_cons_self))

theorem Reaches.iff_eq (h : d.Reaches path id key) (hread : ∀ s ∈ path, Readable s) :
    d.Reaches path last lastKey ↔ last = id ∧ lastKey = key := by
  constructor
  · intro h'
    exact h'.unique h hread
  · rintro ⟨rfl, rfl⟩
    exact h

/-- Where segments lead, the first ones of them lead as well. -/
theorem Reaches.exists_of_append {more : List String} (h : d.Reaches (path ++ more) next nextKey) :
    ∃ id key, d.Reaches path id key := by
  induction more using List.reverseRecOn generalizing next nextKey with
  | nil => exact ⟨_, _, by simpa using h⟩
  | append_singleton more segment ih =>
    rw [← List.append_assoc] at h
    obtain ⟨id, key, h, -⟩ := reaches_concat.mp h
    exact ih h

theorem Reaches.lt (h : d.Reaches path next nextKey) (hd : d.Closed) :
    next < d.nodes.size ∧ ∀ k ∈ nextKey, k < d.nodes.size := by
  cases h with
  | root => exact ⟨hd.root_lt, fun k hk => by cases hk⟩
  | step h hlead => exact hlead.lt hd

/-- The lengths of the prefixes of segments that lead from the root to a node. -/
def followed (d : Document) (segments : List String) : Set Nat :=
  {n | n ≤ segments.length ∧ ∃ id key, d.Reaches (segments.take n) id key}

/-- A walk goes along the longest prefix that leads anywhere, and keeps the key of the last step if
it has followed all segments. -/
theorem walk_reaches (h : d.Reaches path id key) (hread : ∀ s ∈ path ++ segments, Readable s) :
    ∃ (r : Reached) (n : Nat) (lastKey : Option Nat),
      d.walk id key segments = .ok r ∧ n ≤ segments.length ∧
      d.Reaches (path ++ segments.take n) r.id lastKey ∧
      (∀ m, n < m → m ≤ segments.length → ¬ ∃ id key, d.Reaches (path ++ segments.take m) id key) ∧
      (n = segments.length → r.key = lastKey) ∧ (n < segments.length → r.key = none) := by
  induction segments generalizing path id key with
  | nil =>
    refine ⟨⟨id, key, none⟩, 0, key, rfl, Nat.le_refl _, by simpa using h, ?_, fun _ => rfl, ?_⟩
    · intro m hm hle
      exact absurd (Nat.lt_of_lt_of_le hm hle) (Nat.lt_irrefl 0)
    · intro hlt
      exact absurd hlt (Nat.lt_irrefl 0)
  | cons segment rest ih =>
    have hsegment : Readable segment := hread _ (List.mem_append_right _ List.mem_cons_self)
    obtain ⟨found, hchild, hfound⟩ := child?_of_readable d id hsegment
    cases found with
    | none =>
      refine ⟨⟨id, none, some segment⟩, 0, key, ?_, Nat.zero_le _, by simpa using h, ?_, ?_,
        fun _ => rfl⟩
      · simp only [walk, hchild]
      · -- a longer prefix begins with a step from the node reached, and there is none
        rintro m hm hle ⟨last, lastKey, hlast⟩
        obtain ⟨m, rfl⟩ : ∃ k, m = k + 1 := ⟨m - 1, by omega⟩
        rw [List.take_succ_cons, ← List.singleton_append, ← List.append_assoc] at hlast
        obtain ⟨next, nextKey, hnext⟩ := hlast.exists_of_append
        obtain ⟨id', key', hid', hlead⟩ := reaches_concat.mp hnext
        obtain ⟨rfl, -⟩ := hid'.unique h fun s hs => hread s (List.mem_append_left _ hs)
        cases (hfound _ _).mpr hlead
      · intro hall
        cases hall
    | some step =>
      obtain ⟨next, nextKey⟩ := step
      have hstep : d.Reaches (path ++ [segment]) next nextKey := .step h ((hfound _ _).mp rfl)
      obtain ⟨r, n, lastKey, hwalk, hn, hreaches, hlongest, hall, hpart⟩ :=
        ih hstep (by simpa using hread)
      refine ⟨r, n + 1, lastKey, ?_, Nat.succ_le_succ hn, by simpa using hreaches, ?_, ?_, ?_⟩
      · simp only [walk, hchild, hwalk]
      · intro m hm hle
        obtain ⟨m, rfl⟩ : ∃ k, m = k + 1 := ⟨m - 1, by omega⟩
        have hnone := hlongest m (by omega) (Nat.le_of_succ_le_succ hle)
        simpa using hnone
      · exact fun heq => hall (Nat.succ_injective heq)
      · exact fun hlt => hpart (Nat.lt_of_succ_lt_succ hlt)

/-- **A walk from the root goes along the longest prefix that leads anywhere.** -/
theorem walk_root (hread : ∀ s ∈ segments, Readable s) :
    ∃ (r : Reached) (n : Nat) (key : Option Nat),
      d.walk d.root none segments = .ok r ∧ IsGreatest (d.followed segments) n ∧
      d.Reaches (segments.take n) r.id key ∧
      (n = segments.length → r.key = key) ∧ (n < segments.length → r.key = none) := by
  have hroot : d.Reaches [] d.root none := .root
  obtain ⟨r, n, key, hwalk, hn, hreaches, hlongest, hall, hpart⟩ := walk_reaches hroot hread
  refine ⟨r, n, key, hwalk, ⟨⟨hn, r.id, key, hreaches⟩, ?_⟩, hreaches, hall, hpart⟩
  rintro m ⟨hm, hlast⟩
  by_contra hlt
  exact hlongest m (Nat.lt_of_not_le hlt) hm hlast

end Yaml.Document

/-! ### Locations -/

namespace Location

variable {docs : Documents} {source : Source} {ref pointer text : String} {onKey : Bool}
  {d : Yaml.Document}

/-- The node that is shown after a walk. -/
theorem outcome_resolve?_of_walk {r : Yaml.Document.Reached} {shown : Yaml.Node}
    (htext : (source.text docs).outcome = .ok text)
    (hdoc : Yaml.compose docs.limits.document text.toList = .ok (some d))
    (hwalk : d.walk d.root none (Pointer.parse pointer) = .ok r)
    (hshown : d.node? (if onKey then r.key.getD r.id else r.id) = some shown) :
    (resolve? docs (.pointer source pointer onKey)).outcome
      = .ok (.ok ⟨source, (shown.span text.toList).1, some (shown.span text.toList).2,
          some pointer⟩) := by
  have htarget : (target d source.ref pointer onKey).outcome = .ok shown := by
    unfold target
    rw [hwalk]
    cases hmissing : r.missing with
    | none =>
      simp only [hmissing, hshown]
      rfl
    | some segment =>
      simp only [hmissing, hshown]
      rfl
  rw [outcome_resolve?_of_compose htext hdoc, htarget, map_ok]

/-- **A location has the span of the node at the longest prefix of its pointer that can be
followed.**  The prefix leads to one node only.  If the whole pointer can be followed, its last step
leads from a mapping and the key is asked for, the span is that of the key; in all other cases it is
that of the node. -/
theorem resolve?_longest (htext : (source.text docs).outcome = .ok text)
    (hdoc : Yaml.compose docs.limits.document text.toList = .ok (some d))
    (hread : ∀ s ∈ Pointer.parse pointer, Yaml.Document.Readable s) :
    ∃ (n id : Nat) (key : Option Nat) (node shown : Yaml.Node),
      IsGreatest (d.followed (Pointer.parse pointer)) n ∧
      (∀ id' key', d.Reaches ((Pointer.parse pointer).take n) id' key' ↔ id' = id ∧ key' = key) ∧
      d.node? id = some node ∧
      (∀ k, onKey = true → n = (Pointer.parse pointer).length → key = some k →
        d.node? k = some shown) ∧
      (onKey = false ∨ n < (Pointer.parse pointer).length ∨ key = none → shown = node) ∧
      (resolve? docs (.pointer source pointer onKey)).outcome
        = .ok (.ok ⟨source, (shown.span text.toList).1, some (shown.span text.toList).2,
            some pointer⟩) := by
  have hclosed := Yaml.Document.closed_of_compose hdoc
  obtain ⟨r, n, key, hwalk, hlongest, hreaches, hwhole, hpart⟩ :=
    Yaml.Document.walk_root (d := d) hread
  have hunique : ∀ id' key', d.Reaches ((Pointer.parse pointer).take n) id' key'
      ↔ id' = r.id ∧ key' = key := fun id' key' =>
    hreaches.iff_eq fun s hs => hread s (List.mem_of_mem_take hs)
  obtain ⟨hid, hkey⟩ := hreaches.lt hclosed
  obtain ⟨node, hnode⟩ : ∃ node, d.node? r.id = some node := ⟨_, Array.getElem?_eq_getElem hid⟩
  have hle : n ≤ (Pointer.parse pointer).length := hlongest.1.1
  by_cases hshown : onKey = true ∧ n = (Pointer.parse pointer).length ∧ key ≠ none
  · -- all segments were followed, the last one over a key, and the key is asked for
    obtain ⟨hon, hall, hne⟩ := hshown
    obtain ⟨k, rfl⟩ := Option.ne_none_iff_exists'.mp hne
    obtain ⟨shown, hk⟩ : ∃ shown, d.node? k = some shown :=
      ⟨_, Array.getElem?_eq_getElem (hkey k rfl)⟩
    refine ⟨n, r.id, some k, node, shown, hlongest, hunique, hnode, ?_, ?_,
      outcome_resolve?_of_walk htext hdoc hwalk ?_⟩
    · rintro k' - - heq
      obtain rfl := Option.some.inj heq
      exact hk
    · rintro (hoff | hlt | hnone)
      · cases hon.symm.trans hoff
      · omega
      · cases hnone
    · rw [if_pos hon, hwhole hall, Option.getD_some]
      exact hk
  · -- otherwise there is no key to show, or it is not asked for
    have hid : (if onKey then r.key.getD r.id else r.id) = r.id := by
      by_cases hon : onKey = true
      · have hnone : r.key = none := by
          by_cases hall : n = (Pointer.parse pointer).length
          · rw [hwhole hall]
            by_contra hne
            exact hshown ⟨hon, hall, hne⟩
          · exact hpart (by omega)
        rw [if_pos hon, hnone, Option.getD_none]
      · rw [if_neg hon]
    refine ⟨n, r.id, key, node, node, hlongest, hunique, hnode, ?_, fun _ => rfl,
      outcome_resolve?_of_walk htext hdoc hwalk (hid.symm ▸ hnode)⟩
    rintro k hon hall rfl
    exact absurd ⟨hon, hall, Option.some_ne_none k⟩ hshown

/-- A list that is its own first item, and an entry that is repeated: the pointer goes around the
list, counts an item with a leading zero, and leads over the first of the two keys. -/
theorem resolve?_longest_of_cycle :
    let text := "&a [*a, {k: 1, k: 2}]"
    let source : Source := ⟨"/d.yaml", some text⟩
    let docs : Documents := ⟨fun _ => .error .nullCharacter, .usual⟩
    let key : Yaml.Node := ⟨.scalar (some "k"), 9, 10⟩
    ∃ d, Yaml.compose docs.limits.document text.toList = .ok (some d) ∧
      (∀ s ∈ Pointer.parse "#/0/01/k", Yaml.Document.Readable s) ∧
      d.Reaches ["0", "01", "k"] 3 (some 2) ∧ d.node? 2 = some key ∧
      (resolve? docs (.pointer source "#/0/01/k" true)).outcome
        = .ok (.ok ⟨source, (key.span text.toList).1, some (key.span text.toList).2,
            some "#/0/01/k"⟩) := by
  intro text source docs key
  let nodes : Array Yaml.Node := #[⟨.sequence [0, 1], 0, 21⟩, ⟨.mapping [(2, 3), (4, 5)], 8, 20⟩,
    key, ⟨.scalar (some "1"), 12, 13⟩, ⟨.scalar (some "k"), 15, 16⟩, ⟨.scalar (some "2"), 18, 19⟩]
  let d : Yaml.Document := ⟨nodes, 0⟩
  have hdoc : Yaml.compose docs.limits.document text.toList = .ok (some d) := by decide +kernel
  have hsegments : Pointer.parse "#/0/01/k" = ["0", "01", "k"] := by decide +kernel
  have hread : ∀ s ∈ Pointer.parse "#/0/01/k", Yaml.Document.Readable s := by
    rw [hsegments, List.forall_mem_cons, List.forall_mem_cons, List.forall_mem_singleton]
    refine ⟨fun _ _ => ⟨0, by decide +kernel⟩, fun _ _ => ⟨1, by decide +kernel⟩, fun _ hall => ?_⟩
    exact absurd (hall 'k' (by decide +kernel)) (by decide +kernel)
  have hzero : d.Leads 0 "0" 0 none := .item rfl ⟨[0], by decide, by decide +kernel, rfl⟩ rfl
  have hone : d.Leads 0 "01" 1 none := .item rfl ⟨[0, 1], by decide, by decide +kernel, rfl⟩ rfl
  have hkey : d.Leads 1 "k" 3 (some 2) :=
    @Yaml.Document.Leads.entry d 1 "k" [] [(4, 5)] 2 3 8 20 rfl (by simp) ⟨9, 10, rfl⟩
  have hreaches : d.Reaches ["0", "01", "k"] 3 (some 2) :=
    .step (.step (.step .root hzero) hone) hkey
  obtain ⟨n, id, key', node, shown, hlongest, hunique, hnode, hshown, -, houtcome⟩ :=
    @resolve?_longest docs source "#/0/01/k" text true d rfl hdoc hread
  rw [hsegments] at hlongest hunique hshown
  -- the whole pointer leads somewhere, so it is the longest prefix
  have hwhole : n = 3 := Nat.le_antisymm hlongest.1.1
    (hlongest.2 ⟨Nat.le_refl 3, 3, some 2, hreaches⟩)
  subst hwhole
  obtain ⟨rfl, rfl⟩ := (hunique 3 (some 2)).mp hreaches
  obtain rfl : key = shown := Option.some.inj ((hshown 2 rfl rfl rfl).symm.trans rfl).symm
  exact ⟨d, hdoc, hread, hreaches, rfl, houtcome⟩

end Location

end LintReport
