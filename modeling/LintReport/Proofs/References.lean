/-
The paths that locations are known under.

* `Path.Shortens`, `Path.IsNormalForm` — steps that shorten a path without a look at any file, and
  what is left of its segments in the end;
* `Path.isNormalForm_iff` — there is exactly one normal form;
* `Report.writtenRef?` — the path that a report writes for a location;
* `Report.IsMadeAbsolute` — what a written path becomes from a directory;
* `Report.message_refers` — the locations of a message have the paths that its item writes for them;
* `Report.ofValue_absolute` — the messages of a report have absolute paths only, and those with
  relative paths are in one group exactly if their paths have the same normal form.

Design notes: the steps can be taken in any order.  None of them changes the names that are left
when the segments are gone through from the root, and where no step can be taken any more these
names are the segments themselves; so the order is of no account.  The steps look at the path only,
so two dots go together with the name before them: no name on a path is a link to another place.
-/
import Mathlib.Logic.Relation
import LintReport.Proofs.Partition
import LintReport.Proofs.Relative
import LintReport.Proofs.RoundTrip

namespace LintReport

open Outcome

section

variable {α β : Type} {R S : α → β → Prop}

theorem optionRel_imp {x : Option α} {y : Option β} (himp : ∀ {a b}, R a b → S a b)
    (h : Option.Rel R x y) : Option.Rel S x y := by
  cases h with
  | none => exact .none
  | some h => exact .some (himp h)

theorem optionRel_head? {xs : List α} {ys : List β} (h : List.Forall₂ R xs ys) :
    Option.Rel R xs.head? ys.head? := by
  cases h with
  | nil => exact .none
  | cons h _ => exact .some h

end

namespace Path

variable {xs ys segs names names' kept : List String}

/-! ### Normal forms of segments -/

/-- One step that shortens the segments of a path from the root: an empty segment or a dot goes, a
name goes together with the two dots behind it, and two dots at the root go. -/
inductive Shortens : List String → List String → Prop
  | empty (xs ys : List String) : Shortens (xs ++ "" :: ys) (xs ++ ys)
  | dot (xs ys : List String) : Shortens (xs ++ "." :: ys) (xs ++ ys)
  | up (xs ys : List String) {n : String} (hempty : n ≠ "") (hdot : n ≠ ".") (hup : n ≠ "..") :
      Shortens (xs ++ n :: ".." :: ys) (xs ++ ys)
  | root (ys : List String) : Shortens (".." :: ys) ys

/-- Segments without empty ones, dots and two dots. -/
structure IsPlain (names : List String) : Prop where
  empty : "" ∉ names
  dot : "." ∉ names
  up : ".." ∉ names

/-- What is left of segments when they are shortened as far as they can be. -/
structure IsNormalForm (segs names : List String) : Prop where
  shortened : Relation.ReflTransGen Shortens segs names
  plain : IsPlain names

theorem named_of_isPlain (h : IsPlain names) : named names = names := by
  rw [named, List.filter_eq_self]
  intro n hn
  have hempty : n ≠ "" := fun heq => h.empty (heq ▸ hn)
  have hdot : n ≠ "." := fun heq => h.dot (heq ▸ hn)
  simp [hempty, hdot]

theorem isPlain_collapse (segs : List String) : IsPlain (collapse (named segs)) := by
  have hmem : ∀ n ∈ collapse (named segs), n ≠ "" ∧ n ≠ "." := by
    intro n hn
    rcases mem_collapseAfter hn with hnil | hnamed
    · cases hnil
    · simpa [bne_iff_ne] using (List.mem_filter.mp hnamed).2
  exact ⟨fun h => (hmem _ h).1 rfl, fun h => (hmem _ h).2 rfl,
    up_not_mem_collapseAfter List.not_mem_nil⟩

theorem isPlain_cons {n : String} :
    IsPlain (n :: names) ↔ (n ≠ "" ∧ n ≠ "." ∧ n ≠ "..") ∧ IsPlain names := by
  constructor
  · rintro ⟨hempty, hdot, hup⟩
    rw [List.mem_cons, not_or] at hempty hdot hup
    exact ⟨⟨Ne.symm hempty.1, Ne.symm hdot.1, Ne.symm hup.1⟩, hempty.2, hdot.2, hup.2⟩
  · rintro ⟨⟨hempty, hdot, hup⟩, hnames⟩
    exact ⟨List.not_mem_cons_of_ne_of_not_mem hempty.symm hnames.empty,
      List.not_mem_cons_of_ne_of_not_mem hdot.symm hnames.dot,
      List.not_mem_cons_of_ne_of_not_mem hup.symm hnames.up⟩

/-- A step keeps the names that are left. -/
theorem Shortens.collapse_eq (h : Shortens xs ys) : collapse (named xs) = collapse (named ys) := by
  cases h with
  | empty xs ys =>
    have hskip : named ("" :: ys) = named ys := List.filter_cons_of_neg (by decide)
    rw [named_append, named_append, hskip]
  | dot xs ys =>
    have hskip : named ("." :: ys) = named ys := List.filter_cons_of_neg (by decide)
    rw [named_append, named_append, hskip]
  | @up xs ys n hempty hdot hup =>
    have hpair : named (n :: ".." :: ys) = n :: ".." :: named ys := by
      rw [named, List.filter_cons_of_pos (by simp [hempty, hdot]),
        List.filter_cons_of_pos (by decide), named]
    rw [named_append, named_append, hpair, collapse, collapse, collapseAfter_append,
      collapseAfter_append, collapseAfter, if_neg hup, collapseAfter, if_pos rfl, List.tail_cons]
  | root ys =>
    -- nothing is kept yet at the root
    have hroot : named (".." :: ys) = ".." :: named ys := List.filter_cons_of_pos (by decide)
    rw [hroot, collapse, collapseAfter, if_pos rfl]
    rfl

/-- Any number of steps keeps the names that are left. -/
theorem collapse_eq_of_reflTransGen (h : Relation.ReflTransGen Shortens xs ys) :
    collapse (named xs) = collapse (named ys) := by
  induction h with
  | refl => rfl
  | tail _ hstep ih => exact ih.trans hstep.collapse_eq

/-- Steps lead to the names that are left, behind names that are kept already. -/
theorem reflTransGen_collapseAfter (hkept : IsPlain kept) (segs : List String) :
    Relation.ReflTransGen Shortens (kept.reverse ++ segs) (collapseAfter kept (named segs)) := by
  induction segs generalizing kept with
  | nil => rw [List.append_nil]; exact .refl
  | cons n segs ih =>
    by_cases hempty : n = ""
    · subst hempty
      rw [named, List.filter_cons_of_neg (by decide)]
      exact .head (.empty kept.reverse segs) (ih hkept)
    by_cases hdot : n = "."
    · subst hdot
      rw [named, List.filter_cons_of_neg (by decide)]
      exact .head (.dot kept.reverse segs) (ih hkept)
    rw [named, List.filter_cons_of_pos (by simp [hempty, hdot]), collapseAfter]
    by_cases hup : n = ".."
    · subst hup
      rw [if_pos rfl]
      cases kept with
      | nil => exact .head (.root segs) (ih hkept)
      | cons k kept =>
        -- the last name that is kept goes together with the two dots
        obtain ⟨⟨hkempty, hkdot, hkup⟩, hrest⟩ := isPlain_cons.mp hkept
        rw [List.reverse_cons, List.append_assoc, List.singleton_append, List.tail_cons]
        exact .head (.up kept.reverse segs hkempty hkdot hkup) (ih hrest)
    · rw [if_neg hup]
      have hnext := ih (isPlain_cons.mpr ⟨⟨hempty, hdot, hup⟩, hkept⟩)
      rwa [List.reverse_cons, List.append_assoc, List.singleton_append] at hnext

/-- **There is exactly one normal form**: the names that are left when the segments are gone through
from the root. -/
theorem isNormalForm_iff : IsNormalForm segs names ↔ names = collapse (named segs) := by
  constructor
  · rintro ⟨hsteps, hplain⟩
    rw [collapse_eq_of_reflTransGen hsteps, named_of_isPlain hplain, collapse,
      collapseAfter_of_not_mem hplain.up]
    rfl
  · rintro rfl
    refine ⟨?_, isPlain_collapse segs⟩
    exact reflTransGen_collapseAfter ⟨List.not_mem_nil, List.not_mem_nil, List.not_mem_nil⟩ segs

/-- The names of a normal form are those that it is written with. -/
theorem IsNormalForm.named_segments {s : String} (h : IsNormalForm (segments s) names) :
    named (segments ("/" ++ joined names)) = names := by
  have hnames : ∀ n ∈ names, IsName n := by
    intro n hn
    rw [isNormalForm_iff.mp h] at hn
    rcases mem_collapseAfter hn with hnil | hnamed
    · cases hnil
    · exact isName_of_mem_named_segments hnamed
  rw [named_segments_slash_append, named_segments_joined hnames]

end Path

namespace Report

variable {deepest : Nat} {directory written written' ref ref' : String} {fields : Fields}
  {items : List Value} {item v : Value} {l : Location} {m m' : Message} {ms : List Message}

/-! ### Written paths -/

/-- The path that a report writes for a location. -/
def writtenRef? : Value → Option String
  | .table fields =>
    match fields.lookup "source" with
    | some (.table source) => (source.lookup "absoluteRef").map Value.shown
    | _ => none
  | _ => none

/-- The path that an item of a report writes for its first location. -/
def primaryRef? : Value → Option String
  | .table fields =>
    match fields.lookup "location" with
    | some (.list (first :: _)) => writtenRef? first
    | _ => none
  | _ => none

/-- What a written path becomes when relative paths start from a directory: an absolute path stays
as it is, and any other becomes the normal form of the path below the directory. -/
inductive IsMadeAbsolute (directory written : String) : String → Prop
  | kept (h : Path.isAbsolute written = true) : IsMadeAbsolute directory written written
  | below {names : List String} (h : Path.isAbsolute written = false)
      (hnormal : Path.IsNormalForm (Path.segments (directory ++ "/" ++ written)) names) :
      IsMadeAbsolute directory written (Path.rootMark directory ++ Path.joined names)

theorem IsMadeAbsolute.isAbsolute (h : IsMadeAbsolute directory written ref)
    (hdirectory : Path.rootMark directory = "/") : Path.isAbsolute ref = true := by
  cases h with
  | kept h => exact h
  | below _ _ =>
    rw [hdirectory, Path.isAbsolute, String.toList_append]
    rfl

/-- Relative paths become the same path exactly if they have the same normal form. -/
theorem IsMadeAbsolute.eq_iff (h : IsMadeAbsolute directory written ref)
    (h' : IsMadeAbsolute directory written' ref') (hdirectory : Path.rootMark directory = "/")
    (hrelative : Path.isAbsolute written = false) (hrelative' : Path.isAbsolute written' = false) :
    ref = ref' ↔ ∃ names, Path.IsNormalForm (Path.segments (directory ++ "/" ++ written)) names ∧
      Path.IsNormalForm (Path.segments (directory ++ "/" ++ written')) names := by
  cases h with
  | kept h => exact absurd (h.symm.trans hrelative) (by decide)
  | @below names _ hnormal =>
    cases h' with
    | kept h' => exact absurd (h'.symm.trans hrelative') (by decide)
    | @below names' _ hnormal' =>
      rw [hdirectory]
      constructor
      · intro hsame
        -- the names come back from the text that is written with them
        have hnames : names = names' := by
          rw [← hnormal.named_segments, hsame, hnormal'.named_segments]
        exact ⟨names, hnormal, hnames ▸ hnormal'⟩
      · rintro ⟨common, hcommon, hcommon'⟩
        have hnames : names = common :=
          (Path.isNormalForm_iff.mp hnormal).trans (Path.isNormalForm_iff.mp hcommon).symm
        have hnames' : names' = common :=
          (Path.isNormalForm_iff.mp hnormal').trans (Path.isNormalForm_iff.mp hcommon').symm
        rw [hnames, hnames']

theorem isMadeAbsolute_of_absoluteRef (hdirectory : Path.rootMark directory = "/")
    (h : absoluteRef (Path.ofString directory) written = .ok ref) :
    IsMadeAbsolute directory written ref := by
  unfold absoluteRef at h
  cases hwritten : Path.isAbsolute written with
  | true =>
    rw [hwritten, if_pos rfl, Except.ok.injEq] at h
    exact h ▸ .kept hwritten
  | false =>
    rw [hwritten, if_neg Bool.false_ne_true] at h
    split at h
    · cases h
    · have hnames : ((Path.ofString directory).below written).names
          = Path.named (Path.segments (directory ++ "/" ++ written)) := by
        rw [Path.below, hwritten, if_neg Bool.false_ne_true, Path.segments_append_slash,
          Path.named_append, Path.ofString]
      have hmade := @IsMadeAbsolute.below directory written _ hwritten
        (Path.isNormalForm_iff.mpr rfl)
      rw [hdirectory, ← hnames] at hmade
      exact Except.ok.inj h ▸ hmade

/-! ### Locations -/

/-- A location has the path that a report writes for it. -/
def Refers (directory : String) (v : Value) (l : Location) : Prop :=
  ∃ written, writtenRef? v = some written ∧ IsMadeAbsolute directory written l.source.ref

theorem ref_of_source {base : Path} {src : Source} (h : source deepest base v = .ok src) :
    ∃ fields written, v = .table fields ∧ fields.lookup "absoluteRef" = some written ∧
      absoluteRef base written.shown = .ok src.ref := by
  cases v with
  | table fields =>
    obtain ⟨written, hwritten, h⟩ := bind_eq_ok.mp h
    obtain ⟨text, htext, h⟩ := bind_eq_ok.mp h
    obtain ⟨ref, href, h⟩ := bind_eq_ok.mp h
    rw [printed_eq_ok htext] at href
    have hsrc : src.ref = ref := by
      split at h
      · cases h
        rfl
      · cases h
        rfl
    exact ⟨fields, written, rfl, required_eq_ok.mp hwritten, hsrc ▸ href⟩
  | _ => cases h

/-- A location that is read has the path that is written for it, as a span and as a pointer. -/
theorem location_refers (hdirectory : Path.rootMark directory = "/")
    (h : location deepest (Path.ofString directory) v = .ok l) : Refers directory v l := by
  cases v with
  | table fields =>
    rw [location_table] at h
    obtain ⟨src, hsrc, h⟩ := bind_eq_ok.mp h
    obtain ⟨source, hlookup, hsrc⟩ := bind_eq_ok.mp hsrc
    obtain ⟨inner, written, rfl, hwritten, href⟩ := ref_of_source hsrc
    have hsource : l.source = src := by
      split at h
      · exact source_spanOf h
      · exact source_pointerOf h
    refine ⟨written.shown, ?_, ?_⟩
    · simp only [writtenRef?, required_eq_ok.mp hlookup, hwritten, Option.map_some]
    · rw [hsource]
      exact isMadeAbsolute_of_absoluteRef hdirectory href
  | _ => cases h

/-! ### Messages -/

/-- The locations of a message, in each role that a location can have, have the paths that its item
writes for them. -/
inductive RefersAs (directory : String) : Value → Message → Prop
  | item {fields : Fields} {first : Value} {others : List Value} {m : Message}
      (hlookup : fields.lookup "location" = some (.list (first :: others)))
      (hprimary : Refers directory first m.primary)
      (hsecondary : Option.Rel (Refers directory) others.head? m.secondary)
      (horigin : Option.Rel (Refers directory) (given? fields "from") m.origin) :
      RefersAs directory (.table fields) m

/-- **The locations of a message have the paths that its item writes for them.** -/
theorem message_refers (hdirectory : Path.rootMark directory = "/")
    (h : Logged.value <$> message deepest (Path.ofString directory) item = .ok m) :
    RefersAs directory item m := by
  cases item with
  | table fields =>
    rw [message_table] at h
    obtain ⟨logged, h, hvalue⟩ := map_eq_ok.mp h
    obtain ⟨head, hhead, h⟩ := bind_eq_ok.mp h
    obtain ⟨primary, others, suggestions, b, origin, hprimary, hothers, -, -, horigin, rfl⟩ :=
      Head.message_eq_ok_iff.mp (map_eq_ok.mpr ⟨logged, h, hvalue⟩)
    refine .item (of_head hhead).1 (location_refers hdirectory hprimary) ?_ ?_
    · exact optionRel_imp (fun h => location_refers hdirectory h)
        (optionRel_head? (mapM_eq_ok_iff.mp hothers))
    · exact optionRel_imp (fun h => location_refers hdirectory h) (optionMapM_eq_ok.mp horigin)
  | _ => cases h

theorem RefersAs.isAbsolute (h : RefersAs directory item m)
    (hdirectory : Path.rootMark directory = "/") (hl : l ∈ m.locations ++ m.origin.toList) :
    Path.isAbsolute l.source.ref = true := by
  have hoption : ∀ {x : Option Value} {y : Option Location}, Option.Rel (Refers directory) x y →
      l ∈ y.toList → ∃ v, Refers directory v l := by
    intro x y hrel hy
    cases hrel with
    | none => cases hy
    | some hrel => exact ⟨_, List.mem_singleton.mp hy ▸ hrel⟩
  have hrefers : ∃ v, Refers directory v l := by
    cases h with
    | item _ hprimary hsecondary horigin =>
      rcases List.mem_append.mp hl with hl | hl
      · rcases List.mem_cons.mp hl with rfl | hl
        · exact ⟨_, hprimary⟩
        · exact hoption hsecondary hl
      · exact hoption horigin hl
  obtain ⟨v, written, -, hmade⟩ := hrefers
  exact hmade.isAbsolute hdirectory

theorem RefersAs.file (h : RefersAs directory item m) (hwritten : primaryRef? item = some written) :
    IsMadeAbsolute directory written m.file := by
  cases h with
  | item hlookup hprimary _ _ =>
    obtain ⟨written', hwritten', hmade⟩ := hprimary
    rw [primaryRef?, hlookup] at hwritten
    obtain rfl : written' = written := Option.some.inj (hwritten'.symm.trans hwritten)
    exact hmade

/-! ### Whole reports -/

/-- A message comes from an item that writes a relative path for its first location. -/
def IsRelative (items : List Value) (ms : List Message) (m : Message) (written : String) : Prop :=
  ∃ item, (item, m) ∈ items.zip ms ∧ primaryRef? item = some written ∧
    Path.isAbsolute written = false

/-- **The paths of a report are made absolute.**  When the relative paths of a report start from an
absolute directory, all locations of its messages have absolute paths, in each of their roles; an
absolute path is the one that the report writes, and a relative one has become its normal form below
the directory.  Hence messages for which the report writes relative paths stand in one group
exactly if these have the same normal form, whatever other messages are grouped with them; and there
are groups of all messages whose positions are found and can be written. -/
theorem ofValue_absolute (hdirectory : Path.rootMark directory = "/")
    (h : (ofValue deepest (Path.ofString directory) v).outcome = .ok ms) :
    (∀ m ∈ ms, ∀ l ∈ m.locations ++ m.origin.toList, Path.isAbsolute l.source.ref = true) ∧
      ∃ items, items? v = some items ∧ List.Forall₂ (RefersAs directory) items ms ∧
        ∀ {ε : Type} (refuse : Text.Numeral.Error → ε) (resolve : Location → Attempt ε Span)
          (msgs : List Message),
          ((∀ m ∈ msgs, ∀ l ∈ m.locations, ∃ s, (resolve l).outcome = .ok s) →
            (∀ m ∈ msgs, ¬ m.HasUnwritable resolve) →
            ∃ gs, (groupByFile refuse resolve msgs).outcome = .ok gs) ∧
          ∀ gs, (groupByFile refuse resolve msgs).outcome = .ok gs →
            ∀ m ∈ msgs, ∀ m' ∈ msgs, ∀ written written',
              IsRelative items ms m written → IsRelative items ms m' written' →
              (InOneGroup gs m m' ↔
                ∃ names, Path.IsNormalForm (Path.segments (directory ++ "/" ++ written)) names ∧
                  Path.IsNormalForm (Path.segments (directory ++ "/" ++ written')) names) := by
  cases hitems : items? v with
  | none =>
    cases (outcome_ofValue_of_none hitems).symm.trans h
  | some items =>
    rw [outcome_ofValue hitems, messagesFrom_eq_ok_iff] at h
    have hrefers : List.Forall₂ (RefersAs directory) items ms :=
      h.imp fun _ _ hread => message_refers hdirectory hread
    obtain ⟨hlength, hpairs⟩ := List.forall₂_iff_zip.mp hrefers
    refine ⟨fun m hm l hl => ?_, items, rfl, hrefers, fun refuse resolve msgs => ?_⟩
    · rw [← List.map_snd_zip hlength.ge, List.mem_map] at hm
      obtain ⟨⟨item, m⟩, hitem, rfl⟩ := hm
      exact (hpairs hitem).isAbsolute hdirectory hl
    · refine ⟨exists_groupByFile, fun gs hgs => ?_⟩
      rintro m hm m' hm' written written' ⟨item, hitem, hwritten, hrelative⟩
        ⟨item', hitem', hwritten', hrelative'⟩
      rw [(isPartition_of_groupByFile hgs).inOneGroup_iff hm hm']
      exact ((hpairs hitem).file hwritten).eq_iff ((hpairs hitem').file hwritten') hdirectory
        hrelative hrelative'

/-- Two items write one file in two ways.  The first has a secondary location that is written from
the root, and an origin whose path goes up beyond the root. -/
theorem ofValue_absolute_of_detours :
    let place := fun ref : String => Value.table
      [("source", .table [("absoluteRef", .text ref)]), ("pointer", .text "/k")]
    let item := fun fields : Fields => Value.table
      ([("severity", .text "error"), ("message", .text "m"), ("ruleId", .text "r")] ++ fields)
    let items := [item [("location", .list [place "./a.yaml", place "/x//../y"]),
      ("from", place "../../b.yaml")], item [("location", .list [place "x/..//a.yaml/"])]]
    let known := fun ref : String => Location.pointer ⟨ref, none⟩ "/k" false
    let first : Message := ⟨.error, "m", "r", known "/proj/a.yaml", some (known "/x//../y"), [],
      false, some (known "/b.yaml")⟩
    let second : Message := ⟨.error, "m", "r", known "/proj/a.yaml", none, [], false, none⟩
    let resolve : Location → Attempt Unit Span := fun l => pure l.fallback
    Path.rootMark "/proj" = "/" ∧
      (ofValue Limits.usual.printed (Path.ofString "/proj") (.list items)).outcome
        = .ok [first, second] ∧
      (∀ l ∈ first.locations ++ first.origin.toList, Path.isAbsolute l.source.ref = true) ∧
      (∀ m ∈ [first, second], ¬ m.HasUnwritable resolve) ∧
      ∃ gs, (groupByFile (fun _ => ()) resolve [first, second]).outcome = .ok gs ∧
        InOneGroup gs first second := by
  intro place item items known first second resolve
  have hread : (ofValue Limits.usual.printed (Path.ofString "/proj")
      (.list items)).outcome = .ok [first, second] := by
    have hsome : (ofValue Limits.usual.printed (Path.ofString "/proj")
        (.list items)).outcome.toOption = some [first, second] := by decide +kernel
    cases hread : (ofValue Limits.usual.printed (Path.ofString "/proj") (.list items)).outcome with
    | ok ms =>
      rw [hread] at hsome
      rw [Option.some.inj hsome]
    | error e =>
      rw [hread] at hsome
      cases hsome
  have hroot : Path.rootMark "/proj" = "/" := by decide
  obtain ⟨habsolute, held, hheld, -, hgroups⟩ := ofValue_absolute hroot hread
  obtain rfl : items = held := Option.some.inj hheld
  have hwritable : ∀ m ∈ [first, second], ¬ m.HasUnwritable resolve := by
    have hall : ∀ m ∈ [first, second], ∀ l ∈ m.locations, l.fallback.start.isWritable = true := by
      decide +kernel
    rintro m hm ⟨l, hl, s, hs, hunwritable⟩
    obtain rfl : l.fallback = s := Except.ok.inj hs
    cases (hall m hm l hl).symm.trans hunwritable
  obtain ⟨hexists, hsame⟩ := hgroups (fun _ => ()) resolve [first, second]
  obtain ⟨gs, hgs⟩ := hexists (fun m _ l _ => ⟨l.fallback, rfl⟩) hwritable
  have hfirst : IsRelative items [first, second] first "./a.yaml" :=
    ⟨items[0], by simp [items], by decide +kernel, by decide⟩
  have hsecond : IsRelative items [first, second] second "x/..//a.yaml/" :=
    ⟨items[1], by simp [items], by decide +kernel, by decide⟩
  refine ⟨hroot, hread, habsolute first (by simp), hwritable, gs, hgs, ?_⟩
  rw [hsame gs hgs first (by simp) second (by simp) _ _ hfirst hsecond]
  refine ⟨["proj", "a.yaml"], ?_, ?_⟩
  · exact Path.isNormalForm_iff.mpr (by decide +kernel)
  · exact Path.isNormalForm_iff.mpr (by decide +kernel)

end Report

end LintReport
