/-
What the two layouts put together.

A layout reads documents first, in an order of its own, and only then makes text of what it has
read.  Here the two halves are taken apart:

* `Location.placedIn` — the span of a location whose position is shown;
* `Codeframe.Block.ofMessage` — what a block shows of a message, and `Codeframe.Block.text` —
  the text of a block in a palette;
* `Message.resolvedIn` — a message with its spans, `Stylish.groupsOf` — the groups of resolved
  messages, and `Stylish.groupLines` — the lines of a group in a palette;
* `Codeframe.outcome_render`, `Stylish.outcome_render`, `outcome_renderMessages` — a layout is
  its text after what it has read.

Design notes: the palette comes into the second half only.  So whether a rendering fails, and
with which fault, does not depend on it.  Whether a position can be written is looked at in the
first half, so that the second one always has a text for it.
-/
import LintReport.Proofs.Outcome
import LintReport.Rendering.Listing

namespace LintReport

open Outcome

/-- The span of a location among the documents, or the fault that it fails with. -/
def Location.spanIn (docs : Documents) (l : Location) : Except Fault Span :=
  (l.resolve docs).outcome

@[simp] theorem Location.outcome_resolve (docs : Documents) (l : Location) :
    (l.resolve docs).outcome = l.spanIn docs := rfl

/-- A pointer is only resolved to spans of its own document. -/
theorem Location.of_resolvePointer {docs : Documents} {source : Source} {pointer : String}
    {onKey : Bool} {s : Span}
    (h : (resolvePointer docs source pointer onKey).outcome = .ok (.ok s)) :
    s.source = source ∧ s.pointer = some pointer := by
  unfold resolvePointer at h
  rw [Attempt.outcome_bind] at h
  obtain ⟨text, -, h⟩ := bind_eq_ok.mp h
  cases text with
  | error e => cases h
  | ok text =>
    rw [Attempt.outcome_bind] at h
    obtain ⟨composed, -, h⟩ := bind_eq_ok.mp h
    rcases composed with e | _ | d
    · cases h
    · cases h
      exact ⟨rfl, rfl⟩
    · rw [Attempt.outcome_bind] at h
      obtain ⟨node, -, h⟩ := bind_eq_ok.mp h
      cases h
      exact ⟨rfl, rfl⟩

/-- The span of a location is the one found, or else the one that stands in for it. -/
theorem Location.spanIn_eq (docs : Documents) (l : Location) :
    l.spanIn docs
      = (fun found => found.toOption.getD l.fallback) <$> (l.resolve? docs).outcome := by
  unfold spanIn resolve
  rw [Attempt.outcome_bind]
  cases (l.resolve? docs).outcome with
  | error fault => rfl
  | ok found =>
    cases found with
    | error e => rfl
    | ok s => rfl

/-- Whatever span a location gets, it lies in the document of the location. -/
theorem Location.of_spanIn {docs : Documents} {l : Location} {s : Span}
    (h : l.spanIn docs = .ok s) : s.source = l.source ∧ s.pointer = l.pointer? := by
  rw [spanIn_eq] at h
  obtain ⟨found, hfound, rfl⟩ := map_eq_ok.mp h
  cases found with
  | error e => exact ⟨rfl, rfl⟩
  | ok s' =>
    cases l with
    | span s' =>
      cases hfound
      exact ⟨rfl, rfl⟩
    | pointer source pointer onKey => exact of_resolvePointer hfound

/-- The path of a file as it is shown from a directory. -/
def Viewpoint.path (view : Viewpoint) (file : String) : String := (view.shownPath file).value

/-- The path of a span from a directory, with its position. -/
def Span.place (view : Viewpoint) (s : Span) : String := s!"{view.path s.source.ref}:{s.position}"

/-- A span whose position can be written, or else the fault of one that cannot. -/
def Span.placed (s : Span) : Except Fault Span :=
  if s.start.isWritable then .ok s else .error (.numeral .unwritable)

theorem Span.placed_eq_ok_iff {s s' : Span} :
    s.placed = .ok s' ↔ s = s' ∧ s'.start.isWritable = true := by
  rw [placed, if_ok_eq_ok]
  constructor
  · rintro ⟨h, rfl⟩
    exact ⟨rfl, h⟩
  · rintro ⟨rfl, h⟩
    exact ⟨h, rfl⟩

@[simp] theorem Span.outcome_shownFrom (view : Viewpoint) (s : Span) :
    (s.shownFrom view).outcome = Span.place view <$> s.placed := by
  unfold shownFrom position? placed
  rw [Attempt.outcome_bind, Attempt.outcome_ofLogged, ok_bind, Attempt.outcome_bind,
    Attempt.outcome_adapt, Attempt.outcome_ofExcept]
  cases s.start.isWritable with
  | true => rfl
  | false => rfl

/-- The span of a location, with a position that can be written. -/
def Location.placedIn (docs : Documents) (l : Location) : Except Fault Span :=
  l.spanIn docs >>= Span.placed

theorem Location.placedIn_eq_ok_iff {docs : Documents} {l : Location} {s : Span} :
    l.placedIn docs = .ok s ↔ l.spanIn docs = .ok s ∧ s.start.isWritable = true := by
  rw [placedIn, bind_eq_ok]
  constructor
  · rintro ⟨s', hs', hplaced⟩
    obtain ⟨rfl, hwritable⟩ := Span.placed_eq_ok_iff.mp hplaced
    exact ⟨hs', hwritable⟩
  · rintro ⟨hs, hwritable⟩
    exact ⟨s, hs, Span.placed_eq_ok_iff.mpr ⟨rfl, hwritable⟩⟩

theorem Location.of_placedIn {docs : Documents} {l : Location} {s : Span}
    (h : l.placedIn docs = .ok s) : s.source = l.source ∧ s.pointer = l.pointer? :=
  of_spanIn (placedIn_eq_ok_iff.mp h).1

/-! ### Excerpts -/

namespace Excerpt

/-- The lines that an excerpt is cut from; none where the document cannot be read. -/
def linesFor (docs : Documents) (span : Span) : Except Fault (List String) :=
  match (span.source.lines docs).outcome with
  | .ok lines =>
    match tooWide? docs.limits.marker lines span with
    | some width => .error (.tooWide width)
    | none => .ok lines
  | .error .nullCharacter => .error .nullCharacter
  | .error _ => .ok []

@[simp] theorem rows_nil (palette : Palette) (span : Span) : rows palette [] span = [] := by
  unfold rows
  by_cases h : span.start.line < 1
  · simp [h]
  · have h' : (0 : Int) < span.start.line := by omega
    simp [h']

/-- An excerpt is the rows of its lines. -/
theorem outcome_render (docs : Documents) (palette : Palette) (span : Span) :
    (render docs palette span).outcome
      = (fun lines => "\n".intercalate (rows palette lines span)) <$> linesFor docs span := by
  unfold render linesFor
  rw [Attempt.outcome_bind, Attempt.outcome_ofLogged_run, ok_bind]
  cases (span.source.lines docs).outcome with
  | ok lines =>
    cases hwide : tooWide? docs.limits.marker lines span with
    | some width =>
      simp only [hwide]
      rfl
    | none =>
      simp only [hwide]
      rfl
  | error e =>
    cases e with
    | nullCharacter => rfl
    | refused e path => simp
    | undecodable e => simp

end Excerpt

/-! ### Blocks -/

namespace Codeframe

/-- The pointer of a span as a header shows it. -/
def pointerNote (palette : Palette) (s : Span) : String :=
  match s.pointer with
  | none => ""
  | some p => if p = "" then "" else palette.muted s!"at {p}"

theorem header_eq (palette : Palette) (m : Message) (index : Int) (place : String) (s : Span) :
    header palette m index place s
      = "[" ++ toString (index + 1) ++ "] " ++ palette.severityGround m.severity place ++ " "
        ++ pointerNote palette s ++ "\n\n" := rfl

/-- What a block shows of a message: the span of its primary location, the lines of its excerpt,
and the span of the place from which its document is referred to. -/
structure Block where
  message : Message
  index : Int
  span : Span
  lines : List String
  origin : Option Span
  deriving DecidableEq, Repr, Inhabited

namespace Block

/-- The block of a message, read from the documents. -/
def ofMessage (docs : Documents) (index : Int) (m : Message) : Except Fault Block := do
  let span ← m.primary.placedIn docs
  if !Text.Numeral.isWritable (index + 1) then throw (.numeral .unwritable)
  let lines ← Excerpt.linesFor docs span
  let origin ← m.origin.mapM (Location.placedIn docs)
  return ⟨m, index, span, lines, origin⟩

/-- What is in a block that could be read. -/
theorem of_ofMessage {docs : Documents} {index : Int} {m : Message} {b : Block}
    (h : ofMessage docs index m = .ok b) :
    b.message = m ∧ b.index = index ∧ m.primary.placedIn docs = .ok b.span ∧
      Excerpt.linesFor docs b.span = .ok b.lines ∧
      m.origin.mapM (Location.placedIn docs) = .ok b.origin := by
  unfold ofMessage at h
  obtain ⟨span, hspan, h⟩ := bind_eq_ok.mp h
  cases hwritable : Text.Numeral.isWritable (index + 1) with
  | false =>
    rw [hwritable] at h
    cases h
  | true =>
    rw [hwritable] at h
    obtain ⟨lines, hlines, h⟩ := bind_eq_ok.mp h
    obtain ⟨origin, horigin, h⟩ := bind_eq_ok.mp h
    cases h
    exact ⟨rfl, rfl, hspan, hlines, horigin⟩

/-- The note on where the document of a block is referred from. -/
def originNote (palette : Palette) (view : Viewpoint) : Option Span → String
  | none => ""
  | some s => s!"referenced from {palette.accent (s.place view)}\n\n"

/-- The text of a block. -/
def text (palette : Palette) (view : Viewpoint) (b : Block) : String :=
  header palette b.message b.index (b.span.place view) b.span ++ s!"{b.message.text}\n\n"
    ++ didYouMean b.message.suggestions
    ++ "\n".intercalate (Excerpt.rows palette b.lines b.span) ++ "\n\n"
    ++ originNote palette view b.origin ++ footer palette b.message

end Block

theorem outcome_referredFrom (docs : Documents) (palette : Palette) (view : Viewpoint)
    (origin : Option Location) :
    (referredFrom docs palette view origin).outcome
      = Block.originNote palette view <$> origin.mapM (Location.placedIn docs) := by
  cases origin with
  | none => rfl
  | some l =>
    have hspan : (some l).mapM (Location.placedIn docs) = some <$> l.placedIn docs := rfl
    rw [hspan, Location.placedIn]
    simp only [referredFrom, Attempt.outcome_bind, Attempt.outcome_pure, Span.outcome_shownFrom,
      Location.outcome_resolve]
    cases l.spanIn docs with
    | error e => rfl
    | ok s =>
      rw [ok_bind, ok_bind]
      cases hplaced : s.placed with
      | error e => rfl
      | ok s' =>
        obtain ⟨rfl, -⟩ := Span.placed_eq_ok_iff.mp hplaced
        rfl

theorem outcome_block (docs : Documents) (palette : Palette) (view : Viewpoint) (index : Int)
    (m : Message) :
    (block docs palette view index m).outcome
      = Block.text palette view <$> Block.ofMessage docs index m := by
  unfold block Block.ofMessage
  simp only [Attempt.outcome_bind, Span.outcome_shownFrom, Location.outcome_resolve,
    Location.placedIn]
  -- step by step in the order of the block, since the first fault decides
  cases m.primary.spanIn docs with
  | error e => rfl
  | ok span =>
    simp only [ok_bind]
    cases hplaced : span.placed with
    | error e => rfl
    | ok span' =>
      obtain ⟨rfl, -⟩ := Span.placed_eq_ok_iff.mp hplaced
      simp only [map_ok, ok_bind]
      cases Text.Numeral.isWritable (index + 1) with
      | false => rfl
      | true =>
        simp only [Bool.not_true, Bool.false_eq_true, if_false, Attempt.outcome_bind,
          Attempt.outcome_pure, Excerpt.outcome_render, outcome_referredFrom, pure_eq]
        cases Excerpt.linesFor docs span with
        | error e => rfl
        | ok lines =>
          show _ = Block.text palette view <$>
            (m.origin.mapM (Location.placedIn docs) >>= fun origin => _)
          cases m.origin.mapM (Location.placedIn docs) with
          | error e => rfl
          | ok origin => rfl

/-- The blocks of messages, the first of which has the given index. -/
def blocksOf (docs : Documents) (index : Nat) (msgs : List Message) : Except Fault (List Block) :=
  (msgs.zipIdx index).mapM fun e => Block.ofMessage docs e.2 e.1

theorem outcome_blocksFrom (docs : Documents) (palette : Palette) (view : Viewpoint)
    (index : Nat) (msgs : List Message) :
    (blocksFrom docs palette view index msgs).outcome
      = List.map (Block.text palette view) <$> blocksOf docs index msgs := by
  induction msgs generalizing index with
  | nil => rfl
  | cons m rest ih =>
    rw [blocksFrom, Attempt.outcome_bind, outcome_block]
    rw [blocksOf, List.zipIdx_cons, List.mapM_cons, ← blocksOf]
    cases Block.ofMessage docs index m with
    | error e => rfl
    | ok b =>
      rw [map_ok, ok_bind, ok_bind, Attempt.outcome_bind, ih]
      cases blocksOf docs (index + 1) rest with
      | error e => rfl
      | ok bs => rfl

/-- The first layout: the texts of the blocks. -/
theorem outcome_render (docs : Documents) (palette : Palette) (view : Viewpoint)
    (msgs : List Message) :
    (render docs palette view msgs).outcome
      = List.map (Block.text palette view) <$> blocksOf docs 0 msgs :=
  outcome_blocksFrom docs palette view 0 msgs

end Codeframe

/-! ### Groups -/

/-- A message whose positions can be written, or else a failure over one that cannot. -/
def Resolved.written {ε : Type} (refuse : Text.Numeral.Error → ε) (r : Resolved) :
    Except ε Resolved :=
  if r.isWritable then .ok r else .error (refuse .unwritable)

theorem Resolved.written_eq_ok_iff {ε : Type} {refuse : Text.Numeral.Error → ε}
    {r r' : Resolved} : r.written refuse = .ok r' ↔ r = r' ∧ r'.isWritable = true := by
  rw [written, if_ok_eq_ok]
  constructor
  · rintro ⟨h, rfl⟩
    exact ⟨rfl, h⟩
  · rintro ⟨rfl, h⟩
    exact ⟨h, rfl⟩

/-- A message with its spans, whose positions can be written. -/
def Message.resolvedWith {ε : Type} (refuse : Text.Numeral.Error → ε)
    (resolve : Location → Attempt ε Span) (m : Message) : Except ε Resolved :=
  (m.resolve resolve).outcome >>= Resolved.written refuse

/-- A message with its spans among the documents, whose positions can be written. -/
def Message.resolvedIn (docs : Documents) (m : Message) : Except Fault Resolved := do
  let primary ← m.primary.spanIn docs
  let secondary ← m.secondary.mapM (Location.spanIn docs)
  Resolved.written Fault.numeral ⟨m, primary, secondary⟩

/-- What is in a resolved message. -/
theorem Message.resolvedIn_eq_ok_iff {docs : Documents} {m : Message} {r : Resolved} :
    m.resolvedIn docs = .ok r
      ↔ r.message = m ∧ m.primary.spanIn docs = .ok r.primary ∧
        m.secondary.mapM (Location.spanIn docs) = .ok r.secondary ∧ r.isWritable = true := by
  unfold resolvedIn
  constructor
  · intro h
    obtain ⟨primary, hprimary, h⟩ := bind_eq_ok.mp h
    obtain ⟨secondary, hsecondary, h⟩ := bind_eq_ok.mp h
    obtain ⟨rfl, hwritable⟩ := Resolved.written_eq_ok_iff.mp h
    exact ⟨rfl, hprimary, hsecondary, hwritable⟩
  · rintro ⟨rfl, hprimary, hsecondary, hwritable⟩
    rw [hprimary, ok_bind, hsecondary, ok_bind]
    exact Resolved.written_eq_ok_iff.mpr ⟨rfl, hwritable⟩

theorem Message.resolvedWith_resolve (docs : Documents) (m : Message) :
    m.resolvedWith Fault.numeral (Location.resolve docs) = m.resolvedIn docs := by
  unfold resolvedWith Message.resolve Message.resolvedIn
  rw [Attempt.outcome_bind, Location.outcome_resolve]
  cases m.primary.spanIn docs with
  | error e => rfl
  | ok primary =>
    rw [ok_bind, ok_bind, Attempt.outcome_bind, Attempt.outcome_optionMapM]
    show (m.secondary.mapM (Location.spanIn docs) >>= _) >>= _ = _
    cases m.secondary.mapM (Location.spanIn docs) with
    | error e => rfl
    | ok secondary => rfl

namespace Stylish

/-- The groups with one more message, whose positions can be written. -/
def extendGroups (r : Resolved) : List FileGroup → List FileGroup
  | [] => [(FileGroup.empty r.message.file).extend r]
  | g :: rest =>
    if g.path = r.message.file then g.extend r :: rest else g :: extendGroups r rest

theorem addToGroups_eq (r : Resolved) (gs : List FileGroup) :
    addToGroups r gs
      = if r.isWritable then .ok (extendGroups r gs) else .error .unwritable := by
  induction gs with
  | nil =>
    rw [addToGroups, FileGroup.add]
    cases r.isWritable with
    | true => rfl
    | false => rfl
  | cons g gs ih =>
    rw [addToGroups, extendGroups, FileGroup.add, ih]
    cases r.isWritable with
    | true =>
      by_cases h : g.path = r.message.file
      · rw [if_pos h, if_pos h]
        rfl
      · rw [if_neg h, if_neg h]
        rfl
    | false =>
      by_cases h : g.path = r.message.file
      · rw [if_pos h]
        rfl
      · rw [if_neg h]
        rfl

/-- The groups of resolved messages. -/
def groupsOf (rs : List Resolved) : List FileGroup := rs.foldl (fun gs r => extendGroups r gs) []

/-- Grouping is resolving all messages in their order, and then adding each to the groups. -/
theorem outcome_groupByFile_eq {ε : Type} (refuse : Text.Numeral.Error → ε)
    (resolve : Location → Attempt ε Span) (msgs : List Message) :
    (groupByFile refuse resolve msgs).outcome
      = groupsOf <$> msgs.mapM (Message.resolvedWith refuse resolve) := by
  unfold groupByFile
  rw [Attempt.outcome_foldlM, show groupsOf
    = fun rs => rs.foldl (fun gs r => extendGroups r gs) [] from rfl]
  rw [← foldlM_eq_mapM]
  congr 1
  funext gs m
  rw [Attempt.outcome_bind, Message.resolvedWith]
  cases (m.resolve resolve).outcome with
  | error e => rfl
  | ok r =>
    rw [ok_bind, ok_bind, Attempt.outcome_adapt, Attempt.outcome_ofExcept, addToGroups_eq,
      Resolved.written]
    cases r.isWritable with
    | true => rfl
    | false => rfl

theorem outcome_groupByFile (docs : Documents) (msgs : List Message) :
    (groupByFile Fault.numeral (Location.resolve docs) msgs).outcome
      = groupsOf <$> msgs.mapM (Message.resolvedIn docs) := by
  rw [outcome_groupByFile_eq, funext (Message.resolvedWith_resolve docs)]

/-- What all messages of groups and one more have in common, those of the extended groups have. -/
theorem of_mem_extendGroups {p : Resolved → Prop} {r : Resolved} {gs : List FileGroup}
    (hgs : ∀ g ∈ gs, ∀ r' ∈ g.messages, p r') (hr : p r) :
    ∀ g ∈ extendGroups r gs, ∀ r' ∈ g.messages, p r' := by
  induction gs with
  | nil => simpa [extendGroups, FileGroup.extend, FileGroup.empty] using hr
  | cons g gs ih =>
    rw [List.forall_mem_cons] at hgs
    rw [extendGroups]
    by_cases h : g.path = r.message.file
    · rw [if_pos h, List.forall_mem_cons]
      refine ⟨fun r' hr' => ?_, hgs.2⟩
      rcases List.mem_append.mp hr' with hr' | hr'
      · exact hgs.1 r' hr'
      · exact List.mem_singleton.mp hr' ▸ hr
    · rw [if_neg h, List.forall_mem_cons]
      exact ⟨hgs.1, ih hgs.2⟩

/-- What all messages have in common, those of their groups have. -/
theorem of_mem_groupsOf {p : Resolved → Prop} {rs : List Resolved} (h : ∀ r ∈ rs, p r) :
    ∀ g ∈ groupsOf rs, ∀ r ∈ g.messages, p r := by
  unfold groupsOf
  -- for every start, since the first message goes into it
  have hfold : ∀ (gs : List FileGroup) (rs : List Resolved), (∀ r ∈ rs, p r) →
      (∀ g ∈ gs, ∀ r ∈ g.messages, p r) →
      ∀ g ∈ rs.foldl (fun gs r => extendGroups r gs) gs, ∀ r ∈ g.messages, p r := by
    intro gs rs hrs
    induction rs generalizing gs with
    | nil => exact id
    | cons r rs ih =>
      rw [List.forall_mem_cons] at hrs
      exact fun hgs => ih _ hrs.2 (of_mem_extendGroups hgs hrs.1)
  exact hfold [] rs h (by simp)

/-- The lines of a group. -/
def groupLines (palette : Palette) (view : Viewpoint) (g : FileGroup) : List String :=
  s!"{palette.accent (view.path g.path)}:" ::
    g.messages.map (line palette g.positionWidth g.ruleWidth) ++ [""]

/-- The lines of a group whose positions can be written. -/
theorem outcome_group {palette : Palette} {view : Viewpoint} {g : FileGroup}
    (h : ∀ r ∈ g.messages, r.isWritable = true) :
    (group palette view g).outcome = .ok (groupLines palette view g) := by
  have hlines : g.messages.mapM (line? palette g.positionWidth g.ruleWidth)
      = .ok (g.messages.map (line palette g.positionWidth g.ruleWidth)) := by
    rw [mapM_eq_ok_iff, List.forall₂_map_right_iff, List.forall₂_same]
    intro r hr
    have hprimary : r.primary.start.isWritable = true :=
      List.all_eq_true.mp (h r hr) _ List.mem_cons_self
    rw [line?, if_pos hprimary]
  unfold group
  rw [Attempt.outcome_bind, Attempt.outcome_ofLogged, ok_bind, Attempt.outcome_bind,
    Attempt.outcome_adapt, Attempt.outcome_ofExcept, hlines]
  rfl

/-- The lines of groups whose positions can be written. -/
theorem outcome_groups {palette : Palette} {view : Viewpoint} {gs : List FileGroup}
    (h : ∀ g ∈ gs, ∀ r ∈ g.messages, r.isWritable = true) :
    (groups palette view gs).outcome = .ok (gs.flatMap (groupLines palette view)) := by
  have hlines : gs.mapM (fun g => (group palette view g).outcome)
      = .ok (gs.map (groupLines palette view)) := by
    rw [mapM_eq_ok_iff, List.forall₂_map_right_iff, List.forall₂_same]
    exact fun g hg => outcome_group (h g hg)
  unfold groups
  rw [Attempt.outcome_bind, Attempt.outcome_mapM, hlines, List.flatMap_def]
  rfl

/-- The second layout: the lines of the groups. -/
theorem outcome_render (docs : Documents) (palette : Palette) (view : Viewpoint)
    (msgs : List Message) :
    (render docs palette view msgs).outcome
      = (fun rs => (groupsOf rs).flatMap (groupLines palette view))
          <$> msgs.mapM (Message.resolvedIn docs) := by
  unfold render
  rw [Attempt.outcome_bind, outcome_groupByFile]
  cases hrs : msgs.mapM (Message.resolvedIn docs) with
  | error e => rfl
  | ok rs =>
    have hwritable : ∀ r ∈ rs, r.isWritable = true := by
      intro r hr
      obtain ⟨m, -, hm⟩ := exists_of_mem_mapM hrs hr
      exact (Message.resolvedIn_eq_ok_iff.mp hm).2.2.2
    rw [map_ok, map_ok, ok_bind, outcome_groups (of_mem_groupsOf hwritable)]

end Stylish

/-! ### Renderings -/

/-- What a layout shows of messages, before any palette comes in. -/
inductive Shown
  | blocks (bs : List Codeframe.Block)
  | groups (gs : List FileGroup)
  deriving Repr

/-- What a layout reads for messages. -/
def Shown.ofMessages (docs : Documents) (layout : Layout) (msgs : List Message) :
    Except Fault Shown :=
  match layout with
  | .codeframe => .blocks <$> Codeframe.blocksOf docs 0 msgs
  | .stylish => (fun rs => .groups (Stylish.groupsOf rs)) <$> msgs.mapM (Message.resolvedIn docs)

/-- The chunks of what is shown. -/
def Shown.chunks (palette : Palette) (view : Viewpoint) : Shown → List String
  | .blocks bs => bs.map (Codeframe.Block.text palette view)
  | .groups gs => gs.flatMap (Stylish.groupLines palette view)

theorem outcome_renderSelected (docs : Documents) (palette : Palette) (view : Viewpoint)
    (layout : Layout) (msgs : List Message) :
    (renderSelected docs palette view layout msgs).outcome
      = Shown.chunks palette view <$> Shown.ofMessages docs layout msgs := by
  cases layout with
  | codeframe =>
    show (Codeframe.render docs palette view msgs).outcome = _
    rw [Codeframe.outcome_render, Shown.ofMessages]
    cases Codeframe.blocksOf docs 0 msgs with
    | ok bs => rfl
    | error e => rfl
  | stylish =>
    show (Stylish.render docs palette view msgs).outcome = _
    rw [Stylish.outcome_render, Shown.ofMessages]
    cases msgs.mapM (Message.resolvedIn docs) with
    | ok rs => rfl
    | error e => rfl

/-- The number that a notice tells, if a cap leaves out messages that are not ignored. -/
def hiddenBy (s : Selection) (cap : Int) : Except Fault (Option Int) :=
  if !s.isTruncated cap then .ok none
  else if !Text.Numeral.isWritable (s.hidden cap) then .error (.numeral .unwritable)
  else .ok (some (s.hidden cap))

/-- The text of a notice. -/
def noticeText (palette : Palette) (hidden : Int) : String :=
  s!"< ... {hidden} more messages hidden > {palette.muted maxMessagesHint}"

theorem truncationNotice_eq (palette : Palette) (s : Selection) (cap : Int) :
    truncationNotice palette s cap = Option.map (noticeText palette) <$> hiddenBy s cap := by
  unfold truncationNotice hiddenBy
  cases s.isTruncated cap with
  | false => rfl
  | true =>
    cases Text.Numeral.isWritable (s.hidden cap) with
    | false => rfl
    | true => rfl

/-- What a rendering shows of messages under a cap, and the number that its notice tells. -/
def shownUnder (docs : Documents) (o : RenderOptions) (msgs : List Message) :
    Except Fault (Shown × Option Int) := do
  let s := Selection.ofMessages msgs o.maxMessages
  let shown ← Shown.ofMessages docs o.layout s.visible
  let hidden ← hiddenBy s o.maxMessages
  return (shown, hidden)

theorem of_shownUnder {docs : Documents} {o : RenderOptions} {msgs : List Message}
    {shown : Shown × Option Int} (h : shownUnder docs o msgs = .ok shown) :
    Shown.ofMessages docs o.layout (Selection.ofMessages msgs o.maxMessages).visible
        = .ok shown.1 ∧
      hiddenBy (Selection.ofMessages msgs o.maxMessages) o.maxMessages = .ok shown.2 := by
  unfold shownUnder at h
  obtain ⟨chunks, hchunks, h⟩ := bind_eq_ok.mp h
  obtain ⟨hidden, hhidden, h⟩ := bind_eq_ok.mp h
  cases h
  exact ⟨hchunks, hhidden⟩

/-- There is a notice if the cap leaves out messages that are not ignored. -/
theorem length_of_hiddenBy {s : Selection} {cap : Int} {hidden : Option Int}
    (h : hiddenBy s cap = .ok hidden) :
    hidden.toList.length = if cap < s.shownBeforeCap then 1 else 0 := by
  unfold hiddenBy at h
  by_cases htruncated : cap < s.shownBeforeCap
  · have hflag : s.isTruncated cap = true := decide_eq_true htruncated
    rw [if_pos htruncated]
    cases hwritable : Text.Numeral.isWritable (s.hidden cap) with
    | false =>
      rw [hflag, hwritable] at h
      cases h
    | true =>
      rw [hflag, hwritable] at h
      cases h
      rfl
  · have hflag : s.isTruncated cap = false := decide_eq_false htruncated
    rw [if_neg htruncated]
    rw [hflag] at h
    cases h
    rfl

/-- The chunks of a rendering in a palette, with the notice at their end. -/
def chunksOf (palette : Palette) (view : Viewpoint) (shown : Shown × Option Int) : List String :=
  shown.1.chunks palette view ++ (shown.2.map (noticeText palette)).toList

/-- The palette of a rendering: the one that is given, or else that of the options. -/
def RenderOptions.paletteOr (env : Environment) (o : RenderOptions) (palette : Option Palette) :
    Palette :=
  palette.getD (o.palette env).value

/-- A rendering without any message is empty, any other one is the text of what it shows. -/
theorem outcome_renderMessages (docs : Documents) (env : Environment) (here : String)
    (o : RenderOptions) (palette : Option Palette) (msgs : List Message) :
    (renderMessages docs env here o palette msgs).outcome
      = if msgs = [] then .ok []
        else chunksOf (o.paletteOr env palette) ⟨here, o.directory⟩ <$> shownUnder docs o msgs := by
  have hchunks : ∀ p : Palette, (do
      let chunks ← renderSelected docs p ⟨here, o.directory⟩ o.layout
        (Selection.ofMessages msgs o.maxMessages).visible
      let notice ← Attempt.ofExcept
        (truncationNotice p (Selection.ofMessages msgs o.maxMessages) o.maxMessages)
      return chunks ++ notice.toList : Attempt Fault (List String)).outcome
        = chunksOf p ⟨here, o.directory⟩ <$> shownUnder docs o msgs := by
    intro p
    simp only [shownUnder, Attempt.outcome_bind, Attempt.outcome_pure, Attempt.outcome_ofExcept,
      outcome_renderSelected, truncationNotice_eq, pure_eq]
    cases Shown.ofMessages docs o.layout (Selection.ofMessages msgs o.maxMessages).visible with
    | error e => rfl
    | ok shown =>
      cases hiddenBy (Selection.ofMessages msgs o.maxMessages) o.maxMessages with
      | error e => rfl
      | ok hidden => rfl
  unfold renderMessages
  by_cases hempty : msgs = []
  · rw [if_pos hempty, hempty]
    rfl
  · have htotal : (Selection.ofMessages msgs o.maxMessages).total ≠ 0 := by
      have hlen := List.length_pos_of_ne_nil hempty
      show (msgs.length : Int) ≠ 0
      omega
    simp only [hempty, htotal, if_false]
    rw [Attempt.outcome_bind, Attempt.outcome_ofLogged, ok_bind]
    cases palette with
    | none =>
      rw [Attempt.outcome_bind, Attempt.outcome_ofLogged, ok_bind]
      exact hchunks _
    | some p => exact hchunks p

end LintReport
