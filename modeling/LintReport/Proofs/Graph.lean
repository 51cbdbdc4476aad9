/-
The nodes of a document as a graph.

* `Yaml.Document.Closed` — a document whose numbers all lead to nodes;
* `Yaml.Builder.Closed.step` — one event keeps the numbers within the nodes;
* `Yaml.Document.closed_of_compose` — a document that a text holds is closed.

Design notes: an alias may lead to a collection that is still open, so the numbers are not ordered
and a node can be below itself.  What every event keeps is that a number that was given out stays
below the number of nodes: nodes are only added, and a collection that closes keeps its place.
-/
import LintReport.Proofs.Outcome
import LintReport.Yaml.Document

namespace LintReport.Yaml

open Outcome

/-- The numbers of the nodes below a node, keys and values alike. -/
def Content.below : Content → List Nat
  | .scalar _ => []
  | .sequence items => items
  | .mapping entries => entries.flatMap fun e => [e.1, e.2]

/-- Every number in a document leads to one of its nodes. -/
structure Document.Closed (d : Document) : Prop where
  root_lt : d.root < d.nodes.size
  below_lt : ∀ n ∈ d.nodes, ∀ id ∈ n.content.below, id < d.nodes.size

/-- The numbers that an open collection has come by. -/
def Open.numbers : Open → List Nat
  | .sequence id items => id :: items
  | .mapping id entries key => id :: (key.toList ++ (Content.mapping entries).below)

namespace Builder

/-- The numbers of the nodes below the nodes found so far. -/
def below (b : Builder) : List Nat := b.nodes.toList.flatMap (·.content.below)

/-- Every number that was given out leads to a node. -/
structure Closed (b : Builder) : Prop where
  below_lt : ∀ id ∈ b.below, id < b.nodes.size
  anchors_lt : ∀ e ∈ b.anchors, e.2 < b.nodes.size
  opened_lt : ∀ o ∈ b.opened, ∀ id ∈ o.numbers, id < b.nodes.size
  root_lt : ∀ id ∈ b.root, id < b.nodes.size

variable {b b' : Builder} {anchor : Option String} {node : Node} {id stop x : Nat}

theorem closed_start : start.Closed := by
  constructor
  all_goals
    intro x hx
    cases hx

/-- A collection that gets a child comes by no other number. -/
theorem Closed.put (hb : b.Closed) (hid : id < b.nodes.size) : (b.put id).Closed := by
  obtain ⟨hbelow, hanchors, hopened, hroot⟩ := hb
  unfold Builder.put
  split
  · refine ⟨hbelow, hanchors, hopened, fun x hx => ?_⟩
    obtain rfl := Option.some.inj hx
    exact hid
  all_goals
    rename_i heq
    rw [heq, List.forall_mem_cons] at hopened
    refine ⟨hbelow, hanchors, List.forall_mem_cons.mpr ⟨?_, hopened.2⟩, hroot⟩
    have hfirst := hopened.1
    simp only [Open.numbers, Content.below, Option.toList_some, Option.toList_none,
      List.flatMap_cons, List.forall_mem_cons, List.forall_mem_append] at hfirst ⊢
    tauto

/-- What a new node without children changes. -/
theorem add_eq_ok (h : b.add anchor node = .ok b') : b'.nodes = b.nodes.push node ∧
    b'.opened = b.opened ∧ b'.root = b.root ∧
    ∀ e ∈ b'.anchors, e ∈ b.anchors ∨ e.2 = b.nodes.size := by
  unfold add at h
  cases anchor with
  | none =>
    cases h
    exact ⟨rfl, rfl, rfl, fun e he => .inl he⟩
  | some name =>
    by_cases hknown : (b.anchors.lookup name).isSome = true
    · simp only [hknown, if_true] at h
      cases h
    · simp only [hknown, if_false, Bool.false_eq_true] at h
      cases h
      refine ⟨rfl, rfl, rfl, fun e he => ?_⟩
      rcases List.mem_cons.mp he with rfl | he
      · exact .inr rfl
      · exact .inl he

theorem Closed.add (hb : b.Closed) (hnode : node.content.below = [])
    (h : b.add anchor node = .ok b') : b'.Closed ∧ b'.nodes.size = b.nodes.size + 1 := by
  obtain ⟨hnodes, hopened, hroot, hanchors⟩ := add_eq_ok h
  have hsize : b'.nodes.size = b.nodes.size + 1 := by rw [hnodes, Array.size_push]
  refine ⟨⟨fun id hid => ?_, fun e he => ?_, fun o ho id hid => ?_, fun id hid => ?_⟩, hsize⟩
  · rw [below, hnodes, Array.toList_push, List.flatMap_append, List.flatMap_singleton, hnode,
      List.append_nil] at hid
    have hlt := hb.below_lt id hid
    omega
  · rcases hanchors e he with he | he
    · have hlt := hb.anchors_lt e he
      omega
    · omega
  · have hlt := hb.opened_lt o (hopened ▸ ho) id hid
    omega
  · have hlt := hb.root_lt id (hroot ▸ hid)
    omega

theorem Closed.openWith {deepest : Nat} {o : Nat → Open} (hb : b.Closed)
    (hnode : node.content.below = []) (ho : ∀ id, (o id).numbers = [id])
    (h : b.openWith deepest anchor node o = .ok b') : b'.Closed := by
  unfold Builder.openWith at h
  by_cases hdepth : deepest ≤ b.opened.length
  · rw [if_pos hdepth] at h
    cases h
  rw [if_neg hdepth] at h
  obtain ⟨added, hadded, h⟩ := bind_eq_ok.mp h
  cases h
  obtain ⟨hclosed, hsize⟩ := hb.add hnode hadded
  refine ⟨hclosed.below_lt, hclosed.anchors_lt, ?_, hclosed.root_lt⟩
  refine List.forall_mem_cons.mpr ⟨fun id hid => ?_, hclosed.opened_lt⟩
  rw [ho] at hid
  obtain rfl := List.mem_singleton.mp hid
  show b.nodes.size < added.nodes.size
  omega

/-- A collection that closes keeps its place among the nodes. -/
theorem Closed.complete {content : Content} {around : List Open} (hb : b.Closed)
    (hcontent : ∀ x ∈ content.below, x < b.nodes.size) (haround : ∀ o ∈ around, o ∈ b.opened) :
    (b.complete id content stop around).Closed := by
  have hsize : (b.complete id content stop around).nodes.size = b.nodes.size := Array.size_modify
  constructor
  all_goals rw [hsize]
  · intro x hx
    obtain ⟨n, hn, hx⟩ := List.mem_flatMap.mp hx
    obtain ⟨i, hi⟩ := Array.mem_iff_getElem?.mp (Array.mem_toList_iff.mp hn)
    have hget : (b.nodes.modify id fun n => { n with content := content, stop := stop })[i]?
        = some n := hi
    rw [Array.getElem?_modify] at hget
    by_cases hplace : id = i
    · rw [if_pos hplace] at hget
      obtain ⟨old, -, rfl⟩ := Option.map_eq_some_iff.mp hget
      exact hcontent x hx
    · rw [if_neg hplace] at hget
      refine hb.below_lt x (List.mem_flatMap.mpr ⟨n, ?_, hx⟩)
      exact Array.mem_toList_iff.mpr (Array.mem_iff_getElem?.mpr ⟨i, hget⟩)
  · exact hb.anchors_lt
  · exact fun o ho => hb.opened_lt o (haround o ho)
  · exact hb.root_lt

theorem Closed.close (hb : b.Closed) : (b.close stop).Closed := by
  unfold Builder.close
  split
  · exact hb
  · rename_i id items rest heq
    have hopened := hb.opened_lt
    rw [heq, List.forall_mem_cons] at hopened
    obtain ⟨hid, hitems⟩ := List.forall_mem_cons.mp hopened.1
    refine (hb.complete (fun x hx => hitems x ?_) fun o ho => ?_).put ?_
    · exact List.mem_reverse.mp hx
    · exact heq ▸ List.mem_cons_of_mem _ ho
    · rw [Builder.complete, Array.size_modify]
      exact hid
  · rename_i id entries key rest heq
    have hopened := hb.opened_lt
    rw [heq, List.forall_mem_cons] at hopened
    obtain ⟨hid, hentries⟩ := List.forall_mem_cons.mp hopened.1
    refine (hb.complete (fun x hx => hentries x ?_) fun o ho => ?_).put ?_
    · refine List.mem_append_right _ ?_
      obtain ⟨e, he, hx⟩ := List.mem_flatMap.mp hx
      exact List.mem_flatMap.mpr ⟨e, List.mem_reverse.mp he, hx⟩
    · exact heq ▸ List.mem_cons_of_mem _ ho
    · rw [Builder.complete, Array.size_modify]
      exact hid

/-! ### Steps and runs -/

/-- One event keeps the numbers within the nodes. -/
theorem Closed.step {deepest : Nat} {e : Event} (hb : b.Closed) (h : b.step deepest e = .ok b') :
    b'.Closed := by
  unfold Builder.step at h
  split at h
  · cases h
  · -- an alias gives out a number once more
    rename_i name _
    cases hname : b.anchors.lookup name with
    | none =>
      rw [hname] at h
      cases h
    | some id =>
      rw [hname] at h
      cases h
      obtain ⟨before, after, hanchors, -⟩ := List.lookup_eq_some_iff.mp hname
      refine hb.put (hb.anchors_lt (name, id) ?_)
      rw [hanchors]
      exact List.mem_append_right _ List.mem_cons_self
  · obtain ⟨added, hadded, h⟩ := bind_eq_ok.mp h
    cases h
    obtain ⟨hclosed, hsize⟩ := hb.add rfl hadded
    exact hclosed.put (by omega)
  · exact hb.openWith rfl (fun _ => rfl) h
  · exact hb.openWith rfl (fun _ => rfl) h
  · cases h
    exact hb.close

/-- Any events keep the numbers within the nodes. -/
theorem Closed.foldlM {deepest : Nat} {es : List Event} (hb : b.Closed)
    (h : es.foldlM (Builder.step deepest) b = .ok b') : b'.Closed := by
  induction es generalizing b with
  | nil =>
    cases h
    exact hb
  | cons e es ih =>
    rw [List.foldlM_cons] at h
    obtain ⟨next, hnext, h⟩ := bind_eq_ok.mp h
    exact ih (hb.step hnext) h

end Builder

/-- **A document that a text holds is closed**: the number of its root, and every number below one
of its nodes, leads to a node. -/
theorem Document.closed_of_compose {deepest : Nat} {cs : List Char} {d : Document}
    (h : compose deepest cs = .ok (some d)) : d.Closed := by
  obtain ⟨b, hb, h⟩ := bind_eq_ok.mp h
  have hclosed := Builder.closed_start.foldlM hb
  obtain ⟨root, hroot, rfl⟩ := Option.map_eq_some_iff.mp (Except.ok.inj h)
  refine ⟨hclosed.root_lt root hroot, fun n hn id hid => hclosed.below_lt id ?_⟩
  exact List.mem_flatMap.mpr ⟨n, Array.mem_toList_iff.mpr hn, hid⟩

end LintReport.Yaml
