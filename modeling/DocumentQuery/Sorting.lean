import DocumentQuery.Error

/-! Stable sorts. A sort that a store relies on puts a list in order where its comparison is a total
preorder on the elements. For other lists it leaves open in which order the elements come, and
whether it comes to an end. A `Sorting` is any sort of this kind; sorting by insertion is one.
-/

set_option autoImplicit false

namespace DocumentQuery

variable {α β : Type}

/-- The comparison turns around with its sides, and it is transitive on the elements of a list. -/
structure Preorders (order : α → α → Ordering) (elements : List α) : Prop where
  swap : ∀ a ∈ elements, ∀ b ∈ elements, order b a = (order a b).swap
  trans : ∀ a ∈ elements, ∀ b ∈ elements, ∀ c ∈ elements,
    order a b ≠ .gt → order b c ≠ .gt → order a c ≠ .gt

theorem bne_gt_trans {order : α → α → Ordering} {a b c : α}
    (trans : order a b ≠ .gt → order b c ≠ .gt → order a c ≠ .gt) (ab : (order a b != .gt) = true)
    (bc : (order b c != .gt) = true) : (order a c != .gt) = true := by
  rw [bne_iff_ne] at ab bc ⊢
  exact trans ab bc

theorem bne_gt_total {order : α → α → Ordering} {a b : α} (swap : order b a = (order a b).swap) :
    (order a b != .gt || order b a != .gt) = true := by
  rw [swap]
  cases order a b <;> rfl

theorem map_mergeSort_attach (order : α → α → Ordering) (elements : List α) :
    (elements.attach.mergeSort fun a b => order a.1 b.1 != .gt).map Subtype.val =
      elements.mergeSort fun a b => order a b != .gt := by
  rw [List.map_mergeSort (f := Subtype.val) (s := fun a b => order a b != .gt) fun _ _ _ _ => rfl,
    List.attach_map_subtype_val]

theorem Preorders.pairwise_mergeSort {order : α → α → Ordering} {elements : List α}
    (preorders : Preorders order elements) :
    (elements.mergeSort fun a b => order a b != .gt).Pairwise fun a b => order a b ≠ .gt := by
  rw [← map_mergeSort_attach, List.pairwise_map]
  refine (List.pairwise_mergeSort ?_ ?_ _).imp fun le => by simpa using le
  · exact fun a b c => bne_gt_trans (preorders.trans a a.2 b b.2 c c.2)
  · exact fun a b => bne_gt_total (preorders.swap a a.2 b b.2)

namespace Insertion

/-- Puts an element into a list that descends, in front of the first one it does not precede. -/
def insert (order : α → α → Ordering) (x : α) : List α → List α
  | [] => [x]
  | y :: rest => if order x y = .lt then y :: insert order x rest else x :: y :: rest

/-- Sorts a list by insertion. Each element moves from the end towards the front, up to the first
one that it does not precede. -/
def sort (order : α → α → Ordering) (elements : List α) : List α :=
  (elements.foldl (fun sorted x => insert order x sorted) []).reverse

section Elements

variable (order : α → α → Ordering)

theorem insert_perm (x : α) (descending : List α) :
    (insert order x descending).Perm (x :: descending) := by
  induction descending with
  | nil => exact .refl _
  | cons y rest ih =>
    rw [insert]
    split
    · exact (ih.cons y).trans (.swap x y rest)
    · exact .refl _

theorem foldl_insert_perm (descending elements : List α) :
    (elements.foldl (fun sorted x => insert order x sorted) descending).Perm
      (elements ++ descending) := by
  induction elements generalizing descending with
  | nil => exact .refl _
  | cons x rest ih =>
    refine (ih _).trans ?_
    exact ((insert_perm order x descending).append_left rest).trans List.perm_middle

theorem sort_perm (elements : List α) : (sort order elements).Perm elements := by
  have perm := foldl_insert_perm order [] elements
  rw [List.append_nil] at perm
  exact (List.reverse_perm _).trans perm

end Elements

section Maps

variable (order : β → β → Ordering) (f : α → β)

theorem map_insert (x : α) (descending : List α) :
    (insert (fun a b => order (f a) (f b)) x descending).map f =
      insert order (f x) (descending.map f) := by
  induction descending with
  | nil => rfl
  | cons y rest ih =>
    rw [insert, List.map_cons, insert]
    split
    · rw [List.map_cons, ih]
    · rfl

theorem map_foldl_insert (descending elements : List α) :
    (elements.foldl (fun sorted x => insert (fun a b => order (f a) (f b)) x sorted)
        descending).map f =
      (elements.map f).foldl (fun sorted x => insert order x sorted) (descending.map f) := by
  induction elements generalizing descending with
  | nil => rfl
  | cons x rest ih => rw [List.foldl_cons, ih, map_insert, List.map_cons, List.foldl_cons]

theorem map_sort (elements : List α) :
    (sort (fun a b => order (f a) (f b)) elements).map f = sort order (elements.map f) := by
  rw [sort, List.map_reverse, map_foldl_insert, List.map_nil, sort]

end Maps

section Order

variable {order : α → α → Ordering} {r : α → α → Prop} (trans : ∀ a b c, r a b → r b c → r a c)

include trans

theorem pairwise_insert {x : α} {descending : List α}
    (settles : ∀ y ∈ descending, if order x y = .lt then r x y else r y x)
    (ordered : descending.Pairwise fun a b => r b a) :
    (insert order x descending).Pairwise fun a b => r b a := by
  induction descending with
  | nil => exact List.pairwise_singleton _ _
  | cons y rest ih =>
    obtain ⟨least, ordered⟩ := List.pairwise_cons.1 ordered
    have settled := settles y List.mem_cons_self
    rw [insert]
    by_cases precedes : order x y = .lt
    · rw [if_pos precedes] at settled ⊢
      refine List.pairwise_cons.2 ⟨fun z there => ?_,
        ih (fun z there => settles z (List.mem_cons_of_mem y there)) ordered⟩
      rcases List.mem_cons.1 ((insert_perm order x rest).mem_iff.1 there) with rfl | there
      · exact settled
      · exact least z there
    · rw [if_neg precedes] at settled ⊢
      refine List.pairwise_cons.2 ⟨fun z there => ?_, List.pairwise_cons.2 ⟨least, ordered⟩⟩
      rcases List.mem_cons.1 there with rfl | there
      · exact settled
      · exact trans z y x (least z there) settled

theorem pairwise_foldl_insert {descending elements : List α}
    (settles : elements.Pairwise fun a b => if order b a = .lt then r b a else r a b)
    (first : ∀ a ∈ descending, ∀ b ∈ elements, if order b a = .lt then r b a else r a b)
    (ordered : descending.Pairwise fun a b => r b a) :
    (elements.foldl (fun sorted x => insert order x sorted) descending).Pairwise
      fun a b => r b a := by
  induction elements generalizing descending with
  | nil => exact ordered
  | cons x rest ih =>
    obtain ⟨next, settles⟩ := List.pairwise_cons.1 settles
    refine ih settles (fun a there b later => ?_)
      (pairwise_insert trans (fun a there => first a there x List.mem_cons_self) ordered)
    rcases List.mem_cons.1 ((insert_perm order x descending).mem_iff.1 there) with rfl | there
    · exact next b later
    · exact first a there b (List.mem_cons_of_mem x later)

/-- Sorting orders a list by a relation by which each element settles with those in front of it. -/
theorem pairwise_sort {elements : List α}
    (settles : elements.Pairwise fun a b => if order b a = .lt then r b a else r a b) :
    (sort order elements).Pairwise r :=
  List.pairwise_reverse.2 (pairwise_foldl_insert trans settles (by simp) .nil)

end Order

theorem snd_eq_of_zipIdxLE {le : α → α → Bool} {p q : α × Nat}
    (pq : List.zipIdxLE le p q = true) (qp : List.zipIdxLE le q p = true) : p.2 = q.2 := by
  simp only [List.zipIdxLE] at pq qp
  grind

/-- For a comparison that is a total preorder throughout, this is the stable sort. -/
theorem sort_eq_mergeSort_of_total {order : α → α → Ordering}
    (swap : ∀ a b, order b a = (order a b).swap)
    (trans : ∀ a b c, order a b ≠ .gt → order b c ≠ .gt → order a c ≠ .gt) (elements : List α) :
    sort order elements = elements.mergeSort fun a b => order a b != .gt := by
  let le (a b : α) : Bool := order a b != .gt
  have le_trans (a b c : α) : le a b = true → le b c = true → le a c = true :=
    bne_gt_trans (trans a b c)
  have le_total (a b : α) : (le a b || le b a) = true := bne_gt_total (swap a b)
  -- With their places on them no two elements are level, and both sorts come to one list.
  let tagged := elements.zipIdx
  have sorted : (sort (fun p q => order p.1 q.1) tagged).Pairwise
      fun p q => List.zipIdxLE le p q = true := by
    have places : tagged.Pairwise fun p q => p.2 < q.2 := by
      rw [← List.pairwise_map, List.zipIdx_map_snd]
      exact List.pairwise_lt_range'
    refine pairwise_sort (List.zipIdxLE_trans le_trans) (places.imp fun {p q} before => ?_)
    cases level : order q.1 p.1 <;>
      simp [List.zipIdxLE, le, swap q.1 p.1, level, Nat.le_of_lt before]
  have perm : (sort (fun p q => order p.1 q.1) tagged).Perm
      (tagged.mergeSort (List.zipIdxLE le)) :=
    (sort_perm _ tagged).trans (List.mergeSort_perm tagged _).symm
  have equal : sort (fun p q => order p.1 q.1) tagged = tagged.mergeSort (List.zipIdxLE le) := by
    refine perm.eq_of_pairwise (fun p q there there' pq qp => ?_) sorted
      (List.pairwise_mergeSort (List.zipIdxLE_trans le_trans) (List.zipIdxLE_total le_total) _)
    have place := snd_eq_of_zipIdxLE pq qp
    rw [(sort_perm _ tagged).mem_iff, List.mem_zipIdx_iff_getElem?] at there
    rw [List.mem_mergeSort, List.mem_zipIdx_iff_getElem?] at there'
    rw [place, there', Option.some.injEq] at there
    exact Prod.ext there.symm place
  calc sort order elements
      = (sort (fun p q => order p.1 q.1) tagged).map Prod.fst := by
        rw [map_sort order Prod.fst, List.zipIdx_map_fst]
    _ = (tagged.mergeSort (List.zipIdxLE le)).map Prod.fst := by rw [equal]
    _ = elements.mergeSort fun a b => order a b != .gt := List.mergeSort_zipIdx

theorem sort_eq_mergeSort {order : α → α → Ordering} {elements : List α}
    (preorders : Preorders order elements) :
    sort order elements = elements.mergeSort fun a b => order a b != .gt := by
  -- The comparison is a total preorder on the elements only, so these are sorted as members.
  let within (a b : { x // x ∈ elements }) : Ordering := order a.1 b.1
  have swap (a b : { x // x ∈ elements }) : within b a = (within a b).swap :=
    preorders.swap a a.2 b b.2
  have trans (a b c : { x // x ∈ elements }) :
      within a b ≠ .gt → within b c ≠ .gt → within a c ≠ .gt :=
    preorders.trans a a.2 b b.2 c c.2
  have total := sort_eq_mergeSort_of_total swap trans elements.attach
  calc sort order elements
      = (sort within elements.attach).map Subtype.val := by
        rw [map_sort order Subtype.val, List.attach_map_subtype_val]
    _ = (elements.attach.mergeSort fun a b => within a b != .gt).map Subtype.val := by rw [total]
    _ = elements.mergeSort fun a b => order a b != .gt := map_mergeSort_attach order elements

end Insertion

/-- A stable sort of documents, as far as it is specified. Where it breaks off, an error stands for
its result. -/
structure Sorting where
  sort : (Document → Document → Ordering) → List Document → Except AccessError (List Document)
  perm {order : Document → Document → Ordering} {documents sorted : List Document} :
    sort order documents = .ok sorted → sorted.Perm documents
  stable {order : Document → Document → Ordering} {documents : List Document} :
    Preorders order documents →
      sort order documents = .ok (documents.mergeSort fun a b => order a b != .gt)

/-- Sorting by insertion never breaks off. Lists of up to twenty elements are sorted in this way,
whether or not their comparison orders them; for longer ones only the laws above are relied on. -/
def Sorting.insertion : Sorting where
  sort order documents := .ok (Insertion.sort order documents)
  perm sorted := by
    cases sorted
    exact Insertion.sort_perm _ _
  stable preorders := congrArg Except.ok (Insertion.sort_eq_mergeSort preorders)

end DocumentQuery
