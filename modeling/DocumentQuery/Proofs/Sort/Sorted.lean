import DocumentQuery.Proofs.Filter.Conjunction
import DocumentQuery.Proofs.Sort.Written
import DocumentQuery.Proofs.Store.Answers

/-! Sorted results. Values of different kinds have no order and count as equal when documents are
sorted. So the order of documents is reflexive and turns around with its sides, but it is transitive
only where no document stands between two others that it has no order with.
-/

set_option autoImplicit false

namespace DocumentQuery

namespace Binary64

theorem compare?_swap (x y : Binary64) : y.compare? x = (x.compare? y).map Ordering.swap := by
  cases nan : x.isNaN <;> cases nan' : y.isNaN <;>
    simp [compare?, nan, nan', Std.OrientedCmp.eq_swap (a := y.rank) (b := x.rank)]

theorem compare?_eq_some_iff {x y : Binary64} {order : Ordering} :
    x.compare? y = some order ↔
      x.isNaN = false ∧ y.isNaN = false ∧ compare x.rank y.rank = order := by
  cases nan : x.isNaN <;> cases nan' : y.isNaN <;> simp [compare?, nan, nan']

theorem compare?_trans {x y z : Binary64} {first second : Ordering}
    (xy : x.compare? y = some first) (yz : y.compare? z = some second) :
    ∃ third, x.compare? z = some third ∧ (first.isLE → second.isLE → third.isLE) := by
  obtain ⟨number, -, rfl⟩ := compare?_eq_some_iff.1 xy
  obtain ⟨-, number', rfl⟩ := compare?_eq_some_iff.1 yz
  exact ⟨_, compare?_eq_some_iff.2 ⟨number, number', rfl⟩, Std.TransOrd.isLE_trans⟩

end Binary64

namespace Value

/-- What a value is ordered by: its kind, and its place among the values of this kind. -/
inductive Standing where
  | bool (value : Bool)
  | string (value : String)
  | date (millis : Int64)
  | objectId (id : ObjectId)
  | number (value : Binary64)

namespace Standing

def compare? : Standing → Standing → Option Ordering
  | .bool a, .bool b => some (compare a b)
  | .string a, .string b => some (compare a b)
  | .date a, .date b => some (compare a b)
  | .objectId a, .objectId b => some (compare a b)
  | .number a, .number b => a.compare? b
  | _, _ => none

theorem compare?_swap (a b : Standing) : b.compare? a = (a.compare? b).map Ordering.swap := by
  cases a <;> cases b <;>
    first
    | rfl
    | exact Binary64.compare?_swap _ _
    | exact congrArg some Std.OrientedCmp.eq_swap

theorem compare?_trans {a b c : Standing} {first second : Ordering}
    (ab : a.compare? b = some first) (bc : b.compare? c = some second) :
    ∃ third, a.compare? c = some third ∧ (first.isLE → second.isLE → third.isLE) := by
  cases b with
  | number y =>
    cases a <;> cases c <;> first | exact Binary64.compare?_trans ab bc | cases ab | cases bc
  | bool | string | date | objectId =>
    cases a <;> cases ab
    cases c <;> cases bc
    exact ⟨_, rfl, Std.TransOrd.isLE_trans⟩

end Standing

def standing? : Value → Option Standing
  | .bool value => some (.bool value)
  | .string value => some (.string value)
  | .date value => some (.date value.millis)
  | .objectId value => some (.objectId value)
  | value => value.number?.map .number

theorem compare?_eq_standing (a b : Value) :
    a.compare? b = a.standing?.bind fun first => b.standing?.bind first.compare? := by
  cases a <;> cases b <;> rfl

theorem compare?_swap (a b : Value) : b.compare? a = (a.compare? b).map Ordering.swap := by
  rw [compare?_eq_standing, compare?_eq_standing]
  cases a.standing? with
  | none => cases b.standing? <;> rfl
  | some first =>
    cases b.standing? with
    | none => rfl
    | some second => exact Standing.compare?_swap first second

theorem compare?_trans {a b c : Value} {first second : Ordering}
    (ab : a.compare? b = some first) (bc : b.compare? c = some second) :
    ∃ third, a.compare? c = some third ∧ (first.isLE → second.isLE → third.isLE) := by
  simp only [compare?_eq_standing, Option.bind_eq_some_iff] at ab bc
  obtain ⟨x, stands, y, stands', xy⟩ := ab
  obtain ⟨_, again, z, stands'', yz⟩ := bc
  rw [stands'] at again
  cases again
  obtain ⟨third, xz, le⟩ := Standing.compare?_trans xy yz
  exact ⟨third, by rw [compare?_eq_standing, stands, stands'']; exact xz, le⟩

/-- Where transitivity fails, the value in the middle has no order with the other two. -/
theorem compare?_eq_none_of_gt {a b c : Value} (ab : a.compare? b ≠ some .gt)
    (bc : b.compare? c ≠ some .gt) (ac : a.compare? c = some .gt) :
    a.compare? b = none ∧ b.compare? c = none := by
  cases left : a.compare? b with
  | some first =>
    have turned : b.compare? a = some first.swap := by rw [compare?_swap, left]; rfl
    obtain ⟨second, right, -⟩ := compare?_trans turned ac
    obtain ⟨third, whole, le⟩ := compare?_trans left right
    rw [ac] at whole
    cases whole
    refine absurd (le ?_ ?_) (by decide)
    · exact Ordering.isLE_iff_ne_gt.2 fun greater => ab (left.trans (congrArg some greater))
    · exact Ordering.isLE_iff_ne_gt.2 fun greater => bc (right.trans (congrArg some greater))
  | none =>
    cases right : b.compare? c with
    | some second =>
      have turned : c.compare? b = some second.swap := by rw [compare?_swap, right]; rfl
      obtain ⟨_, found, -⟩ := compare?_trans ac turned
      rw [left] at found
      cases found
    | none => exact ⟨rfl, rfl⟩

/-- Both values are there and not null-like, and they have no order. -/
def Unrelated (left right : Option Value) : Prop :=
  ∃ a ∈ left.filter (! ·.isNull), ∃ b ∈ right.filter (! ·.isNull), a.compare? b = none

instance (left right : Option Value) : Decidable (Unrelated left right) :=
  inferInstanceAs (Decidable (∃ a ∈ left.filter (! ·.isNull), ∃ b ∈ right.filter (! ·.isNull),
    a.compare? b = none))

theorem Unrelated.symm {left right : Option Value} (unrelated : Unrelated left right) :
    Unrelated right left := by
  obtain ⟨a, there, b, there', none⟩ := unrelated
  exact ⟨b, there', a, there, by rw [compare?_swap, none]; rfl⟩

theorem Unrelated.sortOrder_eq {left right : Option Value} (unrelated : Unrelated left right) :
    sortOrder left right = .eq := by
  obtain ⟨a, there, b, there', none⟩ := unrelated
  rw [Option.mem_def] at there there'
  simp only [sortOrder, there, there', none, Option.getD_none]

theorem sortOrder_swap (left right : Option Value) :
    sortOrder right left = (sortOrder left right).swap := by
  simp only [sortOrder]
  cases left.filter (! ·.isNull) with
  | none => cases right.filter (! ·.isNull) <;> rfl
  | some a =>
    cases right.filter (! ·.isNull) with
    | none => rfl
    | some b =>
      dsimp only
      rw [compare?_swap a b]
      cases a.compare? b <;> rfl

theorem sortOrder_eq_gt_iff {left right : Option Value} :
    sortOrder left right = .gt ↔
      ∃ a, left.filter (! ·.isNull) = some a ∧ (right.filter (! ·.isNull) = none ∨
        ∃ b, right.filter (! ·.isNull) = some b ∧ a.compare? b = some .gt) := by
  simp only [sortOrder]
  cases left.filter (! ·.isNull) with
  | none => cases right.filter (! ·.isNull) <;> simp
  | some a =>
    cases right.filter (! ·.isNull) with
    | none => simp
    | some b => cases found : a.compare? b <;> simp [found]

theorem unrelated_of_sortOrder_gt {a b c : Option Value} (ab : sortOrder a b ≠ .gt)
    (bc : sortOrder b c ≠ .gt) (ac : sortOrder a c = .gt) : Unrelated a b ∧ Unrelated b c := by
  rw [ne_eq, sortOrder_eq_gt_iff] at ab bc
  obtain ⟨x, first, rest⟩ := sortOrder_eq_gt_iff.1 ac
  cases second : b.filter (! ·.isNull) with
  | none => exact absurd ⟨x, first, .inl second⟩ ab
  | some y =>
    rcases rest with missing | ⟨z, third, above⟩
    · exact absurd ⟨y, second, .inl missing⟩ bc
    · obtain ⟨left, right⟩ := compare?_eq_none_of_gt
        (fun greater => ab ⟨x, first, .inr ⟨y, second, greater⟩⟩)
        (fun greater => bc ⟨y, second, .inr ⟨z, third, greater⟩⟩) above
      exact ⟨⟨x, first, y, second, left⟩, ⟨y, second, z, third, right⟩⟩

end Value

namespace SortKey

open Store

def Unrelated (key : SortKey) (a b : Document) : Prop :=
  Value.Unrelated (a.valueAt? (Path.ofText key.field)) (b.valueAt? (Path.ofText key.field))

instance (key : SortKey) (a b : Document) : Decidable (key.Unrelated a b) :=
  inferInstanceAs (Decidable (Value.Unrelated _ _))

theorem compareBy_swap (key : SortKey) (a b : Document) :
    compareBy key b a = (compareBy key a b).swap := by
  obtain ⟨field, direction⟩ := key
  cases direction <;> simp only [compareBy] <;> rw [Value.sortOrder_swap]

theorem Unrelated.compareBy_eq {key : SortKey} {a b : Document} (unrelated : key.Unrelated a b) :
    compareBy key a b = .eq := by
  have order := Value.Unrelated.sortOrder_eq unrelated
  simp only [compareBy, order]
  cases key.direction <;> rfl

theorem unrelated_of_compareBy_gt {key : SortKey} {a b c : Document} (ab : compareBy key a b ≠ .gt)
    (bc : compareBy key b c ≠ .gt) (ac : compareBy key a c = .gt) :
    key.Unrelated a b ∧ key.Unrelated b c := by
  obtain ⟨field, direction⟩ := key
  cases direction with
  | ascending => exact Value.unrelated_of_sortOrder_gt ab bc ac
  | descending =>
    -- A descending key orders two documents as the ascending one orders them the other way round.
    simp only [compareBy, ← Value.sortOrder_swap] at ab bc ac
    obtain ⟨left, right⟩ := Value.unrelated_of_sortOrder_gt bc ab ac
    exact ⟨right.symm, left.symm⟩

theorem lexicographic_swap (keys : List SortKey) (a b : Document) :
    lexicographic keys b a = (lexicographic keys a b).swap := by
  induction keys with
  | nil => rfl
  | cons key rest ih =>
    rw [lexicographic_cons, lexicographic_cons, Ordering.swap_then, ih, compareBy_swap]

def parts (a b c : Document) (key : SortKey) : Bool :=
  tells a b key.field || tells b c key.field || tells c a key.field

theorem tells_comm (a b : Document) (field : String) : tells b a field = tells a b field := by
  rw [tells, tells, compareBy_swap]
  cases compareBy ⟨field, .ascending⟩ a b <;> rfl

theorem parts_rotate (a b c : Document) : parts b c a = parts a b c := by
  funext key
  simp only [parts]
  cases tells a b key.field <;> cases tells b c key.field <;> cases tells c a key.field <;> rfl

/-- The first key that tells any two of three documents apart has no order for the second of them,
neither with the first nor with the third. -/
def Mixes (keys : List SortKey) (a b c : Document) : Prop :=
  ∃ key ∈ keys.find? (parts a b c), key.Unrelated a b ∧ key.Unrelated b c

instance (keys : List SortKey) (a b c : Document) : Decidable (Mixes keys a b c) :=
  inferInstanceAs (Decidable (∃ key ∈ keys.find? (parts a b c),
    key.Unrelated a b ∧ key.Unrelated b c))

theorem find?_parts_cons {key : SortKey} {a b c : Document} (tied : parts a b c key = false)
    (rest : List SortKey) : (key :: rest).find? (parts a b c) = rest.find? (parts a b c) := by
  rw [List.find?_cons, tied]

theorem mixes_cons {key : SortKey} {rest : List SortKey} {a b c : Document}
    (parted : parts a b c key = true) (unrelated : key.Unrelated a b ∧ key.Unrelated b c) :
    Mixes (key :: rest) a b c :=
  ⟨key, by rw [Option.mem_def, List.find?_cons, parted], unrelated⟩

theorem parts_eq_false_iff {key : SortKey} {a b c : Document} :
    parts a b c key = false ↔
      compareBy key a b = .eq ∧ compareBy key b c = .eq ∧ compareBy key a c = .eq := by
  simp only [parts, Bool.or_eq_false_iff, compareBy_eq_iff, and_assoc]
  rw [tells_comm a c]

/-- Where a key tells three documents apart and orders them in a circle, one of them is unrelated to
the other two. -/
theorem unrelated_of_parts {key : SortKey} {a b c : Document} (parted : parts a b c key = true)
    (ab : compareBy key a b ≠ .gt) (bc : compareBy key b c ≠ .gt) (ac : compareBy key a c ≠ .lt) :
    (key.Unrelated a b ∧ key.Unrelated b c) ∨ (key.Unrelated b c ∧ key.Unrelated c a) ∨
      (key.Unrelated c a ∧ key.Unrelated a b) := by
  have ca : compareBy key c a ≠ .gt := by
    rw [compareBy_swap]
    exact fun above => ac (Ordering.swap_eq_gt.1 above)
  -- One of the comparisons is not equal, and against it the other two go around the circle.
  cases ab_order : compareBy key a b with
  | gt => exact absurd ab_order ab
  | lt =>
    have ba : compareBy key b a = .gt := by rw [compareBy_swap, ab_order]; rfl
    exact .inr (.inl (unrelated_of_compareBy_gt bc ca ba))
  | eq =>
    cases bc_order : compareBy key b c with
    | gt => exact absurd bc_order bc
    | lt =>
      have cb : compareBy key c b = .gt := by rw [compareBy_swap, bc_order]; rfl
      exact .inr (.inr (unrelated_of_compareBy_gt ca ab cb))
    | eq =>
      cases ac_order : compareBy key a c with
      | lt => exact absurd ac_order ac
      | gt => exact .inl (unrelated_of_compareBy_gt ab bc ac_order)
      | eq =>
        rw [parts_eq_false_iff.2 ⟨ab_order, bc_order, ac_order⟩] at parted
        cases parted

/-- Where the order of three documents is not transitive, one of them mixes the other two. -/
theorem mixes_of_lexicographic_gt {keys : List SortKey} {a b c : Document}
    (ab : lexicographic keys a b ≠ .gt) (bc : lexicographic keys b c ≠ .gt)
    (ac : lexicographic keys a c = .gt) :
    Mixes keys a b c ∨ Mixes keys b c a ∨ Mixes keys c a b := by
  induction keys with
  | nil => cases ac
  | cons key rest ih =>
    cases parted : parts a b c key with
    | false =>
      -- The key leaves all three comparisons to the rest.
      obtain ⟨tied, tied', tied''⟩ := parts_eq_false_iff.1 parted
      rw [lexicographic_cons, tied] at ab
      rw [lexicographic_cons, tied'] at bc
      rw [lexicographic_cons, tied''] at ac
      have parted' : parts b c a key = false := by rw [parts_rotate, parted]
      have parted'' : parts c a b key = false := by rw [parts_rotate, parted']
      simp only [Mixes, find?_parts_cons parted, find?_parts_cons parted',
        find?_parts_cons parted'']
      exact ih ab bc ac
    | true =>
      simp only [lexicographic_cons, ne_eq, Ordering.then_eq_gt, not_or] at ab bc ac
      have above : compareBy key a c ≠ .lt := by
        intro below
        simp [below] at ac
      have parted' : parts b c a key = true := by rw [parts_rotate, parted]
      have parted'' : parts c a b key = true := by rw [parts_rotate, parted']
      exact (unrelated_of_parts parted ab.1 bc.1 above).imp (mixes_cons parted)
        (Or.imp (mixes_cons parted') (mixes_cons parted''))

/-- No document mixes two others among some. -/
def Unmixed (keys : List SortKey) (documents : List Document) : Prop :=
  ∀ a ∈ documents, ∀ b ∈ documents, ∀ c ∈ documents, ¬ Mixes keys a b c

instance (keys : List SortKey) (documents : List Document) : Decidable (Unmixed keys documents) :=
  inferInstanceAs (Decidable (∀ a ∈ documents, ∀ b ∈ documents, ∀ c ∈ documents,
    ¬ Mixes keys a b c))

theorem Unmixed.trans {keys : List SortKey} {documents : List Document}
    (unmixed : Unmixed keys documents) {a b c : Document} (there : a ∈ documents)
    (there' : b ∈ documents) (there'' : c ∈ documents) (ab : compareByAll keys a b ≠ .gt)
    (bc : compareByAll keys b c ≠ .gt) : compareByAll keys a c ≠ .gt := by
  rw [compareByAll_eq_lexicographic] at ab bc ⊢
  intro ac
  rcases mixes_of_lexicographic_gt ab bc ac with mixes | mixes | mixes
  · exact unmixed a there b there' c there'' mixes
  · exact unmixed b there' c there'' a there mixes
  · exact unmixed c there'' a there b there' mixes

theorem compareByAll_swap (keys : List SortKey) (a b : Document) :
    compareByAll keys b a = (compareByAll keys a b).swap := by
  rw [compareByAll_eq_lexicographic, compareByAll_eq_lexicographic, lexicographic_swap]

theorem compareByAll_self (keys : List SortKey) (a : Document) : compareByAll keys a a = .eq :=
  Ordering.eq_eq_of_eq_swap (compareByAll_swap keys a a)

theorem compareByAll_singleton (key : SortKey) (a b : Document) :
    compareByAll [key] a b = compareBy key a b := by
  rw [compareByAll_eq_lexicographic, lexicographic_cons]
  exact Ordering.then_eq

theorem mixes_singleton_iff {key : SortKey} {a b c : Document} :
    Mixes [key] a b c ↔
      key.Unrelated a b ∧ key.Unrelated b c ∧ compareBy key a c ≠ .eq := by
  constructor
  · rintro ⟨other, first, unrelated, unrelated'⟩
    obtain rfl := List.mem_singleton.1 (List.mem_of_find?_eq_some first)
    have parted := List.find?_some first
    refine ⟨unrelated, unrelated', fun level => ?_⟩
    rw [parts_eq_false_iff.2 ⟨unrelated.compareBy_eq, unrelated'.compareBy_eq, level⟩] at parted
    cases parted
  · rintro ⟨unrelated, unrelated', apart⟩
    refine mixes_cons ?_ ⟨unrelated, unrelated'⟩
    rw [← Bool.not_eq_false, parts_eq_false_iff]
    exact fun tied => apart tied.2.2

/-- The order by a single key is transitive on some documents exactly when none of them mixes two
others. -/
theorem unmixed_singleton_iff {key : SortKey} {documents : List Document} :
    Unmixed [key] documents ↔
      ∀ a ∈ documents, ∀ b ∈ documents, ∀ c ∈ documents, compareByAll [key] a b ≠ .gt →
        compareByAll [key] b c ≠ .gt → compareByAll [key] a c ≠ .gt := by
  constructor
  · intro unmixed a there b there' c there''
    exact unmixed.trans there there' there''
  · intro trans a there b there' c there'' mixes
    simp only [compareByAll_singleton] at trans
    obtain ⟨unrelated, unrelated', apart⟩ := mixes_singleton_iff.1 mixes
    -- The three documents stand in one order or in the other, and both go against transitivity.
    have forth := trans a there b there' c there''
    have back := trans c there'' b there' a there
    rw [unrelated.compareBy_eq, unrelated'.compareBy_eq] at forth
    rw [compareBy_swap key b c, compareBy_swap key a b, compareBy_swap key a c,
      unrelated.compareBy_eq, unrelated'.compareBy_eq] at back
    cases order : compareBy key a c <;> simp [order] at forth back apart

/-- Where no document mixes two others, the keys order the documents. -/
theorem Unmixed.preorders {keys : List SortKey} {documents : List Document}
    (unmixed : Unmixed keys documents) : Preorders (compareByAll keys) documents where
  swap a _ b _ := compareByAll_swap keys a b
  trans _ there _ there' _ there'' := unmixed.trans there there' there''

theorem pairwise_sortBy {keys : List SortKey} {documents : List Document}
    (unmixed : Unmixed keys documents) :
    (sortBy keys documents).Pairwise fun a b => compareByAll keys a b ≠ .gt := by
  have sorts := sortWith_of_preorders unmixed.preorders .insertion
  rw [sortWith_insertion, Except.ok.injEq] at sorts
  rw [sorts]
  exact unmixed.preorders.pairwise_mergeSort

theorem shown_pairwise {query : Query} {documents selected : List Document}
    (chosen : Filter.select query.filter documents = .ok selected)
    (unmixed : Unmixed query.sort selected) :
    ∃ shown, query.shown documents = .ok shown ∧
      shown.Pairwise fun a b => compareByAll query.sort a b ≠ .gt :=
  ⟨page query.skip query.limit (sortBy query.sort selected), by rw [Query.shown, chosen]; rfl,
    (pairwise_sortBy unmixed).sublist (page_sublist _ _ _)⟩

/-- The order of documents is reflexive and turns around with its sides. It is transitive where no
document mixes two others, and for a single key only there. Then no query shows a document before
one that comes before it, whichever sort the store uses. -/
theorem sorts_where_unmixed (keys : List SortKey) :
    (∀ a, compareByAll keys a a = .eq) ∧
      (∀ a b, compareByAll keys b a = (compareByAll keys a b).swap) ∧
      (∀ a b c, Unmixed keys [a, b, c] → compareByAll keys a b ≠ .gt →
        compareByAll keys b c ≠ .gt → compareByAll keys a c ≠ .gt) ∧
      (∀ key documents, Unmixed [key] documents ↔
        ∀ a ∈ documents, ∀ b ∈ documents, ∀ c ∈ documents, compareByAll [key] a b ≠ .gt →
          compareByAll [key] b c ≠ .gt → compareByAll [key] a c ≠ .gt) ∧
      ∀ (store : Store) collection (query : Query) selected, query.sort = keys →
        Filter.select query.filter (store.shelf collection).values = .ok selected →
        Unmixed keys selected →
        ∃ shown, query.shown (store.shelf collection).values = .ok shown ∧
          (shown.Pairwise fun a b => compareByAll keys a b ≠ .gt) ∧
          ∀ sorting, store.query collection query sorting =
            .ok (shown.map (Projection.applyTo query.projection)) := by
  refine ⟨compareByAll_self keys, compareByAll_swap keys, ?_, fun _ _ => unmixed_singleton_iff, ?_⟩
  · intro a b c unmixed
    exact unmixed.trans (by simp) (by simp) (by simp)
  · rintro store collection query selected rfl chosen unmixed
    obtain ⟨shown, shows, sorted⟩ := shown_pairwise chosen unmixed
    refine ⟨shown, shows, sorted, fun sorting => ?_⟩
    rw [query_of_preorders chosen unmixed.preorders, query_eq_shown, shows]
    rfl

def ranked (ranks : List Value) : List Document :=
  ranks.mapIdx fun index rank => [(idKey, .objectId ⟨Fin.ofNat _ index⟩), ("rank", rank)]

def storeOfRanks (ranks : List Value) : Store :=
  (Store.empty.insert "item" (ranked ranks)).2

def byRank : List SortKey :=
  [⟨"rank", .ascending⟩]

/-- Numbers of two widths, one text and a missing rank: the text mixes no two of them. -/
theorem sorts_ranks :
    Unmixed byRank (ranked [.int32 2, .string "x", .null, .double (.ofInt 2)]) ∧
      ∃ shown,
        Query.shown { sort := byRank }
          ((storeOfRanks [.int32 2, .string "x", .null, .double (.ofInt 2)]).shelf "item").values =
            .ok shown ∧
        (shown.Pairwise fun a b => compareByAll byRank a b ≠ .gt) ∧
        ∀ sorting, (storeOfRanks [.int32 2, .string "x", .null, .double (.ofInt 2)]).query "item"
          { sort := byRank } sorting = .ok (shown.map (Projection.applyTo none)) :=
  have unmixed : Unmixed byRank (ranked [.int32 2, .string "x", .null, .double (.ofInt 2)]) := by
    decide +kernel
  ⟨unmixed, (sorts_where_unmixed byRank).2.2.2.2 _ _ _ _ rfl rfl unmixed⟩

/-- A text between two numbers: it counts as equal to both of them, and the greater number stays
before the lesser one. -/
theorem sorts_two_before_one :
    compareByAll byRank [("rank", .int32 2)] [("rank", .string "x")] = .eq ∧
      compareByAll byRank [("rank", .string "x")] [("rank", .int32 1)] = .eq ∧
      compareByAll byRank [("rank", .int32 2)] [("rank", .int32 1)] = .gt ∧
      (storeOfRanks [.string "w", .int32 2, .string "x", .int32 1]).query "item"
          { sort := byRank } =
        .ok (ranked [.string "w", .int32 2, .string "x", .int32 1]) := by
  exact ⟨by decide +kernel, by decide +kernel, by decide +kernel,
    ok_of_toOption (by decide +kernel)⟩

end SortKey

end DocumentQuery
