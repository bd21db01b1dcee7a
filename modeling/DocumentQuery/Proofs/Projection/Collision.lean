import DocumentQuery.OperatorDocument
import DocumentQuery.Proofs.Plan.Compiled
import DocumentQuery.Proofs.Projection.Exclusion
import DocumentQuery.Proofs.Projection.Identifier
import DocumentQuery.Proofs.Schema.Declared
import DocumentQuery.Proofs.Schema.Registered

/-! Collisions of hidden paths. A selection made for a request only excludes, and names each
path once. But what is hidden from callers without privileges and what is hidden for the
sake of the locale come from two walks through the schema. A path of one walk lies within
a path of the other exactly when a localized field is kept for administrators, by itself
or with a field around it.
-/

set_option autoImplicit false

namespace DocumentQuery

namespace Document

theorem set_of_absent {document : Document} {key : String} (value : Value)
    (absent : key ∉ document.map Prod.fst) :
    document.set key value = document ++ [(key, value)] := by
  induction document with
  | nil => rfl
  | cons entry rest ih =>
    obtain ⟨name, old⟩ := entry
    obtain ⟨other, absent⟩ := not_or.1 (fun there => absent (List.mem_cons.2 there))
    rw [set, if_neg (Ne.symm other), ih absent, List.cons_append]

theorem foldl_set_of_nodup {document pairs : Document}
    (distinct : ((document ++ pairs).map Prod.fst).Nodup) :
    pairs.foldl (fun document pair => document.set pair.1 pair.2) document =
      document ++ pairs := by
  induction pairs generalizing document with
  | nil => simp
  | cons pair rest ih =>
    obtain ⟨key, value⟩ := pair
    have same : document ++ (key, value) :: rest = (document ++ [(key, value)]) ++ rest := by simp
    have absent : key ∉ document.map Prod.fst := by
      intro there
      rw [List.map_append, List.map_cons] at distinct
      exact (List.nodup_append.1 distinct).2.2 key there key List.mem_cons_self rfl
    rw [same] at distinct ⊢
    rw [List.foldl_cons, set_of_absent value absent, ih distinct]

theorem ofPairs_of_nodup {pairs : Document} (distinct : (pairs.map Prod.fst).Nodup) :
    ofPairs pairs = pairs :=
  foldl_set_of_nodup distinct

end Document

namespace Projection

def ExcludesOnce (projection : Projection) : Prop :=
  (∀ entry ∈ projection.entries, entry.2 = false) ∧ (projection.entries.map Prod.fst).Nodup

/-- No path of the selection goes through the end of another. -/
def CollisionFree (projection : Option Projection) : Prop :=
  ∀ text ∈ (entriesOf projection).map Prod.fst, ∀ other ∈ (entriesOf projection).map Prod.fst,
    ¬ (Path.ofText text).ProperPrefix (Path.ofText other)

theorem nodup_foldl_excluding {projection : Projection} (paths : List String)
    (distinct : (projection.entries.map Prod.fst).Nodup) :
    ((paths.foldl excluding projection).entries.map Prod.fst).Nodup := by
  induction paths generalizing projection with
  | nil => exact distinct
  | cons path rest ih => exact ih (nodup_set path false distinct)

theorem nodup_hiding {paths : List String} {projection : Projection}
    (hides : hiding? paths = some projection) : (projection.entries.map Prod.fst).Nodup := by
  rw [hiding?] at hides
  split at hides
  · cases hides
  · cases hides
    exact nodup_foldl_excluding paths .nil

theorem nodup_merge {first : Projection} (second : Projection)
    (distinct : (first.entries.map Prod.fst).Nodup) :
    ((first.merge second).entries.map Prod.fst).Nodup := by
  rw [merge]
  induction second.entries generalizing first with
  | nil => exact distinct
  | cons entry rest ih => exact ih (nodup_set entry.1 entry.2 distinct)

theorem nodup_both {first second : Option Projection} {projection : Projection}
    (distinct : ∀ part, first = some part → (part.entries.map Prod.fst).Nodup)
    (distinct' : ∀ part, second = some part → (part.entries.map Prod.fst).Nodup)
    (both : both? first second = some projection) : (projection.entries.map Prod.fst).Nodup := by
  cases first with
  | none => exact distinct' projection (by simpa [both?] using both)
  | some first =>
    cases second with
    | none => exact distinct projection (by simpa [both?] using both)
    | some second =>
      cases both
      exact nodup_merge second (distinct first rfl)

theorem collisionFree_iff {projection : Option Projection} {texts : List String}
    (excludes : ExcludesExactly projection texts) :
    CollisionFree projection ↔ ∀ text ∈ texts, ∀ other ∈ texts,
      ¬ (Path.ofText text).ProperPrefix (Path.ofText other) := by
  have listed (text : String) : text ∈ (entriesOf projection).map Prod.fst ↔ text ∈ texts := by
    constructor
    · intro there
      obtain ⟨entry, among, rfl⟩ := List.mem_map.1 there
      exact ((excludes entry).1 among).2
    · intro there
      exact List.mem_map.2 ⟨(text, false), (excludes _).2 ⟨rfl, there⟩, rfl⟩
  simp only [CollisionFree, listed]

theorem ExcludesOnce.ofProjection {projection : Projection} (once : projection.ExcludesOnce) :
    OperatorDocument.ofProjection projection =
      projection.entries.map fun entry => (entry.1, .int32 0) := by
  have same : (projection.entries.map fun entry : String × Bool =>
      (entry.1, Value.int32 (if entry.2 then 1 else 0))) =
        projection.entries.map fun entry => (entry.1, .int32 0) := by
    refine List.map_congr_left fun entry there => ?_
    simp [once.1 entry there]
  rw [OperatorDocument.ofProjection, same]
  apply Document.ofPairs_of_nodup
  rw [List.map_map]
  exact once.2

end Projection

namespace Schema

/-- The stored paths hidden from a caller: those kept for administrators, unless the caller is one,
and those of variants for other locales. -/
def hiddenPaths (schema : Schema) (others : List String) (elevated : Bool) : List Path :=
  (if elevated then [] else schema.adminPaths) ++ schema.variantPaths others

/-- No localized field is kept for administrators, neither by itself nor with a field that it is
declared below. -/
def Separable (schema : Schema) : Prop :=
  ∀ trail field, schema.Declares trail field → field.localized = true →
    ∀ outer ∈ field :: trail, outer.adminOnly = false

variable {schema : Schema} {others : List String} {elevated : Bool} {path : Path}

theorem exists_declares_of_mem_hiddenPaths (hidden : path ∈ schema.hiddenPaths others elevated) :
    ∃ trail field, schema.Declares trail field ∧
      ((elevated = false ∧ (∀ outer ∈ trail, outer.adminOnly = false) ∧ field.adminOnly = true ∧
          path = field.address trail) ∨
        (field.localized = true ∧ ∃ locale ∈ others, path = field.address trail ++ [locale])) := by
  rw [hiddenPaths, List.mem_append] at hidden
  rcases hidden with kept | variant
  · split at kept
    · exact absurd kept List.not_mem_nil
    · rename_i unprivileged
      obtain ⟨trail, field, declared, free, admin, same⟩ := exists_declares_of_mem_adminPaths kept
      exact ⟨trail, field, declared,
        .inl ⟨Bool.eq_false_iff.2 unprivileged, free, admin, same⟩⟩
  · obtain ⟨trail, field, declared, variant⟩ := exists_declares_of_mem_variantPaths variant
    exact ⟨trail, field, declared, .inr variant⟩

theorem Dotless.ofText_hiddenPath (dotless : schema.Dotless)
    (plain : ∀ locale ∈ others, '.' ∉ locale.toList)
    (hidden : path ∈ schema.hiddenPaths others elevated) : Path.ofText path.text = path := by
  rcases List.mem_append.1 hidden with kept | variant
  · split at kept
    · exact absurd kept List.not_mem_nil
    · exact dotless.ofText_adminPath kept
  · exact dotless.ofText_variantPath plain variant

/-- Hidden paths of a separable schema whose fields are stored apart do not collide. -/
theorem Apart.not_properPrefix (apart : schema.Apart)
    (separable : elevated = true ∨ others = [] ∨ schema.Separable) {other : Path}
    (hidden : path ∈ schema.hiddenPaths others elevated)
    (hidden' : other ∈ schema.hiddenPaths others elevated) : ¬ path.ProperPrefix other := by
  rintro ⟨starts, distinct⟩
  obtain ⟨trail, field, declared, shape⟩ := exists_declares_of_mem_hiddenPaths hidden
  obtain ⟨trail', last, declared', shape'⟩ := exists_declares_of_mem_hiddenPaths hidden'
  have begins : field.address trail <+: path := by
    rcases shape with ⟨_, _, _, rfl⟩ | ⟨_, locale, _, rfl⟩
    · exact List.prefix_rfl
    · exact List.prefix_append _ _
  have addresses : field.address trail <+: last.address trail' := by
    rcases shape' with ⟨_, _, _, rfl⟩ | ⟨_, locale, _, rfl⟩
    · exact begins.trans starts
    · rcases List.prefix_concat_iff.1 (begins.trans starts) with same | shorter
      · exact absurd (starts.eq_of_length_le (same ▸ begins).length_le) distinct
      · exact shorter
  -- A variant that is hidden with a field kept for administrators is ruled out by separability.
  have separate {outer : Field} (unprivileged : elevated = false) (admin : outer.adminOnly = true)
      (localized : last.localized = true) {locale : String} (among : locale ∈ others)
      (around : outer ∈ last :: trail') : False := by
    rcases separable with privileged | rfl | separable
    · rw [unprivileged] at privileged
      cases privileged
    · exact absurd among List.not_mem_nil
    · have open_ := separable trail' last declared' localized outer around
      rw [admin] at open_
      cases open_
  rcases declared.below_of_prefix apart declared' addresses with ⟨rfl, rfl⟩ | ⟨plain, more, rfl⟩
  · rcases shape with ⟨unprivileged, _, admin, rfl⟩ | ⟨_, locale, _, rfl⟩
    · rcases shape' with ⟨_, _, _, rfl⟩ | ⟨localized, locale, among, rfl⟩
      · exact distinct rfl
      · exact separate unprivileged admin localized among List.mem_cons_self
    · rcases shape' with ⟨_, _, _, rfl⟩ | ⟨_, locale', _, rfl⟩
      · have long := starts.length_le
        rw [List.length_append] at long
        exact absurd long (Nat.not_succ_le_self _)
      · rw [List.prefix_append_right_inj] at starts
        cases (List.cons_prefix_cons.1 starts).1
        exact distinct rfl
  · rcases shape with ⟨unprivileged, _, admin, rfl⟩ | ⟨localized, _⟩
    · rcases shape' with ⟨_, free, _, rfl⟩ | ⟨localized, locale, among, rfl⟩
      · have open_ := free field (by simp)
        rw [admin] at open_
        cases open_
      · exact separate unprivileged admin localized among (by simp)
    · rw [plain] at localized
      cases localized

theorem Declares.exists_properPrefix {trail : List Field} {field : Field} {locale : String}
    (declared : schema.Declares trail field) (localized : field.localized = true)
    (kept : ∃ outer ∈ field :: trail, outer.adminOnly = true) (among : locale ∈ others) :
    ∃ path ∈ schema.adminPaths, ∃ other ∈ schema.variantPaths others, path.ProperPrefix other := by
  have ends {schema : Schema} {field : Field} (there : field ∈ schema.fields)
      (localized : field.localized = true) (admin : field.adminOnly = true) :
      ∃ path ∈ schema.adminPaths, ∃ other ∈ schema.variantPaths others, path.ProperPrefix other :=
    ⟨[field.storageKey], Schema.mem_adminPaths.2 ⟨field, there, .inl ⟨admin, rfl⟩⟩,
      [field.storageKey, locale],
      Schema.mem_variantPaths.2 ⟨field, there, .inl ⟨localized, locale, among, rfl⟩⟩,
      List.prefix_append [field.storageKey] [locale], by simp⟩
  induction declared with
  | here there =>
    obtain ⟨outer, listed, admin⟩ := kept
    cases List.mem_singleton.1 listed
    exact ends there localized admin
  | @inside schema inner first field trail there embedded deeper ih =>
    cases admin : first.adminOnly with
    | true =>
      cases varied : first.localized with
      | true => exact ends there varied admin
      | false =>
        have key : first.storageKey = first.name := by simp [Field.storageKey, varied]
        refine ⟨[first.name], Schema.mem_adminPaths.2 ⟨first, there, .inl ⟨admin, by rw [key]⟩⟩,
          first.name :: (field.address trail ++ [locale]),
          Schema.mem_variantPaths.2 ⟨first, there, .inr
            ⟨inner, embedded, _, deeper.mem_variantPaths localized among, rfl⟩⟩,
          List.prefix_append [first.name] _, by simp⟩
    | false =>
      have inside : ∃ outer ∈ field :: trail, outer.adminOnly = true := by
        obtain ⟨outer, listed, kept⟩ := kept
        refine ⟨outer, ?_, kept⟩
        rcases List.mem_cons.1 listed with rfl | listed
        · exact List.mem_cons_self
        · rcases List.mem_cons.1 listed with rfl | listed
          · rw [admin] at kept
            cases kept
          · exact List.mem_cons_of_mem _ listed
      obtain ⟨path, hidden, other, variant, starts, distinct⟩ := ih localized inside
      exact ⟨first.name :: path,
        Schema.mem_adminPaths.2 ⟨first, there, .inr ⟨admin, inner, embedded, path, hidden, rfl⟩⟩,
        first.name :: other,
        Schema.mem_variantPaths.2 ⟨first, there, .inr ⟨inner, embedded, other, variant, rfl⟩⟩,
        List.cons_prefix_cons.2 ⟨rfl, starts⟩, fun same => distinct (List.cons.inj same).2⟩

/-- Hidden paths that do not collide are those of a separable schema. -/
theorem separable_of_not_properPrefix
    (free : ∀ path ∈ schema.hiddenPaths others elevated,
      ∀ other ∈ schema.hiddenPaths others elevated, ¬ path.ProperPrefix other) :
    elevated = true ∨ others = [] ∨ schema.Separable := by
  cases elevated with
  | true => exact .inl rfl
  | false =>
    rcases List.eq_nil_or_concat others with rfl | ⟨front, locale, rfl⟩
    · exact .inr (.inl rfl)
    · refine .inr (.inr fun trail field declared localized outer around => ?_)
      refine Bool.eq_false_iff.2 fun admin => ?_
      obtain ⟨path, hidden, other, variant, proper⟩ :=
        @Declares.exists_properPrefix schema (front.concat locale) trail field locale declared
          localized ⟨outer, around, admin⟩ (by simp)
      exact free path (List.mem_append_left _ hidden) other (List.mem_append_right _ variant) proper

end Schema

def Locales.others (locales : Locales) (locale : String) : List String :=
  locales.supported.filter (· ≠ locale)

namespace Plan

/-- The selections that a plan carries: its own, and those of the references to expand. -/
def selections (plan : Plan) : List (Option Projection) :=
  plan.query.projection :: plan.query.populate.map (·.projection)

section Selection

variable {settings : Settings} {schema : Schema} {locale : String} {elevated : Bool}

theorem excludesExactly_selection (settings : Settings) (schema : Schema) (locale : String)
    (elevated : Bool) :
    Projection.ExcludesExactly (selection settings schema locale elevated)
      ((schema.hiddenPaths (settings.locales.others locale) elevated).map Path.text) := by
  rw [selection, Schema.hiddenPaths, List.map_append]
  refine Projection.excludesExactly_both ?_ (Projection.excludesExactly_hiding _)
  cases elevated with
  | true => exact Projection.excludesExactly_none.2 rfl
  | false => exact Projection.excludesExactly_hiding _

theorem excludesOnce_selection {projection : Projection}
    (selects : selection settings schema locale elevated = some projection) :
    projection.ExcludesOnce := by
  have excludes := excludesExactly_selection settings schema locale elevated
  rw [selects] at excludes
  refine ⟨fun entry there => ((excludes entry).1 there).1, ?_⟩
  refine Projection.nodup_both (fun part hides => ?_) (fun part => Projection.nodup_hiding) selects
  split at hides
  · cases hides
  · exact Projection.nodup_hiding hides

theorem collisionFree_selection_iff (dotless : schema.Dotless)
    (plain : ∀ locale ∈ settings.locales.supported, '.' ∉ locale.toList) :
    Projection.CollisionFree (selection settings schema locale elevated) ↔
      ∀ path ∈ schema.hiddenPaths (settings.locales.others locale) elevated,
        ∀ other ∈ schema.hiddenPaths (settings.locales.others locale) elevated,
          ¬ path.ProperPrefix other := by
  have readable : ∀ path ∈ schema.hiddenPaths (settings.locales.others locale) elevated,
      Path.ofText path.text = path := fun path =>
    dotless.ofText_hiddenPath fun locale among => plain locale (List.mem_filter.1 among).1
  rw [Projection.collisionFree_iff (excludesExactly_selection settings schema locale elevated)]
  simp only [List.forall_mem_map]
  refine forall₂_congr fun path hidden => forall₂_congr fun other hidden' => ?_
  rw [readable path hidden, readable other hidden']

/-- A selection without collisions is that of a separable schema, and where fields are stored apart,
the selection of a separable schema has no collisions. -/
theorem separable_of_collisionFree (dotless : schema.Dotless)
    (plain : ∀ locale ∈ settings.locales.supported, '.' ∉ locale.toList) :
    (Projection.CollisionFree (selection settings schema locale elevated) →
        elevated = true ∨ settings.locales.others locale = [] ∨ schema.Separable) ∧
      (schema.Apart →
        elevated = true ∨ settings.locales.others locale = [] ∨ schema.Separable →
          Projection.CollisionFree (selection settings schema locale elevated)) := by
  rw [collisionFree_selection_iff dotless plain]
  refine ⟨Schema.separable_of_not_properPrefix, fun apart separable path hidden other hidden' => ?_⟩
  exact apart.not_properPrefix separable hidden hidden'

end Selection

theorem selectionOf_eq (registry : Registry) (settings : Settings) (locale target : String) :
    Population.selectionOf registry settings.locales.supported locale target =
      (registry.get? target).bind (selection settings · locale false) := rfl

theorem projection_of_mem_directives {registry : Registry} {supported : List String}
    {locale : String} {schema : Schema} {parameters : Parameters} {directive : Directive}
    (there : directive ∈ Population.directives registry supported locale schema parameters) :
    directive.projection =
      directive.target.bind (Population.selectionOf registry supported locale) := by
  obtain ⟨path, _, rfl⟩ := List.mem_map.1 there
  rw [Population.directive]
  split <;> rfl

/-- The selections of a plan exclude each of their paths once, also when written as operator
documents. They are free of collisions exactly when no localized field is kept for administrators,
unless nothing is hidden from the caller or there is no other locale. -/
theorem collisionFree_exactly {registry : Registry} {settings : Settings} {collection : String}
    {parameters : Parameters} {context : Context} {plan : Plan}
    (compiled : compile registry settings collection parameters context = .ok plan)
    (dotless : registry.Dotless)
    (plain : ∀ locale ∈ settings.locales.supported, '.' ∉ locale.toList) :
    (∀ projection, some projection ∈ plan.selections →
      projection.ExcludesOnce ∧ OperatorDocument.ofProjection projection =
        projection.entries.map fun entry => (entry.1, .int32 0)) ∧
    (∀ schema, registry.get? collection = some schema →
      (Projection.CollisionFree plan.query.projection → context.elevated = true ∨
        settings.locales.others plan.locale = [] ∨ schema.Separable) ∧
      (schema.Apart → context.elevated = true ∨
        settings.locales.others plan.locale = [] ∨ schema.Separable →
          Projection.CollisionFree plan.query.projection)) ∧
    ∀ directive ∈ plan.query.populate, ∀ target schema, directive.target = some target →
      registry.get? target = some schema →
      (Projection.CollisionFree directive.projection →
        settings.locales.others plan.locale = [] ∨ schema.Separable) ∧
      (schema.Apart → settings.locales.others plan.locale = [] ∨ schema.Separable →
        Projection.CollisionFree directive.projection) := by
  obtain ⟨root, since, clauses, known, _, _, rfl⟩ := compile_eq_ok_iff.1 compiled
  refine ⟨fun projection selected => ?_, fun schema found => ?_,
    fun directive there target schema refers found => ?_⟩
  · have once : projection.ExcludesOnce := by
      rcases List.mem_cons.1 selected with own | other
      · exact excludesOnce_selection own.symm
      · obtain ⟨directive, there, same⟩ := List.mem_map.1 other
        rw [projection_of_mem_directives there] at same
        obtain ⟨target, _, same⟩ := Option.bind_eq_some_iff.1 same
        rw [selectionOf_eq] at same
        obtain ⟨schema, _, same⟩ := Option.bind_eq_some_iff.1 same
        exact excludesOnce_selection same
    exact ⟨once, once.ofProjection⟩
  · rw [known] at found
    cases found
    exact separable_of_collisionFree (dotless collection root known) plain
  · have same := projection_of_mem_directives there
    rw [refers, Option.bind_some, selectionOf_eq, found, Option.bind_some] at same
    have exactly := @separable_of_collisionFree settings schema
      (settings.locales.resolve context.localeHint) false (dotless target schema found) plain
    simp only [Bool.false_eq_true, false_or, ← same] at exactly
    exact exactly

end Plan

namespace Schema

def page : Schema :=
  ⟨"page", [.plain idKey (.primitive .objectId), ⟨"title", .primitive .string, true, false⟩,
    ⟨"note", .primitive .string, false, true⟩]⟩

def draft : Schema :=
  ⟨"draft", [.plain idKey (.primitive .objectId), ⟨"title", .primitive .string, true, true⟩]⟩

theorem flat_page : ∀ field ∈ page.fields, field.type.embeddedSchema? = none := by
  simp [page, Field.plain, FieldType.embeddedSchema?, FieldType.element]

theorem flat_draft : ∀ field ∈ draft.fields, field.type.embeddedSchema? = none := by
  simp [draft, Field.plain, FieldType.embeddedSchema?, FieldType.element]

theorem apart_page : page.Apart :=
  .of_flat flat_page (by simp [page, Field.plain, Field.storageKey, idKey])

theorem separable_page : page.Separable := by
  rintro trail field (there | ⟨there, embedded, _⟩) localized outer around
  · cases List.mem_singleton.1 around
    have each : ∀ field ∈ page.fields, field.localized = true → field.adminOnly = false := by
      simp [page, Field.plain]
    exact each field there localized
  · rw [flat_page _ there] at embedded
    cases embedded

end Schema

namespace Registry

def manuscripts : Registry :=
  ⟨⟨[(defaultJournal, .journal defaultJournal), ("draft", .draft), ("page", .page)], by decide⟩⟩

theorem build_manuscripts : build [.page, .draft] defaultJournal = .ok manuscripts := rfl

theorem built_manuscripts : manuscripts.Built := by
  refine ⟨[.page, .draft], defaultJournal, ?_, build_manuscripts⟩
  rw [List.forall_mem_cons, List.forall_mem_singleton]
  exact ⟨.of_flat Schema.flat_page ⟨"page", Schema.page.fields, rfl⟩,
    .of_flat Schema.flat_draft ⟨"draft", Schema.draft.fields, rfl⟩⟩

theorem dotless_manuscripts : manuscripts.Dotless := by
  refine dotless_of_build build_manuscripts ?_
  rw [List.forall_mem_cons, List.forall_mem_singleton]
  exact ⟨.of_flat Schema.flat_page (by simp [Schema.page, Field.plain, idKey]),
    .of_flat Schema.flat_draft (by simp [Schema.draft, Field.plain, idKey])⟩

end Registry

namespace Plan

/-- A query for pages hides the note and the titles for other locales. -/
theorem collisionFree_pages :
    ∃ plan, compile .manuscripts {} "page" [] {} = .ok plan ∧ Registry.manuscripts.Dotless ∧
      (∀ locale ∈ ({} : Settings).locales.supported, '.' ∉ locale.toList) ∧
      plan.query.projection = some ⟨[("note", false), ("titleI18n.de", false),
        ("titleI18n.fr", false), ("titleI18n.it", false)]⟩ ∧
      Projection.CollisionFree plan.query.projection := by
  have plain : ∀ locale ∈ ({} : Settings).locales.supported, '.' ∉ locale.toList := by decide
  have known : Registry.manuscripts.get? "page" = some .page := rfl
  have planned : compile .manuscripts {} "page" [] {} = .ok _ :=
    compile_eq_ok_iff.2 ⟨.page, none, [], known, rfl, rfl, rfl⟩
  refine ⟨_, planned, Registry.dotless_manuscripts, plain, by decide, ?_⟩
  have exactly := collisionFree_exactly planned Registry.dotless_manuscripts plain
  exact (exactly.2.1 .page known).2 Schema.apart_page (.inr (.inr Schema.separable_page))

/-- A query for drafts hides the titles altogether, and the ones for other locales once more. -/
theorem collision_drafts :
    Registry.manuscripts.Built ∧ ∃ plan, compile .manuscripts {} "draft" [] {} = .ok plan ∧
      plan.query.projection = some ⟨[("titleI18n", false), ("titleI18n.de", false),
        ("titleI18n.fr", false), ("titleI18n.it", false)]⟩ ∧
      ¬ Projection.CollisionFree plan.query.projection := by
  have known : Registry.manuscripts.get? "draft" = some .draft := rfl
  have planned : compile .manuscripts {} "draft" [] {} = .ok _ :=
    compile_eq_ok_iff.2 ⟨.draft, none, [], known, rfl, rfl, rfl⟩
  refine ⟨Registry.built_manuscripts, _, planned, by decide, fun free => ?_⟩
  exact free "titleI18n" (by decide) "titleI18n.de" (by decide) (by decide)

end Plan

end DocumentQuery
