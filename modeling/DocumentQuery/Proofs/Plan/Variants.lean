import DocumentQuery.Proofs.Projection.Collision
import DocumentQuery.Proofs.Projection.Exclusive
import DocumentQuery.Settings.Reader

/-! The variants that a plan leaves. Of a localized field, a plan hides the variants for all
supported locales but its own, so that a single one is left if the locale of the plan is
supported, and none at all if it is not. A request gets a supported locale whatever it asks for
exactly when the fallback is supported, which accepted settings do not warrant.
-/

set_option autoImplicit false

namespace DocumentQuery

namespace Locales

theorem resolve_mem_or_eq (locales : Locales) (hint : Option String) :
    locales.resolve hint ∈ locales.supported ∨ locales.resolve hint = locales.fallback := by
  cases hint with
  | none => exact .inr rfl
  | some wanted =>
    simp only [resolve]
    split
    · exact .inr rfl
    · split
      · rename_i exact_
        exact .inl exact_
      · split
        · rename_i language
          exact .inl language
        · exact .inr rfl

theorem forall_resolve_mem_iff (locales : Locales) :
    (∀ hint, locales.resolve hint ∈ locales.supported) ↔ locales.fallback ∈ locales.supported := by
  refine ⟨fun each => each none, fun supported hint => ?_⟩
  rcases locales.resolve_mem_or_eq hint with there | same
  · exact there
  · rw [same]
    exact supported

end Locales

namespace Projection

def Leaves (projection : Option Projection) (path : Path) : Prop :=
  ∀ document, (applyTo projection document).valuesAt path = document.valuesAt path

def Clears (projection : Option Projection) (path : Path) : Prop :=
  ∀ document, (applyTo projection document).valuesAt path = []

/-- Under an address, a selection leaves the variant for one of the supported locales, and none for
the others. -/
def LeavesOne (projection : Option Projection) (supported : List String) (address : Path) : Prop :=
  ∃ locale ∈ supported, Leaves projection (address ++ [locale]) ∧
    ∀ other ∈ supported, other ≠ locale → Clears projection (address ++ [other])

theorem Clears.not_leaves {projection : Option Projection} {path : Path}
    (clears : Clears projection path) (nonempty : path ≠ []) : ¬ Leaves projection path := by
  intro leaves
  have same := (clears _).symm.trans (leaves (Document.holding .null path))
  rw [Document.valuesAt_holding _ nonempty] at same
  cases same

theorem leaves_of_apart {projection : Option Projection} {texts : List String} {path : Path}
    (excludes : ExcludesExactly projection texts)
    (apart : ∀ text ∈ texts, ¬ Path.ofText text <+: path ∧ ¬ path <+: Path.ofText text) :
    Leaves projection path := by
  obtain ⟨removed, listed, same⟩ := applyTo_eq_removeAll excludes
  intro document
  rw [same]
  refine Document.valuesAt_removeAll_of_apart (fun path there => ?_) document
  obtain ⟨text, excluded, rfl⟩ := (listed path).1 there
  exact apart text excluded

end Projection

namespace Schema

variable {schema : Schema} {trail trail' : List Field} {field other : Field}

/-- No address goes on from a variant of a localized field. -/
theorem Apart.not_prefix_of_variant (apart : schema.Apart) (declared : schema.Declares trail field)
    (localized : field.localized = true) (declared' : schema.Declares trail' other)
    (locale : String) : ¬ field.address trail ++ [locale] <+: other.address trail' := by
  intro starts
  rcases declared.below_of_prefix apart declared' ((List.prefix_append _ _).trans starts) with
    ⟨rfl, rfl⟩ | ⟨plain, _⟩
  · exact absurd starts.length_le (by simp)
  · rw [plain] at localized
    cases localized

theorem Apart.variant_eq_of_prefix (apart : schema.Apart) (declared : schema.Declares trail field)
    (localized : field.localized = true) (declared' : schema.Declares trail' other)
    {locale locale' : String}
    (starts : field.address trail ++ [locale] <+: other.address trail' ++ [locale']) :
    field.address trail ++ [locale] = other.address trail' ++ [locale'] :=
  (List.prefix_concat_iff.1 starts).resolve_right
    (apart.not_prefix_of_variant declared localized declared' locale)

/-- The variant for a locale that is not hidden lies apart from all that is hidden, if the caller
may read the field. -/
theorem Apart.variant_apart (apart : schema.Apart) (declared : schema.Declares trail field)
    (localized : field.localized = true) {elevated : Bool}
    (readable : elevated = true ∨ ∀ outer ∈ field :: trail, outer.adminOnly = false)
    {others : List String} {locale : String} (shown : locale ∉ others) {path : Path}
    (hidden : path ∈ schema.hiddenPaths others elevated) :
    ¬ path <+: field.address trail ++ [locale] ∧ ¬ field.address trail ++ [locale] <+: path := by
  obtain ⟨trail', last, declared', ⟨unprivileged, _, admin, rfl⟩ | ⟨varied, other, among, rfl⟩⟩ :=
    exists_declares_of_mem_hiddenPaths hidden
  · have longer := apart.not_prefix_of_variant declared localized declared' locale
    refine ⟨fun starts => ?_, longer⟩
    rcases List.prefix_concat_iff.1 starts with same | starts
    · exact longer (same ▸ List.prefix_rfl)
    · -- A field kept for administrators is neither the localized one nor around it.
      have around : last ∈ field :: trail := by
        rcases declared'.below_of_prefix apart declared starts with ⟨rfl, rfl⟩ | ⟨_, more, rfl⟩
        · exact List.mem_cons_self
        · simp
      rcases readable with privileged | open_
      · rw [unprivileged] at privileged
        cases privileged
      · rw [open_ last around] at admin
        cases admin
  · -- Two variants of one field are for different locales.
    have different : last.address trail' ++ [other] ≠ field.address trail ++ [locale] := by
      intro same
      have ends : [other] = [locale] := List.append_inj_right' same rfl
      rw [List.singleton_inj.1 ends] at among
      exact shown among
    exact ⟨fun starts => different (apart.variant_eq_of_prefix declared' varied declared starts),
      fun starts => different (apart.variant_eq_of_prefix declared localized declared' starts).symm⟩

end Schema

namespace Plan

variable {settings : Settings} {schema : Schema} {trail : List Field} {field : Field}
  {locale : String} {elevated : Bool}

theorem clears_variant (dotless : schema.Dotless)
    (plain : ∀ locale ∈ settings.locales.supported, '.' ∉ locale.toList)
    (declared : schema.Declares trail field) (localized : field.localized = true) {other : String}
    (among : other ∈ settings.locales.supported) (different : other ≠ locale) :
    Projection.Clears (selection settings schema locale elevated)
      (field.address trail ++ [other]) := by
  have listed : other ∈ settings.locales.others locale :=
    List.mem_filter.2 ⟨among, by simpa using different⟩
  have variant := declared.mem_variantPaths localized listed
  intro document
  refine Projection.valuesAt_applyTo (excludesExactly_selection settings schema locale elevated)
    document (List.mem_map_of_mem (List.mem_append_right _ variant)) ?_ (by simp)
  exact dotless.ofText_variantPath
    (fun locale there => plain locale (List.mem_filter.1 there).1) variant

theorem leaves_variant (dotless : schema.Dotless) (apart : schema.Apart)
    (plain : ∀ locale ∈ settings.locales.supported, '.' ∉ locale.toList)
    (declared : schema.Declares trail field) (localized : field.localized = true)
    (readable : elevated = true ∨ ∀ outer ∈ field :: trail, outer.adminOnly = false) :
    Projection.Leaves (selection settings schema locale elevated)
      (field.address trail ++ [locale]) := by
  refine Projection.leaves_of_apart (excludesExactly_selection settings schema locale elevated) ?_
  refine List.forall_mem_map.2 fun path hidden => ?_
  have shown : locale ∉ settings.locales.others locale := by simp [Locales.others]
  have plain' : ∀ other ∈ settings.locales.others locale, '.' ∉ other.toList :=
    fun other there => plain other (List.mem_filter.1 there).1
  rw [dotless.ofText_hiddenPath plain' hidden]
  exact apart.variant_apart declared localized readable shown hidden

theorem leavesOne_selection_iff (dotless : schema.Dotless) (apart : schema.Apart)
    (plain : ∀ locale ∈ settings.locales.supported, '.' ∉ locale.toList)
    (declared : schema.Declares trail field) (localized : field.localized = true)
    (readable : elevated = true ∨ ∀ outer ∈ field :: trail, outer.adminOnly = false) :
    Projection.LeavesOne (selection settings schema locale elevated) settings.locales.supported
      (field.address trail) ↔ locale ∈ settings.locales.supported := by
  constructor
  · rintro ⟨left, among, leaves, _⟩
    refine Decidable.byContradiction fun unsupported => ?_
    have different : left ≠ locale := by
      rintro rfl
      exact unsupported among
    exact (clears_variant dotless plain declared localized among different).not_leaves
      (by simp) leaves
  · intro supported
    refine ⟨locale, supported, ?_, fun other among different => ?_⟩
    · exact leaves_variant dotless apart plain declared localized readable
    · exact clears_variant dotless plain declared localized among different

theorem selection_elevated (settings : Settings) (schema : Schema) (locale : String) :
    selection settings schema locale true =
      schema.localeExclusions? locale settings.locales.supported := rfl

/-- All requests get a supported locale exactly when the fallback is supported. Then, and only then,
the locale selection of every plan leaves one variant of a localized field. The whole selection of a
plan leaves one to who may read the field, exactly if the locale of the plan is supported, and if it
is not, there is no variant left for anybody. -/
theorem leavesOne_exactly (settings : Settings) :
    ((∀ hint, settings.locales.resolve hint ∈ settings.locales.supported) ↔
      settings.locales.fallback ∈ settings.locales.supported) ∧
    ∀ {registry : Registry} {collection : String} {schema : Schema} {trail : List Field}
      {field : Field}, registry.get? collection = some schema → schema.Dotless → schema.Apart →
      (∀ locale ∈ settings.locales.supported, '.' ∉ locale.toList) →
      schema.Declares trail field → field.localized = true →
      ((∀ parameters context plan,
          compile registry settings collection parameters context = .ok plan →
          Projection.LeavesOne (schema.localeExclusions? plan.locale settings.locales.supported)
            settings.locales.supported (field.address trail)) ↔
        settings.locales.fallback ∈ settings.locales.supported) ∧
      ∀ parameters context plan,
        compile registry settings collection parameters context = .ok plan →
        plan.locale = settings.locales.resolve context.localeHint ∧
        (context.elevated = true ∨ (∀ outer ∈ field :: trail, outer.adminOnly = false) →
          (Projection.LeavesOne plan.query.projection settings.locales.supported
            (field.address trail) ↔ plan.locale ∈ settings.locales.supported)) ∧
        (plan.locale ∉ settings.locales.supported → ∀ locale ∈ settings.locales.supported,
          Projection.Clears plan.query.projection (field.address trail ++ [locale])) := by
  refine ⟨settings.locales.forall_resolve_mem_iff, ?_⟩
  intro registry collection schema trail field known dotless apart plain declared localized
  constructor
  · have each (locale : String) :
        Projection.LeavesOne (selection settings schema locale true) settings.locales.supported
          (field.address trail) ↔ locale ∈ settings.locales.supported :=
      leavesOne_selection_iff dotless apart plain declared localized (.inl rfl)
    simp only [selection_elevated] at each
    constructor
    · intro always
      have planned : compile registry settings collection [] {} = .ok _ := compile_nil known rfl
      exact (each _).1 (always [] {} _ planned)
    · intro supported parameters context plan planned
      obtain ⟨root, since, clauses, found, _, _, rfl⟩ := compile_eq_ok_iff.1 planned
      exact (each _).2 (settings.locales.forall_resolve_mem_iff.2 supported context.localeHint)
  · intro parameters context plan planned
    obtain ⟨root, since, clauses, found, _, _, rfl⟩ := compile_eq_ok_iff.1 planned
    rw [known] at found
    cases found
    refine ⟨rfl, leavesOne_selection_iff dotless apart plain declared localized,
      fun unsupported locale among => ?_⟩
    have different : locale ≠ settings.locales.resolve context.localeHint := by
      rintro rfl
      exact unsupported among
    exact clears_variant dotless plain declared localized among different

/-- Requests for pages get the title in a supported locale. -/
theorem leavesOne_pages :
    ∃ plan, compile .manuscripts {} "page" [] ⟨some "de-AT", false, none⟩ = .ok plan ∧
      plan.locale = "de" ∧ Projection.LeavesOne plan.query.projection
        ({} : Settings).locales.supported ["titleI18n"] := by
  have known : Registry.manuscripts.get? "page" = some .page := rfl
  have planned : compile .manuscripts {} "page" [] ⟨some "de-AT", false, none⟩ = .ok _ :=
    compile_nil known rfl
  have dotless : Schema.page.Dotless := Registry.dotless_manuscripts "page" .page known
  have declared : Schema.page.Declares [] ⟨"title", .primitive .string, true, false⟩ :=
    .here (by simp [Schema.page])
  have plain : ∀ locale ∈ ({} : Settings).locales.supported, '.' ∉ locale.toList := by decide
  obtain ⟨same, leaves, _⟩ :=
    ((leavesOne_exactly {}).2 known dotless Schema.apart_page plain declared rfl).2 _ _ _ planned
  refine ⟨_, planned, by decide, (leaves (.inr ?_)).2 (by decide)⟩
  simp

def german : Settings :=
  { locales := { supported := ["de"] } }

/-- A request that asks for no locale gets the fallback, which accepted settings may leave
unsupported. Then it gets no title at all. -/
theorem leavesOne_fails_german :
    Settings.read "\x7b\"i18n\": \x7b\"supported_locales\": [\"de\"]\x7d\x7d" = .ok german ∧
      german.locales.resolve none = "en" ∧ "en" ∉ german.locales.supported ∧
      ∃ plan, compile .manuscripts german "page" [] {} = .ok plan ∧
        plan.query.projection = some ⟨[("note", false), ("titleI18n.de", false)]⟩ ∧
        ¬ Projection.LeavesOne
          (Schema.page.localeExclusions? plan.locale german.locales.supported)
          german.locales.supported ["titleI18n"] := by
  have known : Registry.manuscripts.get? "page" = some .page := rfl
  have planned : compile .manuscripts german "page" [] {} = .ok _ := compile_nil known rfl
  refine ⟨by decide +kernel, rfl, by decide, _, planned, by decide, ?_⟩
  rintro ⟨locale, among, leaves, _⟩
  cases List.mem_singleton.1 among
  have gone := leaves [("titleI18n", .document [("de", .null)])]
  revert gone
  decide +kernel

end Plan

end DocumentQuery
