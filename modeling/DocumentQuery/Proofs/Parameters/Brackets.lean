import DocumentQuery.Parameters
import Mathlib.Data.List.Infix

/-! The grammar of bracketed names. A name of a family is its root with segments between brackets.
Reading goes in rounds, and each takes one segment from the text. What is left in the end decides:
either nothing is, and the segments are those of the name, or the text is stuck, and the name is of
no family with this root.
-/

set_option autoImplicit false

namespace DocumentQuery

namespace Parameters

def bracketed : List String → String
  | [] => ""
  | segment :: rest => "[" ++ segment ++ "]" ++ bracketed rest

theorem toList_bracketed_cons (segment : String) (rest : List String) :
    (bracketed (segment :: rest)).toList =
      '[' :: (segment.toList ++ ']' :: (bracketed rest).toList) := by
  simp [bracketed, String.toList_append]

/-- Reading takes segments from the text, in rounds, up to what is left of it. Brackets may open
within a segment, but the first one that closes ends it. -/
inductive Rounds : List Char → List String → List Char → Prop
  | start (text : List Char) : Rounds text [] text
  | round {segment : String} {rest left : List Char} {segments : List String} :
      ']' ∉ segment.toList → Rounds rest segments left →
      Rounds ('[' :: (segment.toList ++ ']' :: rest)) (segment :: segments) left

/-- Texts on which no further round is possible: they go on outside of brackets, or within a bracket
that nothing closes. -/
inductive Stuck : List Char → Prop
  | outside {c : Char} (rest : List Char) : c ≠ '[' → Stuck (c :: rest)
  | unclosed {inner : List Char} : ']' ∉ inner → Stuck ('[' :: inner)

theorem rounds_iff {text left : List Char} {segments : List String} :
    Rounds text segments left ↔
      (∀ segment ∈ segments, ']' ∉ segment.toList) ∧
        text = (bracketed segments).toList ++ left := by
  constructor
  · intro read
    induction read with
    | start text => simp [bracketed]
    | round closed _ ih =>
      obtain ⟨others, rfl⟩ := ih
      exact ⟨List.forall_mem_cons.2 ⟨closed, others⟩, by simp [toList_bracketed_cons]⟩
  · rintro ⟨closed, rfl⟩
    induction segments with
    | nil => exact .start left
    | cons segment rest ih =>
      obtain ⟨first, others⟩ := List.forall_mem_cons.1 closed
      simpa [toList_bracketed_cons] using Rounds.round first (ih others)

/-- Each round takes at least the two brackets from the text, so there are no more rounds than the
text has characters for. -/
theorem Rounds.length_le {text left : List Char} {segments : List String}
    (read : Rounds text segments left) : 2 * segments.length + left.length ≤ text.length := by
  induction read with
  | start text => simp
  | round _ _ ih => simp; omega

/-- On every text the rounds come to an end. -/
theorem exists_rounds (text : List Char) :
    ∃ segments left, Rounds text segments left ∧ (left = [] ∨ Stuck left) := by
  induction size : text.length using Nat.strong_induction_on generalizing text with
  | _ size' ih =>
    cases text with
    | nil => exact ⟨[], [], .start [], .inl rfl⟩
    | cons c inner =>
      by_cases opened : c = '['
      · subst opened
        by_cases closed : ']' ∈ inner
        · obtain ⟨segment, rest, rfl, first⟩ := List.eq_append_cons_of_mem closed
          have shorter : rest.length < size' := by simp at size; omega
          obtain ⟨segments, left, read, ended⟩ := ih rest.length shorter rest rfl
          have next : Rounds ('[' :: ((String.ofList segment).toList ++ ']' :: rest))
              (String.ofList segment :: segments) left := .round (by simpa using first) read
          exact ⟨String.ofList segment :: segments, left, by simpa using next, ended⟩
        · exact ⟨[], '[' :: inner, .start _, .inr (.unclosed closed)⟩
      · exact ⟨[], c :: inner, .start _, .inr (.outside inner opened)⟩

theorem readBrackets?_append {text : List Char} (closed : ']' ∉ text) (seen rest : List Char) :
    readBrackets? (some seen) (text ++ ']' :: rest) =
      (readBrackets? none rest).map ((seen.reverse ++ text) :: ·) := by
  induction text generalizing seen with
  | nil => simp [readBrackets?]
  | cons c text ih =>
    obtain ⟨other, closed⟩ := List.ne_and_not_mem_of_not_mem_cons closed
    simp [readBrackets?, Ne.symm other, ih closed]

theorem readBrackets?_unclosed {text : List Char} (unclosed : ']' ∉ text) (seen : List Char) :
    readBrackets? (some seen) text = none := by
  induction text generalizing seen with
  | nil => rfl
  | cons c text ih =>
    obtain ⟨other, unclosed⟩ := List.ne_and_not_mem_of_not_mem_cons unclosed
    simp [readBrackets?, Ne.symm other, ih unclosed]

theorem Stuck.readBrackets? {text : List Char} (stuck : Stuck text) :
    readBrackets? none text = none := by
  cases stuck with
  | outside rest other => simp [Parameters.readBrackets?, other]
  | unclosed unclosed => simpa [Parameters.readBrackets?] using readBrackets?_unclosed unclosed []

theorem Rounds.readBrackets? {text left : List Char} {segments : List String}
    (read : Rounds text segments left) :
    readBrackets? none text =
      (readBrackets? none left).map (segments.map String.toList ++ ·) := by
  induction read with
  | start text => simp
  | round closed _ ih =>
    simp [Parameters.readBrackets?, readBrackets?_append closed, ih, Function.comp_def]

/-- What is left after the rounds decides whether a name is of the family. -/
theorem segments?_of_rounds (root : String) {rest : String} {segments : List String}
    {left : List Char} (read : Rounds rest.toList segments left) :
    (left = [] → segments? (root ++ rest) root = some segments) ∧
      (Stuck left → segments? (root ++ rest) root = none) := by
  have divided : root.toList.isPrefixOf? (root ++ rest).toList = some rest.toList := by
    rw [List.isPrefixOf?_eq_some_iff_append_eq, String.toList_append]
  have result : segments? (root ++ rest) root =
      ((readBrackets? none left).map (segments.map String.toList ++ ·)).map
        (·.map String.ofList) := by
    rw [segments?, divided, ← read.readBrackets?]
    exact Option.map_eq_bind.symm
  constructor
  · rintro rfl
    simp [result, readBrackets?, Function.comp_def]
  · intro stuck
    simp [result, stuck.readBrackets?]

theorem segments?_bracketed (root : String) {segments : List String}
    (closed : ∀ segment ∈ segments, ']' ∉ segment.toList) :
    segments? (root ++ bracketed segments) root = some segments :=
  (segments?_of_rounds root (rounds_iff.2 ⟨closed, (List.append_nil _).symm⟩)).1 rfl

theorem eq_append_of_segments? {name root : String} {segments : List String}
    (read : segments? name root = some segments) : ∃ rest, name = root ++ rest := by
  rw [segments?] at read
  cases divided : root.toList.isPrefixOf? name.toList with
  | none => simp [divided] at read
  | some rest =>
    have whole := List.append_eq_of_isPrefixOf?_eq_some divided
    refine ⟨String.ofList rest, String.toList_injective ?_⟩
    simp [String.toList_append, whole]

theorem segments?_eq_some_iff {name root : String} {segments : List String} :
    segments? name root = some segments ↔
      (∀ segment ∈ segments, ']' ∉ segment.toList) ∧ name = root ++ bracketed segments := by
  constructor
  · intro found
    obtain ⟨rest, rfl⟩ := eq_append_of_segments? found
    obtain ⟨others, left, read, rfl | stuck⟩ := exists_rounds rest.toList
    · rw [(segments?_of_rounds root read).1 rfl] at found
      cases found
      obtain ⟨closed, text⟩ := rounds_iff.1 read
      rw [List.append_nil] at text
      exact ⟨closed, congrArg (root ++ ·) (String.toList_injective text)⟩
    · rw [(segments?_of_rounds root read).2 stuck] at found
      cases found
  · rintro ⟨closed, rfl⟩
    exact segments?_bracketed root closed

theorem segments?_eq_none_iff {name root : String} :
    segments? name root = none ↔
      (∀ rest, name ≠ root ++ rest) ∨
        ∃ rest segments left, name = root ++ rest ∧ Rounds rest.toList segments left ∧
          Stuck left := by
  constructor
  · intro refused
    by_cases longer : ∃ rest, name = root ++ rest
    · obtain ⟨rest, rfl⟩ := longer
      obtain ⟨segments, left, read, rfl | stuck⟩ := exists_rounds rest.toList
      · rw [(segments?_of_rounds root read).1 rfl] at refused
        cases refused
      · exact .inr ⟨rest, segments, left, rfl, read, stuck⟩
    · exact .inl (not_exists.1 longer)
  · rintro (other | ⟨rest, segments, left, rfl, read, stuck⟩)
    · by_contra found
      obtain ⟨segments, found⟩ := Option.ne_none_iff_exists'.1 found
      obtain ⟨rest, rfl⟩ := eq_append_of_segments? found
      exact other rest rfl
    · exact (segments?_of_rounds root read).2 stuck

/-- The names of a family are not of the families whose roots are shorter. -/
theorem segments?_of_longer {name root : String} {c : Char} {more : List Char} (other : c ≠ '[')
    (member : inFamily (root ++ String.ofList (c :: more)) name = true) :
    segments? name root = none := by
  obtain ⟨segments, found⟩ := Option.isSome_iff_exists.1 member
  obtain ⟨rest, rfl⟩ := eq_append_of_segments? found
  rw [String.append_assoc]
  refine (segments?_of_rounds root (.start _)).2 ?_
  simpa [String.toList_append] using Stuck.outside (more ++ rest.toList) other

/-- The segments of a name are those that make it up from its root when each is put between
brackets, and there is one way at most to do this. The reading comes to an end on every name, as
each round takes two characters at least from what follows the root. It refuses the names that go on
outside of brackets, leave a bracket open or belong to a longer root. -/
theorem reads_bracketed (name root : String) :
    (∀ segments, segments? name root = some segments ↔
      (∀ segment ∈ segments, ']' ∉ segment.toList) ∧ name = root ++ bracketed segments) ∧
    (∀ first second, (∀ segment ∈ first, ']' ∉ segment.toList) →
      (∀ segment ∈ second, ']' ∉ segment.toList) →
      root ++ bracketed first = root ++ bracketed second → first = second) ∧
    (∀ rest, name = root ++ rest →
      ∃ segments left, Rounds rest.toList segments left ∧
        2 * segments.length + left.length ≤ rest.length ∧
        (left = [] ∧ segments? name root = some segments ∨
          Stuck left ∧ segments? name root = none)) ∧
    (segments? name root = none ↔
      (∀ rest, name ≠ root ++ rest) ∨
        ∃ segments left, (∀ segment ∈ segments, ']' ∉ segment.toList) ∧ Stuck left ∧
          name = root ++ bracketed segments ++ String.ofList left) ∧
    (∀ c more, c ≠ '[' → inFamily (root ++ String.ofList (c :: more)) name = true →
      segments? name root = none) := by
  refine ⟨fun segments => segments?_eq_some_iff, ?unique, ?ends, ?refused, ?longer⟩
  case unique =>
    intro first second closed closed' same
    have found := segments?_bracketed root closed
    rw [same, segments?_bracketed root closed'] at found
    exact (Option.some.inj found).symm
  case ends =>
    rintro rest rfl
    obtain ⟨segments, left, read, ended⟩ := exists_rounds rest.toList
    obtain ⟨read_whole, refused⟩ := segments?_of_rounds root read
    refine ⟨segments, left, read, read.length_le, ?_⟩
    exact ended.imp (fun done => ⟨done, read_whole done⟩) fun stuck => ⟨stuck, refused stuck⟩
  case refused =>
    rw [segments?_eq_none_iff]
    refine or_congr_right ⟨?_, ?_⟩
    · rintro ⟨rest, segments, left, rfl, read, stuck⟩
      obtain ⟨closed, text⟩ := rounds_iff.1 read
      refine ⟨segments, left, closed, stuck, String.toList_injective ?_⟩
      simp [String.toList_append, text]
    · rintro ⟨segments, left, closed, stuck, rfl⟩
      refine ⟨bracketed segments ++ String.ofList left, segments, left, ?_, ?_, stuck⟩
      · exact String.append_assoc
      · exact rounds_iff.2 ⟨closed, by simp [String.toList_append]⟩
  case longer => exact fun c more other member => segments?_of_longer other member

/-- A bracket that opens within a segment belongs to it, and a segment may be empty. Text after a
segment and a longer root are refused. -/
theorem reads_bracketed_filter :
    segments? "filter[[a][]" "filter" = some ["[a", ""] ∧
      segments? "filter[a]b" "filter" = none ∧ segments? "filters[a]" "filter" = none := by
  have ⟨nested, _⟩ := reads_bracketed "filter[[a][]" "filter"
  have ⟨_, _, _, after, _⟩ := reads_bracketed "filter[a]b" "filter"
  have ⟨_, _, _, _, longer⟩ := reads_bracketed "filters[a]" "filter"
  refine ⟨(nested ["[a", ""]).2 ⟨by decide, by decide⟩, after.2 (.inr ?_), ?_⟩
  · exact ⟨["a"], ['b'], by decide, .outside [] (by decide), by decide⟩
  · exact longer 's' [] (by decide) (by decide)

end Parameters

end DocumentQuery
