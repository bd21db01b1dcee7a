import DocumentQuery.Number.Literal
import DocumentQuery.ObjectId
import DocumentQuery.Text.Blank

/-! Numerals and their readers. The digits of a number are read to the end of the text and give
the number back, so whatever writes a number or an identifier in full can be read again.
-/

set_option autoImplicit false

namespace DocumentQuery

namespace Text

theorem digitValue?_digitChar {base digit : Nat} (few : base ≤ 16) (small : digit < base) :
    digitValue? base (digitChar digit) = some digit := by
  have table : ∀ base < 17, ∀ digit < base, digitValue? base (digitChar digit) = some digit := by
    decide +kernel
  exact table base (by omega) digit small

theorem leadingDigits_map_digitChar {base : Nat} {digits : List Nat} (few : base ≤ 16)
    (small : ∀ digit ∈ digits, digit < base) :
    leadingDigits base (digits.map digitChar) = (digits, []) := by
  induction digits with
  | nil => rfl
  | cons digit rest ih =>
    obtain ⟨first, later⟩ := List.forall_mem_cons.1 small
    simp only [List.map_cons, leadingDigits, digitValue?_digitChar few first, ih later]

theorem exists_digitValue? {base : Nat} {text : List Char} {digits : List Nat}
    (read : leadingDigits base text = (digits, [])) :
    ∀ c ∈ text, ∃ value, digitValue? base c = some value := by
  induction text generalizing digits with
  | nil => nofun
  | cons first rest ih =>
    rw [leadingDigits] at read
    split at read
    · rename_i value digit
      obtain ⟨_, read⟩ := Prod.mk.inj read
      exact List.forall_mem_cons.2 ⟨⟨value, digit⟩, ih (Prod.ext rfl read)⟩
    · cases read

theorem decimalDigits_lt (n : Nat) : ∀ digit ∈ decimalDigits n, digit < 10 := by
  induction n using decimalDigits.induct with
  | case1 n small =>
    rw [decimalDigits, if_pos small]
    simpa using small
  | case2 n large ih =>
    rw [decimalDigits, if_neg large]
    intro digit there
    rcases List.mem_append.1 there with there | there
    · exact ih digit there
    · rw [List.mem_singleton.1 there]
      omega

theorem decimalDigits_ne_nil (n : Nat) : decimalDigits n ≠ [] := by
  rw [decimalDigits]
  split <;> simp

theorem length_fixedDigits (base count n : Nat) : (fixedDigits base count n).length = count := by
  induction count generalizing n with
  | zero => rfl
  | succ count ih => rw [fixedDigits, List.length_append, ih, List.length_singleton]

theorem fixedDigits_lt {base : Nat} (positive : 0 < base) (count n : Nat) :
    ∀ digit ∈ fixedDigits base count n, digit < base := by
  induction count generalizing n with
  | zero => simp [fixedDigits]
  | succ count ih =>
    rw [fixedDigits]
    intro digit there
    rcases List.mem_append.1 there with there | there
    · exact ih (n / base) digit there
    · rw [List.mem_singleton.1 there]
      exact Nat.mod_lt n positive

theorem toList_natText (n : Nat) : (natText n).toList = (decimalDigits n).map digitChar :=
  String.toList_ofList

theorem leadingDigits_natText (n : Nat) :
    leadingDigits 10 (natText n).toList = (decimalDigits n, []) := by
  rw [toList_natText]
  exact leadingDigits_map_digitChar (by decide) (decimalDigits_lt n)

end Text

namespace Number

open Text

theorem sign_of_leadingDigits {base : Nat} {text : List Char} {digits : List Nat}
    (read : leadingDigits base text = (digits, [])) : sign text = (false, text) := by
  have no_sign {c : Char} (there : c ∈ text) (unread : digitValue? base c = none) : False := by
    obtain ⟨value, digit⟩ := exists_digitValue? read c there
    rw [unread] at digit
    cases digit
  unfold sign
  split
  · exact (no_sign List.mem_cons_self rfl).elim
  · exact (no_sign List.mem_cons_self rfl).elim
  · rfl

theorem fitInt64?_toInt (n : Int64) : fitInt64? n.toInt = some n := by
  rw [fitInt64?, if_pos ⟨Int64.minValue_le_toInt n, Int64.toInt_le n⟩, Int64.ofInt_toInt]

theorem readInt64?_of_sign {text : List Char} {negative : Bool} {n : Nat}
    (signed : sign text = (negative, (natText n).toList)) :
    readInt64? text = fitInt64? (if negative then -(n : Int) else n) := by
  have value := ofDigits_decimalDigits n
  rw [readInt64?, signed]
  simp only [leadingDigits_natText]
  cases written : decimalDigits n with
  | nil => exact absurd written (decimalDigits_ne_nil n)
  | cons digit rest =>
    rw [written] at value
    simp only [value]

theorem readInt64?_natText (n : Nat) : readInt64? (natText n).toList = fitInt64? n :=
  readInt64?_of_sign (sign_of_leadingDigits (leadingDigits_natText n))

theorem readInt64?_intText (n : Int) : readInt64? (intText n).toList = fitInt64? n := by
  rw [intText]
  split
  · have signed : sign ("-" ++ natText n.natAbs).toList = (true, (natText n.natAbs).toList) := by
      rw [String.toList_append]
      rfl
    have size : -(n.natAbs : Int) = n := by omega
    rw [readInt64?_of_sign signed, if_pos rfl, size]
  · have size : (n.natAbs : Int) = n := by omega
    rw [readInt64?_natText, size]

theorem readInt64?_text (n : Int64) : readInt64? (intText n.toInt).toList = some n := by
  rw [readInt64?_intText, fitInt64?_toInt]

end Number

theorem ObjectId.read?_text (id : ObjectId) : read? id.text = some id := by
  have leading :
      Text.leadingDigits 16 id.text.toList = (Text.fixedDigits 16 24 id.code.val, []) := by
    rw [text, String.toList_ofList]
    exact Text.leadingDigits_map_digitChar (by decide) (Text.fixedDigits_lt (by decide) 24 _)
  have room : ObjectId.count = Nat.pow 16 24 := by decide
  rw [read?, leading]
  simp only [Text.length_fixedDigits, if_pos]
  rw [Text.ofDigits_fixedDigits, ← room, Nat.mod_eq_of_lt id.code.isLt, Fin.ofNat_val_eq_self]

end DocumentQuery
