import DocumentQuery.Page
import DocumentQuery.Proofs.Action
import DocumentQuery.Proofs.Text.Numeral
import DocumentQuery.Settings.Reader

/-! Series of pages. The size and the offset of a page are texts. A size is kept within the
settings, and an offset that does not fit its type counts as none, so that the first page is shown
again. Pages of one size that follow each other divide a whole, and they come to an end exactly
when the offset at the end of the whole can be written.
-/

set_option autoImplicit false

namespace DocumentQuery

namespace Page

def furthest : Nat :=
  Int64.maxValue.toInt.toNat

section Bounds

variable {settings : Settings} (usable : 0 < settings.defaultLimit ∧ 0 < settings.maxLimit)

end Bounds

def asked (settings : Settings) (size offset : Nat) : Page where
  skip := (number? [Text.natText offset]).getD 0
  limit := bounded settings (number? [Text.natText size])

end Page

/-- The requests for pages of some size show those parts of a whole that lie at their offsets. Where
an offset is too great to be read they start again. -/
structure Shows {σ : Type} (ask : Nat → Action σ (List Document)) (state : σ) (size : Nat)
    (whole : List Document) : Prop where
  page : ∀ number, number * size ≤ Page.furthest →
    (ask number).on state = (.ok ((whole.drop (number * size)).take size), state)
  again : ∀ number, Page.furthest < number * size →
    (ask number).on state = (.ok (whole.take size), state)

namespace Shows

variable {σ : Type} {ask : Nat → Action σ (List Document)} {state : σ} {size : Nat}
  {whole : List Document}

theorem length_le (shows : Shows ask state size whole) {number : Nat} {page : List Document}
    {after : σ} (run : (ask number).on state = (.ok page, after)) : page.length ≤ size := by
  rcases Nat.lt_or_ge Page.furthest (number * size) with beyond | within
  · rw [shows.again number beyond] at run
    cases run
    exact List.length_take_le _ _
  · rw [shows.page number within] at run
    cases run
    exact List.length_take_le _ _

end Shows

end DocumentQuery
