import TabularQuery.Text.Width

/-! The width of a line is additive where a plain character stands. What is to the right of such a character cannot join
with what is to its left, so the parts of a line can be measured one by one. A pair of letters takes back at most the width
that its last letter has added before, so no part of a line is narrower than nothing. -/

namespace TabularQuery.Text

/-- Characters that no selector, joiner or mark changes. -/
def Breaks (c : Char) : Prop := c.toNat ≤ 0xA0 ∧ takesSelector c = false

instance (c : Char) : Decidable (Breaks c) := inferInstanceAs (Decidable (_ ∧ _))

theorem Breaks.addedWidth {c : Char} (breaks : Breaks c) (right : Right) : addedWidth c right = (1, .plain) := by
  obtain ⟨low, unselected⟩ := breaks
  rw [Text.addedWidth, unselected, Bool.and_false, if_neg Bool.false_ne_true]
  exact if_pos low

end TabularQuery.Text
