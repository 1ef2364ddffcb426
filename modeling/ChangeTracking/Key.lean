

namespace ChangeTracking

/-- One observable property, named by its label. -/
structure Key where
  label : String
deriving DecidableEq

namespace Key

/-- The first differing code point decides; a proper initial part comes first. -/
def precedes : List Char → List Char → Bool
  | _, [] => false
  | [], _ :: _ => true
  | left :: lefts, right :: rights =>
    left.toNat < right.toNat || (left == right && precedes lefts rights)

private theorem precedes_irrefl (chars : List Char) : precedes chars chars = false := by
  induction chars with
  | nil => rfl
  | cons head rest ih => simp [precedes, ih]

private theorem precedes_trans {first second third : List Char}
    (before : precedes first second = true) (after : precedes second third = true) :
    precedes first third = true := by
  induction first generalizing second third with
  | nil =>
    cases second <;> cases third <;> simp_all [precedes]
  | cons head rest ih =>
    cases second with
    | nil => simp [precedes] at before
    | cons middle middles =>
      cases third with
      | nil => simp [precedes] at after
      | cons last lasts =>
        simp only [precedes, Bool.or_eq_true, decide_eq_true_eq, Bool.and_eq_true,
          beq_iff_eq] at before after ⊢
        rcases before with smaller | ⟨rfl, before⟩
        · rcases after with larger | ⟨rfl, _⟩
          · exact Or.inl (Nat.lt_trans smaller larger)
          · exact Or.inl smaller
        · rcases after with larger | ⟨rfl, after⟩
          · exact Or.inl larger
          · exact Or.inr ⟨rfl, ih before after⟩

private theorem precedes_total (left right : List Char) (different : left ≠ right) :
    precedes left right = true ∨ precedes right left = true := by
  induction left generalizing right with
  | nil => cases right <;> simp_all [precedes]
  | cons head rest ih =>
    cases right with
    | nil => simp [precedes]
    | cons other others =>
      simp only [precedes, Bool.or_eq_true, decide_eq_true_eq, Bool.and_eq_true, beq_iff_eq]
      by_cases same : head = other
      · subst same
        have tails : rest ≠ others := fun equal => different (by rw [equal])
        rcases ih others tails with before | after
        · exact Or.inl (Or.inr ⟨rfl, before⟩)
        · exact Or.inr (Or.inr ⟨rfl, after⟩)
      · have codes : head.toNat ≠ other.toNat := fun equal => same (Char.toNat_inj.mp equal)
        rcases Nat.lt_or_gt_of_ne codes with smaller | larger
        · exact Or.inl (Or.inl smaller)
        · exact Or.inr (Or.inl larger)

instance : LT Key where
  lt left right := precedes left.label.toList right.label.toList = true

instance (left right : Key) : Decidable (left < right) :=
  inferInstanceAs (Decidable (precedes left.label.toList right.label.toList = true))

theorem lt_irrefl (key : Key) : ¬ key < key := fun before =>
  Bool.false_ne_true ((precedes_irrefl key.label.toList).symm.trans before)

theorem lt_trans {first second third : Key} (before : first < second) (after : second < third) :
    first < third :=
  @precedes_trans first.label.toList second.label.toList third.label.toList before after

theorem lt_or_eq_or_gt (left right : Key) : left < right ∨ left = right ∨ right < left := by
  by_cases same : left = right
  · exact Or.inr (Or.inl same)
  · have labels : left.label.toList ≠ right.label.toList := fun equal =>
      same (by cases left; cases right; exact congrArg Key.mk (String.toList_inj.mp equal))
    rcases precedes_total _ _ labels with before | after
    · exact Or.inl before
    · exact Or.inr (Or.inr after)

def order (left right : Key) : Ordering :=
  if left < right then .lt else if left = right then .eq else .gt

end Key
end ChangeTracking
