import Dimensional.Proofs.NetCount

/-!
Dimensions of products and quotients. Whatever members are left out or cancel, a product has the sum
of the dimensions and a quotient their difference. So compatible units stay compatible when both are
multiplied or divided by compatible units, and the order of the operands of a product shows in its
members only.
-/

set_option autoImplicit false

namespace Dimensional.Unit

variable {α : Type} {base : Base} {a a' b b' : Unit α}

/-- Compatible units have one dimension. -/
theorem exists_of_compatibleIn (compatible : a.compatibleIn base b = true) :
    ∃ dimension, a.dimensionIn? base = some dimension ∧ b.dimensionIn? base = some dimension := by
  unfold compatibleIn at compatible
  split at compatible
  · next left right knownA knownB =>
    have sizes : left.size = right.size :=
      (size_of_dimensionIn? knownA).trans (size_of_dimensionIn? knownB).symm
    have same := (Dimension.isZero_sub_iff sizes).1 compatible
    exact ⟨left, knownA, same ▸ knownB⟩
  · cases compatible

theorem compatibleIn_productIn (left : a.compatibleIn base a' = true)
    (right : b.compatibleIn base b' = true) :
    (a.productIn base b).compatibleIn base (a'.productIn base b') = true := by
  obtain ⟨_, knownA, knownA'⟩ := exists_of_compatibleIn left
  obtain ⟨_, knownB, knownB'⟩ := exists_of_compatibleIn right
  have product := dimensionIn?_productIn knownA knownB
  have product' := dimensionIn?_productIn knownA' knownB'
  exact (compatibleIn_iff product product').2 rfl

theorem compatibleIn_quotientIn (left : a.compatibleIn base a' = true)
    (right : b.compatibleIn base b' = true) :
    (a.quotientIn base b).compatibleIn base (a'.quotientIn base b') = true := by
  obtain ⟨_, knownA, knownA'⟩ := exists_of_compatibleIn left
  obtain ⟨_, knownB, knownB'⟩ := exists_of_compatibleIn right
  have quotient := dimensionIn?_quotientIn knownA knownB
  have quotient' := dimensionIn?_quotientIn knownA' knownB'
  exact (compatibleIn_iff quotient quotient').2 rfl

/-- The quotient of units of one dimension has none. -/
theorem dimensionIn?_quotientIn_self {dimension : Dimension}
    (knownA : a.dimensionIn? base = some dimension)
    (knownB : b.dimensionIn? base = some dimension) :
    (b.quotientIn base a).dimensionIn? base = some (Dimension.zeros base.rank) := by
  have measured := dimensionIn?_quotientIn knownB knownA
  have size := size_of_dimensionIn? measured
  have zero : (dimension - dimension).isZero = true := (Dimension.isZero_sub_iff rfl).2 rfl
  rw [measured, (Dimension.isZero_iff_eq_zeros _).1 zero, size]

theorem compatibleIn_productIn_comm {da db : Dimension} (knownA : a.dimensionIn? base = some da)
    (knownB : b.dimensionIn? base = some db) :
    (a.productIn base b).compatibleIn base (b.productIn base a) = true := by
  have product := dimensionIn?_productIn knownA knownB
  have exchanged := dimensionIn?_productIn knownB knownA
  exact (compatibleIn_iff product exchanged).2 (Dimension.add_comm da db)

/-- The product of two units of known dimension has the sum of their dimensions, and the quotient
has the difference. Compatible units in their place give compatible results, and so do the operands
of a product in the other order. Where the base is frozen, multiplication and division make these
products and quotients. -/
theorem products_add_dimensions (base : Base) (a b : Unit α) (da db : Dimension)
    (knownA : a.dimensionIn? base = some da) (knownB : b.dimensionIn? base = some db) :
    (a.productIn base b).dimensionIn? base = some (da + db) ∧
    (a.quotientIn base b).dimensionIn? base = some (da - db) ∧
    (∀ a' b' : Unit α, a.compatibleIn base a' = true → b.compatibleIn base b' = true →
      (a.productIn base b).compatibleIn base (a'.productIn base b') = true ∧
        (a.quotientIn base b).compatibleIn base (a'.quotientIn base b') = true) ∧
    (a.productIn base b).compatibleIn base (b.productIn base a) = true ∧
    ∀ (bases : Bases) (generation : Generation), bases.base? generation = some base →
      a.multiply bases b = .ok (a.productIn base b) ∧
        a.divide bases b = .ok (a.quotientIn base b) := by
  refine ⟨dimensionIn?_productIn knownA knownB, dimensionIn?_quotientIn knownA knownB, ?_,
    compatibleIn_productIn_comm knownA knownB, ?_⟩
  · intro a' b' left right
    exact ⟨compatibleIn_productIn left right, compatibleIn_quotientIn left right⟩
  · intro bases generation frozen
    have home := base?_of_dimensionIn? frozen knownA
    rw [multiply, divide, home]
    exact ⟨rfl, rfl⟩

/-- Metre-seconds over seconds, a percentage of them, times hours and over hours. -/
theorem products_of_percentages :
    let unit := fun name quantity => (⟨name, "", [], ⟨quantity⟩, 1.0, ⟨0⟩, 1⟩ : SimpleUnit Float)
    let base : Base :=
      ⟨⟨0⟩, ((Registry.single "adimensional").put ⟨"Length"⟩ "metre").put ⟨"Time"⟩ "second"⟩
    let share : Unit Float := .composite ⟨"share", "", [],
      [unit "percent" "Dimensionless", unit "metre" "Length", unit "second" "Time"],
      [unit "second" "Time"], ⟨0⟩⟩
    let hour : Unit Float := .simple (unit "hour" "Time")
    ∃ da db, share.dimensionIn? base = some da ∧ hour.dimensionIn? base = some db ∧
      (share.productIn base hour).dimensionIn? base = some (da + db) ∧
      (share.quotientIn base hour).dimensionIn? base = some (da - db) ∧
      (share.productIn base hour).compatibleIn base (hour.productIn base share) = true ∧
      share.multiply (Bases.empty.issue.freeze base) hour = .ok (share.productIn base hour) := by
  intro unit base share hour
  have belongs : share.BelongsTo base := by
    refine ⟨rfl, ?_⟩
    intro member inside
    simp only [share, allMembers, List.cons_append, List.nil_append, List.mem_cons,
      List.not_mem_nil, or_false] at inside
    rcases inside with rfl | rfl | rfl | rfl <;> exact ⟨rfl, by decide⟩
  obtain ⟨da, knownShare⟩ :=
    Option.isSome_iff_exists.1 ((share.isSome_dimensionIn?_iff base).2 belongs)
  have knownHour : hour.dimensionIn? base = some ⟨[0, 1]⟩ := rfl
  obtain ⟨product, quotient, _, exchanged, made⟩ :=
    products_add_dimensions base share hour da _ knownShare knownHour
  exact ⟨da, _, knownShare, knownHour, product, quotient, exchanged, (made _ ⟨0⟩ rfl).1⟩

end Dimensional.Unit
