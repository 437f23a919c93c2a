import Dimensional.Proofs.UnitDimension

/-!
Compatibility without vectors. The slot of a quantity holds its net count: how many members of the
unit above the line measure it, less how many below it do. So whether two units are compatible is a
matter of their members, and neither the order of these nor the order in which the quantities of the
base were registered has a say in it.
-/

set_option autoImplicit false

namespace Dimensional

variable {α : Type}

/-- The base knows the unit: it is of its generation, and measures one of its quantities. -/
structure SimpleUnit.BelongsTo (base : Base) (unit : SimpleUnit α) : Prop where
  native : unit.generation = base.generation
  listed : unit.quantity ∈ base.quantities

/-- The base knows the unit and all its members. -/
structure Unit.BelongsTo (base : Base) (unit : Unit α) : Prop where
  native : unit.generation = base.generation
  members : unit.allMembers.All (SimpleUnit.BelongsTo base)

/-- How many of the units measure a quantity. -/
def measuring (quantity : Quantity) (units : List (SimpleUnit α)) : Nat :=
  (units.map (·.quantity)).count quantity

/-- The members above the line that measure a quantity, less those below it that do. -/
def Unit.netCount (quantity : Quantity) (unit : Unit α) : Int :=
  (measuring quantity unit.allMembers.dividend : Int) - measuring quantity unit.allMembers.divisor

/-- Agreement in the net count of every quantity that can have a slot. -/
def Unit.SameCounts (a b : Unit α) : Prop :=
  ∀ quantity, quantity ≠ Quantity.dimensionless → a.netCount quantity = b.netCount quantity

/-- The same members above the line and below it, in any order. -/
structure Unit.Shuffles (unit shuffled : Unit α) : Prop where
  generation : unit.generation = shuffled.generation
  dividend : unit.allMembers.dividend.Perm shuffled.allMembers.dividend
  divisor : unit.allMembers.divisor.Perm shuffled.allMembers.divisor

/-- The same quantities of the same generation, registered in any order. -/
structure Base.Shuffles (base shuffled : Base) : Prop where
  generation : base.generation = shuffled.generation
  quantities : base.quantities.Perm shuffled.quantities

theorem SimpleUnit.isSome_dimensionIn?_iff (base : Base) (unit : SimpleUnit α) :
    (unit.dimensionIn? base).isSome = true ↔ unit.BelongsTo base := by
  rw [Option.isSome_iff_exists]
  constructor
  · rintro ⟨dimension, known⟩
    obtain ⟨native, measured⟩ := (unit.dimensionIn?_eq_some_iff base dimension).1 known
    exact ⟨native, Base.mem_of_dimension? measured⟩
  · rintro ⟨native, listed⟩
    exact ⟨_, (unit.dimensionIn?_eq_some_iff base _).2
      ⟨native, base.dimension?_of_mem unit.quantity listed⟩⟩

theorem Members.knownIn_iff (base : Base) (members : Members α) :
    members.KnownIn base ↔ members.All (SimpleUnit.BelongsTo base) := by
  simp only [KnownIn, All, SimpleUnit.isSome_dimensionIn?_iff]

/-- In the slot of a quantity, a unit that measures it counts for one and any other for none. -/
theorem SimpleUnit.exponentIn_of_axis {base : Base} {unit : SimpleUnit α} {slot : Nat}
    {quantity : Quantity} (known : unit.BelongsTo base)
    (axis : (Base.axes base.quantities)[slot]? = some quantity) :
    unit.exponentIn base slot = if unit.quantity = quantity then 1 else 0 := by
  obtain ⟨dimension, found⟩ :=
    Option.isSome_iff_exists.1 ((unit.isSome_dimensionIn?_iff base).2 known)
  have measured := ((unit.dimensionIn?_eq_some_iff base dimension).1 found).2
  obtain ⟨own, inside⟩ := base.dimension?_of_axis slot quantity axis
  have contributes : unit.exponentIn base slot = dimension.component slot := by
    simp [exponentIn, found]
  rw [contributes]
  by_cases same : unit.quantity = quantity
  · rw [same, own] at measured
    cases measured
    rw [if_pos same, Dimension.component_oneHot _ _ _ inside, if_pos rfl]
  rw [if_neg same]
  cases pure : unit.quantity.isDimensionless with
  | true =>
    have zero : dimension.isZero = true := (Base.isZero_of_dimension? measured).trans pure
    exact (Dimension.isZero_iff dimension).1 zero slot
  | false =>
    have within := Base.idxOf_axes_lt known.listed pure
    rw [base.dimension?_of_mem _ known.listed, pure, if_neg Bool.false_ne_true] at measured
    cases measured
    -- Another slot than its own: the quantity there is another one.
    have place : (Base.axes base.quantities)[(Base.axes base.quantities).idxOf unit.quantity]? =
        some unit.quantity := List.getElem?_eq_some_iff.2 ⟨within, List.getElem_idxOf within⟩
    have apart : slot ≠ (Base.axes base.quantities).idxOf unit.quantity := by
      rintro rfl
      exact same (Option.some.inj (place.symm.trans axis))
    rw [Dimension.component_oneHot _ _ _ within, if_neg apart]

theorem exponentSum_eq_measuring {base : Base} {slot : Nat} {quantity : Quantity}
    (axis : (Base.axes base.quantities)[slot]? = some quantity) (units : List (SimpleUnit α))
    (known : ∀ unit ∈ units, unit.BelongsTo base) :
    exponentSum base slot units = measuring quantity units := by
  induction units with
  | nil => rfl
  | cons unit rest ih =>
    have first := SimpleUnit.exponentIn_of_axis (known unit List.mem_cons_self) axis
    have others := ih fun other later => known other (List.mem_cons_of_mem _ later)
    rw [exponentSum, first, others, measuring, measuring, List.map_cons, List.count_cons]
    by_cases same : unit.quantity = quantity <;> simp [same, Int.add_comm]

/-- No member of a unit of the base measures a quantity that the base does not list. -/
theorem Unit.BelongsTo.netCount_of_unlisted {base : Base} {unit : Unit α}
    (known : unit.BelongsTo base) {quantity : Quantity} (unlisted : quantity ∉ base.quantities) :
    unit.netCount quantity = 0 := by
  have nobody : ∀ units : List (SimpleUnit α), (∀ member ∈ units, member.BelongsTo base) →
      measuring quantity units = 0 := by
    intro units inside
    apply List.count_eq_zero_of_not_mem
    intro measured
    obtain ⟨member, place, rfl⟩ := List.mem_map.1 measured
    exact unlisted (inside member place).listed
  have above := nobody unit.allMembers.dividend fun member place =>
    known.members member (List.mem_append_left _ place)
  have below := nobody unit.allMembers.divisor fun member place =>
    known.members member (List.mem_append_right _ place)
  rw [netCount, above, below]
  rfl

namespace Unit

/-- A dimension is known of the units whose members the base knows. -/
theorem isSome_dimensionIn?_iff (base : Base) (unit : Unit α) :
    (unit.dimensionIn? base).isSome = true ↔ unit.BelongsTo base := by
  rw [Option.isSome_iff_exists]
  constructor
  · rintro ⟨dimension, known⟩
    obtain ⟨native, members, _⟩ := (unit.dimensionIn?_eq_some_iff base dimension).1 known
    exact ⟨native, (unit.allMembers.knownIn_iff base).1 members⟩
  · rintro ⟨native, members⟩
    have inside := (unit.allMembers.knownIn_iff base).2 members
    cases unit with
    | simple unit =>
      exact Option.isSome_iff_exists.1 (inside unit (List.mem_append_left _ List.mem_cons_self))
    | composite unit =>
      obtain ⟨above, up⟩ := Option.isSome_iff_exists.1
        ((isSome_foldDimensions (· + ·) base (Dimension.zeros base.rank) unit.dividend).2
          fun member place => inside member (List.mem_append_left _ place))
      obtain ⟨total, down⟩ := Option.isSome_iff_exists.1
        ((isSome_foldDimensions (· - ·) base above unit.divisor).2
          fun member place => inside member (List.mem_append_right _ place))
      have own : unit.generation = base.generation := native
      refine ⟨total, ?_⟩
      rw [Unit.dimensionIn?, CompositeUnit.dimensionIn?, if_pos own, up]
      exact down

/-- The slot of a quantity holds its net count. -/
theorem component_of_axis {base : Base} {unit : Unit α} {dimension : Dimension}
    (known : unit.dimensionIn? base = some dimension) {slot : Nat} {quantity : Quantity}
    (axis : (Base.axes base.quantities)[slot]? = some quantity) :
    dimension.component slot = unit.netCount quantity := by
  obtain ⟨_, members, _, slots⟩ := (unit.dimensionIn?_eq_some_iff base dimension).1 known
  have inside := (unit.allMembers.knownIn_iff base).1 members
  have above := exponentSum_eq_measuring axis unit.allMembers.dividend fun member place =>
    inside member (List.mem_append_left _ place)
  have below := exponentSum_eq_measuring axis unit.allMembers.divisor fun member place =>
    inside member (List.mem_append_right _ place)
  rw [slots, Members.exponentIn, above, below, netCount]

/-- Vectors of units of one base are equal when the net counts agree. -/
theorem dimensions_eq_iff {base : Base} {a b : Unit α} {left right : Dimension}
    (knownA : a.dimensionIn? base = some left) (knownB : b.dimensionIn? base = some right) :
    left = right ↔ a.SameCounts b := by
  constructor
  · rintro rfl quantity impure
    by_cases listed : quantity ∈ base.quantities
    · have axis : quantity ∈ Base.axes base.quantities :=
        List.mem_filter.2 ⟨listed, by simpa [Quantity.isDimensionless] using impure⟩
      obtain ⟨slot, place⟩ := List.getElem?_of_mem axis
      rw [← component_of_axis knownA place, component_of_axis knownB place]
    · have unitA := (a.isSome_dimensionIn?_iff base).1 (by rw [knownA]; rfl)
      have unitB := (b.isSome_dimensionIn?_iff base).1 (by rw [knownB]; rfl)
      rw [unitA.netCount_of_unlisted listed, unitB.netCount_of_unlisted listed]
  · intro same
    have sizeA := size_of_dimensionIn? knownA
    have sizeB := size_of_dimensionIn? knownB
    apply Dimension.ext_components (sizeA.trans sizeB.symm)
    intro slot
    cases place : (Base.axes base.quantities)[slot]? with
    | some quantity =>
      have impure := (List.mem_filter.1 (List.mem_of_getElem? place)).2
      rw [component_of_axis knownA place, component_of_axis knownB place]
      exact same quantity (by simpa [Quantity.isDimensionless] using impure)
    | none =>
      have beyond : base.rank ≤ slot := List.getElem?_eq_none_iff.1 place
      rw [Dimension.component_of_size_le _ (sizeA ▸ beyond),
        Dimension.component_of_size_le _ (sizeB ▸ beyond)]

/-- Units are compatible when the base knows both and their net counts agree. -/
theorem compatibleIn_iff_sameCounts (base : Base) (a b : Unit α) :
    a.compatibleIn base b = true ↔ a.BelongsTo base ∧ b.BelongsTo base ∧ a.SameCounts b := by
  rw [← isSome_dimensionIn?_iff, ← isSome_dimensionIn?_iff]
  cases knownA : a.dimensionIn? base with
  | none => simp [compatibleIn, knownA]
  | some left =>
    cases knownB : b.dimensionIn? base with
    | none => simp [compatibleIn, knownA, knownB]
    | some right =>
      rw [compatibleIn_iff knownA knownB, dimensions_eq_iff knownA knownB]
      simp

theorem Shuffles.netCount_eq {unit shuffled : Unit α} (shuffles : unit.Shuffles shuffled)
    (quantity : Quantity) : shuffled.netCount quantity = unit.netCount quantity := by
  have above := (shuffles.dividend.map (·.quantity)).count_eq quantity
  have below := (shuffles.divisor.map (·.quantity)).count_eq quantity
  simp only [netCount, measuring, above, below]

theorem Shuffles.belongsTo_iff {unit shuffled : Unit α} (shuffles : unit.Shuffles shuffled)
    (base : Base) : shuffled.BelongsTo base ↔ unit.BelongsTo base := by
  have members : ∀ member, member ∈ shuffled.allMembers.dividend ++ shuffled.allMembers.divisor ↔
      member ∈ unit.allMembers.dividend ++ unit.allMembers.divisor := by
    intro member
    exact (shuffles.dividend.append shuffles.divisor).mem_iff.symm
  constructor
  · rintro ⟨native, inside⟩
    exact ⟨shuffles.generation.trans native, fun member place =>
      inside member ((members member).2 place)⟩
  · rintro ⟨native, inside⟩
    exact ⟨shuffles.generation.symm.trans native, fun member place =>
      inside member ((members member).1 place)⟩

theorem compatibleIn_of_shuffles {a b c d : Unit α} (left : a.Shuffles c) (right : b.Shuffles d)
    (base : Base) : c.compatibleIn base d = a.compatibleIn base b := by
  rw [Bool.eq_iff_iff, compatibleIn_iff_sameCounts, compatibleIn_iff_sameCounts,
    left.belongsTo_iff, right.belongsTo_iff]
  simp only [SameCounts, left.netCount_eq, right.netCount_eq]

end Unit

theorem Base.Shuffles.simpleBelongsTo_iff {base shuffled : Base} (shuffles : base.Shuffles shuffled)
    (unit : SimpleUnit α) : unit.BelongsTo shuffled ↔ unit.BelongsTo base := by
  constructor
  · rintro ⟨native, listed⟩
    exact ⟨native.trans shuffles.generation.symm, shuffles.quantities.mem_iff.2 listed⟩
  · rintro ⟨native, listed⟩
    exact ⟨native.trans shuffles.generation, shuffles.quantities.mem_iff.1 listed⟩

/-- Which units a base knows does not depend on its order. -/
theorem Base.Shuffles.belongsTo_iff {base shuffled : Base} (shuffles : base.Shuffles shuffled)
    (unit : Unit α) : unit.BelongsTo shuffled ↔ unit.BelongsTo base := by
  constructor
  · rintro ⟨native, members⟩
    exact ⟨native.trans shuffles.generation.symm, fun member place =>
      (shuffles.simpleBelongsTo_iff member).1 (members member place)⟩
  · rintro ⟨native, members⟩
    exact ⟨native.trans shuffles.generation, fun member place =>
      (shuffles.simpleBelongsTo_iff member).2 (members member place)⟩

theorem Base.Shuffles.compatibleIn_eq {base shuffled : Base} (shuffles : base.Shuffles shuffled)
    (a b : Unit α) : a.compatibleIn shuffled b = a.compatibleIn base b := by
  rw [Bool.eq_iff_iff, Unit.compatibleIn_iff_sameCounts, Unit.compatibleIn_iff_sameCounts,
    shuffles.belongsTo_iff, shuffles.belongsTo_iff]

/-- Compatibility has a meaning without vectors. A dimension is known of exactly the units whose
members all belong to the base; it has a slot for every quantity but pure numbers, with the net
count of that quantity in it. So units of known dimension are compatible when their net counts
agree, which is an equivalence, and in which order members stand or quantities were registered does
not matter. -/
theorem Base.compatibility_of_netCounts (base : Base) :
    (∀ unit : Unit α, (unit.dimensionIn? base).isSome = true ↔ unit.BelongsTo base) ∧
    (∀ (unit : Unit α) dimension, unit.dimensionIn? base = some dimension →
      dimension.size = base.rank ∧
        ∀ slot quantity, (axes base.quantities)[slot]? = some quantity →
          base.dimension? quantity = some (Dimension.oneHot base.rank slot) ∧
            dimension.component slot = unit.netCount quantity) ∧
    (∀ a b : Unit α, a.compatibleIn base b = true ↔
      (a.dimensionIn? base).isSome = true ∧ (b.dimensionIn? base).isSome = true ∧
        a.SameCounts b) ∧
    (∀ a b c d : Unit α, a.Shuffles c → b.Shuffles d →
      c.compatibleIn base d = a.compatibleIn base b) ∧
    (∀ shuffled, base.Shuffles shuffled → ∀ a b : Unit α,
      a.compatibleIn shuffled b = a.compatibleIn base b) ∧
    Equivalence fun a b : { unit : Unit α // (unit.dimensionIn? base).isSome = true } =>
      a.1.compatibleIn base b.1 = true := by
  have meaning : ∀ a b : Unit α, a.compatibleIn base b = true ↔
      (a.dimensionIn? base).isSome = true ∧ (b.dimensionIn? base).isSome = true ∧
        a.SameCounts b := by
    intro a b
    rw [Unit.compatibleIn_iff_sameCounts, Unit.isSome_dimensionIn?_iff,
      Unit.isSome_dimensionIn?_iff]
  refine ⟨Unit.isSome_dimensionIn?_iff base, ?_, meaning, ?_, ?_, ?_⟩
  · intro unit dimension known
    refine ⟨Unit.size_of_dimensionIn? known, ?_⟩
    intro slot quantity axis
    exact ⟨(base.dimension?_of_axis slot quantity axis).1, Unit.component_of_axis known axis⟩
  · intro a b c d left right
    exact Unit.compatibleIn_of_shuffles left right base
  · intro shuffled shuffles a b
    exact shuffles.compatibleIn_eq a b
  · refine ⟨?_, ?_, ?_⟩
    · intro a
      exact (meaning _ _).2 ⟨a.2, a.2, fun _ _ => rfl⟩
    · intro a b related
      obtain ⟨_, _, counts⟩ := (meaning _ _).1 related
      exact (meaning _ _).2 ⟨b.2, a.2, fun quantity impure => (counts quantity impure).symm⟩
    · intro a b c first second
      obtain ⟨_, _, countsA⟩ := (meaning _ _).1 first
      obtain ⟨_, _, countsB⟩ := (meaning _ _).1 second
      exact (meaning _ _).2 ⟨a.2, c.2, fun quantity impure =>
        (countsA quantity impure).trans (countsB quantity impure)⟩

/-- A speed, and miles times minutes over hours times minutes, in a base of two quantities and in
the base that registered them the other way round. -/
theorem Base.compatible_speeds :
    let unit := fun name quantity => (⟨name, "", [], ⟨quantity⟩, 1.0, ⟨0⟩, 1⟩ : SimpleUnit Float)
    let base : Base :=
      ⟨⟨0⟩, ((Registry.single "adimensional").put ⟨"Length"⟩ "metre").put ⟨"Time"⟩ "second"⟩
    let shuffled : Base :=
      ⟨⟨0⟩, ((Registry.single "adimensional").put ⟨"Time"⟩ "second").put ⟨"Length"⟩ "metre"⟩
    let speed : Unit Float :=
      .composite ⟨"speed", "", [], [unit "metre" "Length"], [unit "second" "Time"], ⟨0⟩⟩
    let product : Unit Float := .composite ⟨"product", "", [],
      [unit "minute" "Time", unit "mile" "Length"], [unit "hour" "Time", unit "minute" "Time"], ⟨0⟩⟩
    speed.compatibleIn base product = true ∧ speed.compatibleIn shuffled product = true ∧
      ∃ dimension, product.dimensionIn? base = some dimension ∧ dimension.component 1 = -1 := by
  intro unit base shuffled speed product
  obtain ⟨_, slots, meaning, _, registered, _⟩ := compatibility_of_netCounts (α := Float) base
  have counts : speed.SameCounts product := by
    intro quantity _
    by_cases length : quantity = ⟨"Length"⟩
    · subst length
      decide
    by_cases time : quantity = ⟨"Time"⟩
    · subst time
      decide
    simp [Unit.netCount, measuring, Unit.allMembers, speed, product, unit, Ne.symm length,
      Ne.symm time]
  have together : speed.compatibleIn base product = true :=
    (meaning speed product).2 ⟨rfl, rfl, counts⟩
  have order : base.Shuffles shuffled := ⟨rfl, .cons _ (.swap _ _ _)⟩
  have present : (product.dimensionIn? base).isSome = true := rfl
  obtain ⟨dimension, known⟩ := Option.isSome_iff_exists.1 present
  obtain ⟨_, held⟩ := slots product dimension known
  refine ⟨together, (registered shuffled order speed product).trans together, dimension, known, ?_⟩
  exact (held 1 ⟨"Time"⟩ rfl).2.trans (by decide)

end Dimensional
