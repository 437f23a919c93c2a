import Mathlib.Data.List.DropRight
import Mathlib.Data.List.Induction
import Mathlib.Data.List.Nodup
import Dimensional.Proofs.History
import Dimensional.Proofs.BaseLayout

/-!
What a frozen base says of the history of its system. The quantities of the base are those that the
system has registered since it was made or last reset, by first registration and with pure numbers
in front; each but these has a slot of its own, and the reference unit of each is the one registered
last.
-/

set_option autoImplicit false

namespace Dimensional

variable {α : Type}

/-- Whether a system starts over. -/
def restarts (index : Nat) : Operation α × Reply α → Bool
  | (.reset other, .done) => other == index
  | _ => false

/-- The quantity that a system registers with an operation, and the name of its unit. -/
def registration? (index : Nat) : Operation α × Reply α → Option (Quantity × String)
  | (.add other quantity unit, .done) => if other = index then some (quantity, unit.name) else none
  | _ => none

/-- What a system has registered since it was made or last reset, in this order. -/
def registrations (index : Nat) (events : List (Operation α × Reply α)) :
    List (Quantity × String) :=
  (events.rtakeWhile fun event => !restarts index event).filterMap (registration? index)

theorem registrations_append_restart {index : Nat} {event : Operation α × Reply α}
    (restart : restarts index event = true) (events : List (Operation α × Reply α)) :
    registrations index (events ++ [event]) = [] := by
  rw [registrations, List.rtakeWhile_concat_neg _ _ _ (by simp [restart])]
  rfl

theorem registrations_append_keeping {index : Nat} {event : Operation α × Reply α}
    (keeps : restarts index event = false) (events : List (Operation α × Reply α)) :
    registrations index (events ++ [event]) =
      registrations index events ++ (registration? index event).toList := by
  rw [registrations, List.rtakeWhile_concat_pos _ _ _ (by simp [keeps]), List.filterMap_append,
    registrations]
  cases registered : registration? index event <;> simp [registered]

theorem registrations_append_idle {index : Nat} {event : Operation α × Reply α}
    (keeps : restarts index event = false) (idle : registration? index event = none)
    (events : List (Operation α × Reply α)) :
    registrations index (events ++ [event]) = registrations index events := by
  rw [registrations_append_keeping keeps, idle]
  simp

namespace Registry

/-- The registry holds what has been registered: quantities by first registration, units by the
last one. -/
structure Records (registry : Registry (SimpleUnit α)) (added : List (Quantity × String)) :
    Prop where
  order : registry.quantities = (Quantity.dimensionless :: added.map (·.1)).eraseDups
  names : ∀ quantity, (registry.lookup? quantity).map (·.name) =
    ((Quantity.dimensionless, pureUnitName) :: added).reverse.lookup quantity

theorem records_single [Scalar α] (generation : Generation) (serial : Nat) :
    (single (SimpleUnit.pure generation serial : SimpleUnit α)).Records [] := by
  constructor
  · rfl
  · intro quantity
    by_cases pure : quantity = Quantity.dimensionless
    · subst pure
      rfl
    · have apart : (quantity == Quantity.dimensionless) = false := by simpa using pure
      simp [lookup?, single, List.lookup_cons, apart]

theorem eraseDups_append_singleton (quantities : List Quantity) (quantity : Quantity) :
    (quantities ++ [quantity]).eraseDups =
      if quantity ∈ quantities then quantities.eraseDups
      else quantities.eraseDups ++ [quantity] := by
  rw [List.eraseDups_append]
  by_cases known : quantity ∈ quantities <;> simp [List.removeAll, known, List.eraseDups_cons]

theorem mem_quantities_of_records {registry : Registry (SimpleUnit α)}
    {added : List (Quantity × String)} (records : registry.Records added) (quantity : Quantity) :
    quantity ∈ registry.quantities ↔ quantity ∈ Quantity.dimensionless :: added.map (·.1) := by
  rw [records.order, List.mem_eraseDups]

theorem Records.put {registry : Registry (SimpleUnit α)} {added : List (Quantity × String)}
    (records : registry.Records added) (quantity : Quantity) (unit : SimpleUnit α) :
    (registry.put quantity unit).Records (added ++ [(quantity, unit.name)]) := by
  constructor
  · have known := mem_quantities_of_records records quantity
    rw [List.map_append, ← List.cons_append]
    simp only [List.map_cons, List.map_nil, quantities_put, eraseDups_append_singleton, known]
    rw [records.order]
  · intro other
    rw [← List.cons_append, List.reverse_append]
    by_cases same : other = quantity
    · subst same
      simp
    · have apart : (other == quantity) = false := by simpa using same
      rw [lookup?_put_other _ _ _ _ same, records.names]
      simp [List.lookup_cons, apart]

theorem lookup?_map {β γ : Type} (registry : Registry β) (change : β → γ) (quantity : Quantity) :
    (registry.map change).lookup? quantity = (registry.lookup? quantity).map change := by
  simp only [lookup?, map]
  induction registry.entries with
  | nil => rfl
  | cons entry rest ih =>
    rw [List.map_cons, List.lookup_cons, List.lookup_cons, ih]
    cases quantity == entry.1 <;> rfl

end Registry

namespace Base

/-- The base gives a slot to each registered quantity but pure numbers, which come first in its
order, and knows the names of the reference units registered last. -/
structure LaysOut (base : Base) (added : List (Quantity × String)) : Prop where
  order : base.quantities = (Quantity.dimensionless :: added.map (·.1)).eraseDups
  distinct : base.quantities.Nodup
  front : base.quantities = Quantity.dimensionless :: axes base.quantities
  rank : base.rank = (axes base.quantities).length
  pure : base.dimension? Quantity.dimensionless = some (Dimension.zeros base.rank)
  axis : ∀ (slot : Nat) quantity, (axes base.quantities)[slot]? = some quantity →
    ∃ dimension, base.dimension? quantity = some dimension ∧ dimension.size = base.rank ∧
      ∀ other, dimension.component other = if other = slot then 1 else 0
  apart : ∀ quantity other dimension, base.dimension? quantity = some dimension →
    base.dimension? other = some dimension → quantity = other
  used : ∀ slot < base.rank, ∃ quantity dimension,
    base.dimension? quantity = some dimension ∧ dimension.component slot = 1
  keys : ∀ quantity, base.contains quantity = true ↔ quantity ∈ base.quantities
  reference : ∀ quantity, base.defaultUnit? quantity =
    ((Quantity.dimensionless, pureUnitName) :: added).reverse.lookup quantity

theorem quantities_eq_cons_axes (base : Base) :
    base.quantities = Quantity.dimensionless :: axes base.quantities := by
  have first : base.quantities.head? = some Quantity.dimensionless := base.registry.pureFirst
  have distinct : base.quantities.Nodup := base.registry.distinct
  cases listed : base.quantities with
  | nil =>
    rw [listed] at first
    cases first
  | cons quantity rest =>
    rw [listed] at first distinct
    cases first
    have others : ∀ quantity ∈ rest, (!quantity.isDimensionless) = true := by
      intro quantity later
      have different : quantity ≠ Quantity.dimensionless := by
        rintro rfl
        exact (List.nodup_cons.1 distinct).1 later
      simpa [Quantity.isDimensionless] using different
    rw [axes, List.filter_cons_of_neg (by simp), List.filter_eq_self.2 others]

theorem dimension?_injective (base : Base) {quantity other : Quantity} {dimension : Dimension}
    (known : base.dimension? quantity = some dimension)
    (same : base.dimension? other = some dimension) : quantity = other := by
  have listed := mem_of_dimension? known
  have listed' := mem_of_dimension? same
  have zero := isZero_of_dimension? known
  have zero' := isZero_of_dimension? same
  cases pure : dimension.isZero with
  | true =>
    have first := (Quantity.isDimensionless_iff quantity).1 (zero.symm.trans pure)
    have second := (Quantity.isDimensionless_iff other).1 (zero'.symm.trans pure)
    exact first.trans second.symm
  | false =>
    have axis : quantity.isDimensionless = false := zero.symm.trans pure
    have axis' : other.isDimensionless = false := zero'.symm.trans pure
    have inside := idxOf_axes_lt listed axis
    rw [dimension?_of_mem base _ listed, axis, if_neg Bool.false_ne_true] at known
    rw [dimension?_of_mem base _ listed', axis', if_neg Bool.false_ne_true, ← known] at same
    -- Only one component is not zero, so both quantities have the same slot.
    have marked := congrArg (·.component ((axes base.quantities).idxOf quantity))
      (Option.some.inj same)
    simp only [Dimension.component_oneHot _ _ _ inside,
      Dimension.component_oneHot _ _ _ (idxOf_axes_lt listed' axis'), ↓reduceIte] at marked
    have place : (axes base.quantities).idxOf quantity = (axes base.quantities).idxOf other := by
      by_contra different
      simp [different] at marked
    exact (List.idxOf_inj (List.mem_filter.2 ⟨listed, by simp [axis]⟩)).1 place

/-- A base that is laid out of a registry tells what has been registered. -/
theorem laysOut_of_records {registry : Registry (SimpleUnit α)} {added : List (Quantity × String)}
    (records : registry.Records added) (generation : Generation) :
    (⟨generation, registry.map (·.name)⟩ : Base).LaysOut added where
  order := (registry.quantities_map _).trans records.order
  distinct := (registry.map _).distinct
  front := quantities_eq_cons_axes _
  rank := rank_eq_length_axes _
  pure := dimension?_dimensionless _
  axis := by
    intro slot quantity axis
    obtain ⟨known, inside⟩ := dimension?_of_axis _ slot quantity axis
    exact ⟨_, known, Dimension.size_oneHot _ _, fun other =>
      Dimension.component_oneHot _ slot other inside⟩
  apart := fun _ _ _ => dimension?_injective _
  used := by
    intro slot inside
    obtain ⟨known, _⟩ := dimension?_of_axis _ slot _ (List.getElem?_eq_getElem inside)
    exact ⟨_, _, known, by rw [Dimension.component_oneHot _ _ _ inside, if_pos rfl]⟩
  keys := contains_iff _
  reference := fun quantity =>
    (Registry.lookup?_map registry _ quantity).trans (records.names quantity)

end Base

namespace World

variable {world : World α}

/-- Operations with their replies. -/
def trace [Scalar α] (world : World α) : List (Operation α) → List (Operation α × Reply α)
  | [] => []
  | operation :: later =>
    (operation, (world.step operation).1) :: (world.step operation).2.trace later

theorem trace_append_singleton [Scalar α] (world : World α) (operations : List (Operation α))
    (operation : Operation α) :
    world.trace (operations ++ [operation]) =
      world.trace operations ++ [(operation, ((world.run operations).step operation).1)] := by
  induction operations generalizing world with
  | nil => rfl
  | cons first later ih =>
    simp only [List.cons_append, trace, run_cons]
    rw [ih]

/-- Each system has registered what the events say, and there is nothing to say of other numbers. -/
structure Recorded (events : List (Operation α × Reply α)) (world : World α) : Prop where
  present : ∀ index system, world.system? index = some system →
    system.registry.Records (registrations index events)
  missing : ∀ index, world.system? index = none → registrations index events = []

/-- It is enough to look at the systems that an operation changes. -/
theorem Recorded.append {events : List (Operation α × Reply α)} (recorded : world.Recorded events)
    {next : World α} (event : Operation α × Reply α)
    (systems : ∀ index,
      (next.system? index = world.system? index ∧
        registrations index (events ++ [event]) = registrations index events) ∨
      ∃ system, next.system? index = some system ∧
        system.registry.Records (registrations index (events ++ [event]))) :
    next.Recorded (events ++ [event]) := by
  constructor
  · intro index system present
    rcases systems index with ⟨kept, idle⟩ | ⟨changed, held, records⟩
    · rw [idle]
      exact recorded.present index system (kept ▸ present)
    · rw [held] at present
      cases present
      exact records
  · intro index absent
    rcases systems index with ⟨kept, idle⟩ | ⟨changed, held, _⟩
    · rw [idle]
      exact recorded.missing index (kept ▸ absent)
    · rw [held] at absent
      cases absent

theorem Recorded.step [Scalar α] {events : List (Operation α × Reply α)}
    (recorded : world.Recorded events) (operation : Operation α) :
    (world.step operation).2.Recorded (events ++ [(operation, (world.step operation).1)]) := by
  have did := steps world operation
  generalize (world.step operation).1 = reply at did ⊢
  generalize (world.step operation).2 = next at did ⊢
  refine recorded.append _ fun place => ?_
  cases did with
  | created =>
    have idle : registrations place (events ++ [(Operation.create, Reply.done)]) =
        registrations place events := registrations_append_idle rfl rfl events
    rw [idle, system?_create]
    split
    · next last =>
      have absent : world.system? place = none := by simp [system?, last]
      refine Or.inr ⟨_, rfl, ?_⟩
      rw [recorded.missing place absent]
      exact Registry.records_single _ _
    · exact Or.inl ⟨rfl, rfl⟩
  | reset index system present =>
    rw [system?_reset present]
    split
    · next same =>
      refine Or.inr ⟨_, rfl, ?_⟩
      rw [registrations_append_restart (by simp [restarts, same])]
      exact Registry.records_single _ _
    · next apart =>
      exact Or.inl ⟨rfl, registrations_append_idle
        (by simpa [restarts] using Ne.symm apart) rfl events⟩
  | added index quantity unit system present unfrozen native measured =>
    rw [system?_add present]
    split
    · next same =>
      refine Or.inr ⟨_, rfl, ?_⟩
      rw [registrations_append_keeping rfl, same]
      simpa [registration?] using (recorded.present index system present).put quantity unit
    · next apart =>
      exact Or.inl ⟨rfl, registrations_append_idle rfl
        (by simp [registration?, Ne.symm apart]) events⟩
  | frozen index system present unfrozen =>
    exact Or.inl ⟨rfl, registrations_append_idle rfl rfl events⟩
  | refused operation error =>
    refine Or.inl ⟨rfl, registrations_append_idle ?_ ?_ events⟩ <;> cases operation <;> rfl
  | madeSimple index name symbol synonyms quantity factor system present =>
    exact Or.inl ⟨rfl, registrations_append_idle rfl rfl events⟩
  | madeComposite index name symbol synonyms dividend divisor system present =>
    exact Or.inl ⟨rfl, registrations_append_idle rfl rfl events⟩
  | absent operation index target missing =>
    refine Or.inl ⟨rfl, registrations_append_idle ?_ ?_ events⟩ <;> cases operation <;> rfl

theorem recorded_run [Scalar α] (operations : List (Operation α)) :
    ((empty : World α).run operations).Recorded ((empty : World α).trace operations) := by
  induction operations using List.reverseRecOn with
  | nil =>
    constructor
    · intro index system present
      cases present
    · exact fun _ _ => rfl
  | append_singleton operations operation ih =>
    rw [run_append, trace_append_singleton]
    exact ih.step operation

/-- The base that a freeze gives tells the history of its system since the system was made or last
reset. -/
theorem base_of_freeze [Scalar α] (operations : List (Operation α)) (index : Nat)
    (frozen : (((empty : World α).run operations).step (.freeze index)).1 = .done) :
    ∃ system base,
      ((empty : World α).run (operations ++ [.freeze index])).system? index = some system ∧
      system.base ((empty : World α).run (operations ++ [.freeze index])).bases = .ok base ∧
      base.generation = system.generation ∧
      base.LaysOut (registrations index ((empty : World α).trace operations)) := by
  rw [run_append, run_cons, run_nil]
  have coherent := coherent_empty.run operations
  have recorded := recorded_run operations
  generalize (empty : World α).run operations = world at *
  have did := steps world (.freeze index)
  rw [frozen] at did
  generalize (world.step (.freeze index)).2 = next at did ⊢
  cases did with
  | frozen _ system present unfrozen =>
    have found := Bases.base?_freeze_self world.bases system.layout
      (coherent.issued index system present)
    refine ⟨system, system.layout, present, ?_, rfl,
      Base.laysOut_of_records (recorded.present index system present) system.generation⟩
    have own : system.base? (world.bases.freeze system.layout) = some system.layout := found
    simp only [QuantitySystem.base, own]

/-- A system that is reset and then registers a length twice, a unit of a wrong quantity, a mass and
a unit of pure numbers. -/
theorem base_of_renewed_system :
    let unit := fun name quantity serial =>
      (⟨name, name, [], quantity, 1.0, ⟨1⟩, serial⟩ : SimpleUnit Float)
    let operations : List (Operation Float) :=
      [.create, .reset 0, .addQuantity 0 (unit "meter" ⟨"Length"⟩ 2),
        .addQuantity 0 (unit "gram" ⟨"Mass"⟩ 3), .addQuantity 0 (unit "yard" ⟨"Length"⟩ 4),
        .add 0 ⟨"Length"⟩ (unit "pound" ⟨"Mass"⟩ 5),
        .addQuantity 0 (unit "percent" Quantity.dimensionless 6)]
    (((empty : World Float).run operations).step (.freeze 0)).1 = .done ∧
      ∃ system base,
        ((empty : World Float).run (operations ++ [.freeze 0])).system? 0 = some system ∧
        system.base ((empty : World Float).run (operations ++ [.freeze 0])).bases = .ok base ∧
        base.quantities = [Quantity.dimensionless, ⟨"Length"⟩, ⟨"Mass"⟩] ∧
        base.defaultUnit? ⟨"Length"⟩ = some "yard" ∧
        base.defaultUnit? Quantity.dimensionless = some "percent" := by
  intro unit operations
  have frozen : (((empty : World Float).run operations).step (.freeze 0)).1 = .done := by
    decide +kernel
  have added : registrations 0 ((empty : World Float).trace operations) =
      [(⟨"Length"⟩, "meter"), (⟨"Mass"⟩, "gram"), (⟨"Length"⟩, "yard"),
        (Quantity.dimensionless, "percent")] := by decide +kernel
  obtain ⟨system, base, present, found, _, laid⟩ := base_of_freeze operations 0 frozen
  rw [added] at laid
  exact ⟨frozen, system, base, present, found, laid.order.trans rfl, laid.reference _,
    laid.reference _⟩

end World

end Dimensional
