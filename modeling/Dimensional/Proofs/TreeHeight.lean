import Dimensional.Proofs.RoundTrip
import Dimensional.Proofs.NestingCounter

/-!
How high a parsed tree is. The limit on heights looks at operations only, so minus signs come on top
of it. The operation that they stand before needs parentheses, and these take one of the nesting.
-/

set_option autoImplicit false

namespace Dimensional.Formula

/-- How high the tree of a phrase without operations above the limit is: a tree above it has fewer
minus signs on top than the phrase nests. A tail that adds an operation to a tree ends with one. -/
def Phrase.Bounds (limit nesting : Nat) (tree : Expr Float) : Phrase → Prop
  | .operand => (nesting = 0 → tree.depth = 1) ∧ (limit < tree.depth → tree.depth < limit + nesting)
  | .chain _ => limit < tree.depth → tree.depth < limit + nesting
  | .tail _ left => tree = left ∨ tree.depth ≤ limit

theorem Phrase.Bounds.below {limit nesting : Nat} {tree : Expr Float} {tier : Tier}
    (bounds : tier.below.Bounds limit nesting tree) (high : limit < tree.depth) :
    tree.depth < limit + nesting := by
  cases tier with
  | additive => exact bounds high
  | multiplicative => exact bounds high
  | power => exact bounds.2 high

theorem Derives.bounds {phrase : Phrase} {tokens : List Token} {tree : Expr Float}
    {limit nesting : Nat} (derived : Derives phrase tokens tree nesting) (pair : 2 ≤ limit)
    (within : tree.OperationsWithin limit) : phrase.Bounds limit nesting tree := by
  induction derived with
  | number token value kind reads =>
    exact ⟨fun _ => rfl, fun high => absurd (Nat.lt_trans high Nat.one_lt_two) (Nat.not_lt.2 pair)⟩
  | identifier token kind =>
    exact ⟨fun _ => rfl, fun high => absurd (Nat.lt_trans high Nat.one_lt_two) (Nat.not_lt.2 pair)⟩
  | negate sign tokens tree nesting kind operand ih =>
    obtain ⟨leaf, above⟩ := ih within
    refine ⟨nofun, fun high => ?_⟩
    simp only [Expr.depth] at high ⊢
    -- A leaf and its sign are within the limit, so the sign is not the first level.
    have nested : nesting ≠ 0 := by
      intro flat
      have low := leaf flat
      omega
    by_cases higher : limit < tree.depth
    · have fewer := above higher
      omega
    · omega
  | group opening closing tokens tree nesting opens closes inner ih =>
    exact ⟨nofun, fun high => Nat.lt_succ_of_lt (ih within high)⟩
  | chain tier first rest left tree inFirst inRest starts continues ihStarts ihContinues =>
    intro high
    rcases ihContinues within with rfl | low
    · have fewer := (ihStarts within).below high
      exact Nat.lt_of_lt_of_le fewer (Nat.add_le_add_left (Nat.le_max_left _ _) _)
    · exact absurd high (Nat.not_lt.2 low)
  | stop tier left => exact Or.inl rfl
  | step tier left right tree token operator tokens rest inRight inRest joins operand continues _
      ihContinues =>
    rcases ihContinues within with rfl | low
    · exact Or.inr within.1
    · exact Or.inr low

/-- A name, and `more` times a plus sign and the name again. -/
def sumText : Nat → List Char
  | 0 => ['x']
  | more + 1 => sumText more ++ ' ' :: '+' :: ' ' :: ['x']

def sumTree : Nat → Expr Float
  | 0 => .identifier "x"
  | more + 1 => .binary (sumTree more) .add (.identifier "x")

/-- Minus signs before a sum in parentheses. -/
def steepText (signs more : Nat) : String :=
  String.ofList (List.replicate signs '-' ++ '(' :: (sumText more ++ [')']))

def steepTree : Nat → Nat → Expr Float
  | 0, more => sumTree more
  | signs + 1, more => .negate (steepTree signs more)

theorem depth_sumTree (more : Nat) : (sumTree more).depth = more + 1 := by
  induction more with
  | zero => rfl
  | succ more ih =>
    simp only [sumTree, Expr.depth, ih]
    omega

theorem depth_steepTree (signs more : Nat) : (steepTree signs more).depth = signs + (more + 1) := by
  induction signs with
  | zero => rw [steepTree, depth_sumTree, Nat.zero_add]
  | succ signs ih =>
    simp only [steepTree, Expr.depth, ih]
    omega

/-- The minus signs do not count. -/
theorem operationsWithin_steepTree {limit more : Nat} (low : more + 1 ≤ limit) (signs : Nat) :
    (steepTree signs more).OperationsWithin limit := by
  induction signs with
  | zero => exact Expr.operationsWithin_of_depth (by rwa [steepTree, depth_sumTree])
  | succ signs ih => exact ih

theorem scans_name : Scans .operand ['x'] (.identifier "x") 0 := by
  have isName : IsName "x".toList := ⟨'x', [], rfl, Or.inl (by decide), nofun⟩
  exact scans_identifier isName

theorem scans_sumText (more : Nat) : Scans (.chain .additive) (sumText more) (sumTree more) 0 := by
  induction more with
  | zero => exact scans_name.sum
  | succ more ih =>
    exact scans_join ih rfl .plus
      (scans_name.imp fun _ derived => derived.below_of_operand .additive)

theorem scans_steepText (signs more : Nat) :
    Scans .operand (steepText signs more).toList (steepTree signs more) (signs + 1) := by
  rw [steepText, String.toList_ofList]
  induction signs with
  | zero => exact scans_group (scans_sumText more)
  | succ signs ih => exact scans_negate ih

theorem parse_steepText {signs more : Nat} (shallow : signs ≤ 198) (short : more ≤ 1023) :
    Expr.parse (steepText signs more) = .ok (steepTree signs more) :=
  parse_of_derives (scans_steepText signs more).sum.sentence (Nat.succ_le_succ shallow)
    (operationsWithin_steepTree (Nat.succ_le_succ short) signs)

/-- In every parsed tree no operation is higher than 1024, and the tree is no higher than 1222. That
height is reached by 198 minus signs before a sum of 1024 names in parentheses, so 1024 is no bound
for trees. While a text is parsed, the nesting counter is never below zero, and above 200 only on
the way to the error that says so; every call that succeeds leaves it as it was, and the height that
a chain carries is the height of its tree. -/
theorem heights_of_parse (text : String) :
    (∀ tree, Expr.parse text = .ok tree → tree.OperationsWithin 1024 ∧ tree.depth ≤ 1222) ∧
    (Expr.parse (steepText 198 1023) = .ok (steepTree 198 1023) ∧
      (steepTree 198 1023).depth = 1222) ∧
    (¬ ∀ text tree, Expr.parse text = .ok tree → tree.depth ≤ 1024) ∧
    (watch text).answer = Expr.parse text ∧
    (∀ tree, Expr.parse text = .ok tree → (watch text).counter = 0) ∧
    ∀ sight ∈ (watch text).seen, sight.Sound (Expr.parse text) := by
  have steep : Expr.parse (steepText 198 1023) = .ok (steepTree 198 1023) :=
    parse_steepText (Nat.le_refl _) (Nat.le_refl _)
  have high : (steepTree 198 1023).depth = 1222 := depth_steepTree 198 1023
  obtain ⟨answers, counts, sound⟩ := watch_follows text
  refine ⟨fun tree success => ?_, ⟨steep, high⟩, fun low => ?_, answers, counts, sound⟩
  · obtain ⟨nesting, derived, shallow, within⟩ := derives_of_parse success
    have bounds : 1024 < tree.depth → tree.depth < 1024 + nesting :=
      derived.bounds (by decide) within
    have shallow : nesting ≤ 199 := shallow
    exact ⟨within, by omega⟩
  · have most := low _ _ steep
    rw [high] at most
    exact absurd most (by decide)

/-- A sign, a group and an operator in it: the counter is three in the group, and the loop over the
power carries four, the height of the whole. -/
theorem heights_of_parse_power :
    let tree : Expr Float :=
      .binary (.negate (.binary (.identifier "a") .add (.identifier "b"))) .power (.identifier "c")
    let watched := watch "-(a + b) ^ c"
    Expr.parse "-(a + b) ^ c" = .ok tree ∧ tree.OperationsWithin 1024 ∧ tree.depth ≤ 1222 ∧
    watched.answer = .ok tree ∧ watched.counter = 0 ∧
    (.counter 3 ∈ watched.seen ∧ (Sight.counter 3).Sound watched.answer) ∧
    .chain tree 4 ∈ watched.seen ∧ tree.depth = 4 := by
  intro tree watched
  have success : Expr.parse "-(a + b) ^ c" = .ok tree := rfl
  have inGroup : watched.seen[2]? = some (.counter 3) := rfl
  have inPower : watched.seen[23]? = some (.chain tree 4) := rfl
  obtain ⟨bounds, -, -, answers, counts, sound⟩ := heights_of_parse "-(a + b) ^ c"
  obtain ⟨within, low⟩ := bounds tree success
  have counter := List.mem_of_getElem? inGroup
  have chain := List.mem_of_getElem? inPower
  have height : 4 = tree.depth := sound _ chain
  refine ⟨success, within, low, answers.trans success, counts tree success, ⟨counter, ?_⟩, chain,
    height.symm⟩
  have range := sound _ counter
  rwa [← answers] at range

end Dimensional.Formula
