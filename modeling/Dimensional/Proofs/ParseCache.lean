import Dimensional.Formula.Engine

/-!
The cache of an engine does not show in its answers. Of the cache only this is used: what it gives
for a text was put there under that text and has not been replaced, cleared or forgotten since. Then
every tree in it is the tree of its own text, and that is kept by every operation, whether it finds
the text, parses it, fails or clears the cache.
-/

set_option autoImplicit false

namespace Dimensional.Formula

/-- A cache gives what was put under the same key last, or nothing. -/
class LawfulCache (κ : Type) {β : Type} [TextCache κ β] : Prop where
  get_fresh : ∀ capacity key, (TextCache.get (TextCache.fresh capacity : κ) key).1 = none
  get_after_get : ∀ (cache : κ) used key content,
    (TextCache.get (TextCache.get cache used).2 key).1 = some content →
      (TextCache.get cache key).1 = some content
  get_after_put : ∀ (cache : κ) stored new key content,
    (TextCache.get (TextCache.put cache stored new) key).1 = some content →
      (key = stored ∧ content = new) ∨
        (key ≠ stored ∧ (TextCache.get cache key).1 = some content)
  get_clear : ∀ (cache : κ) key, (TextCache.get (TextCache.clear cache) key).1 = none

namespace Cache

variable {β : Type}

@[simp] theorem get_fst (cache : Cache β) (key : String) : (cache.get key).1 = cache.find? key := by
  unfold get
  cases cache.find? key <;> rfl

theorem lookup_without {stored key : String} (entries : List (String × β)) (other : key ≠ stored) :
    (without stored entries).lookup key = entries.lookup key := by
  unfold without
  induction entries with
  | nil => rfl
  | cons entry rest ih =>
    rcases entry with ⟨known, content⟩
    by_cases same : known = stored
    · have apart : (key == stored) = false := by simpa using other
      simp [same, List.lookup_cons, ih, apart]
    · simp [same, List.lookup_cons, ih]

theorem find?_put {cache : Cache β} {stored key : String} {new content : β}
    (found : (cache.put stored new).find? key = some content) :
    (key = stored ∧ content = new) ∨ (key ≠ stored ∧ cache.find? key = some content) := by
  have kept := (List.take_prefix _ _).lookup_eq_some found
  rw [List.lookup_cons] at kept
  by_cases same : key = stored
  · simp only [same, beq_self_eq_true, Option.some.injEq] at kept
    exact Or.inl ⟨same, kept.symm⟩
  · have apart : (key == stored) = false := by simpa using same
    rw [apart, lookup_without cache.entries same] at kept
    exact Or.inr ⟨same, kept⟩

theorem find?_get {cache : Cache β} {used key : String} {content : β}
    (found : (cache.get used).2.find? key = some content) : cache.find? key = some content := by
  unfold get at found
  cases present : cache.find? used with
  | none =>
    rw [present] at found
    exact found
  | some stored =>
    rw [present] at found
    rcases find?_put found with ⟨rfl, rfl⟩ | ⟨_, older⟩
    · exact present
    · exact older

instance : LawfulCache (Cache β) where
  get_fresh capacity key := get_fst (empty capacity) key
  get_after_get cache used key content found := by
    change ((cache.get used).2.get key).1 = _ at found
    change (cache.get key).1 = _
    rw [get_fst] at found ⊢
    exact find?_get found
  get_after_put cache stored new key content found := by
    change ((cache.put stored new).get key).1 = _ at found
    change _ ∨ (_ ∧ (cache.get key).1 = _)
    rw [get_fst] at found ⊢
    exact find?_put found
  get_clear cache key := get_fst cache.clear key

end Cache

/-- An operation on an engine. The bases are those known when it is called. -/
inductive Call where
  | compile (text : String)
  | formula (text : String)
  | evaluate (bases : Bases) (text : String) (environment : Environment Float)
  | evaluateAs (bases : Bases) (text : String) (environment : Environment Float)
    (target : Unit Float)
  | calculate (bases : Bases) (text : String) (environment : Environment Float)
  | clearCache

/-- What an operation returns. -/
inductive Answer where
  | tree (outcome : Except ParseError (Expr Float))
  | formula (outcome : Except FormulaError Formula)
  | value (outcome : Except FormulaError (Value Float))
  | number (outcome : Except FormulaError Float)
  | calculation (calculation : Calculation)
  | cleared

namespace CachedEngine

variable {κ : Type} [TextCache κ (Expr Float)]

/-- Calls an operation. -/
def step (engine : CachedEngine κ) : Call → Answer × CachedEngine κ
  | .compile text =>
    match engine.compile text with
    | (outcome, engine) => (.tree outcome, engine)
  | .formula text =>
    match engine.formula text with
    | (outcome, engine) => (.formula outcome, engine)
  | .evaluate bases text environment =>
    match engine.evaluate bases text environment with
    | (outcome, engine) => (.value outcome, engine)
  | .evaluateAs bases text environment target =>
    match engine.evaluateAs bases text environment target with
    | (outcome, engine) => (.number outcome, engine)
  | .calculate bases text environment =>
    match engine.calculate bases text environment with
    | (calculation, engine) => (.calculation calculation, engine)
  | .clearCache => (.cleared, engine.clearCache)

/-- Calls operations one after the other. -/
def run (engine : CachedEngine κ) : List Call → List Answer × CachedEngine κ
  | [] => ([], engine)
  | call :: calls =>
    let (answer, engine) := engine.step call
    let (answers, engine) := engine.run calls
    (answer :: answers, engine)

/-- Every tree in the cache is the tree of the text that it is stored under. -/
def Sound (engine : CachedEngine κ) : Prop :=
  ∀ text expr, (TextCache.get engine.cache text).1 = some expr → Expr.parse text = .ok expr

/-- The engine has been used: only its cache may be another one, and that is sound. -/
structure Follows (engine after : CachedEngine κ) : Prop where
  sound : after.Sound
  system : after.system = engine.system
  options : after.options = engine.options

variable [LawfulCache κ] {engine : CachedEngine κ}

theorem sound_of_create {bases : Bases} {system : QuantitySystem Float} {capacity : Nat}
    {options : Options Float} (created : create bases system capacity options = .ok engine) :
    engine.Sound ∧ engine.system = system ∧ engine.options = options := by
  unfold create at created
  split at created
  · cases created
    refine ⟨?_, rfl, rfl⟩
    intro text expr found
    rw [LawfulCache.get_fresh] at found
    cases found
  · cases created

theorem sound_get (sound : engine.Sound) (used : String) :
    { engine with cache := (TextCache.get engine.cache used).2 }.Sound := fun text expr found =>
  sound text expr (LawfulCache.get_after_get _ _ _ _ found)

theorem sound_put (sound : engine.Sound) {parsed : String} {tree : Expr Float}
    (success : Expr.parse parsed = .ok tree) :
    { engine with cache := TextCache.put engine.cache parsed tree }.Sound := by
  intro text expr found
  rcases LawfulCache.get_after_put _ _ _ _ _ found with ⟨rfl, rfl⟩ | ⟨_, older⟩
  · exact success
  · exact sound text expr older

/-- What is found is what parsing would give, and what is parsed is kept under its own text. -/
theorem compile_spec (sound : engine.Sound) (text : String) :
    (engine.compile text).1 = Expr.parse text ∧ engine.Follows (engine.compile text).2 := by
  have soundAfter := sound_get sound text
  unfold compile
  cases looked : TextCache.get engine.cache text with
  | mk content cache =>
    rw [looked] at soundAfter
    cases content with
    | some expr =>
      have stored : Expr.parse text = .ok expr := sound text expr (by rw [looked])
      exact ⟨stored.symm, soundAfter, rfl, rfl⟩
    | none =>
      cases parsed : Expr.parse text with
      | error error => exact ⟨rfl, soundAfter, rfl, rfl⟩
      | ok expr => exact ⟨rfl, sound_put soundAfter parsed, rfl, rfl⟩

/-- The value is that of the parsed formula in the context that the engine gives it. -/
theorem evaluate_spec (sound : engine.Sound) (bases : Bases) (text : String)
    (environment : Environment Float) :
    (engine.evaluate bases text environment).1 =
        ((Formula.parse text).bind fun parsed =>
          parsed.evaluate (engine.context bases environment)) ∧
      engine.Follows (engine.evaluate bases text environment).2 := by
  obtain ⟨same, follows⟩ := compile_spec sound text
  unfold evaluate Formula.parse
  rw [← same]
  cases compiled : engine.compile text with
  | mk outcome after =>
    rw [compiled] at follows
    cases outcome with
    | error error => exact ⟨rfl, follows⟩
    | ok expr =>
      have system : after.system = engine.system := follows.system
      have options : after.options = engine.options := follows.options
      refine ⟨?_, follows⟩
      simp only [context, Formula.evaluate, system, options]
      rfl

theorem evaluateAs_spec (sound : engine.Sound) (bases : Bases) (text : String)
    (environment : Environment Float) (target : Unit Float) :
    (engine.evaluateAs bases text environment target).1 =
        ((Formula.parse text).bind fun parsed =>
          parsed.evaluateAs (engine.context bases environment) target) ∧
      engine.Follows (engine.evaluateAs bases text environment target).2 := by
  obtain ⟨same, follows⟩ := evaluate_spec sound bases text environment
  unfold evaluateAs
  cases evaluated : engine.evaluate bases text environment with
  | mk outcome after =>
    rw [evaluated] at same follows
    cases parsed : Formula.parse text with
    | error error =>
      rw [parsed] at same
      cases same
      exact ⟨rfl, follows⟩
    | ok formula =>
      rw [parsed] at same
      have value : formula.evaluate (engine.context bases environment) = outcome := same.symm
      refine ⟨?_, by cases outcome <;> exact follows⟩
      change _ = formula.evaluateAs (engine.context bases environment) target
      rw [Formula.evaluateAs, value]
      cases outcome <;> rfl

end CachedEngine

end Dimensional.Formula
