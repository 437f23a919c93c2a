import Dimensional.Formula.Formula
import Dimensional.Formula.Cache

/-!
Engines: formulas over one frozen quantity system, with the trees of recent texts at hand. Every
operation gives its answer and the engine afterwards.
-/

set_option autoImplicit false

namespace Dimensional.Formula

/-- How a tree came about. -/
inductive CacheEvent where
  | hit
  | miss
deriving DecidableEq

/-- An engine whose trees are kept in a cache of type `κ`. -/
structure CachedEngine (κ : Type) where
  system : QuantitySystem Float
  cache : κ
  options : Options Float

namespace CachedEngine

variable {κ : Type} [TextCache κ (Expr Float)]

/-- An engine with an empty cache. The system must be frozen. -/
def create (bases : Bases) (system : QuantitySystem Float) (capacity : Nat)
    (options : Options Float) : Except UnitError (CachedEngine κ) :=
  match system.base bases with
  | .ok _ => .ok ⟨system, TextCache.fresh capacity, options⟩
  | .error error => .error error

def context (engine : CachedEngine κ) (bases : Bases) (environment : Environment Float) :
    Context Float :=
  ⟨bases, engine.system, environment, engine.options⟩

/-- The tree of a text, from the cache if it is there, otherwise parsed and then kept. A text that
does not parse is not kept. -/
def compile (engine : CachedEngine κ) (text : String) :
    Except ParseError (Expr Float) × CachedEngine κ :=
  match TextCache.get engine.cache text with
  | (some expr, cache) => (.ok expr, { engine with cache := cache })
  | (none, cache) =>
    match Expr.parse text with
    | .ok expr => (.ok expr, { engine with cache := TextCache.put cache text expr })
    | .error error => (.error error, { engine with cache := cache })

/-- Whether compiling the text would find its tree or make it; neither if it does not parse. -/
def event? (engine : CachedEngine κ) (text : String) : Option CacheEvent :=
  if (TextCache.get engine.cache text).1.isSome then some .hit
  else if (Expr.parse text).isOk then some .miss
  else none

def formula (engine : CachedEngine κ) (text : String) :
    Except FormulaError Formula × CachedEngine κ :=
  match engine.compile text with
  | (.ok expr, engine) => (.ok ⟨text, expr⟩, engine)
  | (.error error, engine) => (.error (.parse error), engine)

def evaluate (engine : CachedEngine κ) (bases : Bases) (text : String)
    (environment : Environment Float) : Except FormulaError (Value Float) × CachedEngine κ :=
  match engine.compile text with
  | (.ok expr, engine) => (evaluateExpr (engine.context bases environment) expr, engine)
  | (.error error, engine) => (.error (.parse error), engine)

def evaluateAs (engine : CachedEngine κ) (bases : Bases) (text : String)
    (environment : Environment Float) (target : Unit Float) :
    Except FormulaError Float × CachedEngine κ :=
  match engine.evaluate bases text environment with
  | (.ok value, engine) => (expressIn bases value target, engine)
  | (.error error, engine) => (.error error, engine)

def calculate (engine : CachedEngine κ) (bases : Bases) (text : String)
    (environment : Environment Float) : Calculation × CachedEngine κ :=
  match engine.evaluate bases text environment with
  | (outcome, engine) => (Calculation.ofOutcome engine.system outcome, engine)

def clearCache (engine : CachedEngine κ) : CachedEngine κ :=
  { engine with cache := TextCache.clear engine.cache }

end CachedEngine

/-- An engine that forgets the texts used longest ago. -/
abbrev Engine := CachedEngine (Cache (Expr Float))

namespace Engine

def defaultCapacity : Nat := 256

def create (bases : Bases) (system : QuantitySystem Float) (capacity : Nat)
    (options : Options Float) : Except UnitError Engine :=
  CachedEngine.create bases system capacity options

end Engine

end Dimensional.Formula
