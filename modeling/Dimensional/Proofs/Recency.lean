import Mathlib.Data.List.DropRight
import Mathlib.Data.List.Dedup
import Mathlib.Data.List.Nodup
import Dimensional.Proofs.ParseCache

/-!
Which texts an engine remembers. A text is used when an operation compiles it and it parses,
whatever becomes of its tree afterwards. The history of uses since the cache was last cleared
determines the cache: it holds the texts used last, as many as fit, in the order of their last use.
So a text is found exactly when fewer texts than fit have been used since.
-/

set_option autoImplicit false

namespace Dimensional.Formula

/-- A cache of bounded size that forgets what was used longest ago. Looking a stored key up is a use
of it, looking up another one changes nothing, and a new key takes the place of the oldest one when
the cache is full. -/
class RecencyCache (κ : Type) (β : outParam Type) [TextCache κ β] where
  capacity : κ → Nat
  size : κ → Nat
  /-- What is stored, the entry used last first. -/
  entries : κ → List (String × β)
  size_eq : ∀ cache, size cache = (entries cache).length
  capacity_fresh : ∀ bound, capacity (TextCache.fresh bound : κ) = bound
  entries_fresh : ∀ bound, entries (TextCache.fresh bound : κ) = []
  get_stored : ∀ cache key content, (entries cache).length ≤ capacity cache →
    (entries cache).lookup key = some content →
      (TextCache.get cache key).1 = some content ∧
        entries (TextCache.get cache key).2 =
          (key, content) :: (entries cache).filter fun entry => entry.1 != key
  get_unknown : ∀ cache key, (entries cache).lookup key = none →
    TextCache.get cache key = (none, cache)
  put_with_room : ∀ cache key content, (entries cache).lookup key = none →
    (entries cache).length < capacity cache →
      entries (TextCache.put cache key content) = (key, content) :: entries cache
  put_when_full : ∀ cache key content, (entries cache).lookup key = none →
    0 < capacity cache → (entries cache).length = capacity cache →
      entries (TextCache.put cache key content) = (key, content) :: (entries cache).dropLast
  capacity_get : ∀ cache key, capacity (TextCache.get cache key).2 = capacity cache
  capacity_put : ∀ cache key content, capacity (TextCache.put cache key content) = capacity cache
  entries_clear : ∀ cache : κ, entries (TextCache.clear cache) = []
  capacity_clear : ∀ cache : κ, capacity (TextCache.clear cache) = capacity cache

namespace RecencyCache

/-- The stored keys, the one used last first. -/
def keys {κ β : Type} [TextCache κ β] [RecencyCache κ β] (cache : κ) : List String :=
  (entries cache).map (·.1)

end RecencyCache

namespace Cache

variable {β : Type}

theorem without_of_lookup {key : String} {entries : List (String × β)}
    (unknown : entries.lookup key = none) : without key entries = entries := by
  apply List.filter_eq_self.2
  intro entry inside
  have apart : (key != entry.1) = true := List.lookup_eq_none_iff.1 unknown entry inside
  have different : key ≠ entry.1 := by simpa using apart
  simpa using Ne.symm different

theorem length_without_lt {key : String} {content : β} {entries : List (String × β)}
    (stored : entries.lookup key = some content) :
    (without key entries).length < entries.length := by
  obtain ⟨before, after, shape, _⟩ := List.lookup_eq_some_iff.1 stored
  apply List.length_filter_lt_length_iff_exists.2
  exact ⟨(key, content), by simp [shape], by simp⟩

instance : RecencyCache (Cache β) β where
  capacity := Cache.capacity
  size := Cache.size
  entries := Cache.entries
  size_eq cache := rfl
  capacity_fresh bound := rfl
  entries_fresh bound := rfl
  get_stored cache key content fits stored := by
    have found : cache.find? key = some content := stored
    have got : cache.get key = (some content, cache.put key content) := by rw [get, found]
    have short : ((key, content) :: without key cache.entries).length ≤ cache.capacity :=
      Nat.le_trans (length_without_lt stored) fits
    change (cache.get key).1 = _ ∧ (cache.get key).2.entries = _
    rw [got]
    exact ⟨rfl, List.take_of_length_le short⟩
  get_unknown cache key unknown := by
    have absent : cache.find? key = none := unknown
    change cache.get key = _
    rw [get, absent]
  put_with_room cache key content unknown room := by
    change ((key, content) :: without key cache.entries).take cache.capacity = _
    rw [without_of_lookup unknown]
    exact List.take_of_length_le room
  put_when_full cache key content unknown positive full := by
    change ((key, content) :: without key cache.entries).take cache.capacity = _
    obtain ⟨room, capacity⟩ := Nat.exists_eq_add_of_lt positive
    have rest : cache.entries.length - 1 = room := by omega
    rw [without_of_lookup unknown, capacity, Nat.zero_add, List.take_succ_cons,
      List.dropLast_eq_take, rest]
  capacity_get cache key := by
    change (cache.get key).2.capacity = cache.capacity
    unfold get
    cases cache.find? key <;> rfl
  capacity_put cache key content := rfl
  entries_clear cache := rfl
  capacity_clear cache := rfl

end Cache

/-- Distinct texts in the order of their last use, the one used last first. -/
def recent (used : List String) : List String := used.dedup.reverse

theorem mem_recent {used : List String} {text : String} : text ∈ recent used ↔ text ∈ used := by
  simp [recent]

theorem nodup_recent (used : List String) : (recent used).Nodup :=
  List.nodup_reverse.2 (List.nodup_dedup used)

theorem dedup_append_singleton (used : List String) (text : String) :
    (used ++ [text]).dedup = (used.dedup.filter fun other => other != text) ++ [text] := by
  induction used with
  | nil => simp
  | cons first rest ih =>
    rw [List.cons_append]
    by_cases same : first = text
    · subst same
      by_cases again : first ∈ rest
      · rw [List.dedup_cons_of_mem (by simp), List.dedup_cons_of_mem again, ih]
      · rw [List.dedup_cons_of_mem (by simp), List.dedup_cons_of_notMem again, ih]
        simp
    · by_cases again : first ∈ rest
      · rw [List.dedup_cons_of_mem (by simp [again]), List.dedup_cons_of_mem again, ih]
      · rw [List.dedup_cons_of_notMem (by simp [again, same]), List.dedup_cons_of_notMem again, ih]
        simp [same]

/-- A use brings its text to the front. -/
theorem recent_append_singleton (used : List String) (text : String) :
    recent (used ++ [text]) = text :: (recent used).filter fun other => other != text := by
  simp [recent, dedup_append_singleton, List.filter_reverse]

theorem length_filter_ne_lt {texts : List String} {text : String} (inside : text ∈ texts) :
    (texts.filter fun other => other != text).length < texts.length :=
  List.length_filter_lt_length_iff_exists.2 ⟨text, inside, by simp⟩

/-- Taking a text out of the recent part leaves the same front as taking it out of everything. -/
theorem take_filter_take (texts : List String) (text : String) (distinct : texts.Nodup) :
    ∀ bound, ((texts.take (bound + 1)).filter fun other => other != text).take bound =
      (texts.filter fun other => other != text).take bound := by
  induction texts with
  | nil => simp
  | cons first rest ih =>
    intro bound
    obtain ⟨absent, distinctRest⟩ := List.nodup_cons.1 distinct
    rw [List.take_succ_cons]
    by_cases same : first = text
    · subst same
      have kept : ∀ part : List String, part ⊆ rest →
          (part.filter fun other => other != first) = part := by
        intro part inside
        apply List.filter_eq_self.2
        intro other mem
        simpa using fun equal : other = first => absent (equal ▸ inside mem)
      simp [kept _ (List.take_subset bound rest), kept _ (List.Subset.refl rest), List.take_take]
    · cases bound with
      | zero => simp
      | succ bound => simp [same, ih distinctRest bound]

/-- After the last use of a text come the texts that are before it in the order of recency. -/
theorem recent_of_last_use (before : List String) {later : List String} {text : String}
    (last : text ∉ later) :
    ∃ older, recent (before ++ text :: later) = recent later ++ text :: older := by
  have suffix : text :: later.dedup <:+ (before ++ text :: later).dedup := by
    rw [List.dedup_append, List.dedup_cons_of_notMem last]
    exact List.suffix_union_right _ _
  obtain ⟨older, shape⟩ := suffix
  exact ⟨older.reverse, by simp [recent, ← shape]⟩

theorem mem_take_recent_iff_of_last_use {before later : List String} {text : String}
    (last : text ∉ later) (bound : Nat) :
    text ∈ (recent (before ++ text :: later)).take bound ↔ later.dedup.length < bound := by
  obtain ⟨older, order⟩ := recent_of_last_use before last
  have fresh : text ∉ recent later := fun inside => last (mem_recent.1 inside)
  have used : text ∈ recent (before ++ text :: later) := mem_recent.2 (by simp)
  rw [List.mem_take_iff_idxOf_lt used, order, List.idxOf_append_of_notMem fresh,
    List.idxOf_cons_self]
  simp [recent]

/-- A text is among the most recent ones when few have been used since its last use. -/
theorem mem_take_recent_iff (used : List String) (text : String) (bound : Nat) :
    text ∈ (recent used).take bound ↔
      ∃ before later, used = before ++ text :: later ∧ text ∉ later ∧
        later.dedup.length < bound := by
  constructor
  · intro inside
    have isUsed : text ∈ used.reverse :=
      List.mem_reverse.2 (mem_recent.1 (List.mem_of_mem_take inside))
    obtain ⟨later, before, shape, last⟩ := List.eq_append_cons_of_mem isUsed
    have split : used = before.reverse ++ text :: later.reverse := by
      rw [← List.reverse_reverse used, shape]
      simp
    have last' : text ∉ later.reverse := by simpa using last
    subst split
    exact ⟨_, _, rfl, last', (mem_take_recent_iff_of_last_use last' bound).1 inside⟩
  · rintro ⟨before, later, rfl, last, few⟩
    exact (mem_take_recent_iff_of_last_use last bound).2 few

namespace RecencyCache

variable {κ β : Type} [TextCache κ β] [RecencyCache κ β] {cache : κ} {key : String}

theorem keys_unknown (unknown : (entries cache).lookup key = none) :
    key ∉ keys cache := by
  intro stored
  obtain ⟨entry, inside, rfl⟩ := List.mem_map.1 stored
  have apart := List.lookup_eq_none_iff.1 unknown entry inside
  simp at apart

theorem mem_entries {content : β} (stored : (entries cache).lookup key = some content) :
    (key, content) ∈ entries cache := by
  obtain ⟨before, after, shape, _⟩ := List.lookup_eq_some_iff.1 stored
  simp [shape]

theorem keys_stored {content : β} (stored : (entries cache).lookup key = some content) :
    key ∈ keys cache :=
  List.mem_map.2 ⟨_, mem_entries stored, rfl⟩

/-- Looking up a stored key makes it the one used last. -/
theorem keys_get {content : β} (fits : (entries cache).length ≤ capacity cache)
    (stored : (entries cache).lookup key = some content) :
    keys (TextCache.get cache key).2 =
      key :: (keys cache).filter fun other => other != key := by
  rw [keys, (get_stored cache key content fits stored).2, List.map_cons, keys, List.filter_map]
  rfl

/-- A new key is the one used last, and the oldest one makes place for it. -/
theorem entries_put {content : β} {room : Nat} (bound : capacity cache = room + 1)
    (fits : (entries cache).length ≤ capacity cache)
    (unknown : (entries cache).lookup key = none) :
    entries (TextCache.put cache key content) = (key, content) :: (entries cache).take room := by
  rcases Nat.lt_or_eq_of_le fits with free | full
  · rw [put_with_room cache key content unknown free, List.take_of_length_le (by omega)]
  · have last : (entries cache).length - 1 = room := by omega
    rw [put_when_full cache key content unknown (by omega) full, List.dropLast_eq_take, last]

theorem keys_put {content : β} {room : Nat} (bound : capacity cache = room + 1)
    (fits : (entries cache).length ≤ capacity cache)
    (unknown : (entries cache).lookup key = none) :
    keys (TextCache.put cache key content) = key :: (keys cache).take room := by
  rw [keys, entries_put bound fits unknown, List.map_cons, keys, List.map_take]

end RecencyCache

/-- The text that an operation compiles. -/
def Call.text? : Call → Option String
  | .compile text => some text
  | .formula text => some text
  | .evaluate _ text _ => some text
  | .evaluateAs _ text _ _ => some text
  | .calculate _ text _ => some text
  | .clearCache => none

/-- The text that an operation uses: the one it compiles, if that parses. -/
def Call.use? (call : Call) : Option String :=
  call.text?.filter fun text => (Expr.parse text).isOk

/-- The texts used since the cache was last cleared, in the order of their use. -/
def uses (calls : List Call) : List String :=
  (calls.rtakeWhile fun call => call.text?.isSome).filterMap Call.use?

theorem uses_append_compiling {call : Call} {text : String} (compiles : call.text? = some text)
    (calls : List Call) : uses (calls ++ [call]) = uses calls ++ call.use?.toList := by
  rw [uses, List.rtakeWhile_concat_pos _ _ _ (by simp [compiles]), List.filterMap_append, uses]
  cases used : call.use? <;> simp [used]

theorem uses_append_clearing {call : Call} (clears : call.text? = none) (calls : List Call) :
    uses (calls ++ [call]) = [] := by
  rw [uses, List.rtakeWhile_concat_neg _ _ _ (by simp [clears])]
  rfl

namespace CachedEngine

variable {κ : Type} [TextCache κ (Expr Float)]

/-- Whatever is done with the tree, the cache is that after compiling. -/
theorem step_snd_of_text? {call : Call} {text : String} (compiles : call.text? = some text)
    (engine : CachedEngine κ) : (engine.step call).2 = (engine.compile text).2 := by
  have evaluated : ∀ bases environment,
      (engine.evaluate bases text environment).2 = (engine.compile text).2 := by
    intro bases environment
    unfold evaluate
    cases engine.compile text with
    | mk outcome after => cases outcome <;> rfl
  cases call with
  | compile text =>
    cases compiles
    rfl
  | formula text =>
    cases compiles
    simp only [step, formula]
    cases engine.compile text with
    | mk outcome after => cases outcome <;> rfl
  | evaluate bases text environment =>
    cases compiles
    exact evaluated bases environment
  | evaluateAs bases text environment target =>
    cases compiles
    rw [← evaluated bases environment]
    simp only [step, evaluateAs]
    cases engine.evaluate bases text environment with
    | mk outcome after => cases outcome <;> rfl
  | calculate bases text environment =>
    cases compiles
    exact evaluated bases environment
  | clearCache => cases compiles

theorem run_append_singleton (engine : CachedEngine κ) (calls : List Call) (call : Call) :
    (engine.run (calls ++ [call])).2 = ((engine.run calls).2.step call).2 := by
  induction calls generalizing engine with
  | nil => rfl
  | cons first rest ih => exact ih (engine.step first).2

variable [RecencyCache κ (Expr Float)]

/-- The cache holds, of the texts used, those used last, each with its tree. -/
structure Recalls (capacity : Nat) (used : List String) (cache : κ) : Prop where
  bound : RecencyCache.capacity cache = capacity
  keys : RecencyCache.keys cache = (recent used).take capacity
  trees : ∀ entry ∈ RecencyCache.entries cache,
    Expr.parse entry.1 = .ok entry.2

variable {capacity room : Nat} {used : List String} {cache : κ} {engine : CachedEngine κ}

theorem Recalls.fits (recalls : Recalls capacity used cache) :
    (RecencyCache.entries cache).length ≤
      RecencyCache.capacity cache := by
  have length := congrArg List.length recalls.keys
  simp only [RecencyCache.keys, List.length_map, List.length_take] at length
  rw [length, recalls.bound]
  exact Nat.min_le_left _ _

/-- Compiling either finds the tree of the text, or makes it and stores it, or is refused. -/
inductive Compiles (engine : CachedEngine κ) (text : String) : CachedEngine κ → Prop where
  | found (tree : Expr Float)
      (stored : (RecencyCache.entries engine.cache).lookup text = some tree) :
      Compiles engine text { engine with cache := (TextCache.get engine.cache text).2 }
  | made (tree : Expr Float)
      (unknown : (RecencyCache.entries engine.cache).lookup text = none)
      (parsed : Expr.parse text = .ok tree) :
      Compiles engine text { engine with cache := TextCache.put engine.cache text tree }
  | refused (error : ParseError)
      (unknown : (RecencyCache.entries engine.cache).lookup text = none)
      (failed : Expr.parse text = .error error) : Compiles engine text engine

theorem compiles (fits : (RecencyCache.entries engine.cache).length ≤
    RecencyCache.capacity engine.cache) (text : String) :
    Compiles engine text (engine.compile text).2 := by
  unfold compile
  cases stored : (RecencyCache.entries engine.cache).lookup text with
  | some tree =>
    have given := (RecencyCache.get_stored engine.cache text tree fits stored).1
    have after := Compiles.found tree stored
    cases got : TextCache.get engine.cache text with
    | mk content cache =>
      rw [got] at given after
      cases given
      exact after
  | none =>
    rw [RecencyCache.get_unknown engine.cache text stored]
    cases parsed : Expr.parse text with
    | ok tree => exact .made tree stored parsed
    | error error => exact .refused error stored parsed

/-- A text that parses becomes the one used last, whether its tree was found or made. -/
theorem recalls_compile (recalls : Recalls (room + 1) used engine.cache) {text : String}
    {tree : Expr Float} (parsed : Expr.parse text = .ok tree) :
    Recalls (room + 1) (used ++ [text]) (engine.compile text).2.cache := by
  have front : ((RecencyCache.keys engine.cache).filter fun other => other != text).take room =
      ((recent used).filter fun other => other != text).take room := by
    rw [recalls.keys]
    exact take_filter_take _ text (nodup_recent used) room
  have order : (recent (used ++ [text])).take (room + 1) =
      text :: ((RecencyCache.keys engine.cache).filter fun other => other != text).take room := by
    rw [recent_append_singleton, List.take_succ_cons, front]
  have compiled := compiles recalls.fits text
  generalize (engine.compile text).2 = after at compiled ⊢
  cases compiled with
  | found tree stored =>
    refine ⟨(RecencyCache.capacity_get _ _).trans recalls.bound, ?_, ?_⟩
    · have fewer : ((RecencyCache.keys engine.cache).filter fun other => other != text).length ≤
          room := by
        have less := length_filter_ne_lt (RecencyCache.keys_stored stored)
        have all : (RecencyCache.keys engine.cache).length ≤ room + 1 := by
          rw [recalls.keys]
          exact List.length_take_le _ _
        omega
      rw [RecencyCache.keys_get recalls.fits stored, order, List.take_of_length_le fewer]
    · rw [(RecencyCache.get_stored _ _ _ recalls.fits stored).2]
      intro entry inside
      rcases List.mem_cons.1 inside with rfl | older
      · exact recalls.trees _ (RecencyCache.mem_entries stored)
      · exact recalls.trees entry (List.mem_of_mem_filter older)
  | made tree unknown parsed =>
    have absent := RecencyCache.keys_unknown unknown
    have all : ((RecencyCache.keys engine.cache).filter fun other => other != text) =
        RecencyCache.keys engine.cache := by
      apply List.filter_eq_self.2
      intro other inside
      simpa using fun equal : other = text => absent (equal ▸ inside)
    refine ⟨(RecencyCache.capacity_put _ _ _).trans recalls.bound, ?_, ?_⟩
    · rw [RecencyCache.keys_put recalls.bound recalls.fits unknown, order, all]
    · rw [RecencyCache.entries_put recalls.bound recalls.fits unknown]
      intro entry inside
      rcases List.mem_cons.1 inside with rfl | older
      · exact parsed
      · exact recalls.trees entry (List.mem_of_mem_take older)
  | refused error unknown failed =>
    rw [parsed] at failed
    cases failed

/-- A text that does not parse changes nothing. -/
theorem compile_of_error (recalls : Recalls capacity used engine.cache) {text : String}
    {error : ParseError} (failed : Expr.parse text = .error error) :
    (engine.compile text).2 = engine := by
  have compiled := compiles recalls.fits text
  generalize (engine.compile text).2 = after at compiled ⊢
  cases compiled with
  | found tree stored =>
    have parsed := recalls.trees _ (RecencyCache.mem_entries stored)
    rw [failed] at parsed
    cases parsed
  | made tree unknown parsed =>
    rw [failed] at parsed
    cases parsed
  | refused error unknown failed => rfl

theorem event?_eq_hit_iff (recalls : Recalls capacity used engine.cache) (text : String) :
    engine.event? text = some .hit ↔ text ∈ (recent used).take capacity := by
  rw [← recalls.keys, event?]
  cases stored : (RecencyCache.entries engine.cache).lookup text with
  | some tree =>
    rw [(RecencyCache.get_stored _ _ _ recalls.fits stored).1]
    simp [RecencyCache.keys_stored stored]
  | none =>
    rw [RecencyCache.get_unknown _ _ stored]
    have absent := RecencyCache.keys_unknown stored
    cases outcome : (Expr.parse text).isOk <;> simp [absent]

/-- An operation uses its text, or empties the cache, or leaves it as it was. -/
theorem recalls_step (calls : List Call)
    (recalls : Recalls (room + 1) (uses calls) engine.cache) (call : Call) :
    Recalls (room + 1) (uses (calls ++ [call])) (engine.step call).2.cache := by
  cases compiles : call.text? with
  | none =>
    rw [uses_append_clearing compiles]
    cases call with
    | clearCache =>
      have empty : RecencyCache.entries (engine.step .clearCache).2.cache = [] :=
        RecencyCache.entries_clear engine.cache
      refine ⟨(RecencyCache.capacity_clear _).trans recalls.bound, ?_, ?_⟩
      · rw [RecencyCache.keys, empty]
        rfl
      · simp [empty]
    | _ => cases compiles
  | some text =>
    rw [uses_append_compiling compiles, step_snd_of_text? compiles, Call.use?, compiles]
    cases outcome : Expr.parse text with
    | ok tree =>
      simpa [Option.filter, outcome, Except.isOk, Except.toBool] using
        recalls_compile recalls outcome
    | error error =>
      rw [compile_of_error recalls outcome]
      simpa [Option.filter, outcome, Except.isOk, Except.toBool] using recalls

theorem recalls_of_create {bases : Bases} {system : QuantitySystem Float}
    {options : Options Float} (created : create bases system capacity options = .ok engine) :
    Recalls capacity [] engine.cache := by
  unfold create at created
  split at created
  · cases created
    refine ⟨RecencyCache.capacity_fresh capacity, ?_, ?_⟩
    · simp [RecencyCache.keys, RecencyCache.entries_fresh, recent]
    · simp [RecencyCache.entries_fresh]
  · cases created

/-- The induction is on the operations from the last one back, as the history of uses is. -/
theorem recalls_run (start : Recalls (room + 1) [] engine.cache) (calls : List Call) :
    Recalls (room + 1) (uses calls) (engine.run calls).2.cache := by
  induction calls using List.reverseRecOn with
  | nil => exact start
  | append_singleton calls call ih =>
    rw [run_append_singleton]
    exact recalls_step calls ih call

/-- The cache of an engine after any operations. It holds the texts used last, as many of the
distinct ones as fit, in the order of their last use. A text is found when it has been used and,
since then, fewer distinct other texts than fit. What does not parse changes nothing; what parses
becomes the text used last, even if it is then not evaluated with success. -/
theorem cache_of_run {bases : Bases} {system : QuantitySystem Float} {options : Options Float}
    (positive : 0 < capacity) (created : create bases system capacity options = .ok engine)
    (calls : List Call) :
    RecencyCache.keys (engine.run calls).2.cache = (uses calls).dedup.reverse.take capacity ∧
    (∀ entry ∈ RecencyCache.entries (engine.run calls).2.cache,
      Expr.parse entry.1 = .ok entry.2) ∧
    RecencyCache.size (engine.run calls).2.cache = min capacity (uses calls).dedup.length ∧
    RecencyCache.size (engine.run calls).2.cache ≤ capacity ∧
    (∀ text, (engine.run calls).2.event? text = some .hit ↔
      ∃ before later, uses calls = before ++ text :: later ∧ text ∉ later ∧
        later.dedup.length < capacity) ∧
    (∀ call text error, call.text? = some text → Expr.parse text = .error error →
      ((engine.run calls).2.step call).2 = (engine.run calls).2) ∧
    (∀ call text tree, call.text? = some text → Expr.parse text = .ok tree →
      RecencyCache.keys ((engine.run calls).2.step call).2.cache =
        (text :: (RecencyCache.keys (engine.run calls).2.cache).filter
          fun other => other != text).take capacity) := by
  obtain ⟨room, rfl⟩ := Nat.exists_eq_succ_of_ne_zero (Nat.ne_of_gt positive)
  have recalls := recalls_run (recalls_of_create created) calls
  have size : RecencyCache.size (engine.run calls).2.cache =
      min (room + 1) (uses calls).dedup.length := by
    have length := congrArg List.length recalls.keys
    simpa [RecencyCache.keys, recent, RecencyCache.size_eq] using length
  refine ⟨recalls.keys, recalls.trees, size, by omega, ?_, ?_, ?_⟩
  · intro text
    rw [event?_eq_hit_iff recalls, mem_take_recent_iff]
  · intro call text error compiles failed
    rw [step_snd_of_text? compiles, compile_of_error recalls failed]
  · intro call text tree compiles parsed
    rw [step_snd_of_text? compiles, (recalls_compile recalls parsed).keys, recalls.keys,
      recent_append_singleton, List.take_succ_cons, List.take_succ_cons,
      take_filter_take _ text (nodup_recent _)]

/-- Of three texts used, an engine with room for two forgets the one that was used last before the
two others. Its last use of a text fails in evaluation, and the last operation in parsing. -/
theorem cache_of_crowded_engine :
    let system : QuantitySystem Float := QuantitySystem.create ⟨0⟩ 0
    let bases := Bases.empty.issue.freeze system.layout
    let engine : Engine := ⟨system, Cache.empty 2, Options.standard⟩
    let calls : List Call := [.compile "1", .compile "2", .formula "1",
      .evaluate bases "x" Environment.empty, .compile "1 +"]
    0 < 2 ∧ Engine.create bases system 2 Options.standard = .ok engine ∧
      (engine.run calls).2.cache.keys = ["x", "1"] ∧ (engine.run calls).2.cache.size = 2 ∧
      (engine.run calls).2.event? "1" = some .hit := by
  intro system bases engine calls
  have created : create bases system 2 Options.standard = .ok engine := rfl
  obtain ⟨keys, _, size, _, hits, _⟩ := cache_of_run (by decide : 0 < 2) created calls
  have used : uses calls = ["1", "2", "1", "x"] := by decide +kernel
  rw [used] at keys size hits
  refine ⟨by decide, created, keys.trans (by decide), size.trans (by decide), (hits "1").2 ?_⟩
  exact ⟨["1", "2"], ["x"], rfl, by decide, by decide⟩

end CachedEngine

end Dimensional.Formula
