/-
  Inlay.World
  ────────────────────────────────
  **THE STATE OF A PROGRAM.**

  A world is what running code can look at and change: the heap with its
  objects, and the environment with its store of templates.

  A state is a world with what stands apart from it.  Programs keep values
  under reserved names next to the names of a template's author.  These are
  no entries of the author's dictionary until somebody asks for the
  dictionary itself; and they may be locked away, which leaves nothing but
  the values that the lock names.
-/
import Inlay.Loader
import Inlay.RenderContext
import Inlay.Value.Dictionary

namespace Inlay

open Inlay.Code

/-! ## §1. Objects. -/

/-- A scope of a function or of a comprehension: the names that belong to it, the values of those
that are bound, and the names that it takes from the module. -/
structure Scope where
  names : List String
  bound : List (String × Value)
  globalNames : List String

/-- A generator expression between two of its values: the iterators of the clauses that it is
in, innermost first. -/
structure Generator where
  element : Expr
  clauses : List CompClause
  frame : Frame
  active : List Value

/-- What an iterator will give. -/
inductive Iter where
  /-- Values that are known. -/
  | values (rest : List Value) (kind : String)
  /-- The items of a list from an index on, whatever they are by then. -/
  | list (source : Ref) (index : Nat)
  /-- The items of a list in front of an index, the last one first. -/
  | listBack (source : Ref) (index : Nat)
  | range (next : Int) (count : Nat) (step : Int)
  /-- What a dictionary of a given size holds from a place on; so many entries are left. -/
  | dict (source : Ref) (kind : ViewKind) (place size left : Nat)
  /-- The rest of the members of a set of a given size. -/
  | members (source : Ref) (rest : List Value) (size : Nat)
  | enumerate (inner : Value) (count : Int)
  | map (f : Value) (inners : List Value)
  | filter (f inner : Value)
  | zip (inners : List Value) (strict : Bool)
  /-- What a function gives, until it is a certain value. -/
  | calls (f sentinel : Value)
  | generator (g : Generator)
  /-- A generator that is at work. -/
  | running
  | exhausted (kind : String)

/-- An object of the heap. -/
inductive Object where
  | list (items : Array Value)
  | dict (d : Dictionary)
  /-- A set, as a dictionary of its members. -/
  | set (members : Dictionary)
  /-- An object of the host program with fields. -/
  | record (fields : List (String × Value))
  | context (c : RenderContext)
  | scope (s : Scope)
  | iter (i : Iter)
  /-- A value in a place of its own. -/
  | cell (v : Value)

instance : Inhabited Object := ⟨.list #[]⟩

/-! ## §2. Templates and environments. -/

/-- A template that can be rendered. -/
structure CompiledTemplate where
  /-- Tells templates apart that were compiled at different times. -/
  id : Nat
  name : Option String
  filename : Option String
  source : String
  program : List Stmt

/-- How many templates an environment keeps unless it is told otherwise. -/
def defaultCacheSize : Int := 400

/-- A configuration, with the templates that were loaded. -/
structure Environment where
  loader : Option Loader := none
  globals : List (String × Value) := []
  keepsTrailingNewline : Bool := true
  maxIncludeDepth : Int := defaultMaxIncludeDepth
  cacheSize : Int := defaultCacheSize
  /-- The templates that are kept, by name, the one used longest ago first. -/
  cache : List (String × CompiledTemplate) := []

/-! ## §3. Worlds. -/

/-- What running code can look at and change. -/
structure World where
  heap : Array Object := #[]
  environment : Environment := {}
  /-- Do reports use colours? -/
  colours : Bool := false
  /-- The number of templates compiled so far. -/
  compiled : Nat := 0
  /-- The names that templates were got by since the store was cleared, the last one first.  Nothing
  looks at them: they are what an observer would write down. -/
  history : List String := []
  /-- The exceptions that are being handled, innermost first. -/
  handled : List Exc := []
  /-- The next number that tells an object apart. -/
  unused : Nat := 1

instance : Inhabited World := ⟨{}⟩

/-- An object with its items changed, if it is a list. -/
def Object.mapItems (f : Array Value → Array Value) : Object → Object
  | .list items => .list (f items)
  | o => o

/-- An object with its entries changed, if it is a dictionary. -/
def Object.mapEntries (f : Dictionary → Dictionary) : Object → Object
  | .dict d => .dict (f d)
  | o => o

/-- An object with its members changed, if it is a set. -/
def Object.mapMembers (f : Dictionary → Dictionary) : Object → Object
  | .set d => .set (f d)
  | o => o

/-- What stands in the place of an object where another one is put; a context stays. -/
def Object.replacedBy : Object → Object → Object
  | .context c, _ => .context c
  | _, o => o

/-- An object with another line, if it is a context. -/
def Object.atLine (line : Int) : Object → Object
  | .context c => .context { c with line }
  | o => o

/-- The render context at a place, without its source. -/
def World.contextAt? (w : World) (r : Ref) : Option RenderContext :=
  match w.heap[r]? with
  | some (.context c) => some c
  | _ => none

/-! ## §4. What stands apart. -/

/-- What a program keeps under a reserved name. -/
inductive Held where
  | value (v : Value)
  /-- A list of the program that nothing else refers to: its items, the last one first. -/
  | pieces (items : List Value)

/-- A reserved name of a program, and the number of places that the dictionary of the other names
had when this one came. -/
structure Kept where
  name : String
  place : Nat
  held : Held

/-- What stands apart from an object of the heap. -/
inductive Own where
  /-- The reserved names of the program with this dictionary, in the order in which they came. -/
  | kept (names : List Kept)
  /-- All names have become entries of this dictionary, and these lists were among them. -/
  | opened (lists : List (String × Ref))
  /-- The source of the template in this context. -/
  | source (text : Option String)
  /-- Nothing can be reached but the values of these names. -/
  | locked (names : List (String × Value))

namespace Own

instance : Inhabited Own := ⟨kept []⟩

/-- Is it locked away? -/
def isLocked : Own → Bool
  | locked _ => true
  | _ => false

/-- What is held under a name. -/
def find? (name : String) : List Kept → Option Held
  | [] => none
  | k :: ks => if k.name = name then some k.held else find? name ks

/-- The names with something held under one of them, which may be new. -/
def put (name : String) (place : Nat) (h : Held) : List Kept → List Kept
  | [] => [⟨name, place, h⟩]
  | k :: ks => if k.name = name then { k with held := h } :: ks else k :: put name place h ks

theorem find?_put (name other : String) (place : Nat) (h : Held) (ks : List Kept) :
    find? other (put name place h ks) = if name = other then some h else find? other ks := by
  induction ks with
  | nil =>
    unfold put find?
    rfl
  | cons k ks ih =>
    unfold put
    by_cases hk : k.name = name
    · rw [if_pos hk]
      unfold find?
      dsimp only
      rw [hk]
      split <;> rfl
    · rw [if_neg hk]
      unfold find?
      rw [ih]
      by_cases ho : k.name = other
      · rw [if_pos ho, if_pos ho, if_neg (fun h => hk (ho.trans h.symm))]
      · rw [if_neg ho, if_neg ho]

/-- The value under a name. -/
def value? (name : String) : Own → Option Value
  | kept ks =>
    match find? name ks with
    | some (.value v) => some v
    | _ => none
  | locked ns => ns.lookup name
  | _ => none

end Own

/-- The state of a program. -/
structure State where
  world : World := {}
  /-- The context of the innermost render in progress. -/
  current : Option Ref := none
  /-- What stands apart, by the place of the object. -/
  own : Std.HashMap Nat Own := ∅

instance : Inhabited State := ⟨{}⟩

namespace State

/-- What stands apart from the object at a place. -/
def ownOf (s : State) (r : Ref) : Own := s.own[r]?.getD default

/-- The state with what stands apart from an object changed. -/
def setOwn (s : State) (r : Ref) (o : Own) : State := { s with own := s.own.insert r o }

@[simp]
theorem setOwn_world (s : State) (r : Ref) (o : Own) : (s.setOwn r o).world = s.world := rfl

@[simp]
theorem setOwn_current (s : State) (r : Ref) (o : Own) : (s.setOwn r o).current = s.current := rfl

theorem ownOf_setOwn (s : State) (r t : Ref) (o : Own) :
    (s.setOwn r o).ownOf t = if r = t then o else s.ownOf t := by
  unfold setOwn ownOf
  rw [Std.HashMap.getElem?_insert]
  by_cases h : r = t <;> simp [h]

/-- Does what stands apart from the object at a place stay as it is?  It does if it is locked away,
or the source of a context. -/
def isFixed (s : State) (r : Ref) : Bool :=
  match s.ownOf r with
  | .locked _ => true
  | .source _ => (s.world.contextAt? r).isSome
  | _ => false

theorem isFixed_of_locked {s : State} {r : Ref} (h : (s.ownOf r).isLocked = true) :
    s.isFixed r = true := by
  unfold isFixed
  cases hown : s.ownOf r <;> rw [hown] at h <;> first | rfl | simp [Own.isLocked] at h

theorem isFixed_of_noContext {s : State} {r : Ref} (h : s.world.contextAt? r = none) :
    s.isFixed r = (s.ownOf r).isLocked := by
  unfold isFixed
  rw [h]
  cases s.ownOf r <;> rfl

theorem isFixed_of_kept {s : State} {r : Ref} {ks : List Kept} (h : s.ownOf r = .kept ks) :
    s.isFixed r = false := by
  unfold isFixed
  rw [h]

theorem isFixed_of_opened {s : State} {r : Ref} {lists : List (String × Ref)}
    (h : s.ownOf r = .opened lists) : s.isFixed r = false := by
  unfold isFixed
  rw [h]

@[simp]
theorem ownOf_setOwn_self (s : State) (r : Ref) (o : Own) : (s.setOwn r o).ownOf r = o := by
  rw [ownOf_setOwn, if_pos rfl]

end State

end Inlay
