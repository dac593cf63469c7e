/-
  Inlay.Value.Dictionary
  ────────────────────────────────
  **DICTIONARIES.**

  A dictionary maps keys to values and remembers the order in which the keys
  came.  A key that is set again keeps its place; one that is removed leaves
  a gap there, so that the places of the others stay what they were.

  `get?` is the view of a dictionary as a mapping, `toList` as a sequence of
  entries; the lemmas say what `put` and `drop` do to the first one, and how
  many entries there are when new ones have been put in.
-/
import Inlay.Value.Key
import Std.Data.HashMap

namespace Inlay

/-- What a dictionary holds of a key: its place, the value that was the key first, and its
value. -/
structure Entry where
  place : Nat
  key : Value
  value : Value

/-- A dictionary: the entries by key, and the keys by place. -/
structure Dictionary where
  table : Std.HashMap Key Entry := ∅
  order : Array (Option Key) := #[]

namespace Dictionary

/-! ## §1. Reading. -/

/-- The dictionary without entries. -/
def empty : Dictionary := {}

instance : Inhabited Dictionary := ⟨empty⟩

/-- The number of entries. -/
def size (d : Dictionary) : Nat := d.table.size

/-- The value of a key. -/
def get? (d : Dictionary) (key : Value) : Option Value := d.table[key.key]?.map Entry.value

/-- Has the key an entry? -/
def contains (d : Dictionary) (key : Value) : Bool := d.table.contains key.key

/-- The entry at a place, if there is no gap. -/
def at? (d : Dictionary) (place : Nat) : Option (Value × Value) :=
  match d.order[place]? with
  | some (some k) => d.table[k]?.map (fun e => (e.key, e.value))
  | _ => none

/-- The number of places, gaps included. -/
def span (d : Dictionary) : Nat := d.order.size

/-- The entries in order. -/
def toList (d : Dictionary) : List (Value × Value) :=
  d.order.toList.filterMap (fun o =>
    o.bind (fun k => d.table[k]?.map (fun e => (e.key, e.value))))

/-! ## §2. Changing. -/

/-- The dictionary with the value of a key changed, or with a new entry at the end. -/
def put (d : Dictionary) (key value : Value) : Dictionary :=
  let k := key.key
  match d.table[k]? with
  | some e => { d with table := d.table.insert k { e with value := value } }
  | none =>
    { table := d.table.insert k ⟨d.order.size, key, value⟩
      order := d.order.push (some k) }

/-- The dictionary without the entry of a key. -/
def drop (d : Dictionary) (key : Value) : Dictionary :=
  let k := key.key
  match d.table[k]? with
  | some e => { table := d.table.erase k, order := d.order.setIfInBounds e.place none }
  | none => d

/-- The dictionary with some entries added, which win. -/
def putAll (d : Dictionary) (entries : List (Value × Value)) : Dictionary :=
  entries.foldl (fun d e => d.put e.1 e.2) d

/-- The dictionary of some entries. -/
def ofList (entries : List (Value × Value)) : Dictionary := empty.putAll entries

/-- The last entry in front of a place. -/
def entryBefore? (d : Dictionary) : Nat → Option (Value × Value)
  | 0 => none
  | n + 1 => (d.at? n).or (d.entryBefore? n)

/-- The last entry. -/
def last? (d : Dictionary) : Option (Value × Value) := d.entryBefore? d.span

/-- The dictionary without the entry of a key, and without the places from that one on.  It is
meant for the last entry. -/
def dropLast (d : Dictionary) (key : Value) : Dictionary :=
  let k := key.key
  match d.table[k]? with
  | some e => { table := d.table.erase k, order := d.order.shrink e.place }
  | none => d

/-! ## §3. Names as keys. -/

/-- The value of a name. -/
def named? (d : Dictionary) (name : String) : Option Value := d.get? (.text name)

/-- The dictionary with the value of a name changed, or with a new entry at the end. -/
def putName (d : Dictionary) (name : String) (value : Value) : Dictionary :=
  d.put (.text name) value

/-- The dictionary of some bindings. -/
def ofBindings (bindings : List (String × Value)) : Dictionary :=
  bindings.foldl (fun d b => d.putName b.1 b.2) empty

/-- The bindings among the entries: those whose key is a text. -/
def bindings (d : Dictionary) : List (String × Value) :=
  d.toList.filterMap (fun e =>
    match e.1 with
    | .text s => some (s, e.2)
    | _ => none)

/-! ## §4. What changes do to the mapping. -/

@[simp]
theorem get?_empty (key : Value) : empty.get? key = none := by
  simp [get?, empty]

theorem get?_put (d : Dictionary) (key value other : Value) :
    (d.put key value).get? other = if key.key = other.key then some value else d.get? other := by
  unfold put get?
  dsimp only
  split <;> rw [Std.HashMap.getElem?_insert] <;> by_cases hk : key.key = other.key <;> simp [hk]

theorem get?_drop (d : Dictionary) (key other : Value) :
    (d.drop key).get? other = if key.key = other.key then none else d.get? other := by
  unfold drop get?
  cases h : d.table[key.key]? with
  | none => by_cases hk : key.key = other.key <;> simp_all
  | some e => by_cases hk : key.key = other.key <;> simp_all [Std.HashMap.getElem?_erase]

theorem contains_eq_isSome (d : Dictionary) (key : Value) :
    d.contains key = (d.get? key).isSome := by
  simp [contains, get?]

/-! ## §5. New entries. -/

theorem put_new {d : Dictionary} {key : Value} (h : d.contains key = false) (value : Value) :
    d.put key value =
      ⟨d.table.insert key.key ⟨d.span, key, value⟩, d.order.push (some key.key)⟩ := by
  have hnone : d.table[key.key]? = none := by
    apply Std.HashMap.getElem?_eq_none
    rw [← Std.HashMap.contains_iff_mem]
    unfold contains at h
    rw [h]
    exact Bool.false_ne_true
  unfold put
  dsimp only
  rw [hnone]
  rfl

theorem size_put_new {d : Dictionary} {key : Value} (h : d.contains key = false) (value : Value) :
    (d.put key value).size = d.size + 1 := by
  have hmem : ¬ key.key ∈ d.table := by
    rw [← Std.HashMap.contains_iff_mem]
    unfold contains at h
    rw [h]
    exact Bool.false_ne_true
  rw [put_new h]
  unfold size
  rw [Std.HashMap.size_insert, if_neg hmem]

theorem contains_put (d : Dictionary) (key value other : Value) :
    (d.put key value).contains other = (decide (key.key = other.key) || d.contains other) := by
  rw [contains_eq_isSome, contains_eq_isSome, get?_put]
  by_cases h : key.key = other.key <;> simp [h]

theorem span_put_new {d : Dictionary} {key : Value} (h : d.contains key = false) (value : Value) :
    (d.put key value).span = d.span + 1 := by
  rw [put_new h]
  unfold span
  rw [Array.size_push]

/-- New entries, with different keys, are all counted. -/
theorem size_putAll (entries : List (Value × Value)) (d : Dictionary)
    (hdiff : (entries.map (fun e => e.1.key)).Nodup)
    (hnew : ∀ e ∈ entries, d.contains e.1 = false) :
    (d.putAll entries).size = d.size + entries.length := by
  induction entries generalizing d with
  | nil => rfl
  | cons e es ih =>
    rw [List.map_cons, List.nodup_cons] at hdiff
    have hrest : ∀ e' ∈ es, (d.put e.1 e.2).contains e'.1 = false := by
      intro e' he'
      have hne : e.1.key ≠ e'.1.key := fun heq =>
        hdiff.1 (heq ▸ List.mem_map_of_mem he')
      rw [contains_put, decide_eq_false hne, hnew e' (List.mem_cons_of_mem _ he')]
      rfl
    show ((d.put e.1 e.2).putAll es).size = _
    rw [ih _ hdiff.2 hrest, size_put_new (hnew e (List.mem_cons_self ..)), List.length_cons]
    omega

/-- Entries with different keys are all counted. -/
theorem size_ofList {entries : List (Value × Value)}
    (hdiff : (entries.map (fun e => e.1.key)).Nodup) : (ofList entries).size = entries.length := by
  have hnew : ∀ e ∈ entries, empty.contains e.1 = false := by
    intro e _
    rw [contains_eq_isSome, get?_empty]
    rfl
  unfold ofList
  rw [size_putAll entries empty hdiff hnew]
  exact Nat.zero_add _

end Dictionary

end Inlay
