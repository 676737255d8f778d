import RecordFilter.Json.Basic

/-!
# Bound parameters

`Params` holds named values in the order in which the names first came up, and the number of the
last generated name. `bind` takes a fresh name `p1`, `p2`, …; `set` takes the caller's name. A
`Mark` remembers a state that `rollback` returns to: what was added since is dropped.
-/

namespace RecordFilter.Sql

structure Params where
  entries : List (String × Json) := []
  /-- The number of the last generated name. -/
  last : Nat := 0
deriving Inhabited

structure Params.Mark where
  size : Nat
  last : Nat
deriving DecidableEq, Inhabited

namespace Params

def generated (n : Nat) : String := String.ofList ('p' :: Nat.toDigits 10 n)

def find? (ps : Params) (name : String) : Option Json := Json.find? name ps.entries

def contains (ps : Params) (name : String) : Bool := (ps.find? name).isSome

def names (ps : Params) : List String := ps.entries.map Prod.fst

/-- The first number after `n` whose name is free, looking at `tries` more. -/
def freeAfter (ps : Params) : Nat → Nat → Nat
  | 0, n => n + 1
  | tries + 1, n => if ps.contains (generated (n + 1)) then ps.freeAfter tries (n + 1) else n + 1

/-- The number of the next generated name. One number more than there are entries is tried, so
one of them is free. -/
def nextNumber (ps : Params) : Nat := ps.freeAfter ps.entries.length ps.last

def bind (ps : Params) (value : Json) : String × Params :=
  let n := ps.nextNumber
  (generated n, { entries := ps.entries ++ [(generated n, value)], last := n })

/-- Binds a value under a given name, in place of the value it had. -/
def set (ps : Params) (name : String) (value : Json) : Params :=
  { ps with entries := Json.put name value ps.entries }

/-- Replaces the value of a name that is bound; any other name is left alone. -/
def update (ps : Params) (name : String) (value : Json) : Params :=
  if ps.contains name then ps.set name value else ps

def mark (ps : Params) : Mark := ⟨ps.entries.length, ps.last⟩

/-- Drops every parameter added after the mark. -/
def rollback (ps : Params) (m : Mark) : Params :=
  { entries := ps.entries.take m.size, last := m.last }

theorem find?_set (ps : Params) (name k : String) (value : Json) :
    (ps.set name value).find? k = if k = name then some value else ps.find? k :=
  Json.find?_put name k value ps.entries

theorem names_bind (ps : Params) (value : Json) :
    (ps.bind value).2.names = ps.names ++ [(ps.bind value).1] := by
  simp [bind, names]

end Params

end RecordFilter.Sql
