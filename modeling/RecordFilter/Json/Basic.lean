import RecordFilter.Number.Binary64

/-!
# JSON values

A `Json` value keeps the members of an object in the order in which their keys first came up, and
holds each key once. A number is a whole number of at most 64 bits or a finite binary64 number.
-/

namespace RecordFilter

/-- A JSON number: a whole number between `-2 ^ 63` and `2 ^ 64 - 1`, or a fraction. -/
inductive Json.Numeric
  | int (n : Int)
  | real (x : Number.Binary64)
deriving DecidableEq, Repr, Inhabited

inductive Json
  | null
  | bool (b : Bool)
  | number (n : Json.Numeric)
  | text (s : String)
  | list (items : List Json)
  | object (members : List (String × Json))
deriving Repr, Inhabited

namespace Json

/-- Sets the value of a key: in its place if the key is there, else at the end. -/
def put {α : Type} (key : String) (value : α) : List (String × α) → List (String × α)
  | [] => [(key, value)]
  | (k, v) :: rest => if k = key then (k, value) :: rest else (k, v) :: put key value rest

def find? {α : Type} (key : String) : List (String × α) → Option α
  | [] => none
  | (k, v) :: rest => if k = key then some v else find? key rest

/-- Members in the order of their first keys, each key with its last value. -/
def settle {α : Type} (members : List (String × α)) : List (String × α) :=
  members.foldl (fun ms m => put m.1 m.2 ms) []

theorem find?_put {α : Type} (key k : String) (value : α) (ms : List (String × α)) :
    find? k (put key value ms) = if k = key then some value else find? k ms := by
  induction ms with
  | nil => simp [put, find?, eq_comm]
  | cons m rest ih =>
    obtain ⟨k', v⟩ := m
    by_cases h : k' = key
    · subst h
      by_cases hk : k = k'
      · simp [put, find?, hk]
      · simp [put, find?, hk, Ne.symm hk]
    · by_cases hk : k' = k
      · subst hk; simp [put, find?, h]
      · simp [put, find?, h, hk, ih]

theorem map_fst_put {α : Type} (key : String) (value : α) (ms : List (String × α)) :
    (put key value ms).map Prod.fst =
      if key ∈ ms.map Prod.fst then ms.map Prod.fst else ms.map Prod.fst ++ [key] := by
  induction ms with
  | nil => simp [put]
  | cons m rest ih =>
    obtain ⟨k', v⟩ := m
    by_cases h : k' = key
    · simp [put, h]
    · simp only [put, h, if_false, List.map_cons, ih, List.mem_cons, Ne.symm h, false_or]
      split <;> simp

theorem nodup_put {α : Type} (key : String) (value : α) {ms : List (String × α)}
    (h : (ms.map Prod.fst).Nodup) : ((put key value ms).map Prod.fst).Nodup := by
  rw [map_fst_put]
  split
  · exact h
  · next hk =>
    rw [List.nodup_append]
    exact ⟨h, by simp, by rintro a ha b hb rfl; exact hk (by simp_all)⟩

/-- The value below a value: a member by its key, an item by its index. -/
def child? (key : String) (index : Option Nat) : Json → Option Json
  | .object members => find? key members
  | .list items => index.bind fun i => items[i]?
  | _ => none

end Json

end RecordFilter
