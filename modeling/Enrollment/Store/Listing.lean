import Enrollment.Uuid

/-! # Listings

A listing has identifiers under keys, a list of them under each. Pairs of a key and an identifier
are listed one by one, and what is under a key can be taken away as a whole.

* `under_push`, `under_without`: one more identifier, or a key less, changes nothing under any other
  key.
* `under_ofKeys`: what is listed under a key is what came with it, in the same order. -/

namespace Enrollment.Store

/-- Lists of identifiers, each under the identifier of what it belongs to. -/
abbrev Listing := List (Uuid × List Uuid)

namespace Listing

/-- One more identifier under a key, after those that are there. -/
def push (key id : Uuid) : Listing → Listing
  | [] => [(key, [id])]
  | (k, ids) :: l => if k = key then (k, ids ++ [id]) :: l else (k, ids) :: push key id l

/-- What is listed under a key, which is nothing if the key is not there. -/
def under (key : Uuid) : Listing → List Uuid
  | [] => []
  | (k, ids) :: l => if k = key then ids else under key l

/-- The listing with a key taken away. -/
def without (key : Uuid) : Listing → Listing
  | [] => []
  | (k, ids) :: l => if k = key then without key l else (k, ids) :: without key l

/-- Identifiers listed one by one, each under the key that it comes with. -/
def ofPairs (pairs : List (Uuid × Uuid)) : Listing := pairs.foldl (fun l a => push a.1 a.2 l) []

/-- The identifiers that come with one of some keys, listed under it. -/
def ofKeys (keys : List Uuid) (pairs : List (Uuid × Uuid)) : Listing :=
  ofPairs (pairs.filter (keys.contains ·.1))

theorem under_push (key id k : Uuid) (l : Listing) :
    under k (push key id l) = if k = key then under k l ++ [id] else under k l := by
  induction l with
  | nil => by_cases h : key = k <;> simp [push, under, h, eq_comm (a := k)]
  | cons entry l ih =>
    obtain ⟨k', ids⟩ := entry
    by_cases hkey : k' = key
    · subst hkey
      by_cases h : k' = k <;> simp [push, under, h, eq_comm (a := k)]
    · by_cases h : k' = k
      · simp [push, under, ← h, hkey]
      · simp [push, under, h, hkey, ih]

theorem under_without (key k : Uuid) (l : Listing) :
    under k (without key l) = if k = key then [] else under k l := by
  induction l with
  | nil => simp [without, under]
  | cons entry l ih =>
    obtain ⟨k', ids⟩ := entry
    by_cases hkey : k' = key
    · subst hkey
      by_cases h : k = k'
      · rw [without, if_pos rfl, ih, if_pos h, if_pos h]
      · rw [without, if_pos rfl, ih, if_neg h, if_neg h, under, if_neg (Ne.symm h)]
    · by_cases h : k' = k
      · simp [without, under, ← h, hkey]
      · simp [without, under, h, hkey, ih]

theorem under_foldl_push (pairs : List (Uuid × Uuid)) (l : Listing) (key : Uuid) :
    under key (pairs.foldl (fun l a => push a.1 a.2 l) l) =
      under key l ++ (pairs.filter (·.1 = key)).map (·.2) := by
  induction pairs generalizing l with
  | nil => simp
  | cons a pairs ih =>
    rw [List.foldl_cons, ih, under_push, List.filter_cons]
    by_cases h : a.1 = key <;> simp [h, eq_comm (a := key)]

/-- **What is listed under a key** is what came with it, in the same order. -/
theorem under_ofPairs (pairs : List (Uuid × Uuid)) (key : Uuid) :
    under key (ofPairs pairs) = (pairs.filter (·.1 = key)).map (·.2) :=
  under_foldl_push pairs [] key

theorem under_ofKeys {keys : List Uuid} {key : Uuid} (h : key ∈ keys)
    (pairs : List (Uuid × Uuid)) :
    under key (ofKeys keys pairs) = (pairs.filter (·.1 = key)).map (·.2) := by
  rw [ofKeys, under_ofPairs, List.filter_filter]
  refine congrArg _ (List.filter_congr fun a _ => ?_)
  by_cases ha : a.1 = key <;> simp [ha, h]

theorem under_ofKeys_map {ρ : Type} {keys : List Uuid} {key : Uuid} (h : key ∈ keys)
    (rows : List ρ) (owner named : ρ → Uuid) :
    under key (ofKeys keys (rows.map fun r => (owner r, named r))) =
      (rows.filter (owner · = key)).map named := by
  rw [under_ofKeys h, List.filter_map, List.map_map]
  rfl

end Listing

end Enrollment.Store
