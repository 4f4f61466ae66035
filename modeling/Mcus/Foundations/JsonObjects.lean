import Mathlib.Data.Finset.Basic

/-! # JSON objects as finite maps

`JsonLibrary` is what a program relies on that makes JSON values from strings of some type `S` and from
objects: strings come back as they were stored, and an object is the finite map of its members, in which
the first of two members with one key counts. `Json` is such a library, with keys in a finite set.
-/

namespace Mcus.JsonObjects
set_option autoImplicit false

universe u v

structure JsonLibrary (S : Type u) (J : Type v) where
  null : J
  string : S → J
  /-- An object from its members. -/
  object : List (String × J) → J
  /-- The member of an object; other values have none. -/
  find : J → String → Option J
  /-- The object with this member in place of an earlier one. -/
  set : J → String → J → J
  /-- The conversion to a string, which throws on other values. -/
  asString : J → Option S
  isEmpty : J → Bool
  asString_string : ∀ s, asString (string s) = some s
  find_object : ∀ members key, find (object members) key = members.lookup key
  object_congr : ∀ members members' : List (String × J),
    (∀ key, members.lookup key = members'.lookup key) → object members = object members'
  set_object : ∀ members key value, set (object members) key value = object ((key, value) :: members)
  isEmpty_null : isEmpty null = true

namespace JsonLibrary
variable {S : Type u} {J : Type v} (lib : JsonLibrary S J)

theorem string_inj {s s' : S} : lib.string s = lib.string s' ↔ s = s' := by
  refine ⟨fun h => ?_, congrArg lib.string⟩
  have hs := congrArg lib.asString h
  rw [lib.asString_string, lib.asString_string] at hs
  exact Option.some.inj hs

/-- Objects are equal when their members are. -/
theorem object_eq_iff {members members' : List (String × J)} :
    lib.object members = lib.object members' ↔ ∀ key, members.lookup key = members'.lookup key := by
  refine ⟨fun h key => ?_, lib.object_congr members members'⟩
  rw [← lib.find_object, h, lib.find_object]

end JsonLibrary

/-! ## JSON values -/

inductive Json (S : Type u) : Type u
  | null
  | boolean (b : Bool)
  | integer (n : Int)
  | string (s : S)
  | array (elements : List (Json S))
  | object (keys : Finset String) (values : String → Json S)

namespace Json
variable {S : Type u}

/-- Keys that are not in the object have the value `null`. -/
def ofMembers (members : List (String × Json S)) : Json S :=
  object (members.map Prod.fst).toFinset fun key => (members.lookup key).getD null

def find : Json S → String → Option (Json S)
  | object keys values, key => if key ∈ keys then some (values key) else none
  | _, _ => none

/-- A value that is neither an object nor `null` stays as it is. -/
def set : Json S → String → Json S → Json S
  | object keys values, key, value => object (insert key keys) (Function.update values key value)
  | null, key, value => ofMembers [(key, value)]
  | json, _, _ => json

def asString : Json S → Option S
  | string s => some s
  | _ => none

def isEmpty : Json S → Bool
  | null => true
  | array elements => elements.isEmpty
  | object keys _ => decide (keys = ∅)
  | _ => false

theorem mem_keys_iff {members : List (String × Json S)} {key : String} :
    key ∈ (members.map Prod.fst).toFinset ↔ (members.lookup key).isSome := by
  rw [List.mem_toFinset]
  induction members with
  | nil => simp
  | cons member members ih =>
    rw [List.map_cons, List.mem_cons, List.lookup_cons, ih]
    by_cases hkey : key = member.1
    · simp [hkey]
    · simp [hkey, beq_eq_false_iff_ne.mpr hkey]

theorem find_ofMembers (members : List (String × Json S)) (key : String) :
    (ofMembers members).find key = members.lookup key := by
  simp only [ofMembers, find, mem_keys_iff]
  cases members.lookup key with
  | none => rfl
  | some value => rfl

theorem ofMembers_congr {members members' : List (String × Json S)}
    (h : ∀ key, members.lookup key = members'.lookup key) : ofMembers members = ofMembers members' := by
  have hkeys : (members.map Prod.fst).toFinset = (members'.map Prod.fst).toFinset := by
    ext key
    rw [mem_keys_iff, mem_keys_iff, h]
  simp only [ofMembers, hkeys, h]

theorem set_ofMembers (members : List (String × Json S)) (key : String) (value : Json S) :
    (ofMembers members).set key value = ofMembers ((key, value) :: members) := by
  simp only [ofMembers, set, List.map_cons, List.toFinset_cons]
  congr 1
  funext key'
  rw [List.lookup_cons]
  by_cases hkey : key' = key
  · simp [hkey]
  · simp [Function.update_of_ne hkey, beq_eq_false_iff_ne.mpr hkey]

/-- JSON values with their usual operations. -/
def library (S : Type u) : JsonLibrary S (Json S) where
  null := null
  string := string
  object := ofMembers
  find := find
  set := set
  asString := asString
  isEmpty := isEmpty
  asString_string _ := rfl
  find_object := find_ofMembers
  object_congr _ _ := ofMembers_congr
  set_object := set_ofMembers
  isEmpty_null := rfl

end Json

end Mcus.JsonObjects
