/-!
# JSON values

Declared and resolved types are exchanged as **JSON values**. How a number
is written tells what it is: one of digits alone is an integer, and one
with a point or an exponent is a real, whatever its value. So neither `1.0`
nor `1e0` is taken for the integer `1`. A negative zero is a real too, as
no integer has that sign.

## Reading

A reader gives `none` for a value it does not accept. Objects are read by
member name: members nobody asks for do not matter, and a member that may
be absent may be `null` as well. One of several alternatives is an object
whose only member is named for the alternative, or, where the alternative
has no content, that name alone.
-/

namespace SqlTyping

/-- **A JSON value.** -/
inductive Json where
  /-- `null`. -/
  | null
  /-- `true` or `false`. -/
  | bool (b : Bool)
  /-- A number written as an integer. -/
  | integer (n : Int)
  /-- A number written as a real: its digits, and how many are behind the
  point. -/
  | real (digits : Int) (places : Nat)
  /-- A string. -/
  | string (s : String)
  /-- A list of values. -/
  | array (items : List Json)
  /-- Named values. -/
  | object (members : List (String × Json))

namespace Json

/-! ## Writing -/

/-- An unsigned word as an integer. -/
def ofUInt64 (n : UInt64) : Json := integer n.toNat

/-- A signed word as an integer. -/
def ofInt64 (n : Int64) : Json := integer n.toInt

/-- What may be absent, as `null` when it is. -/
def ofOption {α : Type} (write : α → Json) : Option α → Json
  | some a => write a
  | none => null

/-- One of several alternatives, with its content. -/
def variant (name : String) (content : Json) : Json := object [(name, content)]

/-! ## Reading -/

/-- A truth value. -/
def bool? : Json → Option Bool
  | bool b => some b
  | _ => none

/-- A string. -/
def string? : Json → Option String
  | string s => some s
  | _ => none

/-- **An integer from `0` to `2 ^ 64 - 1`.** -/
def uInt64? : Json → Option UInt64
  | integer n =>
    if 0 ≤ n ∧ n < 18446744073709551616 then some (.ofNat n.toNat) else none
  | _ => none

/-- **An integer from `-2 ^ 63` to `2 ^ 63 - 1`.** -/
def int64? : Json → Option Int64
  | integer n =>
    if -9223372036854775808 ≤ n ∧ n < 9223372036854775808 then some (.ofInt n)
    else none
  | _ => none

/-- **A single character**, as the string of it. -/
def char? : Json → Option Char
  | string s => match s.toList with
    | [c] => some c
    | _ => none
  | _ => none

/-- A list, each item read alike. -/
def list? {α : Type} (read : Json → Option α) : Json → Option (List α)
  | array items => items.mapM read
  | _ => none

/-- The member of an object with a given name. -/
def member? : Json → String → Option Json
  | object ms, name => ms.lookup name
  | _, _ => none

/-- **The member of a name, read.** -/
def field? {α : Type} (j : Json) (name : String) (read : Json → Option α) :
    Option α :=
  (j.member? name).bind read

/-- What may be absent, read from what may be: `null` is nothing. -/
def optional? {α : Type} (read : Json → Option α) : Option Json → Option (Option α)
  | none => some none
  | some null => some none
  | some j => some <$> read j

/-- **The member of a name, read if it is there.** -/
def optionalField? {α : Type} (j : Json) (name : String) (read : Json → Option α) :
    Option (Option α) :=
  optional? read (j.member? name)

/-- The name of an alternative without content: the string of it, or an
object of that one member, which is `null`. -/
def choice? : Json → Option String
  | string s => some s
  | object [(s, null)] => some s
  | _ => none

/-- **One of a list of alternatives without content**, by name. -/
def oneOf? {α : Type} (name : α → String) (alternatives : List α) (j : Json) :
    Option α := do
  let s ← j.choice?
  alternatives.find? fun a => name a == s

/-- A member is found by its name, and the first of a name is. -/
theorem member?_object_cons (key name : String) (v : Json)
    (ms : List (String × Json)) :
    (object ((key, v) :: ms)).member? name
      = if name = key then some v else (object ms).member? name := by
  by_cases h : name = key
  · simp [member?, h]
  · have h' : (name == key) = false := by simpa using h
    simp [member?, List.lookup_cons, h, h']

/-- The member of a name is read, and the first of a name is. -/
@[simp] theorem field?_object_cons {α : Type} (key name : String) (v : Json)
    (ms : List (String × Json)) (read : Json → Option α) :
    (object ((key, v) :: ms)).field? name read
      = if name = key then read v else (object ms).field? name read := by
  rw [field?, member?_object_cons]
  by_cases h : name = key
  · rw [if_pos h, if_pos h, Option.bind_some]
  · rw [if_neg h, if_neg h, field?]

/-- A member that may be absent is read like any other. -/
@[simp] theorem optionalField?_object_cons {α : Type} (key name : String)
    (v : Json) (ms : List (String × Json)) (read : Json → Option α) :
    (object ((key, v) :: ms)).optionalField? name read
      = if name = key then optional? read (some v)
        else (object ms).optionalField? name read := by
  rw [optionalField?, member?_object_cons]
  by_cases h : name = key
  · rw [if_pos h, if_pos h]
  · rw [if_neg h, if_neg h, optionalField?]

/-! ## Descending into a value -/

/-- A member is smaller than the list it is in. -/
theorem sizeOf_lt_of_lookup {ms : List (String × Json)} {name : String} {j : Json}
    (h : ms.lookup name = some j) : sizeOf j < sizeOf ms := by
  induction ms with
  | nil => cases h
  | cons m ms ih =>
    obtain ⟨k, v⟩ := m
    simp only [List.cons.sizeOf_spec, Prod.mk.sizeOf_spec]
    rw [List.lookup_cons] at h
    split at h
    · cases h
      omega
    · have := ih h
      omega

/-- A member is smaller than the object it is in. -/
theorem sizeOf_lt_of_member? {j v : Json} {name : String}
    (h : j.member? name = some v) : sizeOf v < sizeOf j := by
  match j with
  | object ms =>
    have := sizeOf_lt_of_lookup h
    rw [object.sizeOf_spec]
    omega

/-- **The member of a name, read by a reader that is reading the object.**
It is told that the member is smaller, so that it comes to an end. -/
def descend? {α : Type} (j : Json) (name : String)
    (read : (v : Json) → sizeOf v < sizeOf j → Option α) : Option α :=
  match h : j.member? name with
  | some v => read v (sizeOf_lt_of_member? h)
  | none => none

/-- Descending is reading a member. -/
@[simp] theorem descend?_eq_field? {α : Type} (j : Json) (name : String)
    (read : Json → Option α) :
    (j.descend? name fun v _ => read v) = j.field? name read := by
  unfold descend? field?
  split <;> simp [*]

/-! ## Reading back -/

/-- An unsigned word reads back. -/
@[simp] theorem uInt64?_ofUInt64 (n : UInt64) : (ofUInt64 n).uInt64? = some n := by
  have h : (n.toNat : Int) < 2 ^ 64 := by exact_mod_cast n.toNat_lt
  simp only [ofUInt64, uInt64?]
  rw [if_pos ⟨Int.natCast_nonneg _, h⟩]
  simp

/-- A signed word reads back. -/
@[simp] theorem int64?_ofInt64 (n : Int64) : (ofInt64 n).int64? = some n := by
  simp only [ofInt64, int64?]
  rw [if_pos ⟨n.le_toInt, n.toInt_lt⟩]
  simp

/-- What may be absent reads back, provided nothing is written as
`null`. -/
theorem optional?_ofOption {α : Type} {write : α → Json} {read : Json → Option α}
    (h : ∀ a, read (write a) = some a) (h' : ∀ a, write a ≠ null) (a : Option α) :
    optional? read (some (ofOption write a)) = some a := by
  cases a with
  | none => rfl
  | some a =>
    have hr := h a
    have hn := h' a
    show optional? read (some (write a)) = _
    generalize write a = j at hr hn
    cases j <;> simp_all [optional?]

end Json

end SqlTyping
