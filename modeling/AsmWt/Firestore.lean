import AsmWt.DocStore
import Mathlib.Data.Rat.Init

/-!
# Firestore documents and the service calls on them

A document maps field names to values, and an absent field reads as `null`.
`update` replaces exactly the top-level fields it names and fails when the
document does not exist. Reading a field into a typed nullable variable fails
when the stored value has another type, as the Dart assignment does.
-/

namespace Firestore

open KeyedRecord

structure GeoPoint where
  latitude : Rat
  longitude : Rat
  deriving DecidableEq

inductive Value where
  | null
  | bool (b : Bool)
  | str (s : String)
  | timestamp (micros : Int)
  | geoPoint (p : GeoPoint)
  | reference (path : String)
  | strings (l : List String)
  | num (n : Int)
  | serverTimestamp
  deriving DecidableEq

abbrev Doc := String → Value
abbrev Payload := List (String × Value)
abbrev Collection := DocStore.Store String Doc

/-- What the calls of the services return. -/
structure BaseService (Data : Type) where
  status : String
  message : String
  data : Option Data
  deriving DecidableEq

/-- How a nullable Dart variable is written to a field and read back from it. -/
structure Codec (α : Type) where
  encode : Option α → Value
  decode : Value → Option (Option α)
  decode_eq_some_iff : ∀ v a, decode v = some a ↔ v = encode a

namespace Codec

/-- The codec of one constructor of `Value`; `null` is the missing value. -/
def ofConstructor {α : Type} (mk : α → Value) (read : Value → Option α)
    (read_iff : ∀ v a, read v = some a ↔ v = mk a) (mk_ne : ∀ a, mk a ≠ .null) : Codec α where
  encode a := a.elim .null mk
  decode v := if v = .null then some none else (read v).map some
  decode_eq_some_iff v a := by
    cases a with
    | none =>
      by_cases hv : v = .null
      · simp [hv]
      · simp [hv]
    | some a =>
      by_cases hv : v = .null
      · simp [hv, (mk_ne a).symm]
      · simp [hv, read_iff]

def string : Codec String :=
  ofConstructor .str (fun | .str s => some s | _ => none)
    (by intro v a; cases v <;> simp) (by simp)

def bool : Codec Bool :=
  ofConstructor .bool (fun | .bool b => some b | _ => none)
    (by intro v a; cases v <;> simp) (by simp)

def timestamp : Codec Int :=
  ofConstructor .timestamp (fun | .timestamp t => some t | _ => none)
    (by intro v a; cases v <;> simp) (by simp)

def geoPoint : Codec GeoPoint :=
  ofConstructor .geoPoint (fun | .geoPoint p => some p | _ => none)
    (by intro v a; cases v <;> simp) (by simp)

def reference : Codec String :=
  ofConstructor .reference (fun | .reference r => some r | _ => none)
    (by intro v a; cases v <;> simp) (by simp)

theorem decode_encode {α : Type} (c : Codec α) (a : Option α) :
    c.decode (c.encode a) = some a :=
  (c.decode_eq_some_iff _ _).mpr rfl

/-- Reading a field on the way succeeds with exactly the value that is stored. -/
theorem decode_bind_eq_some_iff {α β : Type} (c : Codec α) {v : Value}
    {f : Option α → Option β} {b : β} :
    (c.decode v >>= f) = some b ↔ ∃ a, v = c.encode a ∧ f a = some b := by
  simp only [Option.bind_eq_bind, Option.bind_eq_some_iff, c.decode_eq_some_iff]

theorem encode_inj {α : Type} (c : Codec α) {a b : Option α}
    (h : c.encode a = c.encode b) : a = b := by
  have ha := c.decode_encode a
  rw [h, c.decode_encode b] at ha
  exact (Option.some.inj ha).symm

theorem string_encode_eq_str_iff {a : Option String} {s : String} :
    string.encode a = .str s ↔ a = some s := by
  constructor
  · exact fun h => string.encode_inj (b := some s) h
  · rintro rfl
    rfl

@[simp] theorem string_encode_some (s : String) : string.encode (some s) = .str s := rfl

end Codec

/-- `FirestoreServiceImpl.updateData`; `none` is the exception for a missing document. -/
def updateData (c : Collection) (id : String) (data : Payload) : Option Collection :=
  c.modify id fun d => update d data

/-- The documents a `where(field, isEqualTo: value)` query matches, in stored order. -/
def matching (c : Collection) (field : String) (value : Value) : List (String × Doc) :=
  c.entries.filter fun e => e.2 field = value

/-- `FirestoreServiceImpl.getDocumentByOneIdInside` on the reply of its query, which is
`none` when the query throws: only the first document is used. -/
def getDocumentByOneIdInside (reply : Option (List (String × Doc))) : Option (String × Doc) :=
  match reply with
  | none => none
  | some [] => none
  | some (doc :: _) => some doc

/-- A field that is only sent when its variable is set. -/
def optional (k : String) (v : Option Value) : Payload :=
  match v with
  | none => []
  | some v => [(k, v)]

theorem mem_optional {k k' : String} {v : Option Value} {w : Value} :
    (k', w) ∈ optional k v ↔ k' = k ∧ v = some w := by
  cases v with
  | none => simp [optional]
  | some v => simp [optional, eq_comm]

theorem keys_optional_sublist (k : String) (v : Option Value) :
    (keys (optional k v)).Sublist [k] := by
  cases v with
  | none => exact List.nil_sublist _
  | some v => exact List.Sublist.refl _

@[simp] theorem keys_append (p q : Payload) : keys (p ++ q) = keys p ++ keys q :=
  List.map_append

end Firestore
