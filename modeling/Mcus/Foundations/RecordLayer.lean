import Mathlib.Data.List.Basic
import Mathlib.Data.Nat.Notation

/-! # A stream cut into records

A record layer delivers a stream record by record. A read asks for some elements and gets at least one
and at most the rest of the current record, so where the records end decides how often a reader is
served in full. `RecordStack` is any such layer: which part of a record a read returns is its choice.
`unread` is the stream that is still to come, and every read takes what it returns from its front. A
`Channel` can be written to as well; one that `KeepsRecords` makes a record of what is written and serves a
read with as much of a record as it asks for.
-/

namespace Mcus.RecordLayer
set_option autoImplicit false

universe u v

/-- What a read returns: elements, or a failure with the return value `-code`. -/
inductive ReadResult (α : Type u)
  | elements (data : List α)
  | failed (code : ℕ)

namespace ReadResult
variable {α : Type u}

def data : ReadResult α → List α
  | elements data => data
  | failed _ => []

/-- The return value as C programs see it. -/
def ret : ReadResult α → Int
  | elements data => data.length
  | failed code => -code

theorem ret_eq_iff {r : ReadResult α} {n : ℕ} (hn : 0 < n) : r.ret = n ↔ r.data.length = n := by
  cases r with
  | elements data => exact Int.ofNat_inj
  | failed code =>
    refine iff_of_false ?_ (by simp only [data, List.length_nil]; omega)
    simp only [ret]
    omega

end ReadResult

section Stack
variable (α : Type u)

/-- A read of `num` elements is served from these records, and leaves those. -/
inductive Served : List (List α) → Int → ReadResult α → List (List α) → Prop
  | part (record : List α) (rest : List (List α)) (num : Int) (k : ℕ) (hpos : 0 < k)
      (hrecord : k ≤ record.length) (hnum : k ≤ num) :
      Served (record :: rest) num (.elements (record.take k))
        (if k < record.length then record.drop k :: rest else rest)
  | refused (records : List (List α)) (num : Int) (code : ℕ) (hnone : num ≤ 0 ∨ records = []) :
      Served records num (.failed code) records

variable {α}

theorem Served.split {records records' : List (List α)} {num : Int} {r : ReadResult α}
    (h : Served α records num r records') : records.flatten = r.data ++ records'.flatten := by
  cases h with
  | part record rest _ k =>
    split
    case isTrue => simp [ReadResult.data, ← List.append_assoc]
    case isFalse hk => simp [ReadResult.data, List.take_of_length_le (Nat.le_of_not_lt hk)]
  | refused => rfl

theorem Served.length_le {records records' : List (List α)} {num : ℕ} {r : ReadResult α}
    (h : Served α records num r records') : r.data.length ≤ num := by
  cases h with
  | part record rest _ k _ _ hnum =>
    have hk : k ≤ num := Int.ofNat_le.mp hnum
    rw [ReadResult.data, List.length_take]
    omega
  | refused => exact Nat.zero_le _

/-- A record layer with states `σ`. -/
structure RecordStack (σ : Type v) (α : Type u) where
  read : σ → Int → σ × ReadResult α
  records : σ → List (List α)
  served : ∀ s num, Served α (records s) num (read s num).2 (records (read s num).1)

namespace RecordStack
variable {σ : Type v} (L : RecordStack σ α) (s : σ)

/-- The stream that has not been read. -/
def unread : List α := (L.records s).flatten

theorem unread_read (num : Int) : L.unread s = (L.read s num).2.data ++ L.unread (L.read s num).1 :=
  (L.served s num).split

/-- A reader that wants `n` elements, and asks only if that is any, gets them in one read. -/
def ReadsWhole (n : ℕ) : Prop := n = 0 ∨ (L.read s n).2.data.length = n

/-- Where that read leads to. -/
def after (n : ℕ) : σ := if n = 0 then s else (L.read s n).1

variable {L s} {n : ℕ} {front rest : List α}

theorem after_of_ne (hn : n ≠ 0) : L.after s n = (L.read s n).1 := if_neg hn

theorem ReadsWhole.read_eq (h : L.ReadsWhole s front.length) (hfront : front ≠ [])
    (hunread : L.unread s = front ++ rest) :
    (L.read s front.length).2.data = front ∧ L.unread (L.read s front.length).1 = rest := by
  have hlen := h.resolve_left (fun hzero => hfront (List.length_eq_zero_iff.mp hzero))
  have hsplit := L.unread_read s front.length
  rw [hunread] at hsplit
  obtain ⟨hdata, hrest⟩ := List.append_inj hsplit hlen.symm
  exact ⟨hdata.symm, hrest.symm⟩

theorem ReadsWhole.unread_after (h : L.ReadsWhole s front.length) (hunread : L.unread s = front ++ rest) :
    L.unread (L.after s front.length) = rest := by
  by_cases hfront : front = []
  · rw [after, if_pos (by rw [hfront]; rfl), hunread, hfront, List.nil_append]
  · rw [after_of_ne (mt List.length_eq_zero_iff.mp hfront)]
    exact (h.read_eq hfront hunread).2

end RecordStack

/-! ## Reads as long as possible -/

/-- Records without an empty one. -/
abbrev Cut (α : Type u) : Type u := { records : List (List α) // ∀ r ∈ records, r ≠ [] }

namespace Cut

def read (cut : Cut α) (num : Int) : Cut α × ReadResult α :=
  match cut with
  | ⟨[], h⟩ => (⟨[], h⟩, .failed 0)
  | ⟨record :: rest, h⟩ =>
    if num ≤ 0 then (⟨record :: rest, h⟩, .failed 1)
    else if hlong : num.toNat < record.length then
      (⟨record.drop num.toNat :: rest, by
          intro r hr
          rcases List.mem_cons.mp hr with rfl | hr
          · exact List.ne_nil_of_length_pos (by rw [List.length_drop]; omega)
          · exact h r (List.mem_cons_of_mem _ hr)⟩, .elements (record.take num.toNat))
    else (⟨rest, fun r hr => h r (List.mem_cons_of_mem _ hr)⟩, .elements record)

theorem read_served (cut : Cut α) (num : Int) :
    Served α cut.1 num (cut.read num).2 (cut.read num).1.1 := by
  match cut with
  | ⟨[], h⟩ => exact .refused [] num 0 (Or.inr rfl)
  | ⟨record :: rest, h⟩ =>
    unfold read
    dsimp only
    by_cases hnum : num ≤ 0
    · rw [if_pos hnum]
      exact .refused _ num 1 (Or.inl hnum)
    rw [if_neg hnum]
    by_cases hlong : num.toNat < record.length
    · rw [dif_pos hlong]
      have hpart := Served.part record rest num num.toNat (by omega) (by omega) (by omega)
      rwa [if_pos hlong] at hpart
    · rw [dif_neg hlong]
      have hrecord : 0 < record.length := List.length_pos_iff.mpr (h record List.mem_cons_self)
      have hpart := Served.part record rest num record.length hrecord (Nat.le_refl _) (by omega)
      rwa [if_neg (Nat.lt_irrefl _), List.take_length] at hpart

end Cut

/-- The layer whose reads return as much as the current record holds. -/
def wholeReads (α : Type u) : RecordStack (Cut α) α := ⟨Cut.read, Subtype.val, Cut.read_served⟩

/-! ## Writing -/

/-- One direction of a connection: what is written at one end is read at the other. -/
structure Channel (σ : Type v) (α : Type u) extends RecordStack σ α where
  write : σ → List α → σ × Int

namespace Channel
variable {σ : Type v} (L : Channel σ α)

/-- A write of up to `limit` elements succeeds and is one record, and a read returns the front record as far
as it fits. -/
structure KeepsRecords (limit : ℕ) : Prop where
  write : ∀ s data, data ≠ [] → data.length ≤ limit →
    L.records (L.write s data).1 = L.records s ++ [data] ∧ (L.write s data).2 = data.length
  read : ∀ s (n : ℕ) record rest, 0 < n → L.records s = record :: rest →
    (L.read s n).2 = .elements (record.take n)

/-- The channel behind a write, if there is anything to write. -/
def writeAny (s : σ) : Option (List α) → σ
  | none => s
  | some data => (L.write s data).1

variable {L} {limit : ℕ} {s : σ} {record : List α} {rest : List (List α)}

theorem KeepsRecords.records_writeAny (h : L.KeepsRecords limit) (s : σ) {data : Option (List α)}
    (hdata : ∀ d ∈ data.toList, d ≠ [] ∧ d.length ≤ limit) :
    L.records (L.writeAny s data) = L.records s ++ data.toList := by
  cases data with
  | none => exact (List.append_nil _).symm
  | some d =>
    obtain ⟨hne, hlen⟩ := hdata d (List.mem_singleton.mpr rfl)
    exact (h.write s d hne hlen).1

/-- What is left of the front record. -/
theorem KeepsRecords.records_read (h : L.KeepsRecords limit) {n : ℕ} (hn : 0 < n)
    (hrecords : L.records s = record :: rest) :
    L.records (L.read s n).1 = if n < record.length then record.drop n :: rest else rest := by
  have hread := h.read s n record rest hn hrecords
  have hserved := L.served s n
  rw [hrecords] at hserved
  generalize (L.read s n).2 = r at hread hserved
  generalize L.records (L.read s n).1 = records' at hserved
  cases hserved with
  | part _ _ _ k _ hrecord hnum =>
    have hlen := congrArg List.length (ReadResult.elements.inj hread)
    rw [List.length_take, List.length_take] at hlen
    by_cases hlong : n < record.length
    · obtain rfl : k = n := by omega
      rfl
    · rw [if_neg hlong, if_neg (by omega)]
  | refused => cases hread

end Channel

theorem Cut.write_mem {cut : Cut α} {data : List α} (hdata : data ≠ []) : ∀ r ∈ cut.1 ++ [data], r ≠ [] := by
  intro r hr
  rcases List.mem_append.mp hr with hr | hr
  · exact cut.2 r hr
  · rwa [List.mem_singleton.mp hr]

/-- Nothing is written of nothing. -/
def Cut.write [DecidableEq α] (cut : Cut α) (data : List α) : Cut α × Int :=
  if hdata : data = [] then (cut, 0) else (⟨cut.1 ++ [data], Cut.write_mem hdata⟩, data.length)

/-- The channel that keeps records of any length. -/
def wholeChannel (α : Type u) [DecidableEq α] : Channel (Cut α) α := { wholeReads α with write := Cut.write }

theorem wholeChannel_keepsRecords [DecidableEq α] (limit : ℕ) : (wholeChannel α).KeepsRecords limit where
  write cut data hdata _ := by
    have hwrite : cut.write data = (⟨cut.1 ++ [data], Cut.write_mem hdata⟩, (data.length : Int)) := dif_neg hdata
    exact ⟨congrArg (fun w => w.1.1) hwrite, congrArg Prod.snd hwrite⟩
  read cut n record rest hn hrecords := by
    obtain ⟨records, hne⟩ := cut
    obtain rfl : records = record :: rest := hrecords
    change (Cut.read _ n).2 = _
    rw [Cut.read, if_neg (by omega)]
    by_cases hlong : (n : Int).toNat < record.length
    · rw [dif_pos hlong]
      rfl
    · rw [dif_neg hlong, List.take_of_length_le (by omega)]

end Stack
end Mcus.RecordLayer
