import Mathlib.Data.List.Basic
import Mathlib.Tactic.NormNum

/-! # Rate limits over a wrapping clock

A 32-bit tick counter shows a time modulo `2 ^ 32`, and the elapsed ticks between two readings are
their difference in the same arithmetic. `elapsed_of_le` reads a real duration off a difference that
is large enough, `elapsed_of_lt` the converse for one that is small. `Spaced n d` says of a list of
times that any `n + 1` of them, in order, span at least `d`; `spaced_concat` extends it by one.
-/

namespace Mcus.RateLimit
set_option autoImplicit false

/-! ## Elapsed ticks -/

/-- The reading of the tick counter at a real time. -/
def tickAt (time : ℕ) : UInt32 := UInt32.ofNat time

theorem elapsed_toNat {since now : ℕ} (h : since ≤ now) :
    (tickAt now - tickAt since).toNat = (now - since) % 2 ^ 32 := by
  have hnow : (tickAt now).toNat = now % 2 ^ 32 := UInt32.toNat_ofNat
  have hsince : (tickAt since).toNat = since % 2 ^ 32 := UInt32.toNat_ofNat
  rw [UInt32.toNat_sub, hnow, hsince]
  omega

/-- However often the counter wrapped, at least the ticks it shows have passed. -/
theorem elapsed_of_le {since now d : ℕ} (h : since ≤ now)
    (hd : d ≤ (tickAt now - tickAt since).toNat) : since + d ≤ now := by
  rw [elapsed_toNat h] at hd
  have hmod := Nat.mod_le (now - since) (2 ^ 32)
  omega

theorem elapsed_of_lt {since now d : ℕ} (h : since ≤ now) (hd : now < since + d) (hrange : d ≤ 2 ^ 32) :
    (tickAt now - tickAt since).toNat < d := by
  rw [elapsed_toNat h, Nat.mod_eq_of_lt (by omega)]
  omega

/-! ## Spaced times -/

/-- Any `n + 1` of the times, in order, span at least `d`. -/
def Spaced (n d : ℕ) (times : List ℕ) : Prop :=
  ∀ first between last, (first :: (between ++ [last])).Sublist times → between.length + 1 = n →
    first + d ≤ last

theorem spaced_nil (n d : ℕ) : Spaced n d [] := by
  intro first between last hsub
  exact absurd hsub.length_le (by simp)

/-- The head of a sublist lies before the last elements, as many as it has behind it. -/
theorem mem_take_of_sublist {α : Type*} {x : α} {xs l : List α} (h : (x :: xs).Sublist l) :
    x ∈ l.take (l.length - xs.length) := by
  obtain ⟨front, back, rfl, hx, hback⟩ := List.cons_sublist_iff.mp h
  have hlen := hback.length_le
  have hle : front.length ≤ (front ++ back).length - xs.length := by
    rw [List.length_append]
    omega
  rw [List.take_append, List.take_of_length_le hle]
  exact List.mem_append_left _ hx

/-- A time may be added when all but the last `n` before it are at least `d` ago. -/
theorem spaced_concat {n d now : ℕ} {times : List ℕ} (hspaced : Spaced (n + 1) d times)
    (hago : ∀ t ∈ times.take (times.length - n), t + d ≤ now) : Spaced (n + 1) d (times ++ [now]) := by
  intro first between last hsub hlen
  obtain ⟨front, back, he, hfront, hback⟩ := List.sublist_append_iff.mp hsub
  rcases List.sublist_singleton.mp hback with rfl | rfl
  · rw [List.append_nil] at he
    exact hspaced first between last (he ▸ hfront) hlen
  · -- the new time is the last one, the others were there before
    rw [← List.cons_append] at he
    obtain ⟨hsame, hlast⟩ := List.append_inj' he rfl
    obtain rfl := List.singleton_inj.mp hlast
    have hmem := mem_take_of_sublist (hsame ▸ hfront)
    exact hago first (by rwa [show between.length = n by omega] at hmem)

end Mcus.RateLimit
