import Mathlib.Data.Set.Function
import Mcus.Foundations.Handles

/-! # Owners of open handles

A handle is opened for an owner and closed when the owner goes. `Owned` says of a log and the present
owners that they have distinct open handles and that nothing but an open handle was ever closed; if it is
`tight`, every open handle has its owner. This is kept when an owner comes with a handle that was not
open, when an owner goes and its handle is closed, and when a handle is opened and closed at once.
-/

namespace Mcus.Handles
open HandleEvent
set_option autoImplicit false

universe u v

section Ownership
variable {H : Type u} [DecidableEq H] {α : Type v} (handle : α → H) (tight : Prop)

structure Owned (log : List (HandleEvent H)) (owners : Set α) : Prop where
  distinct : Set.InjOn handle owners
  isOpen : ∀ a ∈ owners, IsOpen log (handle a)
  closes : ClosesOpen log
  noLeak : tight → ∀ h, IsOpen log h → ∃ a ∈ owners, handle a = h

variable {handle} {tight} {log : List (HandleEvent H)} {owners owners' : Set α} {a : α} {h : H}

theorem owned_nil : Owned handle tight [] (∅ : Set α) :=
  ⟨Set.injOn_empty handle, fun _ ha => absurd ha (Set.notMem_empty _), closesOpen_nil,
    fun _ _ hopen => absurd hopen not_isOpen_nil⟩

/-- An owner that forgets its handle leaks it. -/
theorem Owned.subset (howned : Owned handle tight log owners) (hsub : owners' ⊆ owners)
    (htight : tight → owners ⊆ owners') : Owned handle tight log owners' where
  distinct := howned.distinct.mono hsub
  isOpen b hb := howned.isOpen b (hsub hb)
  closes := howned.closes
  noLeak ht k hopen := by
    obtain ⟨b, hb, hbk⟩ := howned.noLeak ht k hopen
    exact ⟨b, htight ht hb, hbk⟩

theorem Owned.acquire (howned : Owned handle tight log owners) (hfresh : ¬ IsOpen log (handle a)) :
    Owned handle tight (log ++ [opened (handle a)]) (insert a owners) where
  distinct := by
    intro b hb c hc hbc
    rcases Set.mem_insert_iff.mp hb with rfl | hb' <;> rcases Set.mem_insert_iff.mp hc with rfl | hc'
    · rfl
    · exact absurd (hbc ▸ howned.isOpen c hc') hfresh
    · exact absurd (hbc ▸ howned.isOpen b hb') hfresh
    · exact howned.distinct hb' hc' hbc
  isOpen b hb := by
    rcases Set.mem_insert_iff.mp hb with rfl | hb'
    · exact isOpen_opened.mpr (Or.inl rfl)
    · exact isOpen_opened.mpr (Or.inr (howned.isOpen b hb'))
  closes := howned.closes.opened _
  noLeak ht k hopen := by
    rcases isOpen_opened.mp hopen with rfl | hopen
    · exact ⟨a, Set.mem_insert a owners, rfl⟩
    · obtain ⟨b, hb, hbk⟩ := howned.noLeak ht k hopen
      exact ⟨b, Set.mem_insert_of_mem a hb, hbk⟩

theorem Owned.release (howned : Owned handle tight log owners) (ha : a ∈ owners) :
    Owned handle tight (log ++ [closed (handle a)]) (owners \ {a}) where
  distinct := howned.distinct.mono Set.sdiff_subset
  isOpen b hb := by
    refine isOpen_closed.mpr ⟨fun hba => ?_, howned.isOpen b hb.1⟩
    exact hb.2 (howned.distinct hb.1 ha hba)
  closes := howned.closes.closed (howned.isOpen a ha)
  noLeak ht k hopen := by
    obtain ⟨hne, hopen⟩ := isOpen_closed.mp hopen
    obtain ⟨b, hb, rfl⟩ := howned.noLeak ht k hopen
    exact ⟨b, ⟨hb, fun hba => hne (congrArg handle hba)⟩, rfl⟩

theorem Owned.borrow (howned : Owned handle tight log owners) (hfresh : ¬ IsOpen log h) :
    Owned handle tight (log ++ [opened h] ++ [closed h]) owners where
  distinct := howned.distinct
  isOpen b hb := by
    have hopen := howned.isOpen b hb
    exact isOpen_closed.mpr ⟨fun hbh => hfresh (hbh ▸ hopen), isOpen_opened.mpr (Or.inr hopen)⟩
  closes := (howned.closes.opened h).closed (isOpen_opened.mpr (Or.inl rfl))
  noLeak ht k hopen := by
    obtain ⟨hne, hopen⟩ := isOpen_closed.mp hopen
    exact howned.noLeak ht k ((isOpen_opened.mp hopen).resolve_left hne)

end Ownership
end Mcus.Handles
