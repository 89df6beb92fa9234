import Mathlib.Logic.Function.Basic
import SchemaMigration.Proofs.Keyed

/-!
# The ledger of lock slots

What happens to the slots of all managers, apart from all else. An attempt to take a lock has a
number of its own, and goes from beginning through being held up to its end. A ledger that starts
out balanced stays so: each attempt is at one place, and a slot belongs to one attempt.
-/

namespace SchemaMigration

def LockSlot.id? : LockSlot → Option LockId
  | free => none
  | acquiring id | held id _ => some id

structure Ledger where
  slots : DriverId → LockSlot
  /-- The attempts that are held up, by their keys. -/
  attempts : String → Option (DriverId × LockId)
  /-- The attempt that is going on at the moment. -/
  current : Option (DriverId × LockId) := none
  next : LockId

/-- What becomes of an attempt that succeeds: its handle is returned, and its session is taken. -/
inductive Entry where
  | returned (d : DriverId) (handle : LockHandle)
  | taken (d : DriverId) (id : LockId)
deriving DecidableEq

namespace Ledger

open Function (update)

/-- One change of the ledger, with what is entered about it. -/
inductive Step : Ledger → List Entry → Ledger → Prop
  | begins {L : Ledger} {d : DriverId} (hd : L.slots d = .free) (hc : L.current = none) :
      Step L [] { L with
        slots := update L.slots d (.acquiring L.next)
        current := some (d, L.next)
        next := L.next + 1 }
  | resumes {L : Ledger} (key : String) (hc : L.current = none) :
      Step L [] { L with attempts := update L.attempts key none, current := L.attempts key }
  | suspends {L : Ledger} {key : String} (hk : L.attempts key = none) :
      Step L [] { L with attempts := update L.attempts key L.current, current := none }
  | fails {L : Ledger} {d : DriverId} {id : LockId} (hc : L.current = some (d, id)) :
      Step L [] { L with slots := update L.slots d .free, current := none }
  | returns {L : Ledger} {d : DriverId} {handle : LockHandle} (s : SessionId)
      (hc : L.current = some (d, handle.id)) :
      Step L [.returned d handle] { L with
        slots := update L.slots d (.held handle.id s)
        current := none }
  | takes {L : Ledger} {d : DriverId} {id : LockId} {s : SessionId}
      (hd : L.slots d = .held id s) :
      Step L [.taken d id] { L with slots := update L.slots d .free }
  | cancels {L : Ledger} {key : String} {d : DriverId} {id : LockId}
      (hk : L.attempts key = some (d, id)) :
      Step L [] { L with
        slots := update L.slots d .free
        attempts := update L.attempts key none }
  /-- Managers go, but none that an attempt is under way for. -/
  | drops {L : Ledger} (stays : DriverId → Bool)
      (h : ∀ d id, L.slots d = .acquiring id → stays d = true) :
      Step L [] { L with slots := fun d => if stays d then L.slots d else .free }
  | counts {L : Ledger} : Step L [] { L with next := L.next + 1 }

inductive Run : Ledger → List Entry → Ledger → Prop
  | refl (L : Ledger) : Run L [] L
  | step {L M N : Ledger} {es es' : List Entry} (h : Step L es M) (rest : Run M es' N) :
      Run L (es ++ es') N

theorem Step.run {L M : Ledger} {es : List Entry} (h : Step L es M) : Run L es M := by
  have hrun := Run.step h (.refl M)
  rwa [List.append_nil] at hrun

theorem Run.trans {L M N : Ledger} {es es' : List Entry} (h : Run L es M) (h' : Run M es' N) :
    Run L (es ++ es') N := by
  induction h with
  | refl L => exact h'
  | step hs _ ih =>
    rw [List.append_assoc]
    exact .step hs (ih h')

/-! ## Balance -/

/-- A number is given out once, and the slot that it is in tells where its attempt is. -/
structure Balanced (L : Ledger) : Prop where
  given : ∀ d id, (L.slots d).id? = some id → id < L.next
  apart : ∀ d d' id, (L.slots d).id? = some id → (L.slots d').id? = some id → d = d'
  acquiring : ∀ d id, L.slots d = .acquiring id ↔
    L.current = some (d, id) ∨ ∃ key, L.attempts key = some (d, id)
  single : ∀ key key' a, L.attempts key = some a → L.attempts key' = some a → key = key'
  current : ∀ key a, L.current = some a → L.attempts key ≠ some a

variable {L M : Ledger} {es es' : List Entry}

theorem Step.balanced (h : Step L es M) (hL : L.Balanced) : M.Balanced := by
  obtain ⟨hgiven, hapart, hacquiring, hsingle, hcurrent⟩ := hL
  cases h with
  | @begins d hd hc =>
    -- The number is new: no slot has it, and so no attempt is under way with it.
    have hnew (d' : DriverId) : (L.slots d').id? ≠ some L.next :=
      fun hid => Nat.lt_irrefl _ (hgiven d' _ hid)
    constructor <;> simp only [Function.update_apply] <;> grind [LockSlot.id?]
  | resumes key hc => constructor <;> simp only [Function.update_apply] <;> grind
  | suspends hk => constructor <;> simp only [Function.update_apply] <;> grind
  | @fails d id hc =>
    -- The slot of the attempt that goes on has its number, so no other slot has it.
    have hslot : L.slots d = .acquiring id := (hacquiring d id).2 (Or.inl hc)
    constructor <;> simp only [Function.update_apply] <;> grind [LockSlot.id?]
  | @returns d handle s hc =>
    have hslot : L.slots d = .acquiring handle.id := (hacquiring d handle.id).2 (Or.inl hc)
    constructor <;> simp only [Function.update_apply] <;> grind [LockSlot.id?]
  | takes hd => constructor <;> simp only [Function.update_apply] <;> grind [LockSlot.id?]
  | @cancels key d id hk =>
    have hslot : L.slots d = .acquiring id := (hacquiring d id).2 (Or.inr ⟨key, hk⟩)
    constructor <;> simp only [Function.update_apply] <;> grind [LockSlot.id?]
  | drops stays h => constructor <;> dsimp only <;> grind [LockSlot.id?]
  | counts => constructor <;> dsimp only <;> grind

theorem Run.balanced (h : Run L es M) (hL : L.Balanced) : M.Balanced := by
  induction h with
  | refl L => exact hL
  | step hs _ ih => exact ih (hs.balanced hL)

/-! ## What the entries say -/

/-- What was entered so far: each handle was returned once, and each session was taken once. -/
structure Told (L : Ledger) (es : List Entry) : Prop where
  nodup : es.Nodup
  given : ∀ d handle, Entry.returned d handle ∈ es → handle.id < L.next
  once : ∀ d d' handle handle', Entry.returned d handle ∈ es → Entry.returned d' handle' ∈ es →
    handle.id = handle'.id → d = d' ∧ handle = handle'
  taken : ∀ d id, Entry.taken d id ∈ es → ∃ handle, Entry.returned d handle ∈ es ∧ handle.id = id
  held : ∀ d id s, L.slots d = .held id s →
    (∃ handle, Entry.returned d handle ∈ es ∧ handle.id = id) ∧ Entry.taken d id ∉ es
  acquiring : ∀ d id, L.slots d = .acquiring id →
    ∀ d' handle, Entry.returned d' handle ∈ es → handle.id ≠ id

theorem nodup_concat {e : Entry} (hnodup : es.Nodup) (he : e ∉ es) : (es ++ [e]).Nodup := by
  rw [List.nodup_append]
  refine ⟨hnodup, by simp, ?_⟩
  rintro a ha _ hb rfl
  rw [List.mem_singleton.1 hb] at ha
  exact he ha

theorem Step.told (h : Step L es' M) (hL : L.Balanced) (ht : L.Told es) : M.Told (es ++ es') := by
  obtain ⟨hnodup, hgiven, honce, htaken, hheld, hacquiring⟩ := ht
  have hnothing : es ++ [] = es := List.append_nil es
  cases h with
  | @begins d hd hc =>
    -- The number is new, so nothing was entered about it.
    have hnew (d' : DriverId) (handle : LockHandle) (hr : Entry.returned d' handle ∈ es) :
        handle.id ≠ L.next := Nat.ne_of_lt (hgiven d' handle hr)
    rw [hnothing]
    refine ⟨hnodup, fun d handle h => Nat.lt_succ_of_lt (hgiven d handle h), honce, htaken, ?_, ?_⟩
    · simp only [Function.update_apply]
      grind
    · simp only [Function.update_apply]
      grind
  | resumes key hc =>
    rw [hnothing]
    exact ⟨hnodup, hgiven, honce, htaken, hheld, hacquiring⟩
  | suspends hk =>
    rw [hnothing]
    exact ⟨hnodup, hgiven, honce, htaken, hheld, hacquiring⟩
  | fails hc =>
    rw [hnothing]
    refine ⟨hnodup, hgiven, honce, htaken, ?_, ?_⟩ <;> simp only [Function.update_apply] <;> grind
  | cancels hk =>
    rw [hnothing]
    refine ⟨hnodup, hgiven, honce, htaken, ?_, ?_⟩ <;> simp only [Function.update_apply] <;> grind
  | @returns d handle s hc =>
    have hslot : L.slots d = .acquiring handle.id := (hL.acquiring d _).2 (Or.inl hc)
    have hnumber : handle.id < L.next := hL.given d _ (by rw [hslot]; rfl)
    -- Nothing was entered about the attempt so far, and no other slot has its number.
    have hnone := hacquiring d _ hslot
    have hnot : Entry.taken d handle.id ∉ es := by
      intro hmem
      obtain ⟨handle', hr, he⟩ := htaken d _ hmem
      exact hnone d handle' hr he
    have hapart (d' : DriverId) (hd' : L.slots d' = .acquiring handle.id) : d' = d :=
      hL.apart d' d _ (by rw [hd']; rfl) (by rw [hslot]; rfl)
    have hnew : Entry.returned d handle ∉ es := fun hr => hnone d handle hr rfl
    refine ⟨nodup_concat hnodup hnew, by grind, by grind, by grind, ?_, ?_⟩
    · simp only [Function.update_apply]
      grind
    · simp only [Function.update_apply]
      grind
  | @takes d id s hd =>
    obtain ⟨hreturned, hnot⟩ := hheld d id s hd
    have hapart (d' : DriverId) (s' : SessionId) (hd' : L.slots d' = .held id s') : d' = d :=
      hL.apart d' d id (by rw [hd']; rfl) (by rw [hd]; rfl)
    refine ⟨nodup_concat hnodup hnot, by grind, by grind, by grind, ?_, ?_⟩
    · simp only [Function.update_apply]
      grind
    · simp only [Function.update_apply]
      grind
  | drops stays h =>
    rw [hnothing]
    exact ⟨hnodup, hgiven, honce, htaken, by grind, by grind⟩
  | counts =>
    rw [hnothing]
    refine ⟨hnodup, ?_, honce, htaken, hheld, hacquiring⟩
    exact fun d handle h => Nat.lt_succ_of_lt (hgiven d handle h)

theorem Run.told (h : Run L es' M) (hL : L.Balanced) (ht : L.Told es) : M.Told (es ++ es') := by
  induction h generalizing es with
  | refl L =>
    rw [List.append_nil]
    exact ht
  | step hs _ ih =>
    rw [← List.append_assoc]
    exact ih (hs.balanced hL) (hs.told hL ht)

/-! ## Numbers that do not come back -/

/-- The number was given out, and no slot has it. -/
structure Spent (L : Ledger) (id : LockId) : Prop where
  given : id < L.next
  absent : ∀ d, (L.slots d).id? ≠ some id

variable {id : LockId}

theorem Step.spent (h : Step L es M) (hL : L.Balanced) (hid : L.Spent id) : M.Spent id := by
  obtain ⟨hgiven, habsent⟩ := hid
  cases h with
  | begins hd hc => constructor <;> simp only [Function.update_apply] <;> grind [LockSlot.id?]
  | fails hc => constructor <;> simp only [Function.update_apply] <;> grind [LockSlot.id?]
  | takes hd => constructor <;> simp only [Function.update_apply] <;> grind [LockSlot.id?]
  | cancels hk => constructor <;> simp only [Function.update_apply] <;> grind [LockSlot.id?]
  | @returns d handle s hc =>
    -- An attempt that is under way has its number in a slot, so it is another number.
    have hslot : L.slots d = .acquiring handle.id := (hL.acquiring d handle.id).2 (Or.inl hc)
    constructor <;> simp only [Function.update_apply] <;> grind [LockSlot.id?]
  | drops stays h => constructor <;> dsimp only <;> grind [LockSlot.id?]
  | resumes key hc => exact ⟨hgiven, habsent⟩
  | suspends hk => exact ⟨hgiven, habsent⟩
  | counts => exact ⟨Nat.lt_succ_of_lt hgiven, habsent⟩

theorem Run.spent (h : Run L es M) (hL : L.Balanced) (hid : L.Spent id) : M.Spent id := by
  induction h with
  | refl L => exact hid
  | step hs _ ih => exact ih (hs.balanced hL) (hs.spent hL hid)

theorem Run.spent_of_taken {d : DriverId} (h : Run L es M) (hL : L.Balanced)
    (hid : Entry.taken d id ∈ es) : M.Spent id := by
  induction h with
  | refl L => cases hid
  | @step L M N es es' hs rest ih =>
    rcases List.mem_append.1 hid with hid | hid
    · refine rest.spent (hs.balanced hL) ?_
      cases hs with
      | @takes d' id' s hd =>
        cases List.mem_singleton.1 hid
        have hslot : (L.slots d).id? = some id := by rw [hd]; rfl
        refine ⟨hL.given d id hslot, ?_⟩
        intro d'
        simp only [Function.update_apply]
        split
        · exact fun hfree => by cases hfree
        · rename_i hne
          exact fun hd' => hne (hL.apart d' d id hd' hslot)
      | returns => cases List.mem_singleton.1 hid
      | _ => cases hid
    · exact ih (hs.balanced hL) hid

end Ledger

end SchemaMigration
