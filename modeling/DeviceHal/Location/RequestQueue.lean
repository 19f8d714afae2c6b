import Mathlib.Data.List.Basic

/-! # Request queues

The queue of the requests of one session that wait for their responses, for
requests of any kind. Calls to the adapter wait in a list of their own, oldest
first. -/
namespace DeviceHal.Location.Requests

structure RequestQueue (R : Type*) where
  mSession : Nat
  mQueue : List R
deriving DecidableEq

namespace RequestQueue
variable {R : Type*}

def setSession (q : RequestQueue R) (session : Nat) : RequestQueue R := { q with mSession := session }

/-- The waiting requests are deleted. -/
def reset (_ : RequestQueue R) (session : Nat) : RequestQueue R := ⟨session, []⟩

def push (q : RequestQueue R) (request : R) : RequestQueue R :=
  { q with mQueue := q.mQueue ++ [request] }

def pop (q : RequestQueue R) : Option R × RequestQueue R :=
  (q.mQueue.head?, { q with mQueue := q.mQueue.tail })

def getSession (q : RequestQueue R) : Nat := q.mSession

end RequestQueue

/-- A position in a list with one more element at the end. -/
theorem split_concat {α : Type*} {l before after : List α} {x last : α}
    (h : l ++ [last] = before ++ x :: after) :
    (x = last ∧ after = []) ∨ ∃ after', after = after' ++ [last] ∧ l = before ++ x :: after' := by
  obtain rfl | ⟨after', last', hafter⟩ := List.eq_nil_or_concat after
  · obtain ⟨-, hlast⟩ := List.append_inj' h rfl
    rw [List.cons.injEq] at hlast
    exact .inl ⟨hlast.1.symm, rfl⟩
  · rw [List.concat_eq_append] at hafter
    rw [hafter, ← List.cons_append, ← List.append_assoc] at h
    obtain ⟨hinit, hlast⟩ := List.append_inj' h rfl
    rw [List.cons.injEq] at hlast
    exact .inr ⟨after', by rw [hafter, hlast.1], hinit⟩

end DeviceHal.Location.Requests
