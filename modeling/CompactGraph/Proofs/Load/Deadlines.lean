/-
# Deadlines

A look at a limit finds that there is time, or fails with the limit.  So whoever looks now and then comes to
what comes out without a limit, unless one of the looks comes too late (`Deadline.Expires`).
-/
import CompactGraph.Load.Deadline
import CompactGraph.Proofs.Outcomes

namespace CompactGraph

namespace Deadline

variable {deadline : Deadline} {look : Look} {error : LoadError}

/-! ## Time enough -/

/-- There is time whenever the limit may be looked at. -/
def InTime (deadline : Deadline) : Prop := ∀ look, deadline.check look = .ok ()

/-- Without a limit there is always time. -/
theorem inTime_of_no_limit (h : deadline.limit = none) : deadline.InTime := by
  intro look
  rw [check, h]

theorem InTime.checkAt (h : deadline.InTime) (look : Look) (count : Nat) :
    deadline.checkAt look count = .ok () := by
  rw [Deadline.checkAt, h look, ite_self]

theorem checkAt_of_no_limit (h : deadline.limit = none) (look : Look) (count : Nat) :
    deadline.checkAt look count = .ok () := (inTime_of_no_limit h).checkAt look count

/-! ## Looks that come too late -/

/-- A look fails with the limit. -/
theorem timeout_of_check (h : deadline.check look = .error error) :
    ∃ limit, deadline.limit = some limit ∧ error = .timeout limit := by
  rw [check] at h
  split at h
  · next limit hlimit =>
    split at h
    · cases h
      exact ⟨limit, hlimit, rfl⟩
    · cases h
  · cases h

/-- The error of a look that comes too late. -/
def Expires (deadline : Deadline) (error : LoadError) : Prop :=
  ∃ look, deadline.check look = .error error

/-- There is one such error, which tells the limit. -/
theorem Expires.timeout (h : deadline.Expires error) :
    ∃ limit, deadline.limit = some limit ∧ error = .timeout limit := by
  obtain ⟨look, hlook⟩ := h
  exact timeout_of_check hlook

theorem expires_of_checkAt {count : Nat} (h : deadline.checkAt look count = .error error) :
    deadline.Expires error := by
  rw [checkAt] at h
  split at h
  · exact ⟨look, h⟩
  · cases h

/-- **A look** finds that there is time unless it comes too late. -/
theorem check_agrees (deadline : Deadline) (look : Look) :
    AgreesUnless deadline.Expires (deadline.check look) (.ok ()) := by
  cases hcheck : deadline.check look with
  | ok _ => exact AgreesUnless.refl _ _
  | error own => exact AgreesUnless.of_answer (.inr ⟨own, rfl⟩) fun error herror => ⟨look, hcheck.trans herror⟩

theorem checkAt_agrees (deadline : Deadline) (look : Look) (count : Nat) :
    AgreesUnless deadline.Expires (deadline.checkAt look count) (.ok ()) := by
  rw [checkAt]
  split
  · exact deadline.check_agrees look
  · exact AgreesUnless.refl _ _

/-- A deadline without a limit. -/
def unlimited : Deadline := { limit := none }

/-- Whoever looks at a limit first agrees with whoever has none, unless the look comes too late. -/
theorem checkAt_bind_agrees {α : Type} (deadline : Deadline) (look : Look) (count : Nat)
    {next next' : Unit → Except LoadError α} (h : AgreesUnless deadline.Expires (next ()) (next' ())) :
    AgreesUnless deadline.Expires (deadline.checkAt look count >>= next)
      (unlimited.checkAt look count >>= next') := by
  have htime : unlimited.checkAt look count = .ok () := checkAt_of_no_limit rfl look count
  rw [htime]
  exact (deadline.checkAt_agrees look count).bind fun _ _ => h

end Deadline

end CompactGraph
