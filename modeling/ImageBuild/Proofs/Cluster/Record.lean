import ImageBuild.Proofs.Cluster.Steps
import Mathlib.Data.List.DropRight

/-! The record of a cluster: the end of all calls that were ever made to it, in their order and whatever came of them. -/

namespace ImageBuild

open Remote

/-- What an operation makes of the objects is not noted as a further call. -/
theorem Remote.Operation.calls_effect (o : Operation) (c : Cluster) : (o.effect c).calls = c.calls := by
  -- The record is written by the call around the operation, not by its effect.
  cases o with
  | createPod pod => simp only [effect]; split <;> rfl
  | createConfigMap map => simp only [effect]; split <;> rfl
  | deleteConfigMap place => simp only [effect]; split <;> rfl
  | _ => rfl

namespace Cluster

/-- The call that a step makes: only operations make one, and each of them just one. -/
def Step.call? : Step → Option Call
  | call o => some o.call
  | _ => none

/-- A record of the last calls is still one with a further call: where it is full, the first of them goes. -/
theorem remember_rtake (made : List Call) (call : Call) :
    remember (made.rtake maxCalls) call = (made ++ [call]).rtake maxCalls := by
  have bounded : (made.rtake maxCalls).length ≤ maxCalls := by
    rw [List.rtake, List.length_drop]
    omega
  -- The old record with the call behind it is an end of all calls already, and may be one call too long.
  have longer : made.rtake maxCalls ++ [call] = (made ++ [call]).drop (made.length - maxCalls) :=
    (List.drop_append_of_le_length (Nat.sub_le _ _)).symm
  rw [remember_eq_drop call bounded, longer, List.drop_drop]
  refine congrArg (fun gone => (made ++ [call]).drop gone) ?_
  simp only [List.rtake, List.length_drop, List.length_append, List.length_singleton]
  omega

/-- A record of the last calls is still one when any number of calls has been noted after them. -/
theorem foldl_remember (made more : List Call) :
    more.foldl remember (made.rtake maxCalls) = (made ++ more).rtake maxCalls := by
  -- The induction is on the new calls; each one moves from the tail into what is remembered.
  induction more generalizing made with
  | nil => rw [List.append_nil, List.foldl_nil]
  | cons call rest ih =>
    rw [List.foldl_cons, remember_rtake, ih, List.append_assoc, List.singleton_append]

/-- A step notes the call that it makes, whether it fails as planned, is refused by the objects or succeeds; and what
others do is not noted. -/
theorem calls_step (c : Cluster) (step : Step) :
    (step.run c).2.calls = step.call?.toList.foldl remember c.calls := by
  cases step with
  | call o =>
    rw [Step.run, Operation.run_perform]
    cases c.fault? with
    | some e => rfl
    | none => exact congrArg (fun calls => remember calls o.call) (o.calls_effect c)
  | setPodStatus place status =>
    rw [Step.run, setPodStatus?]
    -- A pod that is missing gets no status, and that is not noted either.
    cases c.pods.get? place <;> rfl
  | _ => rfl

/-- Steps note the calls that they make, one after the other. -/
theorem calls_run (c : Cluster) (history : List Step) :
    (c.run history).2.calls = (history.filterMap Step.call?).foldl remember c.calls := by
  -- The induction is on the history, from whatever cluster the next step starts.
  induction history generalizing c with
  | nil => rfl
  | cons step rest ih =>
    change ((step.run c).2.run rest).2.calls = _
    rw [ih, calls_step]
    -- Steps that are no calls leave the record alone.
    cases made : step.call? with
    | none => rw [List.filterMap_cons_none made]; rfl
    | some call => rw [List.filterMap_cons_some made]; rfl

/-- Whatever has been done with a cluster that began without objects, its record holds the last of all calls that
were made to it, each once and in their order: all of them up to the limit, and as many as the limit beyond it. -/
theorem record_is_recent_history (clock : Instant) (history : List Step) :
    let made := history.filterMap Step.call?
    let record := ((empty clock).run history).2.calls
    record <:+ made ∧ record.length = min made.length 1024 ∧
      record.map Call.text = (made.map Call.text).rtake (min made.length 1024) := by
  intro made record
  -- At the beginning no call has been made, and none is in the record.
  have last : record = made.rtake maxCalls :=
    (calls_run (empty clock) history).trans (foldl_remember [] made)
  rw [last, List.rtake, maxCalls]
  refine ⟨List.drop_suffix _ made, ?_, ?_⟩
  · rw [List.length_drop]
    omega
  · rw [List.rtake, List.length_map, List.map_drop,
      show made.length - 1024 = made.length - min made.length 1024 by omega]

/-- A call that fails as planned is noted, and so is one for what is missing. -/
example (place : Reference) :
    ((empty .epoch).run [.failNext "down", .call (.getPod place), .reap,
      .call (.deletePod place)]).2.calls = [.getPod place, .deletePod place] := by
  rfl

end Cluster

end ImageBuild
