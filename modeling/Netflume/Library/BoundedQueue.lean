import Mathlib.Data.List.DropRight

/-! # Bounded queues

A queue that takes items at its end and drops its oldest ones past a ceiling.
What it is handed in one go, or in several, makes no difference, and over any
history every item raised was handed over, displaced, or is still pending. -/

namespace Netflume.Library

variable {α : Type}

/-- The queue after some items: the oldest past the ceiling are gone. -/
def push (ceiling : Nat) (pending items : List α) : List α := (pending ++ items).rtake ceiling

/-- The items a push drops, oldest first. -/
def overflow (ceiling : Nat) (pending items : List α) : List α :=
  (pending ++ items).take ((pending ++ items).length - ceiling)

section Push

variable {ceiling : Nat}

theorem overflow_append_push (ceiling : Nat) (pending items : List α) :
    overflow ceiling pending items ++ push ceiling pending items = pending ++ items :=
  List.take_append_drop _ _

theorem length_push_le (ceiling : Nat) (pending items : List α) : (push ceiling pending items).length ≤ ceiling := by
  rw [push, List.rtake, List.length_drop]
  omega

@[simp] theorem length_overflow (ceiling : Nat) (pending items : List α) :
    (overflow ceiling pending items).length = pending.length + items.length - ceiling := by
  rw [overflow, List.length_take, List.length_append]
  omega

theorem push_nil {pending : List α} (fits : pending.length ≤ ceiling) : push ceiling pending [] = pending := by
  rw [push, List.append_nil, List.rtake, Nat.sub_eq_zero_of_le fits, List.drop_zero]

theorem push_of_room {pending items : List α} (room : pending.length + items.length ≤ ceiling) :
    push ceiling pending items = pending ++ items := by
  rw [push, List.rtake, List.length_append, Nat.sub_eq_zero_of_le room, List.drop_zero]

/-- Two pushes are one push of both, and drop what it drops. -/
theorem push_push (ceiling : Nat) (pending first second : List α) :
    push ceiling (push ceiling pending first) second = push ceiling pending (first ++ second) ∧
      (overflow ceiling pending first).length + (overflow ceiling (push ceiling pending first) second).length =
        (overflow ceiling pending (first ++ second)).length := by
  have sizes := congrArg List.length (overflow_append_push ceiling pending first)
  rw [List.length_append, List.length_append, length_overflow] at sizes
  constructor
  · have whole : pending ++ (first ++ second) =
        overflow ceiling pending first ++ (push ceiling pending first ++ second) := by
      rw [← List.append_assoc, ← List.append_assoc, overflow_append_push]
    have gone : (overflow ceiling pending first).drop ((pending ++ (first ++ second)).length - ceiling) = [] := by
      apply List.drop_of_length_le
      simp only [List.length_append, length_overflow]
      omega
    show (push ceiling pending first ++ second).rtake ceiling = (pending ++ (first ++ second)).rtake ceiling
    rw [List.rtake, List.rtake]
    conv_rhs => rw [whole, List.drop_append, ← whole, gone, List.nil_append]
    congr 1
    simp only [List.length_append, length_overflow]
    omega
  · simp only [length_overflow, List.length_append]
    omega

end Push

/-! ## Histories -/

/-- What has left a queue, in order, each item with whether it was handed over or displaced. -/
structure History (raised handedOver displaced pending : List α) (past : List (α × Bool)) : Prop where
  raised : raised = past.map Prod.fst ++ pending
  handedOver : handedOver = (past.filter Prod.snd).map Prod.fst
  displaced : displaced = (past.filter fun left => !left.2).map Prod.fst

namespace History

theorem nil : History ([] : List α) [] [] [] [] := ⟨rfl, rfl, rfl⟩

variable {raised handedOver displaced pending : List α} {past : List (α × Bool)}

/-- One step: what was pending or is raised now is displaced, handed over or pending. -/
theorem step (history : History raised handedOver displaced pending past) {more out given left : List α}
    (balanced : pending ++ more = out ++ (given ++ left)) :
    ∃ longer, History (raised ++ more) (handedOver ++ given) (displaced ++ out) left longer := by
  obtain ⟨rfl, rfl, rfl⟩ := history
  refine ⟨past ++ (out.map (·, false) ++ given.map (·, true)), ?_, ?_, ?_⟩
  · simp [balanced, Function.comp_def]
  · simp [List.filter_map, Function.comp_def]
  · simp [List.filter_map, Function.comp_def]

/-- Where nothing was displaced, all that was raised was handed over or is pending. -/
theorem raised_of_kept (history : History raised handedOver displaced pending past) (kept : displaced = []) :
    raised = handedOver ++ pending := by
  have all : past.filter Prod.snd = past := by
    rw [history.displaced, List.map_eq_nil_iff, List.filter_eq_nil_iff] at kept
    exact List.filter_eq_self.mpr fun left member => by simpa using kept left member
  rw [history.raised, history.handedOver, all]

/-- Every item raised is accounted for once. -/
theorem length_raised (history : History raised handedOver displaced pending past) :
    raised.length = handedOver.length + pending.length + displaced.length := by
  obtain ⟨rfl, rfl, rfl⟩ := history
  have split : past.length = (past.filter Prod.snd).length + (past.filter fun left => !left.2).length :=
    List.length_eq_length_filter_add _
  simp only [List.length_append, List.length_map]
  omega

end History

end Netflume.Library
