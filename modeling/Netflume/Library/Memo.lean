import Mathlib.Data.List.Induction
import Netflume.Library.Machine
import Netflume.Library.OrderedDict

/-! # Bounded memo tables

The answers to questions, remembered by a key of the question in a table that stops
growing at a ceiling.  A question may fail, and a failure is not remembered.  Questions
of one key share an entry, so the table is right about the questions of any set in which
they have one answer. -/

namespace Netflume.Library.Memo

variable {α κ ν ε : Type} [DecidableEq κ] (ceiling : Nat) (key : α → κ) (compute : α → Except ε ν)

/-- Look the question up, or compute its answer and remember it while there is room. -/
def fetch (table : OrderedDict κ ν) (question : α) : Except ε ν × OrderedDict κ ν :=
  match table.get? (key question) with
  | some value => (.ok value, table)
  | none =>
    match compute question with
    | .ok value => (.ok value, if table.size < ceiling then table.set (key question) value else table)
    | .error error => (.error error, table)

/-- The key of the question, when its answer has to be computed. -/
def computed (table : OrderedDict κ ν) (question : α) : List κ :=
  if table.contains (key question) then [] else (compute question).toOption.toList.map fun _ => key question

/-- The answer of a computation that cannot fail. -/
def sure : Except Empty ν → ν
  | .ok value => value

/-- What is remembered is what would be computed for the questions of a set. -/
def Faithful (asked : α → Prop) (table : OrderedDict κ ν) : Prop :=
  ∀ question, asked question → ∀ value, table.get? (key question) = some value → compute question = .ok value

variable {ceiling key compute} {table : OrderedDict κ ν} {question : α} {asked : α → Prop}

theorem faithful_empty : Faithful key compute asked .empty :=
  fun _ _ _ found => (Option.some_ne_none _ found.symm).elim

theorem Faithful.fetch (faithful : Faithful key compute asked table)
    (agree : ∀ first second, asked first → asked second → key first = key second → compute first = compute second)
    (isAsked : asked question) :
    (fetch ceiling key compute table question).1 = compute question ∧
      Faithful key compute asked (fetch ceiling key compute table question).2 := by
  rw [Memo.fetch]
  cases held : table.get? (key question) with
  | some value => exact ⟨(faithful question isAsked value held).symm, faithful⟩
  | none =>
    cases answer : compute question with
    | error error => exact ⟨rfl, faithful⟩
    | ok value =>
      refine ⟨rfl, ?_⟩
      by_cases room : table.size < ceiling
      · simp only [if_pos room]
        intro other otherAsked otherValue found
        rw [OrderedDict.get?_set] at found
        split at found
        · rename_i own
          rw [agree other question otherAsked isAsked own, answer, Option.some.inj found]
        · exact faithful other otherAsked otherValue found
      · simp only [if_neg room]
        exact faithful

end Netflume.Library.Memo
