import Mathlib.Data.List.Basic

/-! # Computations over a buffer whose reads are bounded

A `Proc` threads a state through, may stop early with an error (the state
reached so far survives the stop), and records every access it makes to a
buffer.  `Runs` is the specification of one that never stops: it names the total
state transformer the computation carries out and what is true of every access.
The rules below build such a specification along the structure of the program. -/

namespace Netflume.Library

/-- One access: the offset, the number of bytes, and the region it was made for. -/
structure Read where
  off : Nat
  width : Nat
  region : Option (Nat × Nat)
  deriving DecidableEq, Repr

structure Traced (σ : Type) where
  out : σ
  reads : List Read

def Proc (ε σ α : Type) : Type := Traced σ → Except ε α × Traced σ

namespace Proc

variable {ε σ α β : Type}

instance : Monad (Proc ε σ) where
  pure value := fun state => (.ok value, state)
  bind first next := fun state =>
    match first state with
    | (.ok value, state) => next value state
    | (.error stop, state) => (.error stop, state)

def raise (stop : ε) : Proc ε σ α := fun state => (.error stop, state)

/-- Change the state and hand back what the change yields. -/
def update (change : σ → α × σ) : Proc ε σ α := fun state =>
  (.ok (change state.out).1, { state with out := (change state.out).2 })

/-- Read `width` bytes at `off` of a buffer of `size` bytes, or stop. -/
def access (size off width : Nat) (outside : ε) : Proc ε σ Unit := fun state =>
  if off + width ≤ size then (.ok (), { state with reads := state.reads ++ [⟨off, width, none⟩] })
  else (.error outside, state)

/-- Note an access that cannot fail. -/
def glance (off width : Nat) : Proc ε σ Unit := fun state =>
  (.ok (), { state with reads := state.reads ++ [⟨off, width, none⟩] })

/-- Run `body`, labelling its accesses with the region `[lo, hi)`. -/
def within (lo hi : Nat) (body : Proc ε σ α) : Proc ε σ α := fun state =>
  let after := body { state with reads := [] }
  (after.1, { after.2 with
    reads := state.reads ++ after.2.reads.map fun read => { read with region := some (lo, hi) } })

end Proc

def Between (lo hi : Nat) (read : Read) : Prop := lo ≤ read.off ∧ read.off + read.width ≤ hi

theorem Between.widen {lo hi lower higher : Nat} {read : Read} (inside : Between lo hi read)
    (low : lower ≤ lo) (high : hi ≤ higher) : Between lower higher read :=
  ⟨Nat.le_trans low inside.1, Nat.le_trans inside.2 high⟩

/-- `proc` always returns, carries out `effect`, and every access satisfies `allowed`. -/
def Runs {ε σ α : Type} (proc : Proc ε σ α) (allowed : Read → Prop) (effect : σ → α × σ) : Prop :=
  ∀ state, ∃ reads, proc state =
      (.ok (effect state.out).1, { out := (effect state.out).2, reads := state.reads ++ reads }) ∧
    ∀ read ∈ reads, allowed read

namespace Runs

variable {ε σ α β : Type} {allowed : Read → Prop}

theorem pure (value : α) :
    Runs (Pure.pure value : Proc ε σ α) allowed fun out => (value, out) := by
  intro state
  exact ⟨[], by simp [Pure.pure], by simp⟩

theorem update (change : σ → α × σ) : Runs (Proc.update change : Proc ε σ α) allowed change := by
  intro state
  exact ⟨[], by simp [Proc.update], by simp⟩

theorem access {size off width : Nat} {outside : ε} (fits : off + width ≤ size)
    (granted : allowed ⟨off, width, none⟩) :
    Runs (Proc.access size off width outside : Proc ε σ Unit) allowed fun out => ((), out) := by
  intro state
  exact ⟨[⟨off, width, none⟩], by simp [Proc.access, fits], by simpa using granted⟩

theorem glance {off width : Nat} (granted : allowed ⟨off, width, none⟩) :
    Runs (Proc.glance off width : Proc ε σ Unit) allowed fun out => ((), out) := by
  intro state
  exact ⟨[⟨off, width, none⟩], rfl, by simpa using granted⟩

/-- Sequencing: the continuation is specified at each value the first part can return. -/
theorem bind {first : Proc ε σ α} {next : α → Proc ε σ β} {effect : σ → α × σ}
    {follow : α → σ → β × σ} (firstRuns : Runs first allowed effect)
    (nextRuns : ∀ out, Runs (next (effect out).1) allowed (follow (effect out).1)) :
    Runs (first >>= next) allowed fun out => follow (effect out).1 (effect out).2 := by
  intro state
  obtain ⟨reads, ran, granted⟩ := firstRuns state
  obtain ⟨more, continued, grantedMore⟩ :=
    nextRuns state.out ⟨(effect state.out).2, state.reads ++ reads⟩
  refine ⟨reads ++ more, ?_, ?_⟩
  · change (match first state with
      | (.ok value, state) => next value state
      | (.error stop, state) => (.error stop, state)) = _
    rw [ran]
    simp only [continued, List.append_assoc]
  · intro read member
    rcases List.mem_append.mp member with early | late
    · exact granted read early
    · exact grantedMore read late

/-- Sequencing after a computation that only reads. -/
theorem bindRead {first : Proc ε σ α} {next : α → Proc ε σ β} {value : α}
    {follow : σ → β × σ} (firstRuns : Runs first allowed fun out => (value, out))
    (nextRuns : Runs (next value) allowed follow) : Runs (first >>= next) allowed follow :=
  @bind _ _ _ _ _ _ _ _ (fun _ => follow) firstRuns fun _ => nextRuns

/-- Sequencing two computations that only change the state. -/
theorem seq {first : Proc ε σ Unit} {next : Proc ε σ β} {change : σ → σ} {effect : σ → β × σ}
    (firstRuns : Runs first allowed fun out => ((), change out)) (nextRuns : Runs next allowed effect) :
    Runs (first >>= fun _ => next) allowed fun out => effect (change out) :=
  @bind _ _ _ _ _ _ _ _ (fun _ => effect) firstRuns fun _ => nextRuns

theorem mono {proc : Proc ε σ α} {effect : σ → α × σ} {permitted : Read → Prop}
    (runs : Runs proc allowed effect) (weaker : ∀ read, allowed read → permitted read) :
    Runs proc permitted effect := by
  intro state
  obtain ⟨reads, ran, granted⟩ := runs state
  exact ⟨reads, ran, fun read member => weaker read (granted read member)⟩

theorem within (lo hi : Nat) {low high : Nat} {body : Proc ε σ α} {effect : σ → α × σ}
    (runs : Runs body (Between low high) effect) :
    Runs (Proc.within lo hi body) (fun read => read.region = some (lo, hi) ∧ Between low high read)
      effect := by
  intro state
  obtain ⟨reads, ran, granted⟩ := runs { state with reads := [] }
  refine ⟨reads.map fun read => { read with region := some (lo, hi) }, ?_, ?_⟩
  · simp [Proc.within, ran]
  · intro read member
    obtain ⟨plain, plainMember, rfl⟩ := List.mem_map.mp member
    exact ⟨rfl, granted plain plainMember⟩

/-- The effect of a specification may be replaced by one that agrees with it. -/
theorem congr {proc : Proc ε σ α} {effect other : σ → α × σ} (runs : Runs proc allowed effect)
    (same : ∀ out, effect out = other out) : Runs proc allowed other :=
  (funext same : effect = other) ▸ runs

end Runs

end Netflume.Library
