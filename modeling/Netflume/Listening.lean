import Netflume.Receive

/-! # Opening the socket

`_open_socket` against an operating system that may refuse anything.  Every
request is put in a journal with its answer, and the answer may depend on the
whole journal.  Whatever is refused, a call that raises leaves no socket open,
and one that returns leaves the one it returns, bound where it was asked to. -/

namespace Netflume

inductive Family where
  | inet | inet6
  deriving DecidableEq, Repr

/-- What the operating system is asked; a socket is known by a number. -/
inductive Request where
  | socket (family : Family) (handle : Nat)
  /-- `setsockopt(IPPROTO_IPV6, IPV6_V6ONLY, 0)` -/
  | clearV6Only (handle : Nat)
  /-- `setsockopt(SOL_SOCKET, SO_REUSEADDR, 1)` -/
  | reuseAddress (handle : Nat)
  /-- `setsockopt(SOL_SOCKET, SO_RCVBUF, size)` -/
  | receiveBuffer (handle : Nat) (size : Int)
  | bind (handle : Nat) (host : String) (port : Int)
  | close (handle : Nat)
  deriving DecidableEq, Repr

/-- What a request raises: an `OSError`, an `AttributeError` where the platform has no such constant, or
anything else. -/
inductive OpenError where
  | os (error : OsError)
  | noAttribute
  | other (error : PyError)
  deriving DecidableEq, Repr

/-- The requests made so far, each with what it raised. -/
abbrev Journal := List (Request × Option OpenError)

abbrev Os := Journal → Request → Option OpenError

def ask (os : Os) (request : Request) (journal : Journal) : Option OpenError × Journal :=
  (os journal request, journal ++ [(request, os journal request)])

/-- `_NO_IPV6`. -/
def noIpv6 : List Errno := [.EADDRNOTAVAIL, .EAFNOSUPPORT]

/-- `sock.close()`, then `raise` or `return` of `outcome`. -/
def closeThen {α : Type} (os : Os) (handle : Nat) (outcome : Except OpenError α) (journal : Journal) :
    Except OpenError α × Journal :=
  let (failed, journal) := ask os (.close handle) journal
  match failed with
  | some error => (.error error, journal)
  | none => (outcome, journal)

/-- `_prepare_and_bind`; a buffer that cannot be had is done without. -/
def prepareAndBind (os : Os) (handle : Nat) (host : String) (port : Int) (reuseAddress : Bool) (rcvbuf : Option Int)
    (journal : Journal) : Option OpenError × Journal :=
  let (failed, journal) := if reuseAddress then ask os (.reuseAddress handle) journal else (none, journal)
  match failed with
  | some error => (some error, journal)
  | none =>
    let (failed, journal) :=
      if rcvbuf.getD 0 ≠ 0 then ask os (.receiveBuffer handle (rcvbuf.getD 0)) journal else (none, journal)
    match failed with
    | some .noAttribute => (some .noAttribute, journal)
    | some (.other error) => (some (.other error), journal)
    | some (.os _) | none => ask os (.bind handle host port) journal

/-- `_dual_stack`. -/
def dualStack (os : Os) (port : Int) (reuseAddress : Bool) (rcvbuf : Option Int) (journal : Journal) :
    Except OpenError (Option Nat) × Journal :=
  let handle := journal.length
  let (failed, journal) := ask os (.socket .inet6 handle) journal
  match failed with
  | some (.os _) => (.ok none, journal)
  | some error => (.error error, journal)
  | none =>
    let (failed, journal) := ask os (.clearV6Only handle) journal
    match failed with
    | some (.os _) | some .noAttribute => closeThen os handle (.ok none) journal
    | some (.other error) => (.error (.other error), journal)
    | none =>
      let (failed, journal) := prepareAndBind os handle "::" port reuseAddress rcvbuf journal
      match failed with
      | some (.os error) =>
        if error.errno ∈ noIpv6 then closeThen os handle (.ok none) journal
        else closeThen os handle (.error (.os error)) journal
      | some error => closeThen os handle (.error error) journal
      | none => (.ok (some handle), journal)

/-- The family a named address picks, and whether the socket is to serve both; a hostname is bound over IPv4. -/
def namedFamily (bind : String) : Family × Bool :=
  match parseIpv4 bind.toList with
  | some _ => (.inet, false)
  | none =>
    match parseIpv6 bind.toList with
    | some address => (.inet6, address = 0)
    | none => (.inet, false)

/-- The rest of `_open_socket`: a socket of one family. -/
def openFamily (os : Os) (family : Family) (host : String) (dual : Bool) (port : Int) (reuseAddress : Bool)
    (rcvbuf : Option Int) (journal : Journal) : Except OpenError Nat × Journal :=
  let handle := journal.length
  let (failed, journal) := ask os (.socket family handle) journal
  match failed with
  | some error => (.error error, journal)
  | none =>
    let (failed, journal) := if dual then ask os (.clearV6Only handle) journal else (none, journal)
    match failed with
    | some error => closeThen os handle (.error error) journal
    | none =>
      let (failed, journal) := prepareAndBind os handle host port reuseAddress rcvbuf journal
      match failed with
      | some error => closeThen os handle (.error error) journal
      | none => (.ok handle, journal)

/-- `_open_socket`. -/
def openSocket (os : Os) (bind : Option String) (port : Int) (reuseAddress : Bool) (rcvbuf : Option Int) :
    Except OpenError Nat × Journal :=
  match bind with
  | some name =>
    let (family, dual) := namedFamily name
    openFamily os family name dual port reuseAddress rcvbuf []
  | none =>
    match dualStack os port reuseAddress rcvbuf [] with
    | (.error error, journal) => (.error error, journal)
    | (.ok (some handle), journal) => (.ok handle, journal)
    | (.ok none, journal) => openFamily os .inet "0.0.0.0" false port reuseAddress rcvbuf journal

/-! ## The sockets held -/

/-- The sockets held after one more request; closing gives a socket up even where it reports an error. -/
def hold (held : List Nat) : Request × Option OpenError → List Nat
  | (.socket _ handle, none) => held ++ [handle]
  | (.close handle, _) => held.erase handle
  | _ => held

/-- The sockets made and not yet closed. -/
def held (journal : Journal) : List Nat := journal.foldl hold []

theorem held_append (journal steps : Journal) : held (journal ++ steps) = steps.foldl hold (held journal) :=
  List.foldl_append

@[simp] theorem held_snoc (journal : Journal) (entry : Request × Option OpenError) :
    held (journal ++ [entry]) = hold (held journal) entry := held_append journal [entry]

/-- What `_prepare_and_bind` asks for. -/
def Request.Prepares (handle : Nat) (host : String) (port : Int) (request : Request) : Prop :=
  request = .reuseAddress handle ∨ (∃ size, request = .receiveBuffer handle size) ∨ request = .bind handle host port

/-- It makes no socket and closes none. -/
theorem held_prepares {handle : Nat} {host : String} {port : Int} {steps : Journal}
    (prepares : ∀ entry ∈ steps, entry.1.Prepares handle host port) (journal : Journal) :
    held (journal ++ steps) = held journal := by
  rw [held_append]
  induction steps generalizing journal with
  | nil => rfl
  | cons entry steps inductionHypothesis =>
    have same : hold (held journal) entry = held journal := by
      obtain ⟨request, answer⟩ := entry
      have form := prepares (request, answer) List.mem_cons_self
      dsimp only at form
      rcases form with rfl | ⟨size, rfl⟩ | rfl <;> cases answer <;> rfl
    rw [List.foldl_cons, same]
    exact inductionHypothesis (fun later member => prepares later (List.mem_cons_of_mem _ member)) journal

/-- A request made only where it is wanted. -/
theorem askIf_spec (wanted : Prop) [Decidable wanted] (os : Os) (request : Request) (journal : Journal) :
    ∃ answer steps, (if wanted then ask os request journal else (none, journal)) = (answer, journal ++ steps) ∧
      (∀ entry ∈ steps, entry.1 = request ∧ wanted) ∧ (∀ error, answer = some error → (request, some error) ∈ steps) ∧
      (wanted → (request, answer) ∈ steps) := by
  by_cases asked : wanted
  · refine ⟨os journal request, [(request, os journal request)], if_pos asked, ?_, ?_, fun _ => List.mem_cons_self⟩
    · simp [asked]
    · intro error refused
      rw [refused]
      exact List.mem_cons_self
  · exact ⟨none, [], by rw [if_neg asked, List.append_nil], nofun, nofun, fun wants => absurd wants asked⟩

/-- `_prepare_and_bind` binds where it was asked to, or raises what one of its requests did. -/
theorem prepareAndBind_spec (os : Os) (handle : Nat) (host : String) (port : Int) (reuseAddress : Bool)
    (rcvbuf : Option Int) (journal : Journal) :
    ∃ steps, (prepareAndBind os handle host port reuseAddress rcvbuf journal).2 = journal ++ steps ∧
      (∀ entry ∈ steps, entry.1.Prepares handle host port) ∧
      ((prepareAndBind os handle host port reuseAddress rcvbuf journal).1 = none →
        (.bind handle host port, none) ∈ steps) ∧
      ∀ error, (prepareAndBind os handle host port reuseAddress rcvbuf journal).1 = some error →
        ∃ request, (request, some error) ∈ steps := by
  obtain ⟨reused, first, firstAsked, firstOwn, firstRefused, _⟩ :=
    askIf_spec (reuseAddress = true) os (.reuseAddress handle) journal
  obtain ⟨sized, second, secondAsked, secondOwn, secondRefused, _⟩ :=
    askIf_spec (rcvbuf.getD 0 ≠ 0) os (.receiveBuffer handle (rcvbuf.getD 0)) (journal ++ first)
  have firstPrepares : ∀ entry ∈ first, entry.1.Prepares handle host port := fun entry member =>
    .inl (firstOwn entry member).1
  have bothPrepare : ∀ entry ∈ first ++ second, entry.1.Prepares handle host port := by
    intro entry member
    rcases List.mem_append.mp member with member | member
    · exact firstPrepares entry member
    · exact .inr (.inl ⟨_, (secondOwn entry member).1⟩)
  rw [prepareAndBind, firstAsked]
  cases reused with
  | some error =>
    refine ⟨first, rfl, firstPrepares, nofun, ?_⟩
    rintro _ ⟨⟩
    exact ⟨_, firstRefused error rfl⟩
  | none =>
    dsimp only
    rw [secondAsked]
    have binds : ∃ steps, (ask os (.bind handle host port) (journal ++ first ++ second)).2 = journal ++ steps ∧
        (∀ entry ∈ steps, entry.1.Prepares handle host port) ∧
        ((ask os (.bind handle host port) (journal ++ first ++ second)).1 = none →
          (.bind handle host port, none) ∈ steps) ∧
        ∀ error, (ask os (.bind handle host port) (journal ++ first ++ second)).1 = some error →
          ∃ request, (request, some error) ∈ steps := by
      refine ⟨first ++ second ++ [(.bind handle host port, os (journal ++ first ++ second) (.bind handle host port))],
        ?_, ?_, ?_, ?_⟩
      · simp only [ask, List.append_assoc]
      · intro entry member
        rcases List.mem_append.mp member with member | member
        · exact bothPrepare entry member
        · rw [List.mem_singleton.mp member]
          exact .inr (.inr rfl)
      · intro bound
        rw [show os (journal ++ first ++ second) (.bind handle host port) = none from bound]
        exact List.mem_append_right _ List.mem_cons_self
      · intro error refused
        rw [show os (journal ++ first ++ second) (.bind handle host port) = some error from refused]
        exact ⟨_, List.mem_append_right _ List.mem_cons_self⟩
    have secondFails (error : OpenError) (refused : sized = some error) :
        ∃ steps, journal ++ first ++ second = journal ++ steps ∧
          (∀ entry ∈ steps, entry.1.Prepares handle host port) ∧
          (some error = none → (Request.bind handle host port, none) ∈ steps) ∧
          ∀ raised, some error = some raised → ∃ request, (request, some raised) ∈ steps := by
      refine ⟨first ++ second, List.append_assoc _ _ _, bothPrepare, nofun, ?_⟩
      rintro _ ⟨⟩
      exact ⟨_, List.mem_append_right _ (secondRefused error refused)⟩
    cases sized with
    | none => exact binds
    | some error =>
      cases error with
      | os error => exact binds
      | noAttribute => exact secondFails .noAttribute rfl
      | other error => exact secondFails (.other error) rfl

/-! ## What opening leaves behind -/

/-- The one caught clause beside `OSError` covers the constant's absence; `setsockopt` raises nothing else. -/
def Os.Ordinary (os : Os) : Prop := ∀ journal handle error, os journal (.clearV6Only handle) ≠ some (.other error)

/-- `closeThen` gives the socket up, and goes on as it was told to or raises. -/
theorem closeThen_spec {α : Type} (os : Os) {handle : Nat} (outcome : Except OpenError α) {journal : Journal}
    (own : held journal = [handle]) :
    held (closeThen os handle outcome journal).2 = [] ∧
      (closeThen os handle outcome journal).2 = journal ++ [(.close handle, os journal (.close handle))] ∧
      ((closeThen os handle outcome journal).1 = outcome ∨
        ∃ error, (closeThen os handle outcome journal).1 = .error error) := by
  have gone : held (journal ++ [(.close handle, os journal (.close handle))]) = [] := by
    rw [held_snoc, own]
    simp [hold]
  rw [closeThen, ask]
  cases answer : os journal (.close handle) with
  | none =>
    rw [answer] at gone
    exact ⟨gone, rfl, .inl rfl⟩
  | some error =>
    rw [answer] at gone
    exact ⟨gone, rfl, .inr ⟨error, rfl⟩⟩

/-- What raised leaves no socket open, and what returned leaves its own, bound to the host. -/
structure Leaves (host : String) (port : Int) (outcome : Except OpenError (Option Nat)) (journal : Journal) : Prop where
  opened : ∀ handle, outcome = .ok (some handle) → held journal = [handle] ∧ (.bind handle host port, none) ∈ journal
  nothing : outcome = .ok none → held journal = []
  raised : ∀ error, outcome = .error error → held journal = []

section Opening

variable {os : Os} {host : String} {port : Int} {journal : Journal}

theorem Leaves.of_opened {handle : Nat} (own : held journal = [handle])
    (bound : (.bind handle host port, none) ∈ journal) : Leaves host port (.ok (some handle)) journal where
  opened := by
    rintro _ ⟨⟩
    exact ⟨own, bound⟩
  nothing := nofun
  raised := nofun

/-- Nothing was made, or what was made is closed. -/
theorem Leaves.of_closed {outcome : Except OpenError (Option Nat)} (nothing : held journal = [])
    (unopened : ∀ handle, outcome ≠ .ok (some handle)) : Leaves host port outcome journal where
  opened := fun handle same => absurd same (unopened handle)
  nothing := fun _ => nothing
  raised := fun _ _ => nothing

theorem Leaves.of_closeThen {handle : Nat} (own : held journal = [handle]) {outcome : Except OpenError (Option Nat)}
    (unopened : ∀ handle, outcome ≠ .ok (some handle)) :
    Leaves host port (closeThen os handle outcome journal).1 (closeThen os handle outcome journal).2 := by
  obtain ⟨gone, _, asTold | ⟨error, raised⟩⟩ := closeThen_spec os outcome own
  · refine .of_closed gone ?_
    rw [asTold]
    exact unopened
  · refine .of_closed gone ?_
    rw [raised]
    exact fun _ => nofun

/-- A socket just made is the only one held. -/
theorem held_socket {family : Family} (empty : held journal = []) (handle : Nat) :
    held (journal ++ [(.socket family handle, none)]) = [handle] := by
  rw [held_snoc, empty]
  rfl

/-- The end of either path: the options and the bind, on a socket held alone. -/
theorem leaves_prepareAndBind {handle : Nat} (own : held journal = [handle]) (reuseAddress : Bool)
    (rcvbuf : Option Int) :
    held (prepareAndBind os handle host port reuseAddress rcvbuf journal).2 = [handle] ∧
      ((prepareAndBind os handle host port reuseAddress rcvbuf journal).1 = none →
        (.bind handle host port, none) ∈ (prepareAndBind os handle host port reuseAddress rcvbuf journal).2) := by
  obtain ⟨steps, asked, prepares, bound, _⟩ := prepareAndBind_spec os handle host port reuseAddress rcvbuf journal
  rw [asked, held_prepares prepares, own]
  exact ⟨rfl, fun done => List.mem_append_right _ (bound done)⟩

theorem leaves_dualStack (ordinary : os.Ordinary) (empty : held journal = []) (reuseAddress : Bool)
    (rcvbuf : Option Int) :
    Leaves "::" port (dualStack os port reuseAddress rcvbuf journal).1
      (dualStack os port reuseAddress rcvbuf journal).2 := by
  rw [dualStack]
  dsimp only [ask]
  cases made : os journal (.socket .inet6 journal.length) with
  | some error =>
    have nothing : held (journal ++ [(.socket .inet6 journal.length, some error)]) = [] := by
      rw [held_snoc, empty]
      rfl
    cases error <;> exact .of_closed nothing fun _ => nofun
  | none =>
    have own := @held_socket journal .inet6 empty journal.length
    dsimp only
    generalize journal ++ [(.socket .inet6 journal.length, none)] = opened at own ⊢
    cases cleared : os opened (.clearV6Only journal.length) with
    | some error =>
      have still : held (opened ++ [(.clearV6Only journal.length, some error)]) = [journal.length] := by
        rw [held_snoc, own]
        rfl
      cases error with
      | other error => exact absurd cleared (ordinary opened _ error)
      | os error => exact .of_closeThen still fun _ => nofun
      | noAttribute => exact .of_closeThen still fun _ => nofun
    | none =>
      have still : held (opened ++ [(.clearV6Only journal.length, none)]) = [journal.length] := by
        rw [held_snoc, own]
        rfl
      obtain ⟨kept, bound⟩ := @leaves_prepareAndBind os "::" port _ _ still reuseAddress rcvbuf
      dsimp only
      generalize prepareAndBind os journal.length "::" port reuseAddress rcvbuf
        (opened ++ [(.clearV6Only journal.length, none)]) = prepared at kept bound ⊢
      obtain ⟨failed, prepared⟩ := prepared
      cases failed with
      | none => exact .of_opened kept (bound rfl)
      | some error =>
        cases error with
        | noAttribute => exact .of_closeThen kept fun _ => nofun
        | other error => exact .of_closeThen kept fun _ => nofun
        | os error =>
          dsimp only
          by_cases noSuch : error.errno ∈ noIpv6
          · rw [if_pos noSuch]
            exact .of_closeThen kept fun _ => nofun
          · rw [if_neg noSuch]
            exact .of_closeThen kept fun _ => nofun

/-- A failed opening reads the same whether it was to give a socket or perhaps one. -/
theorem closeThen_map (handle : Nat) (error : OpenError) :
    (closeThen os handle (.error error : Except OpenError Nat) journal).1.map some =
        (closeThen os handle (.error error : Except OpenError (Option Nat)) journal).1 ∧
      (closeThen os handle (.error error : Except OpenError Nat) journal).2 =
        (closeThen os handle (.error error : Except OpenError (Option Nat)) journal).2 := by
  rw [closeThen, closeThen]
  generalize ask os (.close handle) journal = closed
  obtain ⟨failed, after⟩ := closed
  cases failed <;> exact ⟨rfl, rfl⟩

theorem Leaves.of_closeThen_map {handle : Nat} (own : held journal = [handle]) (error : OpenError) :
    Leaves host port ((closeThen os handle (.error error : Except OpenError Nat) journal).1.map some)
      (closeThen os handle (.error error : Except OpenError Nat) journal).2 := by
  obtain ⟨same, sameJournal⟩ := @closeThen_map os journal handle error
  rw [same, sameJournal]
  exact .of_closeThen own fun _ => nofun

theorem leaves_openFamily (empty : held journal = []) (family : Family) (dual reuseAddress : Bool)
    (rcvbuf : Option Int) :
    Leaves host port ((openFamily os family host dual port reuseAddress rcvbuf journal).1.map some)
      (openFamily os family host dual port reuseAddress rcvbuf journal).2 := by
  rw [openFamily]
  dsimp only [ask]
  cases made : os journal (.socket family journal.length) with
  | some error =>
    have nothing : held (journal ++ [(.socket family journal.length, some error)]) = [] := by
      rw [held_snoc, empty]
      rfl
    exact .of_closed nothing fun _ => nofun
  | none =>
    have own := @held_socket journal family empty journal.length
    dsimp only
    generalize journal ++ [(.socket family journal.length, none)] = opened at own ⊢
    obtain ⟨cleared, steps, asked, clears, -, -⟩ :=
      askIf_spec (dual = true) os (.clearV6Only journal.length) opened
    simp only [ask] at asked
    rw [asked]
    have still : held (opened ++ steps) = [journal.length] := by
      rw [held_append, own]
      clear asked
      induction steps with
      | nil => rfl
      | cons entry steps inductionHypothesis =>
        obtain ⟨request, answer⟩ := entry
        obtain rfl := (clears (request, answer) List.mem_cons_self).1
        cases answer <;>
          exact inductionHypothesis (fun later member => clears later (List.mem_cons_of_mem _ member))
    cases cleared with
    | some error => exact .of_closeThen_map still error
    | none =>
      obtain ⟨kept, bound⟩ := @leaves_prepareAndBind os host port _ _ still reuseAddress rcvbuf
      dsimp only
      generalize prepareAndBind os journal.length host port reuseAddress rcvbuf (opened ++ steps) = prepared
        at kept bound ⊢
      obtain ⟨failed, prepared⟩ := prepared
      cases failed with
      | none => exact .of_opened kept (bound rfl)
      | some error => exact .of_closeThen_map kept error

end Opening

/-- Whatever the operating system refuses, opening a socket leaves open the one it returns, bound, and no other. -/
theorem openSocket_leaves {os : Os} (ordinary : os.Ordinary) (bind : Option String) (port : Int) (reuseAddress : Bool)
    (rcvbuf : Option Int) :
    (∀ handle, (openSocket os bind port reuseAddress rcvbuf).1 = .ok handle →
      held (openSocket os bind port reuseAddress rcvbuf).2 = [handle] ∧
        ∃ host, (.bind handle host port, none) ∈ (openSocket os bind port reuseAddress rcvbuf).2) ∧
    ∀ error, (openSocket os bind port reuseAddress rcvbuf).1 = .error error →
      held (openSocket os bind port reuseAddress rcvbuf).2 = [] := by
  have fromFamily {host : String} {outcome : Except OpenError Nat} {journal : Journal}
      (leaves : Leaves host port (outcome.map some) journal) :
      (∀ handle, outcome = .ok handle →
        held journal = [handle] ∧ ∃ host, (.bind handle host port, none) ∈ journal) ∧
      ∀ error, outcome = .error error → held journal = [] := by
    constructor
    · rintro handle rfl
      obtain ⟨own, bound⟩ := leaves.opened handle rfl
      exact ⟨own, host, bound⟩
    · rintro error rfl
      exact leaves.raised error rfl
  cases bind with
  | some name => exact fromFamily (leaves_openFamily rfl _ _ _ _)
  | none =>
    have dual := @leaves_dualStack os port [] ordinary rfl reuseAddress rcvbuf
    rw [openSocket]
    generalize dualStack os port reuseAddress rcvbuf [] = tried at dual ⊢
    obtain ⟨outcome, journal⟩ := tried
    cases outcome with
    | error error =>
      have failed : Leaves "::" port ((.error error : Except OpenError Nat).map some) journal := dual
      exact fromFamily failed
    | ok handle =>
      cases handle with
      | some handle =>
        have made : Leaves "::" port ((.ok handle : Except OpenError Nat).map some) journal := dual
        exact fromFamily made
      | none => exact fromFamily (leaves_openFamily (dual.nothing rfl) _ _ _ _)

theorem openSocket_leaves_noIpv6 :
    let os : Os := fun _ request => if request = .bind 0 "::" 2055 then some (.os ⟨.EADDRNOTAVAIL, none⟩) else none
    (∀ handle, (openSocket os none 2055 true (some 4194304)).1 = .ok handle →
      held (openSocket os none 2055 true (some 4194304)).2 = [handle] ∧
        ∃ host, (.bind handle host 2055, none) ∈ (openSocket os none 2055 true (some 4194304)).2) ∧
    ∀ error, (openSocket os none 2055 true (some 4194304)).1 = .error error →
      held (openSocket os none 2055 true (some 4194304)).2 = [] := by
  intro os
  apply openSocket_leaves
  intro journal handle error refused
  cases refused

/-! ## Which address is bound -/

/-- The socket a request is about, but for the one that makes it. -/
def Request.subject : Request → Option Nat
  | .socket _ _ => none
  | .clearV6Only handle | .reuseAddress handle | .receiveBuffer handle _ | .bind handle _ _ | .close handle =>
    some handle

/-- A request made on the way to one socket of a family, bound to the host: it is about a socket of that family,
made before, and binds a dual-stack one only with `IPV6_V6ONLY` cleared, which no other has. -/
structure Request.Placed (family : Family) (dual : Bool) (host : String) (port : Int) (before : Journal)
    (request : Request) : Prop where
  socket : ∀ other handle, request = .socket other handle → other = family
  made : ∀ handle, request.subject = some handle → (.socket family handle, none) ∈ before
  clear : ∀ handle, request = .clearV6Only handle → dual = true
  bind : ∀ handle other wanted, request = .bind handle other wanted →
    other = host ∧ wanted = port ∧ (dual = true → (.clearV6Only handle, none) ∈ before)

/-- A refusal that is want of IPv6. -/
def NoIpv6 (entry : Request × Option OpenError) : Prop :=
  (∃ handle error, entry = (.socket .inet6 handle, some (.os error))) ∨
    (∃ handle error, entry = (.clearV6Only handle, some error)) ∨
    ∃ request error, entry = (request, some (.os error)) ∧ error.errno ∈ noIpv6

/-- Requests that are all placed, each by the journal before it. -/
def AllPlaced (family : Family) (dual : Bool) (host : String) (port : Int) : Journal → Journal → Prop
  | _, [] => True
  | before, entry :: steps =>
    entry.1.Placed family dual host port before ∧ AllPlaced family dual host port (before ++ [entry]) steps

/-- Some steps were added to the journal, all of them placed. -/
def Asks (family : Family) (dual : Bool) (host : String) (port : Int) (journal after steps : Journal) : Prop :=
  after = journal ++ steps ∧ AllPlaced family dual host port journal steps

/-- Closing on the way to an error does not give way to IPv4. -/
theorem closeThen_ne_none {os : Os} {journal : Journal} (handle : Nat) (error : OpenError) :
    (closeThen os handle (.error error : Except OpenError (Option Nat)) journal).1 ≠ .ok none := by
  rw [closeThen]
  generalize ask os (.close handle) journal = closed
  obtain ⟨failed, after⟩ := closed
  cases failed <;> nofun

section Asking

variable {os : Os} {family : Family} {dual : Bool} {host : String} {port : Int}
  {journal between after first second steps : Journal}

theorem allPlaced_append :
    AllPlaced family dual host port journal (first ++ second) ↔
      AllPlaced family dual host port journal first ∧ AllPlaced family dual host port (journal ++ first) second := by
  induction first generalizing journal with
  | nil => simp [AllPlaced]
  | cons entry first inductionHypothesis =>
    rw [List.cons_append, AllPlaced, AllPlaced, inductionHypothesis, and_assoc, List.append_assoc]
    rfl

/-- A request that is placed whatever else was asked before it is placed among others. -/
theorem allPlaced_of_forall
    (placed : ∀ more, ∀ entry ∈ steps, entry.1.Placed family dual host port (journal ++ more)) :
    AllPlaced family dual host port journal steps := by
  induction steps generalizing journal with
  | nil => trivial
  | cons entry steps inductionHypothesis =>
    refine ⟨by simpa using placed [] entry List.mem_cons_self, inductionHypothesis fun more later member => ?_⟩
    rw [List.append_assoc]
    exact placed _ later (List.mem_cons_of_mem _ member)

namespace Asks

theorem trans (one : Asks family dual host port journal between first)
    (two : Asks family dual host port between after second) :
    Asks family dual host port journal after (first ++ second) := by
  obtain ⟨rfl, placed⟩ := one
  obtain ⟨rfl, placedLater⟩ := two
  exact ⟨List.append_assoc _ _ _, allPlaced_append.mpr ⟨placed, placedLater⟩⟩

theorem one {request : Request} (placed : request.Placed family dual host port journal) (answer : Option OpenError) :
    Asks family dual host port journal (journal ++ [(request, answer)]) [(request, answer)] := ⟨rfl, placed, trivial⟩

/-- Each step is placed by what comes before it. -/
theorem placed (asks : Asks family dual host port journal after steps) {before rest : Journal} {request : Request}
    {answer : Option OpenError} (split : steps = before ++ (request, answer) :: rest) :
    request.Placed family dual host port (journal ++ before) := by
  have all := asks.2
  rw [split, allPlaced_append, AllPlaced] at all
  exact all.2.1

end Asks

theorem placed_socket (handle : Nat) : (Request.socket family handle).Placed family dual host port journal where
  socket := by
    rintro _ _ ⟨⟩
    rfl
  made := nofun
  clear := nofun
  bind := nofun

theorem placed_close {handle : Nat} (made : (.socket family handle, none) ∈ journal) :
    (Request.close handle).Placed family dual host port journal where
  socket := nofun
  made := by
    rintro _ ⟨⟩
    exact made
  clear := nofun
  bind := nofun

theorem placed_clearV6Only {handle : Nat} (isDual : dual = true) (made : (.socket family handle, none) ∈ journal) :
    (Request.clearV6Only handle).Placed family dual host port journal where
  socket := nofun
  made := by
    rintro _ ⟨⟩
    exact made
  clear := fun _ _ => isDual
  bind := nofun

theorem Request.Prepares.placed {handle : Nat} {request : Request} (prepares : request.Prepares handle host port)
    (made : (.socket family handle, none) ∈ journal) (cleared : dual = true → (.clearV6Only handle, none) ∈ journal) :
    request.Placed family dual host port journal := by
  rcases prepares with rfl | ⟨size, rfl⟩ | rfl
  · refine ⟨nofun, ?_, nofun, nofun⟩
    rintro _ ⟨⟩
    exact made
  · refine ⟨nofun, ?_, nofun, nofun⟩
    rintro _ ⟨⟩
    exact made
  · refine ⟨nofun, ?_, nofun, ?_⟩
    · rintro _ ⟨⟩
      exact made
    · rintro _ _ _ ⟨⟩
      exact ⟨rfl, rfl, cleared⟩

theorem asks_closeThen {α : Type} (os : Os) {handle : Nat} (outcome : Except OpenError α)
    (made : (.socket family handle, none) ∈ journal) :
    Asks family dual host port journal (closeThen os handle outcome journal).2
      [(.close handle, os journal (.close handle))] := by
  have closes : (closeThen os handle outcome journal).2 = journal ++ [(.close handle, os journal (.close handle))] := by
    rw [closeThen, ask]
    cases os journal (.close handle) <;> rfl
  rw [closes]
  exact .one (placed_close made) _

theorem asks_prepareAndBind (os : Os) {handle : Nat} (reuseAddress : Bool) (rcvbuf : Option Int)
    (made : (.socket family handle, none) ∈ journal) (cleared : dual = true → (.clearV6Only handle, none) ∈ journal) :
    ∃ steps,
      Asks family dual host port journal (prepareAndBind os handle host port reuseAddress rcvbuf journal).2 steps ∧
      ∀ error, (prepareAndBind os handle host port reuseAddress rcvbuf journal).1 = some error →
        ∃ request, (request, some error) ∈ steps := by
  obtain ⟨steps, asked, prepares, _, refused⟩ := prepareAndBind_spec os handle host port reuseAddress rcvbuf journal
  refine ⟨steps, ⟨asked, allPlaced_of_forall fun more entry member => ?_⟩, refused⟩
  exact (prepares entry member).placed (List.mem_append_left _ made)
    fun isDual => List.mem_append_left _ (cleared isDual)

/-- The dual stack binds an IPv6 socket with `IPV6_V6ONLY` cleared, and gives way only where there is none. -/
theorem asks_dualStack (os : Os) (port : Int) (reuseAddress : Bool) (rcvbuf : Option Int) (journal : Journal) :
    ∃ steps, Asks .inet6 true "::" port journal (dualStack os port reuseAddress rcvbuf journal).2 steps ∧
      ((dualStack os port reuseAddress rcvbuf journal).1 = .ok none → ∃ entry ∈ steps, NoIpv6 entry) := by
  have socketAsked := @Asks.one .inet6 true "::" port journal _ (placed_socket journal.length)
    (os journal (.socket .inet6 journal.length))
  rw [dualStack]
  dsimp only [ask]
  cases answer : os journal (.socket .inet6 journal.length) with
  | some error =>
    rw [answer] at socketAsked
    cases error with
    | os error => exact ⟨_, socketAsked, fun _ => ⟨_, List.mem_cons_self, .inl ⟨_, error, rfl⟩⟩⟩
    | noAttribute => exact ⟨_, socketAsked, nofun⟩
    | other error => exact ⟨_, socketAsked, nofun⟩
  | none =>
    rw [answer] at socketAsked
    have made : (.socket .inet6 journal.length, none) ∈ journal ++ [(Request.socket .inet6 journal.length, none)] := by
      simp
    dsimp only
    generalize journal ++ [(Request.socket .inet6 journal.length, none)] = opened at socketAsked made ⊢
    have bothAsked := socketAsked.trans
      (.one (placed_clearV6Only rfl made) (os opened (.clearV6Only journal.length)))
    have stillMade (answer : Option OpenError) :
        (.socket .inet6 journal.length, none) ∈ opened ++ [(Request.clearV6Only journal.length, answer)] :=
      List.mem_append_left _ made
    cases cleared : os opened (.clearV6Only journal.length) with
    | some error =>
      rw [cleared] at bothAsked
      have refused : NoIpv6 (.clearV6Only journal.length, some error) := .inr (.inl ⟨_, _, rfl⟩)
      have gaveWay := bothAsked.trans
        (asks_closeThen os (.ok none : Except OpenError (Option Nat)) (stillMade (some error)))
      cases error with
      | other error => exact ⟨_, bothAsked, nofun⟩
      | os error => exact ⟨_, gaveWay, fun _ => ⟨_, by simp, refused⟩⟩
      | noAttribute => exact ⟨_, gaveWay, fun _ => ⟨_, by simp, refused⟩⟩
    | none =>
      rw [cleared] at bothAsked
      have ready : (.clearV6Only journal.length, none) ∈ opened ++ [(Request.clearV6Only journal.length, none)] := by
        simp
      obtain ⟨steps, prepares, refused⟩ := @asks_prepareAndBind .inet6 true "::" port _ os journal.length reuseAddress
        rcvbuf (stillMade none) fun _ => ready
      have allAsked := bothAsked.trans prepares
      have madeLast : (.socket .inet6 journal.length, none) ∈ (prepareAndBind os journal.length "::" port reuseAddress
          rcvbuf (opened ++ [(.clearV6Only journal.length, none)])).2 := by
        rw [prepares.1]
        exact List.mem_append_left _ (stillMade none)
      dsimp only
      generalize prepareAndBind os journal.length "::" port reuseAddress rcvbuf
        (opened ++ [(.clearV6Only journal.length, none)]) = prepared at allAsked refused madeLast ⊢
      obtain ⟨failed, prepared⟩ := prepared
      cases failed with
      | none => exact ⟨_, allAsked, nofun⟩
      | some error =>
        have closed (outcome : Except OpenError (Option Nat)) :=
          allAsked.trans (asks_closeThen os outcome madeLast)
        cases error with
        | noAttribute => exact ⟨_, closed _, fun gaveWay => absurd gaveWay (closeThen_ne_none _ _)⟩
        | other error => exact ⟨_, closed _, fun gaveWay => absurd gaveWay (closeThen_ne_none _ _)⟩
        | os error =>
          dsimp only
          by_cases noSuch : error.errno ∈ noIpv6
          · rw [if_pos noSuch]
            obtain ⟨request, member⟩ := refused (.os error) rfl
            exact ⟨_, closed _, fun _ => ⟨_, by simp [member], .inr (.inr ⟨request, error, rfl, noSuch⟩)⟩⟩
          · rw [if_neg noSuch]
            exact ⟨_, closed _, fun gaveWay => absurd gaveWay (closeThen_ne_none _ _)⟩

theorem asks_openFamily (os : Os) (family : Family) (host : String) (dual : Bool) (port : Int) (reuseAddress : Bool)
    (rcvbuf : Option Int) (journal : Journal) :
    ∃ steps, Asks family dual host port journal
      (openFamily os family host dual port reuseAddress rcvbuf journal).2 steps := by
  have socketAsked := @Asks.one family dual host port journal _ (placed_socket journal.length)
    (os journal (.socket family journal.length))
  rw [openFamily]
  dsimp only [ask]
  cases answer : os journal (.socket family journal.length) with
  | some error =>
    rw [answer] at socketAsked
    exact ⟨_, socketAsked⟩
  | none =>
    rw [answer] at socketAsked
    have made : (.socket family journal.length, none) ∈ journal ++ [(Request.socket family journal.length, none)] := by
      simp
    dsimp only
    generalize journal ++ [(Request.socket family journal.length, none)] = opened at socketAsked made ⊢
    obtain ⟨cleared, steps, asked, clears, _, wanted⟩ :=
      askIf_spec (dual = true) os (.clearV6Only journal.length) opened
    simp only [ask] at asked
    rw [asked]
    have clearing : Asks family dual host port opened (opened ++ steps) steps := by
      refine ⟨rfl, allPlaced_of_forall fun more entry member => ?_⟩
      obtain ⟨clear, isDual⟩ := clears entry member
      rw [clear]
      exact placed_clearV6Only isDual (List.mem_append_left _ made)
    have bothAsked := socketAsked.trans clearing
    have stillMade : (.socket family journal.length, none) ∈ opened ++ steps := List.mem_append_left _ made
    cases cleared with
    | some error => exact ⟨_, bothAsked.trans (asks_closeThen os _ stillMade)⟩
    | none =>
      obtain ⟨more, prepares, _⟩ := @asks_prepareAndBind family dual host port (opened ++ steps) os journal.length
        reuseAddress rcvbuf stillMade fun isDual => List.mem_append_right _ (wanted isDual)
      have allAsked := bothAsked.trans prepares
      have madeLast : (.socket family journal.length, none) ∈
          (prepareAndBind os journal.length host port reuseAddress rcvbuf (opened ++ steps)).2 := by
        rw [prepares.1]
        exact List.mem_append_left _ stillMade
      dsimp only
      generalize prepareAndBind os journal.length host port reuseAddress rcvbuf (opened ++ steps) = prepared
        at allAsked madeLast ⊢
      obtain ⟨failed, prepared⟩ := prepared
      cases failed with
      | none => exact ⟨_, allAsked⟩
      | some error => exact ⟨_, allAsked.trans (asks_closeThen os _ madeLast)⟩

end Asking

/-- A named address gets one socket of its own family and is what it is bound to; the default gets a dual stack on
"::", and an IPv4 socket on "0.0.0.0" only after a refusal that is want of IPv6. -/
theorem openSocket_asks (os : Os) (port : Int) (reuseAddress : Bool) (rcvbuf : Option Int) :
    (∀ name before request answer after,
      (openSocket os (some name) port reuseAddress rcvbuf).2 = before ++ (request, answer) :: after →
        request.Placed (namedFamily name).1 (namedFamily name).2 name port before) ∧
    ∀ before request answer after,
      (openSocket os none port reuseAddress rcvbuf).2 = before ++ (request, answer) :: after →
        request.Placed .inet6 true "::" port before ∨
          request.Placed .inet false "0.0.0.0" port before ∧ ∃ refusal ∈ before, NoIpv6 refusal := by
  refine ⟨fun name before request answer after split => ?_, fun before request answer after split => ?_⟩
  · obtain ⟨steps, asks⟩ := asks_openFamily os (namedFamily name).1 name (namedFamily name).2 port reuseAddress
      rcvbuf []
    exact asks.placed (asks.1.symm.trans split)
  · obtain ⟨dualSteps, dualAsks, gaveWay⟩ := asks_dualStack os port reuseAddress rcvbuf []
    have dualJournal : (dualStack os port reuseAddress rcvbuf []).2 = dualSteps := dualAsks.1
    rw [openSocket] at split
    generalize dualStack os port reuseAddress rcvbuf [] = tried at dualJournal gaveWay split
    obtain ⟨outcome, journal⟩ := tried
    obtain rfl : journal = dualSteps := dualJournal
    have onlyDual {front rest : Journal} (same : journal = front ++ (request, answer) :: rest) :
        request.Placed .inet6 true "::" port front := dualAsks.placed same
    cases outcome with
    | error error => exact .inl (onlyDual split)
    | ok made =>
      cases made with
      | some handle => exact .inl (onlyDual split)
      | none =>
        obtain ⟨steps, asks⟩ := asks_openFamily os .inet "0.0.0.0" false port reuseAddress rcvbuf journal
        obtain ⟨refusal, refused, noIpv6⟩ := gaveWay rfl
        dsimp only at split
        rw [asks.1] at split
        rcases List.append_eq_append_iff.mp split with ⟨more, inFront, later⟩ | ⟨more, inDual, behind⟩
        · refine .inr ⟨?_, refusal, by rw [inFront]; exact List.mem_append_left _ refused, noIpv6⟩
          rw [inFront]
          exact asks.placed later
        · cases more with
          | nil =>
            rw [List.append_nil] at inDual
            rw [List.nil_append] at behind
            refine .inr ⟨?_, refusal, by rw [← inDual]; exact refused, noIpv6⟩
            rw [← inDual, ← List.append_nil journal]
            exact asks.placed behind.symm
          | cons entry more =>
            obtain ⟨rfl, _⟩ := List.cons.inj behind
            exact .inl (onlyDual inDual)

theorem openSocket_asks_fallback :
    let os : Os := fun _ request => if request = .bind 0 "::" 2055 then some (.os ⟨.EADDRNOTAVAIL, none⟩) else none
    let before : Journal := [(.socket .inet6 0, none), (.clearV6Only 0, none), (.reuseAddress 0, none),
      (.bind 0 "::" 2055, some (.os ⟨.EADDRNOTAVAIL, none⟩)), (.close 0, none), (.socket .inet 5, none),
      (.reuseAddress 5, none)]
    (openSocket os none 2055 true none).2 = before ++ [(.bind 5 "0.0.0.0" 2055, none)] ∧
      (Request.bind 5 "0.0.0.0" 2055).Placed .inet false "0.0.0.0" 2055 before ∧
        ∃ refusal ∈ before, NoIpv6 refusal := by
  intro os before
  have journal : (openSocket os none 2055 true none).2 = before ++ [(.bind 5 "0.0.0.0" 2055, none)] := by
    decide +kernel
  rcases (openSocket_asks os 2055 true none).2 before _ none [] journal with dual | fallback
  · obtain ⟨host, _⟩ := dual.bind 5 "0.0.0.0" 2055 rfl
    exact absurd host (by decide)
  · exact ⟨journal, fallback⟩

example : namedFamily "::" = (.inet6, true) ∧ namedFamily "::1" = (.inet6, false) ∧
    namedFamily "0.0.0.0" = (.inet, false) := by decide +kernel

end Netflume
