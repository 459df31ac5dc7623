import Chip8.Proofs.CallStack

/-!
# Calls and Returns One After Another

Any number of calls and returns, as a program makes them or whoever drives the machine.

The stack answers each of them as a list would that has room for sixteen addresses: a call
puts an address at the end, modulo 65536, and a return takes the last one away. Where the
list has no room for another address, or none to give, the stack refuses and is the same as
before, slot by slot.

A return leaves its address in the slot. So two stacks may hold the same addresses and
still differ beyond them, but there is no way to find out: the slot comes back into use by
a call, and a call fills it.

## Main definitions

* `CallStack.Request`: A call or a return.
* `CallStack.serve`, `CallStack.serveAll`: What a stack makes of requests.
* `CallStack.Request.onList`, `CallStack.answerAll`: What a list makes of them.

## Theorems

* `CallStack.serve_onList`: One request, answered by the list of addresses in use.
* `CallStack.serve_refused`: A request that is refused changes nothing.
* `CallStack.serveAll_onList`: Requests one after another.
* `CallStack.requests_by_list`: All requests to a stack without calls.
-/

namespace Chip8

namespace CallStack

/-- What can be asked of a call stack. -/
inductive Request where
  /-- Enter a subroutine that returns to `a`. -/
  | call (a : Int)
  /-- Leave the latest subroutine. -/
  | pop
  deriving DecidableEq, Repr

/-- What a request comes to: a refusal, or the address that a return goes to. A call has
    no result. -/
abbrev Answer := Except Fault (Option Int)

/-! ### Requests to a stack -/

/-- Do what is asked. -/
def serve : Request → Action CallStack (Option Int)
  | .call a => do
    call a
    return none
  | .pop => do
    return some (← pop)

/-- Do what is asked, one after another, whether some of it is refused or not: the answers
    and the stack afterwards. -/
def serveAll (s : CallStack) : List Request → List Answer × CallStack
  | [] => ([], s)
  | r :: rs =>
    let result := serve r s
    let rest := serveAll (Action.final result) rs
    (Action.outcome result :: rest.1, rest.2)

/-! ### Requests to a list -/

/-- What a list of at most sixteen addresses, oldest first, makes of a request. -/
def Request.onList (l : List Int) : Request → Answer × List Int
  | call a =>
    if l.length < 16 then (.ok none, l ++ [a % 65536]) else (.error (.stackOverflow a), l)
  | pop =>
    match l.getLast? with
    | some a => (.ok (some a), l.dropLast)
    | none => (.error .stackUnderflow, l)

/-- The answers of a list to requests one after another, and the list afterwards. -/
def answerAll (l : List Int) : List Request → List Answer × List Int
  | [] => ([], l)
  | r :: rs =>
    let first := r.onList l
    let rest := answerAll first.2 rs
    (first.1 :: rest.1, rest.2)

/-! ### The stack as the list -/

theorem serve_call (s : CallStack) (a : Int) :
    serve (.call a) s =
      if s.live.length < 16 then .ok none (s.push a) else .error (.stackOverflow a) s := by
  unfold serve
  simp only []
  rw [Action.run_bind, call_eq, length_live]
  by_cases h : s.depth < 16
  · rw [if_pos h, if_pos h]
    rfl
  · rw [if_neg h, if_neg h]

theorem serve_pop (s : CallStack) :
    serve .pop s =
      match s.live.getLast? with
      | some a => .ok (some a) s.dropTop
      | none => .error .stackUnderflow s := by
  unfold serve
  simp only []
  rw [Action.run_bind, pop_eq]
  cases s.live.getLast? with
  | none => rfl
  | some a => rfl

/-- One request is answered by the list of the addresses in use, and what is in use
    afterwards is what the list has become. -/
theorem serve_onList (s : CallStack) (r : Request) :
    Action.outcome (serve r s) = (r.onList s.live).1 ∧
      (Action.final (serve r s)).live = (r.onList s.live).2 := by
  cases r with
  | call a =>
      rw [serve_call]
      unfold Request.onList
      simp only []
      by_cases h : s.live.length < 16
      · rw [if_pos h, if_pos h]
        rw [length_live] at h
        exact ⟨rfl, live_push_mod h a⟩
      · rw [if_neg h, if_neg h]
        exact ⟨rfl, rfl⟩
  | pop =>
      rw [serve_pop]
      unfold Request.onList
      simp only []
      cases s.live.getLast? with
      | none => exact ⟨rfl, rfl⟩
      | some a => exact ⟨rfl, live_dropTop s⟩

/-- A request that is refused changes nothing, the slots that are not in use among them. -/
theorem serve_refused {s t : CallStack} {r : Request} {f : Fault}
    (h : serve r s = .error f t) : t = s := by
  cases r with
  | call a =>
      rw [serve_call] at h
      by_cases hroom : s.live.length < 16
      · rw [if_pos hroom] at h
        cases h
      · rw [if_neg hroom] at h
        cases h
        rfl
  | pop =>
      rw [serve_pop] at h
      cases hlast : s.live.getLast? with
      | none =>
          rw [hlast] at h
          cases h
          rfl
      | some a =>
          rw [hlast] at h
          cases h

/-- Requests one after another are answered by the list of the addresses in use. -/
theorem serveAll_onList (s : CallStack) (rs : List Request) :
    (serveAll s rs).1 = (answerAll s.live rs).1 ∧
      (serveAll s rs).2.live = (answerAll s.live rs).2 := by
  induction rs generalizing s with
  | nil => exact ⟨rfl, rfl⟩
  | cons r rs ih =>
      rcases serve_onList s r with ⟨hanswer, hlive⟩
      rcases ih (Action.final (serve r s)) with ⟨hanswers, hrest⟩
      unfold serveAll answerAll
      simp only []
      rw [hanswer, hanswers, hrest, hlive]
      exact ⟨rfl, rfl⟩

/-- A stack that has been asked for calls and returns, in any order and with any addresses,
    has answered each of them as a list of at most sixteen addresses does, and it is as deep
    as that list is long. The next request changes nothing if it is refused. A stack with the
    same addresses in use gives the same answers to all further requests, whatever is in
    its other slots. -/
theorem requests_by_list (rs : List Request) :
    let asked := serveAll initial rs
    let listed := answerAll [] rs
    asked.1 = listed.1 ∧ asked.2.live = listed.2 ∧ asked.2.depth = listed.2.length ∧
      (∀ r f t, serve r asked.2 = .error f t → t = asked.2) ∧
      ∀ s : CallStack, s.live = listed.2 → ∀ more,
        (serveAll s more).1 = (serveAll asked.2 more).1 ∧
          (serveAll s more).2.depth = (serveAll asked.2 more).2.depth := by
  intro asked listed
  have hfresh : initial.live = [] := rfl
  rcases serveAll_onList initial rs with ⟨hanswers, hlive⟩
  rw [hfresh] at hanswers hlive
  refine ⟨hanswers, hlive, ?_, fun r f t => serve_refused, ?_⟩
  · rw [← length_live, hlive]
  · intro s hs more
    rcases serveAll_onList s more with ⟨hmore, hlater⟩
    rcases serveAll_onList asked.2 more with ⟨hmore', hlater'⟩
    rw [hs] at hmore hlater
    rw [hlive] at hmore' hlater'
    refine ⟨hmore.trans hmore'.symm, ?_⟩
    rw [← length_live, ← length_live, hlater, hlater']

/-- A call that has been returned from leaves its address behind, modulo 65536, and nothing
    that is asked afterwards shows it. -/
theorem leftover_not_shown :
    let left := (serveAll initial [.call 0x12345, .pop]).2
    (serveAll initial [.call 0x12345, .pop]).1 = [.ok none, .ok (some 0x2345)] ∧
      left ≠ initial ∧ serve .pop left = .error .stackUnderflow left ∧
      ∀ more, (serveAll left more).1 = (serveAll initial more).1 := by
  intro left
  rcases requests_by_list [.call 0x12345, .pop] with ⟨hanswers, -, -, -, hagree⟩
  refine ⟨hanswers.trans rfl, by decide, rfl, ?_⟩
  intro more
  exact (hagree initial rfl more).1.symm

end CallStack

end Chip8
