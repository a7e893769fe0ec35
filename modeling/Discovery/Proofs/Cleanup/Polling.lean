import Discovery.Cleanup.Basic
import Discovery.Cleanup.Rehearsal
import Mathlib.Tactic
/-!
How long an operation is waited for.

* `Notice`: what the registry says of an operation, in its own words;
* `ControlPlane.Tells`: the answers that one request for an operation after the other gets;
  `Rehearsal.tells`: any list of answers can be told;
* `Cleanup.Ends`, `Cleanup.verdict`: the answers that end a wait, and what the wait comes to;
* `Cleanup.pollFrom_of_ends`, `Cleanup.pollFrom_of_not_ends`: the requests and the waits up to
  the first such answer, or up to the last attempt;
* `Cleanup.pollFrom_congr`: nothing after that answer matters;
* `Cleanup.polls_until_ends`: all of this together.
-/

namespace Discovery

variable {ρ ρ' ε : Type} {P : ControlPlane ρ ε} {P' : ControlPlane ρ' ε} {op : String} {r : ρ}
  {r' : ρ'}

/-! ### Answers -/

/-- What the registry says of an operation: a word for its state, and a message or none. -/
structure Notice where
  word : String
  message : Option String
  deriving DecidableEq, Repr

/-- The state that the registry speaks of. -/
def Notice.status (n : Notice) : OperationStatus := .ofRegistry n.word n.message

/-- An operation has come to its end just when the registry says one of two words. -/
lemma Notice.isTerminal_status_iff (n : Notice) :
    n.status.isTerminal ↔ n.word = "SUCCESS" ∨ n.word = "FAIL" := by
  rw [status, OperationStatus.ofRegistry]
  split_ifs <;> simp_all [OperationStatus.isTerminal]

/-- The registry after some requests for an operation. -/
def ControlPlane.polled (P : ControlPlane ρ ε) (op : String) (n : ℕ) (r : ρ) : ρ :=
  (fun r => (P.getOperation op r).2)^[n] r

/-- Requests for an operation are answered with what a registry says each time, or with a
failure. -/
def ControlPlane.Tells (P : ControlPlane ρ ε) (op : String) (r : ρ)
    (answers : ℕ → Except ε Notice) : Prop :=
  ∀ n, (P.getOperation op (P.polled op n r)).1 = (answers n).map Notice.status

/-- The first request gets the first answer. -/
lemma ControlPlane.Tells.head {answers : ℕ → Except ε Notice} (h : P.Tells op r answers) :
    (P.getOperation op r).1 = (answers 0).map Notice.status := h 0

/-- After the first request, the other answers are to come. -/
lemma ControlPlane.Tells.tail {answers : ℕ → Except ε Notice} (h : P.Tells op r answers) :
    P.Tells op (P.getOperation op r).2 fun n => answers (n + 1) := fun n => h (n + 1)

/-- A rehearsal tells any list of answers, and then says that the operation was
submitted. -/
lemma Rehearsal.tells {rehearsal : Rehearsal} (answers : List (Except Failure Notice))
    (hfailure : rehearsal.failure? .getOperation (some op) = none)
    (hreports : rehearsal.reports = answers.map (Except.map Notice.status)) :
    plane.Tells op rehearsal fun n => answers.getD n (.ok ⟨"SUBMITTED", none⟩) := by
  intro n
  induction n generalizing rehearsal answers with
  | zero =>
      cases answers with
      | nil =>
          simp_all [ControlPlane.polled, plane, report]
          rfl
      | cons answer rest => simp_all [ControlPlane.polled, plane, report]
  | succ n ih =>
      cases answers with
      | nil =>
          have hnext : (plane.getOperation op rehearsal).2 = rehearsal := by
            simp_all [plane, report]
          rw [ControlPlane.polled, Function.iterate_succ_apply, hnext]
          exact ih [] hfailure hreports
      | cons answer rest =>
          have hnext : (plane.getOperation op rehearsal).2 =
              { rehearsal with reports := rest.map (Except.map Notice.status) } := by
            simp_all [plane, report]
          rw [ControlPlane.polled, Function.iterate_succ_apply, hnext]
          exact ih rest hfailure rfl

namespace Cleanup

/-- An answer that ends a wait: a failed request, or one of the two words. -/
def Ends : Except ε Notice → Prop
  | .error _ => True
  | .ok notice => notice.word = "SUCCESS" ∨ notice.word = "FAIL"

/-- What a wait comes to with the answer that ends it. -/
def verdict (op : String) : Except ε Notice → Result ε Unit
  | .error e => .error (.failed .getOperation e)
  | .ok notice =>
      if notice.word = "SUCCESS" then .ok ()
      else .error (.operationFailed op (notice.message.getD "unknown error"))

/-- A number of requests for an operation, with the answers that they get. -/
def requests (op : String) (answers : ℕ → Except ε Notice) (n : ℕ) : List (Call ε) :=
  (List.range n).map fun i => .getOperation op ((answers i).map Notice.status)

lemma requests_succ (op : String) (answers : ℕ → Except ε Notice) (n : ℕ) :
    requests op answers (n + 1) =
      .getOperation op ((answers 0).map Notice.status) ::
        requests op (fun i => answers (i + 1)) n := by
  rw [requests, List.range_succ_eq_map, List.map_cons, List.map_map]
  rfl

/-! ### One request -/

variable {policy : Policy} {remaining i : ℕ} {answers answers' : ℕ → Except ε Notice}
  {answer : Except ε Notice}

/-- A request whose answer ends the wait is the last one. -/
lemma pollFrom_succ_of_ends (attempt : ℕ)
    (h : (P.getOperation op r).1 = answer.map Notice.status)
    (hends : Ends answer) :
    pollFrom P policy op attempt (remaining + 1) r =
      ⟨verdict op answer, (P.getOperation op r).2,
        [.call (.getOperation op (answer.map Notice.status))]⟩ := by
  rcases answer with e | ⟨word, message⟩
  · simp [pollFrom, getOperation, perform, h, verdict, Except.map, Except.mapError]
  · obtain rfl | rfl : word = "SUCCESS" ∨ word = "FAIL" := hends
    · simp [pollFrom, getOperation, perform, h, verdict, Except.map, Except.mapError,
        Notice.status, OperationStatus.ofRegistry]
    · simp [pollFrom, getOperation, perform, h, verdict, Except.map, Except.mapError,
        Notice.status, OperationStatus.ofRegistry]

/-- After any other answer there is an event and a wait, and the next request. -/
lemma pollFrom_succ_of_not_ends (policy : Policy) (attempt remaining : ℕ)
    (h : (P.getOperation op r).1 = answer.map Notice.status) (hends : ¬ Ends answer) :
    ∃ status, answer.map Notice.status = .ok status ∧
      pollFrom P policy op attempt (remaining + 1) r =
        let o := pollFrom P policy op (attempt + 1) remaining (P.getOperation op r).2
        ⟨o.answer, o.state, .call (.getOperation op (.ok status)) ::
          .event (.waiting op attempt status) :: .wait policy.interval :: o.trail⟩ := by
  rcases answer with e | notice
  · exact absurd trivial hends
  · refine ⟨notice.status, rfl, ?_⟩
    have hstatus : ¬ notice.status.isTerminal := fun h => hends (notice.isTerminal_status_iff.mp h)
    cases hcase : notice.status with
    | submitted | pending =>
        simp [pollFrom, getOperation, perform, h, hcase, Except.map, Except.mapError]
    | success | fail => exact absurd (by rw [hcase]; rfl) hstatus

/-! ### All requests -/

/-- The requests go on up to the first answer that ends the wait, with a wait between each
two of them. -/
lemma pollFrom_of_ends (attempt : ℕ) (htells : P.Tells op r answers) (hroom : i < remaining)
    (hends : Ends (answers i)) (hfirst : ∀ j < i, ¬ Ends (answers j)) :
    Happening.calls (pollFrom P policy op attempt remaining r).trail =
        requests op answers (i + 1) ∧
      Happening.waits (pollFrom P policy op attempt remaining r).trail =
        List.replicate i policy.interval ∧
      (pollFrom P policy op attempt remaining r).answer = verdict op (answers i) := by
  induction remaining generalizing attempt r answers i with
  | zero => exact absurd hroom (Nat.not_lt_zero i)
  | succ n ih =>
      cases i with
      | zero =>
          rw [pollFrom_succ_of_ends attempt htells.head hends]
          exact ⟨rfl, rfl, rfl⟩
      | succ i =>
          obtain ⟨status, hstatus, hpoll⟩ := pollFrom_succ_of_not_ends policy attempt n
            htells.head (hfirst 0 i.succ_pos)
          obtain ⟨hcalls, hwaits, hanswer⟩ := ih (attempt + 1) htells.tail
            (Nat.lt_of_succ_lt_succ hroom) hends fun j hj => hfirst (j + 1) (Nat.succ_lt_succ hj)
          rw [hpoll, requests_succ, hstatus, List.replicate_succ, ← hcalls, ← hwaits]
          exact ⟨rfl, rfl, hanswer⟩

/-- Without such an answer there are as many requests as are allowed, with a wait after each
of them. -/
lemma pollFrom_of_not_ends (attempt : ℕ) (htells : P.Tells op r answers)
    (hnone : ∀ j < remaining, ¬ Ends (answers j)) :
    Happening.calls (pollFrom P policy op attempt remaining r).trail =
        requests op answers remaining ∧
      Happening.waits (pollFrom P policy op attempt remaining r).trail =
        List.replicate remaining policy.interval ∧
      (pollFrom P policy op attempt remaining r).answer =
        .error (.operationTimedOut op policy.attempts.toNat) := by
  induction remaining generalizing attempt r answers with
  | zero => exact ⟨rfl, rfl, rfl⟩
  | succ n ih =>
      obtain ⟨status, hstatus, hpoll⟩ := pollFrom_succ_of_not_ends policy attempt n
        htells.head (hnone 0 n.succ_pos)
      obtain ⟨hcalls, hwaits, hanswer⟩ := ih (attempt + 1) htells.tail
        fun j hj => hnone (j + 1) (Nat.succ_lt_succ hj)
      rw [hpoll, requests_succ, hstatus, List.replicate_succ, ← hcalls, ← hwaits]
      exact ⟨rfl, rfl, hanswer⟩

/-- Two registries that give the same answers up to the first one that ends a wait are waited
for alike, events included. -/
lemma pollFrom_congr (attempt : ℕ) (htells : P.Tells op r answers)
    (htells' : P'.Tells op r' answers') (hroom : i < remaining) (hends : Ends (answers i))
    (hsame : ∀ j ≤ i, answers' j = answers j) :
    (pollFrom P' policy op attempt remaining r').answer =
        (pollFrom P policy op attempt remaining r).answer ∧
      (pollFrom P' policy op attempt remaining r').trail =
        (pollFrom P policy op attempt remaining r).trail := by
  induction remaining generalizing attempt r r' answers answers' i with
  | zero => exact absurd hroom (Nat.not_lt_zero i)
  | succ n ih =>
      have hnow : (P'.getOperation op r').1 = (answers 0).map Notice.status := by
        rw [← hsame 0 i.zero_le]
        exact htells'.head
      by_cases hend : Ends (answers 0)
      · rw [pollFrom_succ_of_ends attempt htells.head hend, pollFrom_succ_of_ends attempt hnow hend]
        exact ⟨rfl, rfl⟩
      · cases i with
        | zero => exact absurd hends hend
        | succ i =>
            obtain ⟨status, hstatus, hpoll⟩ := pollFrom_succ_of_not_ends policy attempt n
              htells.head hend
            obtain ⟨status', hstatus', hpoll'⟩ := pollFrom_succ_of_not_ends policy attempt
              n hnow hend
            obtain rfl : status = status' := Except.ok.inj (hstatus.symm.trans hstatus')
            obtain ⟨hanswer, htrail⟩ := ih (attempt + 1) htells.tail htells'.tail
              (Nat.lt_of_succ_lt_succ hroom) hends
              fun j hj => hsame (j + 1) (Nat.succ_le_succ hj)
            rw [hpoll, hpoll']
            refine ⟨hanswer, ?_⟩
            dsimp only
            rw [htrail]

/-! ### Every wait -/

/-- An operation is asked for up to the first answer that is a failure or says one of the two
words for its end, and that answer decides what the wait comes to; between two requests there
is a wait of the interval, and no later answer matters. Without such an answer there are as
many requests and waits as there may be attempts, and then the wait is given up. -/
theorem polls_until_ends (P : ControlPlane ρ ε) (policy : Policy) (op : String) (r : ρ)
    (answers : ℕ → Except ε Notice) (htells : P.Tells op r answers) :
    let o := poll P policy op r
    (∀ n : Notice, n.status.isTerminal ↔ n.word = "SUCCESS" ∨ n.word = "FAIL") ∧
    (∀ i < policy.attempts.toNat, Ends (answers i) → (∀ j < i, ¬ Ends (answers j)) →
      Happening.calls o.trail = requests op answers (i + 1) ∧
      Happening.waits o.trail = List.replicate i policy.interval ∧
      o.answer = verdict op (answers i) ∧
      ∀ {ρ' : Type} (P' : ControlPlane ρ' ε) (r' : ρ') (answers' : ℕ → Except ε Notice),
        P'.Tells op r' answers' → (∀ j ≤ i, answers' j = answers j) →
          (poll P' policy op r').answer = o.answer ∧
          (poll P' policy op r').trail = o.trail) ∧
    ((∀ i < policy.attempts.toNat, ¬ Ends (answers i)) →
      Happening.calls o.trail = requests op answers policy.attempts.toNat ∧
      Happening.waits o.trail = List.replicate policy.attempts.toNat policy.interval ∧
      o.answer = .error (.operationTimedOut op policy.attempts.toNat)) := by
  intro o
  refine ⟨Notice.isTerminal_status_iff, fun i hroom hends hfirst => ?_,
    fun hnone => pollFrom_of_not_ends 1 htells hnone⟩
  obtain ⟨hcalls, hwaits, hanswer⟩ := pollFrom_of_ends 1 htells hroom hends hfirst
  exact ⟨hcalls, hwaits, hanswer, fun P' r' answers' htells' hsame =>
    pollFrom_congr 1 htells htells' hroom hends hsame⟩

/-- Of three attempts, the second one finds that the operation has failed; where nothing is
known of the operation, all three of them are used up. -/
theorem polls_until_ends_failed :
    let policy : Policy := ⟨.ofSecs 1, 3⟩
    let told : Rehearsal := { Rehearsal.empty with
      reports := [.ok .pending, .ok (.fail "namespace not empty")] }
    let failed := poll Rehearsal.plane policy "op" told
    let lost := poll Rehearsal.plane policy "op" .empty
    (Happening.calls failed.trail =
        [.getOperation "op" (.ok .pending),
          .getOperation "op" (.ok (.fail "namespace not empty"))] ∧
      Happening.waits failed.trail = [.ofSecs 1] ∧
      failed.answer = .error (.operationFailed "op" "namespace not empty")) ∧
    (Happening.calls lost.trail = List.replicate 3 (.getOperation "op" (.ok .submitted)) ∧
      Happening.waits lost.trail = List.replicate 3 (.ofSecs 1) ∧
      lost.answer = .error (.operationTimedOut "op" 3)) := by
  intro policy told failed lost
  let notices : List (Except Failure Notice) :=
    [.ok ⟨"PENDING", none⟩, .ok ⟨"FAIL", some "namespace not empty"⟩]
  obtain ⟨-, hends, -⟩ := polls_until_ends Rehearsal.plane policy "op" told _
    (Rehearsal.tells notices rfl rfl)
  obtain ⟨-, -, hnever⟩ := polls_until_ends Rehearsal.plane policy "op" .empty _
    (Rehearsal.tells [] rfl rfl)
  obtain ⟨hcalls, hwaits, hanswer, -⟩ := hends 1 (by decide) (.inr rfl) fun j hj => by
    obtain rfl : j = 0 := Nat.lt_one_iff.mp hj
    simp [notices, Ends]
  exact ⟨⟨hcalls, hwaits, hanswer⟩, hnever fun j _ => by simp [Ends]⟩

end Cleanup

end Discovery
