import Mathlib.Algebra.Order.Archimedean.Basic
import Mathlib.Algebra.Order.Ring.Rat
import Mathlib.Data.Rat.Floor
import Mathlib.Tactic.Linarith
import Mathlib.Tactic.NormNum
import Mathlib.Tactic.Ring
import Moadian.Pipeline
import Moadian.Api.App

/-! `await_results`: wait, then ask until nothing is in progress or the time is up.
Seconds are exact; what the clock reads and what is answered are the environment's. -/
namespace Moadian.Polling

inductive Interval where
  | seconds (s : ℚ)
  | infinite

structure Waiting where
  minWait : ℚ := 10
  pollInterval : Interval := .seconds 5
  timeout : ℚ := 120

/- `clock 0` is read for the deadline, and `clock (k+1)` after the poll `k`; `answer k i`
is what comes of its request `i`. -/
structure Surroundings where
  clock : Nat → ℚ
  answer : Nat → Nat → List String → Except Exc (List InquiryResult)

structure Poll where
  slept : ℚ
  requests : List (List String)
  results : Except Exc (List InquiryResult)

def Interval.cap (interval : Interval) (remaining : ℚ) : ℚ :=
  match interval with
  | .seconds s => min s remaining
  | .infinite => remaining

def references (submissions : List InvoiceSubmission) : List String :=
  (submissions.filter (fun s => truthy s.referenceNumber)).filterMap (·.referenceNumber)

-- A status of another text is that text, and equal to no member of the enumeration.
def inProgress (result : InquiryResult) : Bool :=
  result.status.map StatusField.value == some RequestStatus.inProgress.value

def inquire (answer : Nat → List String → Except Exc (List InquiryResult)) :
    Nat → List (List String) → List (List String) × Except Exc (List InquiryResult)
  | _,[] => ([],.ok [])
  | i,chunk :: rest =>
    match answer i chunk with
    | .error e => ([chunk],.error e)
    | .ok first =>
      let later := inquire answer (i+1) rest
      (chunk :: later.1,later.2.map (fun results => first ++ results))

section Loop
variable (w : Waiting) (s : Surroundings) (references : List String)

def remaining (k : Nat) : ℚ := s.clock 0 + w.timeout - s.clock (k+1)

def asked (slept : ℚ) (k : Nat) : Poll :=
  let inquiry := inquire (s.answer k) 0 (slices Api.maxInquiryIds references)
  ⟨slept,inquiry.1,inquiry.2⟩

-- `while True`, for so many rounds at most.
def loop : Nat → ℚ → Nat → Option (List Poll × Except Exc (List InquiryResult))
  | 0,_,_ => none
  | fuel+1,slept,k =>
    let poll := asked s references slept k
    match poll.results with
    | .error e => some ([poll],.error e)
    | .ok results =>
      if !results.any inProgress then some ([poll],.ok results)
      else if remaining w s k ≤ 0 then some ([poll],.ok results)
      else (loop fuel (w.pollInterval.cap (remaining w s k)) (k+1)).map (fun ended => (poll :: ended.1,ended.2))

end Loop

def awaitResults (w : Waiting) (s : Surroundings) (submissions : List InvoiceSubmission) (fuel : Nat) :
    Option (List Poll × Except Exc (List InquiryResult)) :=
  if references submissions = [] then some ([],.ok [])
  else loop w s (references submissions) fuel w.minWait 0

def Interval.Positive : Interval → Prop
  | .seconds s => 0 < s
  | .infinite => True

structure Advances (w : Waiting) (s : Surroundings) : Prop where
  first : s.clock 0 + w.minWait ≤ s.clock 1
  later : ∀ k, 0 < remaining w s k → s.clock (k+1) + w.pollInterval.cap (remaining w s k) ≤ s.clock (k+2)

structure Asks (answer : Nat → List String → Except Exc (List InquiryResult)) (references : List String)
    (poll : Poll) : Prop where
  whole : poll.requests.flatten = references
  short : ∀ request ∈ poll.requests, request.length ≤ Api.maxInquiryIds
  heard : ∃ parts : List (List InquiryResult), poll.requests.mapIdx answer = parts.map Except.ok ∧
    poll.results = .ok parts.flatten

def Stops (w : Waiting) (s : Surroundings) (k : Nat) (polls : List Poll) (results : List InquiryResult) : Prop :=
  ∃ before last, polls = before ++ [last] ∧ last.results = .ok results ∧
    ((∀ r ∈ results, inProgress r = false) ∨ s.clock 0 + w.timeout ≤ s.clock (k + before.length + 1))

theorem inquireWhole {answer : Nat → List String → Except Exc (List InquiryResult)}
    (answered : ∀ i chunk, ∃ results, answer i chunk = .ok results) (i : Nat) (chunks : List (List String)) :
    ∃ parts : List (List InquiryResult), chunks.mapIdx (fun j => answer (i+j)) = parts.map Except.ok ∧
      inquire answer i chunks = (chunks,.ok parts.flatten) := by
  induction chunks generalizing i with
  | nil => exact ⟨[],rfl,rfl⟩
  | cons chunk rest ih =>
    obtain ⟨first,heard⟩ := answered i chunk
    obtain ⟨later,each,whole⟩ := ih (i+1)
    refine ⟨first :: later,?_,?_⟩
    · rw [List.mapIdx_cons,Nat.add_zero,heard,List.map_cons,← each]
      simp only [Nat.add_assoc,Nat.add_comm 1]
    · rw [inquire,heard]
      simp only [whole,Except.map,List.flatten_cons]

section Loop
variable {w : Waiting} {s : Surroundings}

theorem askedWhole (answered : ∀ k i chunk, ∃ results, s.answer k i chunk = .ok results) (references : List String)
    (slept : ℚ) (k : Nat) :
    Asks (s.answer k) references (asked s references slept k) ∧
      ∃ results, (asked s references slept k).results = .ok results := by
  obtain ⟨parts,each,whole⟩ := inquireWhole (answered k) 0 (slices Api.maxInquiryIds references)
  have made : asked s references slept k = ⟨slept,slices Api.maxInquiryIds references,.ok parts.flatten⟩ := by
    simp only [asked,whole]
  simp only [Nat.zero_add] at each
  rw [made]
  exact ⟨⟨slicesFlatten (by decide) references,slicesShort _ references,parts,each,rfl⟩,parts.flatten,rfl⟩

-- A round that is not the last takes a fixed time off what remains, or all of it.
theorem shrinks (positive : w.pollInterval.Positive) (advances : Advances w s) :
    ∃ p, 0 < p ∧ ∀ k, 0 < remaining w s k → remaining w s (k+1) ≤ max 0 (remaining w s k - p) := by
  cases interval : w.pollInterval with
  | infinite =>
    refine ⟨1,one_pos,fun k more => le_max_of_le_left ?_⟩
    have woken := advances.later k more
    rw [interval] at woken
    simp only [Interval.cap,remaining] at woken ⊢
    linarith
  | seconds p =>
    rw [interval] at positive
    refine ⟨p,positive,fun k more => ?_⟩
    have woken := advances.later k more
    rw [interval] at woken
    simp only [Interval.cap] at woken
    have next : remaining w s (k+1) ≤ remaining w s k - min p (remaining w s k) := by
      simp only [remaining] at woken ⊢
      linarith
    refine next.trans ?_
    obtain less | more := le_total p (remaining w s k)
    · rw [min_eq_left less]
      exact le_max_right _ _
    · rw [min_eq_right more,sub_self]
      exact le_max_left _ _

theorem loopLast {references : List String} {slept : ℚ} {k : Nat} {results : List InquiryResult}
    (heard : (asked s references slept k).results = .ok results)
    (why : results.any inProgress = false ∨ remaining w s k ≤ 0) :
    (∀ fuel, 0 < fuel → loop w s references fuel slept k = some ([asked s references slept k],.ok results)) ∧
      Stops w s k [asked s references slept k] results := by
  constructor
  · intro fuel some_
    obtain ⟨fuel,rfl⟩ := Nat.exists_eq_succ_of_ne_zero (Nat.ne_of_gt some_)
    obtain settled | late := why
    · simp only [loop,heard,settled,Bool.not_false,if_true]
    · simp only [loop,heard,if_pos late,ite_self]
  · refine ⟨[],_,rfl,heard,?_⟩
    obtain settled | late := why
    · exact .inl (fun r member => Bool.eq_false_iff.mpr (List.any_eq_false.mp settled r member))
    · right
      simp only [remaining] at late
      simp only [List.length_nil,Nat.add_zero]
      linarith

theorem loopMore {references : List String} {slept : ℚ} {k : Nat} {results final : List InquiryResult}
    {polls : List Poll} {n : Nat} (heard : (asked s references slept k).results = .ok results)
    (busy : results.any inProgress = true) (more : 0 < remaining w s k)
    (ran : ∀ fuel, n < fuel →
      loop w s references fuel (w.pollInterval.cap (remaining w s k)) (k+1) = some (polls,.ok final))
    (stops : Stops w s (k+1) polls final) :
    (∀ fuel, n + 1 < fuel →
      loop w s references fuel slept k = some (asked s references slept k :: polls,.ok final)) ∧
      Stops w s k (asked s references slept k :: polls) final := by
  constructor
  · intro fuel some_
    obtain ⟨fuel,rfl⟩ := Nat.exists_eq_succ_of_ne_zero (Nat.ne_of_gt (Nat.zero_lt_of_lt some_))
    have rest := ran fuel (by omega)
    simp only [loop,heard,busy,Bool.not_true,Bool.false_eq_true,if_false,if_neg (not_le.mpr more),rest,Option.map_some]
  · obtain ⟨before,last,rfl,heard',why⟩ := stops
    refine ⟨asked s references slept k :: before,last,rfl,heard',?_⟩
    rw [List.length_cons,show k + (before.length + 1) + 1 = k + 1 + before.length + 1 by omega]
    exact why

theorem loopEnds {references : List String} (answered : ∀ k i chunk, ∃ results, s.answer k i chunk = .ok results)
    {p : ℚ} (positive : 0 < p)
    (shrinks : ∀ k, 0 < remaining w s k → remaining w s (k+1) ≤ max 0 (remaining w s k - p)) (n : Nat)
    (slept : ℚ) (k : Nat) (within : remaining w s k ≤ n * p) :
    ∃ polls results, (∀ fuel, n < fuel → loop w s references fuel slept k = some (polls,.ok results)) ∧
      Stops w s k polls results ∧
      ∀ (j : Nat) poll, polls[j]? = some poll → Asks (s.answer (k+j)) references poll := by
  have alone : ∀ (slept : ℚ) (k : Nat), Asks (s.answer k) references (asked s references slept k) →
      ∀ (j : Nat) poll, [asked s references slept k][j]? = some poll → Asks (s.answer (k+j)) references poll := by
    intro slept k asks j poll found
    cases j with
    | zero =>
      cases Option.some.inj found
      exact asks
    | succ j => cases found
  induction n generalizing slept k with
  | zero =>
    obtain ⟨asks,results,heard⟩ := askedWhole answered references slept k
    obtain ⟨ran,stops⟩ := loopLast heard (.inr (by simpa using within))
    exact ⟨_,results,ran,stops,alone slept k asks⟩
  | succ n ih =>
    obtain ⟨asks,results,heard⟩ := askedWhole answered references slept k
    by_cases why : results.any inProgress = false ∨ remaining w s k ≤ 0
    · obtain ⟨ran,stops⟩ := loopLast heard why
      exact ⟨_,results,fun fuel some_ => ran fuel (Nat.zero_lt_of_lt some_),stops,alone slept k asks⟩
    · obtain ⟨busy,more⟩ := not_or.mp why
      have less : remaining w s (k+1) ≤ n * p := by
        have room : remaining w s k - p ≤ n * p := by
          push_cast at within
          linarith
        exact (shrinks k (not_le.mp more)).trans (max_le (mul_nonneg (Nat.cast_nonneg n) positive.le) room)
      obtain ⟨polls,final,ran,stops,each⟩ := ih (w.pollInterval.cap (remaining w s k)) (k+1) less
      obtain ⟨ran',stops'⟩ := loopMore heard (by simpa using busy) (not_le.mp more) ran stops
      refine ⟨_,final,ran',stops',fun j poll found => ?_⟩
      cases j with
      | zero =>
        cases Option.some.inj found
        exact asks
      | succ j =>
        rw [show k + (j+1) = k + 1 + j by omega]
        exact each j poll found

end Loop

namespace Example

def accepted (reference : Option String) : InvoiceSubmission := ⟨"u","A11216",reference,none⟩

def settling : Surroundings where
  clock k := match k with
    | 0 => 0
    | k+1 => 10 + 5 * k
  answer k _ chunk := .ok (chunk.map (fun reference =>
    { referenceNumber := some reference, status := some (.status (if k = 0 then .inProgress else .success)) }))

theorem settlingAdvances : Advances {} settling where
  first := by norm_num [settling]
  later := by
    intro k more
    have capped : Interval.cap (.seconds 5) (remaining {} settling k) ≤ 5 := min_le_left _ _
    have woken : settling.clock (k+2) = settling.clock (k+1) + 5 := by
      simp only [settling]
      push_cast
      ring
    rw [woken]
    exact add_le_add_right capped _

end Example

end Moadian.Polling
