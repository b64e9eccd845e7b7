import Moadian.Mock.Nonces

/-! Any sequence of requests to the server, whatever they carry: each nonce that is
issued passes at most one request, before its expiry, and no other passes any. -/
namespace Moadian.Mock
open Codec Crypto

inductive Asked where
  | nonce (uuid : String) (timeToLive : Int)
  | guarded (authorization : List Char)
  deriving DecidableEq, Repr

structure Call where
  now : Int
  asked : Asked
  deriving DecidableEq, Repr

inductive Event (lib : Library) where
  | issued (record : NonceRecord)
  | passed (now : Int) (context : AuthContext lib)
  | refused (r : Refusal)

namespace Event
variable {lib : Library}

def issues (n : String) : Event lib → Bool
  | issued record => record.nonce == n
  | _ => false

def passes (n : String) : Event lib → Bool
  | passed _ context => context.nonce == n
  | _ => false

end Event

structure Served (lib : Library) where
  state : MockState lib
  log : List (Event lib) := []

namespace Served
variable {lib : Library} (py : Python)

def serve (s : Served lib) (call : Call) : Served lib := match call.asked with
  | .nonce uuid timeToLive =>
    let issued := issueNonce py s.state uuid call.now timeToLive
    ⟨issued.2,s.log ++ [.issued issued.1]⟩
  | .guarded authorization => match authenticate py s.state call.now authorization with
    | .ok (context,state) => ⟨state,s.log ++ [.passed call.now context]⟩
    | .error r => ⟨s.state,s.log ++ [.refused r]⟩

def run (s : Served lib) (calls : List Call) : Served lib := calls.foldl (serve py) s

end Served

section Log
variable {lib : Library}

def Untouched (n : String) (since : List (Event lib)) : Prop := ∀ e ∈ since, e.issues n = false ∧ e.passes n = false

def Standing (log : List (Event lib)) (n : String) (expiresAt : Int) : Prop :=
  ∃ old record since, log = old ++ .issued record :: since ∧ record.nonce = n ∧ record.expiresAt = expiresAt ∧ Untouched n since

structure SingleUse (log : List (Event lib)) : Prop where
  inTime : ∀ before now context after, log = before ++ .passed now context :: after →
    ∃ expiresAt, now < expiresAt ∧ Standing before context.nonce expiresAt
  atMostOnce : ∀ n, log.countP (Event.passes n) ≤ log.countP (Event.issues n)

/- What the server holds of its history: an unused nonce stands as it was issued,
and is one that has been issued more often than it has passed. -/
structure Kept (s : Served lib) : Prop where
  standing : ∀ n record, s.state.nonces.lookup n = some record → record.used = false → Standing s.log n record.expiresAt
  ahead : ∀ n record, s.state.nonces.lookup n = some record → record.used = false →
    s.log.countP (Event.passes n) < s.log.countP (Event.issues n)
  single : SingleUse s.log

variable {log : List (Event lib)} {e : Event lib} {n : String}

theorem standingLasts {expiresAt : Int} (stands : Standing log n expiresAt) (other : e.issues n = false ∧ e.passes n = false) :
    Standing (log ++ [e]) n expiresAt := by
  obtain ⟨old,record,since,shape,named,expires,untouched⟩ := stands
  refine ⟨old,record,since ++ [e],by rw [shape,List.append_assoc]; rfl,named,expires,?_⟩
  intro d member
  rcases List.mem_append.mp member with before | last
  · exact untouched d before
  · rw [List.mem_singleton.mp last]
    exact other

theorem singleAppend (single : SingleUse log)
    (last : ∀ now context, e = .passed now context → ∃ expiresAt, now < expiresAt ∧ Standing log context.nonce expiresAt)
    (ahead : ∀ n, e.passes n = true → log.countP (Event.passes n) < log.countP (Event.issues n)) : SingleUse (log ++ [e]) where
  inTime := by
    intro before now context after shape
    rcases List.eq_nil_or_concat after with rfl | ⟨rest,d,rfl⟩
    · obtain ⟨rfl,same⟩ := List.append_inj' shape rfl
      exact last now context (List.cons.inj same).1
    · rw [List.concat_eq_append,← List.cons_append,← List.append_assoc] at shape
      exact single.inTime before now context rest (List.append_inj' shape rfl).1
  atMostOnce := by
    intro n
    have before := single.atMostOnce n
    have ahead := ahead n
    simp only [List.countP_append,List.countP_singleton]
    cases passed : e.passes n with
    | false => simp only [Bool.false_eq_true,if_false]; omega
    | true =>
      have ahead := ahead passed
      simp only [if_true]
      omega

end Log

section Kept
variable {lib : Library} {py : Python} {s : Served lib}

theorem keptIssue (kept : Kept s) (uuid : String) (now timeToLive : Int) :
    Kept (s.serve py ⟨now,.nonce uuid timeToLive⟩) := by
  have single : SingleUse (s.log ++ [.issued (issueNonce py s.state uuid now timeToLive).1]) :=
    singleAppend kept.single (fun _ _ no => by cases no) (fun _ no => by cases no)
  refine ⟨?_,?_,single⟩
  · intro n record known unused
    rw [Served.serve,issuedLookup] at known
    split at known
    · rename_i same
      cases known
      exact ⟨s.log,_,[],rfl,same.symm,rfl,fun _ no => by cases no⟩
    · rename_i other
      refine standingLasts (kept.standing n record known unused) ⟨?_,rfl⟩
      exact beq_eq_false_iff_ne.mpr (Ne.symm other)
  · intro n record known unused
    rw [Served.serve,issuedLookup] at known
    have most := kept.single.atMostOnce n
    simp only [Served.serve,List.countP_append,List.countP_singleton,Event.passes,Bool.false_eq_true,if_false]
    split at known
    · rename_i same
      have counts : Event.issues n (.issued (issueNonce py s.state uuid now timeToLive).1 : Event lib) = true :=
        beq_iff_eq.mpr same.symm
      rw [if_pos counts]
      omega
    · have before := kept.ahead n record known unused
      omega

theorem keptPass (kept : Kept s) {now : Int} {context : AuthContext lib} {record : NonceRecord} {state : MockState lib}
    (burned : consumeNonce s.state context.nonce now = .ok (record,state)) :
    Kept ⟨state,s.log ++ [.passed now context]⟩ := by
  obtain ⟨old,known,unused,early,after⟩ := consumeCases burned
  have single : SingleUse (s.log ++ [.passed now context]) := by
    refine singleAppend kept.single ?_ ?_
    · rintro _ _ ⟨⟩
      exact ⟨old.expiresAt,early,kept.standing _ _ known unused⟩
    · intro n passes
      have same : context.nonce = n := beq_iff_eq.mp passes
      rw [← same]
      exact kept.ahead _ _ known unused
  refine ⟨?_,?_,single⟩
  · intro n record known unused
    rw [after] at known
    split at known
    · cases known
      cases unused
    · rename_i other
      exact standingLasts (kept.standing n record known unused) ⟨rfl,beq_eq_false_iff_ne.mpr (Ne.symm other)⟩
  · intro n record known unused
    rw [after] at known
    split at known
    · cases known
      cases unused
    · rename_i other
      have before := kept.ahead n record known unused
      have apart : Event.passes n (.passed now context : Event lib) = false := beq_eq_false_iff_ne.mpr (Ne.symm other)
      simp only [List.countP_append,List.countP_singleton,apart,Bool.false_eq_true,if_false]
      omega

theorem keptServe (kept : Kept s) (call : Call) : Kept (s.serve py call) := by
  obtain ⟨now,asked⟩ := call
  cases asked with
  | nonce uuid timeToLive => exact keptIssue kept uuid now timeToLive
  | guarded authorization =>
    simp only [Served.serve]
    cases answer : authenticate py s.state now authorization with
    | ok result =>
      obtain ⟨record,burned⟩ := passedBurns answer
      exact keptPass kept burned
    | error r =>
      have single : SingleUse (s.log ++ [.refused r]) :=
        singleAppend kept.single (fun _ _ no => by cases no) (fun _ no => by cases no)
      refine ⟨fun n record known unused => standingLasts (kept.standing n record known unused) ⟨rfl,rfl⟩,?_,single⟩
      intro n record known unused
      have before := kept.ahead n record known unused
      simp only [List.countP_append,List.countP_singleton,Event.passes,Bool.false_eq_true,if_false]
      omega

theorem keptRun (kept : Kept s) (calls : List Call) : Kept (s.run py calls) := by
  induction calls generalizing s with
  | nil => exact kept
  | cons call rest ih => exact ih (keptServe kept call)

theorem keptStart {state : MockState lib} (none_ : state.nonces = []) : Kept (⟨state,[]⟩ : Served lib) where
  standing := by
    intro n record known
    rw [none_] at known
    cases known
  ahead := by
    intro n record known
    rw [none_] at known
    cases known
  single := ⟨by simp,fun _ => Nat.le_refl _⟩

end Kept
end Moadian.Mock
