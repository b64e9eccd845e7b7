import Moadian.Mock.Batches
import Moadian.Mock.Payments

/-! Every sequence of requests to the server: what is recorded stays, in its order and as
it was answered, and no payment is recorded but for an invoice that is. -/
namespace Moadian.Mock
open Codec Crypto

/-! A payment that is accepted. -/

structure Payable (p : StoredPayment) : Prop where
  taxId : isTaxId p.taxId = true
  paidAmount : 0 < p.paidAmount
  paymentDate : 0 ≤ p.paymentDate
  paymentMethod : ∃ m : PaymentMethod, p.paymentMethod = m.value

theorem requiredNonneg {py : Python} {body : Dict} {name : String} {n : Int} (read : requiredInt py body name = .ok n) : 0 ≤ n := by
  unfold requiredInt at read
  split at read
  · split at read
    · cases read
    · cases read
      omega
  · cases read

theorem allowedNamed {method : String} (allowed : method ∈ allowedMethods) : ∃ m : PaymentMethod, method = m.value := by
  obtain ⟨m,_,rfl⟩ := List.mem_map.mp (List.mem_mergeSort.mp allowed)
  exact ⟨m,rfl⟩

theorem paymentPayable {py : Python} {body : Dict} {clientId : String} {recordedAt : Int} {p : StoredPayment}
    (accepted : acceptPayment py body clientId recordedAt = .ok p) : Payable p := by
  unfold acceptPayment at accepted
  split at accepted
  · split at accepted
    · cases accepted
    · rename_i shaped
      simp only [bind,Except.bind] at accepted
      split at accepted
      · cases accepted
      · rename_i paid readPaid
        split at accepted
        · cases accepted
        · rename_i some_
          split at accepted
          · cases accepted
          · rename_i date readDate
            split at accepted
            · split at accepted
              · cases accepted
              · rename_i allowed
                split at accepted
                · cases accepted
                · split at accepted
                  · cases accepted
                  · cases accepted
                    have least := requiredNonneg readPaid
                    exact ⟨by simpa using shaped,by simp only; omega,requiredNonneg readDate,allowedNamed (by simpa using allowed)⟩
            · cases accepted
  · cases accepted

/-! A step. -/

namespace MockServer
variable {lib : Library} {py : Python} {s t : MockServer lib}

def Fresh (s : MockServer lib) : Arrival → Prop
  | .invoice post => s.toRegistry.Fresh post
  | .nonce .. | .guarded .. => True

def Throughout (py : Python) : MockServer lib → List Arrival → Prop
  | _,[] => True
  | s,a :: rest => s.Fresh a ∧ Throughout py (s.handle py a).2 rest

structure Coherent (s : MockServer lib) : Prop where
  keyed : ∀ e ∈ s.submissions.entries, e.1 = e.2.referenceNumber
  uids : s.uids.Nodup
  paid : ∀ p ∈ s.payments, Payable p ∧ ∃ a ∈ s.recorded, a.taxId = some p.taxId

def registers : Except Refusal Answer → List SubmitResult
  | .ok (.batch response) => response.result
  | _ => []

/- What was recorded is still there, in front of what this request adds. -/
structure Extends (s t : MockServer lib) (answer : Except Refusal Answer) : Prop where
  submissions : ∃ more, t.submissions.entries = s.submissions.entries ++ more ∧
    more.map (fun e => e.2.result) = registers answer
  payments : ∃ more, t.payments = s.payments ++ more
  refused : ∀ r, answer = .error r → t.submissions = s.submissions ∧ t.payments = s.payments

theorem extendsSame (answer : Except Refusal Answer) (none_ : registers answer = []) (entries : t.submissions = s.submissions)
    (payments : t.payments = s.payments) : Extends s t answer :=
  ⟨⟨[],by rw [entries,List.append_nil],none_.symm⟩,⟨[],by rw [payments,List.append_nil]⟩,fun _ _ => ⟨entries,payments⟩⟩

theorem mapped {α : Type} {f : α → Answer} (other : ∀ a response, f a ≠ .batch response) (answer : Except Refusal α) :
    registers (answer.map f) = [] := by
  cases answer with
  | error r => rfl
  | ok a =>
    simp only [Except.map,registers]
    split
    · rename_i response same
      exact absurd (Except.ok.inj same) (other a response)
    · rfl

theorem coherentSame (coherent : s.Coherent) (entries : t.submissions = s.submissions) (payments : t.payments = s.payments) :
    t.Coherent := by
  refine ⟨?_,?_,?_⟩
  · rw [entries]
    exact coherent.keyed
  · rw [Registry.uids,entries]
    exact coherent.uids
  · rw [payments,Registry.recorded,entries]
    exact coherent.paid

variable (py s) in
theorem paymentCases (auth : AuthContext lib) (body : Bytes) (recordedAt : Int) :
    ((s.invoicePayment py auth body recordedAt).2 = s) ∨
    ∃ p, Payable p ∧ (∃ a ∈ s.recorded, a.taxId = some p.taxId) ∧
      s.invoicePayment py auth body recordedAt = (.ok ⟨.success,[]⟩,{ s with payments := s.payments ++ [p] }) := by
  unfold invoicePayment
  split
  · exact .inl rfl
  · exact .inl rfl
  · split
    · exact .inl rfl
    · rename_i p accepted
      split
      · exact .inl rfl
      · rename_i known
        obtain ⟨a,member,same⟩ := List.mem_map.mp (not_not.mp known)
        exact .inr ⟨p,paymentPayable accepted,⟨a,member,same⟩,rfl⟩
  · exact .inl rfl

variable (py s) in
theorem dispatchCases (now : Int) (auth : AuthContext lib) (route : Route) :
    registers (s.dispatch py now auth route).1 = [] ∧
    ((s.dispatch py now auth route).2 = s ∨
      (∃ answer, (s.dispatch py now auth route).1 = .ok answer) ∧
        ∃ p, Payable p ∧ (∃ a ∈ s.recorded, a.taxId = some p.taxId) ∧
          (s.dispatch py now auth route).2 = { s with payments := s.payments ++ [p] }) := by
  cases route with
  | serverInformation => exact ⟨rfl,.inl rfl⟩
  | inquiryByReferenceId asking referenceIds => exact ⟨mapped (fun _ _ no => by cases no) _,.inl rfl⟩
  | inquiryByUid asking uidList fiscalId => exact ⟨mapped (fun _ _ no => by cases no) _,.inl rfl⟩
  | inquiry asking pageNumber pageSize status => exact ⟨mapped (fun _ _ no => by cases no) _,.inl rfl⟩
  | inquiryInvoiceStatus taxIds => exact ⟨mapped (fun _ _ no => by cases no) _,.inl rfl⟩
  | taxpayer economicCode => exact ⟨mapped (fun _ _ no => by cases no) _,.inl rfl⟩
  | taxpayerInfo economicCode => exact ⟨mapped (fun _ _ no => by cases no) _,.inl rfl⟩
  | taxpayerArticle6Status economicCode vatValue period => exact ⟨mapped (fun _ _ no => by cases no) _,.inl rfl⟩
  | invoicePayment body recordedAt =>
    refine ⟨mapped (fun _ _ no => by cases no) _,?_⟩
    obtain same | ⟨p,payable,backed,step⟩ := paymentCases py s auth body recordedAt
    · exact .inl same
    · simp only [dispatch,step]
      exact .inr ⟨⟨_,rfl⟩,p,payable,backed,rfl⟩
  | fiscalInformation memoryId => exact ⟨mapped (fun _ _ no => by cases no) _,.inl rfl⟩

theorem handleExtends {a : Arrival} (fresh : s.Fresh a) : Extends s (s.handle py a).2 (s.handle py a).1 := by
  cases a with
  | nonce now uuid timeToLive => exact extendsSame _ rfl rfl rfl
  | invoice post =>
    obtain ⟨r,answer,kept⟩ | ⟨auth,burned,packets,accepted,loaded,added,step⟩ := Registry.invoiceCases py s.toRegistry post
    · have same : s.handle py (.invoice post) =
        (.error r,{ s with toRegistry := (s.toRegistry.invoice py post).2 }) := by
        simp only [handle,answer]
        rfl
      rw [same]
      exact extendsSame _ rfl kept rfl
    · have stored := Registry.stored fresh added
      simp only [handle,step]
      refine ⟨⟨_,stored,?_⟩,⟨[],(List.append_nil _).symm⟩,fun r no => by cases no⟩
      rw [List.map_map]
      rfl
  | guarded now authorization route =>
    simp only [handle]
    split
    · exact extendsSame _ rfl rfl rfl
    · rename_i auth burned passed
      obtain ⟨none_,same | ⟨⟨answer,made⟩,p,_,_,paid⟩⟩ :=
        dispatchCases py { s with toMockState := burned } now auth route
      · exact extendsSame _ none_ (by rw [same]) (by rw [same])
      · refine ⟨⟨[],by rw [paid,List.append_nil],none_.symm⟩,⟨[p],by rw [paid]⟩,fun r no => ?_⟩
        rw [made] at no
        cases no

theorem recordedMore {more : List (String × StoredSubmission)}
    (grown : t.submissions.entries = s.submissions.entries ++ more) : s.recorded ⊆ t.recorded := by
  intro a member
  rw [Registry.recorded,grown,List.map_append]
  exact List.mem_append_left _ member

theorem handleCoherent {a : Arrival} (fresh : s.Fresh a) (coherent : s.Coherent) : (s.handle py a).2.Coherent := by
  have grown : Extends s (s.handle py a).2 (s.handle py a).1 := handleExtends fresh
  cases a with
  | nonce now uuid timeToLive => exact coherentSame coherent rfl rfl
  | invoice post =>
    obtain ⟨r,answer,kept⟩ | ⟨auth,burned,packets,accepted,loaded,added,step⟩ := Registry.invoiceCases py s.toRegistry post
    · exact coherentSame coherent kept rfl
    · obtain ⟨more,entries,_⟩ := grown.submissions
      refine ⟨fun e member => ?_,Registry.invoiceDistinct fresh coherent.uids,fun p member => ?_⟩
      · have stored := Registry.stored fresh added
        simp only [handle,step] at member
        rw [stored] at member
        obtain old | new := List.mem_append.mp member
        · exact coherent.keyed e old
        · obtain ⟨b,_,rfl⟩ := List.mem_map.mp new
          rfl
      · obtain ⟨payable,b,inside,same⟩ := coherent.paid p member
        exact ⟨payable,b,recordedMore entries inside,same⟩
  | guarded now authorization route =>
    simp only [handle]
    split
    · exact coherent
    · rename_i auth burned passed
      have burnt : ({ s with toMockState := burned } : MockServer lib).Coherent := coherentSame coherent rfl rfl
      obtain ⟨_,same | ⟨_,p,payable,backed,paid⟩⟩ :=
        dispatchCases py { s with toMockState := burned } now auth route
      · rw [same]
        exact burnt
      · rw [paid]
        refine ⟨burnt.keyed,burnt.uids,fun q member => ?_⟩
        obtain old | new := List.mem_append.mp member
        · exact burnt.paid q old
        · cases List.mem_singleton.mp new
          exact ⟨payable,backed⟩

/-! A run. -/

def registered (py : Python) : MockServer lib → List Arrival → List SubmitResult
  | _,[] => []
  | s,a :: rest => registers (s.handle py a).1 ++ registered py (s.handle py a).2 rest

theorem runCoherent {arrivals : List Arrival} (fresh : s.Throughout py arrivals) (coherent : s.Coherent) :
    (s.run py arrivals).Coherent := by
  induction arrivals generalizing s with
  | nil => exact coherent
  | cons a rest ih => exact ih fresh.2 (handleCoherent fresh.1 coherent)

theorem runExtends {arrivals : List Arrival} (fresh : s.Throughout py arrivals) :
    ∃ more paid, (s.run py arrivals).submissions.entries = s.submissions.entries ++ more ∧
      more.map (fun e => e.2.result) = s.registered py arrivals ∧ (s.run py arrivals).payments = s.payments ++ paid := by
  induction arrivals generalizing s with
  | nil => exact ⟨[],[],(List.append_nil _).symm,rfl,(List.append_nil _).symm⟩
  | cons a rest ih =>
    have step : Extends s (s.handle py a).2 (s.handle py a).1 := handleExtends fresh.1
    obtain ⟨first,entries,own⟩ := step.submissions
    obtain ⟨bill,payments⟩ := step.payments
    obtain ⟨later,bills,grown,told,paid⟩ := ih fresh.2
    refine ⟨first ++ later,bill ++ bills,?_,?_,?_⟩
    · rw [run,List.foldl_cons,← run,grown,entries,List.append_assoc]
    · rw [List.map_append,own,told]
      rfl
    · rw [run,List.foldl_cons,← run,paid,payments,List.append_assoc]

theorem throughoutSplit {before after : List Arrival} (fresh : s.Throughout py (before ++ after)) :
    s.Throughout py before ∧ (s.run py before).Throughout py after := by
  induction before generalizing s with
  | nil => exact ⟨True.intro,fresh⟩
  | cons a rest ih =>
    obtain ⟨own,later⟩ := ih fresh.2
    exact ⟨⟨fresh.1,own⟩,later⟩

/- What a server that has dealt with the first part of a run still has at its end, and
what the rest of the run has added. -/
structure Remembers (py : Python) (s : MockServer lib) (before after : List Arrival) : Prop where
  coherent : (s.run py before).Coherent
  added : ∃ more paid, (s.run py (before ++ after)).submissions.entries = (s.run py before).submissions.entries ++ more ∧
    more.map (fun e => e.2.result) = (s.run py before).registered py after ∧
    (s.run py (before ++ after)).payments = (s.run py before).payments ++ paid
  refused : ∀ a rest, after = a :: rest → ∀ r, ((s.run py before).handle py a).1 = .error r →
    (s.run py (before ++ [a])).submissions = (s.run py before).submissions ∧
      (s.run py (before ++ [a])).payments = (s.run py before).payments

theorem runAppend (before after : List Arrival) : s.run py (before ++ after) = (s.run py before).run py after := List.foldl_append

end MockServer

theorem serverRemembers {lib : Library} (py : Python) {s : MockServer lib} (coherent : s.Coherent) {arrivals : List Arrival}
    (fresh : s.Throughout py arrivals) : ∀ before after, arrivals = before ++ after → s.Remembers py before after := by
  rintro before after rfl
  obtain ⟨first,later⟩ := MockServer.throughoutSplit fresh
  refine ⟨MockServer.runCoherent first coherent,?_,?_⟩
  · rw [MockServer.runAppend]
    exact MockServer.runExtends later
  · rintro a rest rfl r refused
    rw [MockServer.runAppend]
    exact (MockServer.handleExtends later.1).refused r refused

/-! A batch, a payment nobody may make, and a batch that repeats a uid. -/
namespace Example

def office : MockServer package := { toRegistry := registry }

def unpaid : Arrival := .guarded 1742544000000000 [] (.invoicePayment [] 1742544000000000)

theorem handleInvoice (s : MockServer package) (post : Post) :
    (s.handle py (.invoice post)).2.toRegistry = (s.toRegistry.invoice py post).2 := rfl

theorem unpaidRefused (s : MockServer package) : (s.handle py unpaid).2 = s := rfl

theorem arrivalsFresh : office.Throughout py [.invoice opening,unpaid,.invoice repeating] := by
  obtain ⟨first,second,_⟩ := postsFresh
  refine ⟨first,True.intro,?_,True.intro⟩
  rw [unpaidRefused]
  show ((office.handle py (.invoice opening)).2).toRegistry.Fresh repeating
  rw [handleInvoice]
  exact second

theorem officeCoherent : office.Coherent where
  keyed := by rintro e ⟨⟩
  uids := List.nodup_nil
  paid := by rintro p ⟨⟩

end Example

theorem serverRemembersTwice :
    Example.office.Remembers Example.py [.invoice Example.opening] [Example.unpaid,.invoice Example.repeating] :=
  serverRemembers Example.py Example.officeCoherent Example.arrivalsFresh _ _ rfl

end Moadian.Mock
