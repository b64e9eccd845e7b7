import Moadian.Mock.History
import Moadian.Paging

/-! What the inquiries say after any run: each identifier is answered with what the batch
was answered with, and a list read page by page is read whole. -/
namespace Moadian.Mock
open Codec Crypto Fallible Paging

/-! Bounds. -/

section Bounds
variable {py : Python}

theorem isoZone {shown : String} {text : List Char} {m : Codec.Moment} (read : fromisoformat shown text = .ok m) :
    m.tzinfo = none ∨ ∃ o, m.tzinfo = some (some o) := by
  unfold fromisoformat at read
  split at read
  · cases read
  · rename_i offset fields
    cases offset with
    | none =>
      dsimp only at read
      obtain ⟨zone,made,read⟩ := bindOk.mp read
      obtain ⟨reading,_,read⟩ := bindOk.mp read
      split at read
      · rw [← Except.ok.inj read]
        exact .inl (Except.ok.inj made).symm
      · cases read
    | some n =>
      dsimp only at read
      obtain ⟨zone,made,read⟩ := bindOk.mp read
      obtain ⟨reading,_,read⟩ := bindOk.mp read
      split at read
      · rw [← Except.ok.inj read]
        obtain ⟨o,_,same⟩ := mapOk.mp made
        exact .inr ⟨o,same.symm⟩
      · cases read

theorem parsedAware {text : String} {name : String} {m : Option Codec.Moment} (parsed : parseTimestamp py (some text) name = .ok m) :
    ∃ n, m.bind (fun m => m.instant.map (fun n => n - epoch)) = some n := by
  simp only [parseTimestamp] at parsed
  split at parsed
  · cases parsed
  · rename_i moment read
    cases parsed
    obtain bare | ⟨o,aware⟩ := isoZone read
    · rw [if_pos bare]
      exact ⟨_,rfl⟩
    · rw [if_neg (by rw [aware]; exact Option.some_ne_none _)]
      simp only [Option.bind_some,Codec.Moment.instant,aware,Option.map_some]
      exact ⟨_,rfl⟩

theorem boundGiven {text name : String} {b : Option Int} (read : bound py (some text) name = .ok b) : ∃ n, b = some n := by
  obtain ⟨m,parsed,rfl⟩ := mapOk.mp read
  exact parsedAware parsed

end Bounds

def Asking.Valid (py : Python) (asking : Asking) : Prop :=
  ∃ start end_, bound py asking.start "start" = .ok start ∧ bound py asking.end_ "end" = .ok end_ ∧ crossed start end_ = false

def Asking.covers (py : Python) (asking : Asking) (s : StoredSubmission) : Bool :=
  match bound py asking.start "start",bound py asking.end_ "end" with
  | .ok start,.ok end_ => within asking.lookedAt start end_ s
  | _,_ => false

-- With a start of its own, a query does not look at the clock.
theorem coversFixed {py : Python} {a b : Asking} {text : String} (start : a.start = some text) (same : b.start = some text)
    (end_ : b.end_ = a.end_) : a.covers py = b.covers py := by
  funext s
  unfold Asking.covers
  rw [start,same,end_]
  split
  · rename_i from_ to_ read _
    obtain ⟨n,rfl⟩ := boundGiven read
    rfl
  · rfl

section Look
variable {py : Python} {asking : Asking} {subs : List StoredSubmission} {α : Type} {answer : List StoredSubmission → Except Refusal α}

theorem lookUp {a : α} : (do
      let start ← bound py asking.start "start"
      let end_ ← bound py asking.end_ "end"
      let found ← window asking.lookedAt subs start end_
      answer found) = .ok a ↔ asking.Valid py ∧ answer (subs.filter (asking.covers py)) = .ok a := by
  unfold Asking.Valid Asking.covers
  simp only [bind,Except.bind,window]
  cases first : bound py asking.start "start" with
  | error r => simp
  | ok start =>
    cases second : bound py asking.end_ "end" with
    | error r => simp
    | ok end_ =>
      cases apart : crossed start end_ with
      | true => simp [refuse,apart]
      | false => simp [apart]

end Look

/-! Results. -/

section Results
variable {lib : Library} {py : Python} {state : MockState lib}

def Signs (state : MockState lib) : Prop := ∀ data, ∃ signature, lib.sign state.privateKey data = .ok signature

theorem resultReport {now : Int} {s : StoredSubmission} {r : InquiryResult} (made : inquiryResult py state now s = .ok r) :
    ∃ sign, r = reportOf s sign := by
  unfold inquiryResult at made
  split at made
  · obtain ⟨sign,_,rfl⟩ := mapOk.mp made
    exact ⟨sign,rfl⟩
  · exact ⟨"",(Except.ok.inj made).symm⟩

theorem resultMade (signs : Signs state) (now : Int) (s : StoredSubmission) : ∃ r, inquiryResult py state now s = .ok r := by
  unfold inquiryResult
  split
  · unfold signResult
    dsimp only
    generalize encodeUtf8 (dumps py.floats .compact (.obj (resultHeader now))) = header
    generalize encodeUtf8 (dumps py.floats .compact (.obj (resultPayload s))) = payload
    obtain ⟨signature,signed⟩ := signs (signingBytes header payload)
    rw [signingAscii]
    dsimp only
    rw [signed]
    exact ⟨_,rfl⟩
  · exact ⟨_,rfl⟩

/- The answer for one identifier: the report of the only submission that has it, among those
that were found, or that there is none. -/
structure Reported (key : StoredSubmission → String) (byUid : Bool) (found : List StoredSubmission) (id : String)
    (r : InquiryResult) : Prop where
  own : ∀ a ∈ found, key a = id → ∃ sign, r = reportOf a sign
  missing : (∀ a ∈ found, key a ≠ id) → r = notFound id byUid

section Answer
variable {key : StoredSubmission → String} {byUid : Bool} {found : List StoredSubmission}

theorem answerReported (distinct : (found.map key).Nodup) {now : Int} {id : String} {r : InquiryResult}
    (answered : answer py state key byUid found now id = .ok r) : Reported key byUid found id r := by
  unfold answer at answered
  split at answered
  · rename_i s named
    have own : key s = id := by simpa using List.find?_some named
    have inside : s ∈ found := List.mem_reverse.mp (List.mem_of_find?_eq_some named)
    refine ⟨fun a member same => ?_,fun none_ => absurd own (none_ s inside)⟩
    have one : a = s := List.inj_on_of_nodup_map distinct member inside (same.trans own.symm)
    rw [one]
    exact resultReport answered
  · rename_i absent
    refine ⟨fun a member same => ?_,fun _ => (Except.ok.inj answered).symm⟩
    have other := List.find?_eq_none.mp absent a (List.mem_reverse.mpr member)
    exact absurd (beq_iff_eq.mpr same) other

theorem answerMade (signs : Signs state) (now : Int) (id : String) : ∃ r, answer py state key byUid found now id = .ok r := by
  unfold answer
  split
  · exact resultMade signs now _
  · exact ⟨_,rfl⟩

end Answer
end Results

namespace MockServer
variable {lib : Library} {py : Python} {s : MockServer lib}

theorem coherentReferences (coherent : s.Coherent) : (s.recorded.map StoredSubmission.referenceNumber).Nodup := by
  have keys : s.recorded.map StoredSubmission.referenceNumber = s.submissions.entries.map Prod.fst := by
    rw [Registry.recorded,List.map_map]
    exact List.map_congr_left (fun e member => (coherent.keyed e member).symm)
  rw [keys]
  exact s.submissions.nodup

theorem coherentUids (coherent : s.Coherent) : (s.recorded.map StoredSubmission.uid).Nodup := by
  rw [Registry.recorded,List.map_map]
  exact coherent.uids

/- Both inquiries answer, for each identifier, of what the batches were answered with, as
far as it lies within the bounds. -/
structure Inquired (py : Python) (s : MockServer lib) (registered : List SubmitResult) : Prop where
  answered : s.recorded.map StoredSubmission.result = registered
  byReference : ∀ asking ids rs, s.inquiryByReferenceId py asking ids = .ok rs →
    List.Forall₂ (Reported StoredSubmission.referenceNumber false (s.recorded.filter (asking.covers py))) ids rs
  byUid : ∀ asking ids fiscalId rs, s.inquiryByUid py asking ids fiscalId = .ok rs →
    List.Forall₂ (Reported StoredSubmission.uid true
      ((s.recorded.filter (fun a => fiscalId.all (fun f => a.fiscalId == f))).filter (asking.covers py))) ids rs
  ready : Signs s.toMockState → ∀ asking, asking.Valid py → ∀ ids, ids ≠ [] → ids.length ≤ maxInquiryIds →
    (∃ rs, s.inquiryByReferenceId py asking ids = .ok rs) ∧ ∀ fiscalId, ∃ rs, s.inquiryByUid py asking ids fiscalId = .ok rs
  readyPage : Signs s.toMockState → ∀ asking, asking.Valid py → ∀ pageNumber pageSize : Int, 1 ≤ pageNumber → 1 ≤ pageSize →
    pageSize ≤ 100 → ∀ status, (∀ text, status = some text → text ∈ Registry.inquiryStatuses) →
    ∃ rs, s.inquiry py asking pageNumber pageSize status = .ok rs
  statuses : ∀ taxIds, taxIds ≠ [] → ∃ rs, s.inquiryInvoiceStatus taxIds = .ok rs ∧
    List.Forall₂ (fun taxId r => r.taxId = some taxId ∧
      (r.error = none ↔ taxId ≠ "" ∧ ∃ a ∈ s.recorded, a.taxId = some taxId)) taxIds rs

theorem taxIdKnown {taxId : String} : taxId ∈ s.knownTaxIds ↔ taxId ≠ "" ∧ ∃ a ∈ s.recorded, a.taxId = some taxId := by
  simp only [Registry.knownTaxIds,List.mem_filterMap,Option.filter_eq_some_iff,decide_eq_true_eq]
  constructor
  · rintro ⟨a,member,own,some_⟩
    exact ⟨some_,a,member,own⟩
  · rintro ⟨some_,a,member,own⟩
    exact ⟨a,member,own,some_⟩

variable (py) in
theorem inquired (coherent : s.Coherent) : Inquired py s (s.recorded.map StoredSubmission.result) where
  answered := rfl
  byReference := by
    intro asking ids rs answered
    unfold Registry.inquiryByReferenceId at answered
    split at answered
    · cases answered
    · split at answered
      · cases answered
      · refine eachOk ?_ (lookUp.mp answered).2
        intro i id _ r one
        exact answerReported ((coherentReferences coherent).sublist (List.filter_sublist.map _)) one
  byUid := by
    intro asking ids fiscalId rs answered
    unfold Registry.inquiryByUid at answered
    split at answered
    · cases answered
    · split at answered
      · cases answered
      · refine eachOk ?_ (lookUp.mp answered).2
        intro i id _ r one
        exact answerReported ((coherentUids coherent).sublist ((List.filter_sublist.trans List.filter_sublist).map _)) one
  ready := by
    intro signs asking valid ids some_ few
    unfold Registry.inquiryByReferenceId Registry.inquiryByUid
    simp only [if_neg some_,if_neg (Nat.not_lt.mpr few)]
    refine ⟨?_,fun fiscalId => ?_⟩
    · obtain ⟨rs,made⟩ := eachMade (fun i id _ => answerMade signs (asking.signedAt i) id) 0
      exact ⟨rs,lookUp.mpr ⟨valid,made⟩⟩
    · obtain ⟨rs,made⟩ := eachMade (fun i id _ => answerMade signs (asking.signedAt i) id) 0
      exact ⟨rs,lookUp.mpr ⟨valid,made⟩⟩
  readyPage := by
    intro signs asking valid pageNumber pageSize first least most status known
    have named : ¬(status.any (fun text => text ∉ Registry.inquiryStatuses) = true) := by
      cases status with
      | none => exact Bool.false_ne_true
      | some text => simpa using known text rfl
    unfold Registry.inquiry
    rw [if_neg (by omega),if_neg named]
    obtain ⟨rs,made⟩ := eachMade (fun i a _ => resultMade signs (asking.signedAt i) a) 0
    exact ⟨rs,lookUp.mpr ⟨valid,made⟩⟩
  statuses := by
    intro taxIds some_
    refine ⟨_,if_neg some_,List.forall₂_map_right_iff.mpr (List.forall₂_same.mpr fun taxId _ => ?_)⟩
    rw [← taxIdKnown]
    split
    · rename_i known
      exact ⟨rfl,iff_of_true rfl known⟩
    · rename_i unknown
      exact ⟨rfl,iff_of_false (Option.some_ne_none _) unknown⟩

/-! Pages. -/

def listed (py : Python) (asking : Asking) (status : Option String) (s : MockServer lib) : List StoredSubmission :=
  (s.recorded.filter (fun a => status.all (fun text => a.status.value == text))).filter (asking.covers py)

theorem listedGrows {arrivals : List Arrival} (fresh : s.Throughout py arrivals) (asking : Asking) (status : Option String) :
    listed py asking status s <+: listed py asking status (s.run py arrivals) := by
  obtain ⟨more,_,grown,_⟩ := runExtends fresh
  refine ⟨(((more.map Prod.snd).filter (fun a => status.all (fun text => a.status.value == text))).filter (asking.covers py)),?_⟩
  rw [listed,listed,Registry.recorded,Registry.recorded,grown,List.map_append,List.filter_append,List.filter_append]

theorem inquiryPage {asking : Asking} {n : Nat} {pageSize : Int} {status : Option String} {rs : List InquiryResult}
    (answered : s.inquiry py asking (n + 1) pageSize status = .ok rs) :
    1 ≤ pageSize ∧ List.Forall₂ (fun a r => ∃ sign, r = reportOf a sign) (page pageSize.toNat n (listed py asking status s)) rs := by
  unfold Registry.inquiry at answered
  split at answered
  · cases answered
  · rename_i sized
    split at answered
    · cases answered
    · have positive : 1 ≤ pageSize := by omega
      have signed := eachOk (R := fun a r => ∃ sign, r = reportOf a sign) (fun i a _ r one => resultReport one)
        (lookUp.mp answered).2
      have first : (((n : Int) + 1 - 1) * pageSize).toNat = n * pageSize.toNat := by
        rw [Int.add_sub_cancel,Int.toNat_mul (Int.natCast_nonneg n) (by omega),Int.toNat_natCast]
      rw [first] at signed
      exact ⟨positive,signed⟩

structure Walk (py : Python) (served : Nat → MockServer lib) (between : Nat → List Arrival) : Prop where
  fresh : ∀ i, (served i).Throughout py (between i)
  next : ∀ i, served (i + 1) = (served i).run py (between i)

theorem reportsJoin {listing : Nat → List StoredSubmission} {pages : Nat → List InquiryResult} {k : Nat}
    (each : ∀ i ≤ k, List.Forall₂ (fun a r => ∃ sign, r = reportOf a sign) (listing i) (pages i)) :
    List.Forall₂ (fun a r => ∃ sign, r = reportOf a sign) ((List.range (k + 1)).flatMap listing) ((List.range (k + 1)).flatMap pages) := by
  refine List.rel_flatMap (R := fun i j => i = j ∧ i ≤ k) ?_ ?_
  · rw [List.forall₂_same]
    exact fun i member => ⟨rfl,Nat.lt_succ_iff.mp (List.mem_range.mp member)⟩
  · rintro i _ ⟨rfl,small⟩
    exact each i small

end MockServer

theorem inquiriesAnswer {lib : Library} (py : Python) {s : MockServer lib} (bare : s.submissions = .empty) (unpaid : s.payments = [])
    {arrivals : List Arrival} (fresh : s.Throughout py arrivals) :
    MockServer.Inquired py (s.run py arrivals) (s.registered py arrivals) := by
  have coherent : s.Coherent := by
    refine ⟨?_,?_,?_⟩
    · rw [bare]
      rintro e ⟨⟩
    · rw [Registry.uids,bare]
      exact List.nodup_nil
    · rw [unpaid]
      rintro p ⟨⟩
  obtain ⟨more,_,grown,told,_⟩ := MockServer.runExtends fresh
  have same : (s.run py arrivals).recorded.map StoredSubmission.result = s.registered py arrivals := by
    rw [Registry.recorded,grown,bare,← told]
    exact List.map_map
  rw [← same]
  exact MockServer.inquired py (MockServer.runCoherent fresh coherent)

/- Batches may come in between two pages: what is listed is what the window holds when the
last page is asked for, each submission once. -/
theorem pagesWhole {lib : Library} (py : Python) {served : Nat → MockServer lib} {between : Nat → List Arrival}
    (walk : MockServer.Walk py served between) {text : String} (asking : Nat → Asking) (start : ∀ i, (asking i).start = some text)
    (end_ : ∀ i, (asking i).end_ = (asking 0).end_) {pageSize : Int} {status : Option String} {pages : Nat → List InquiryResult}
    {k : Nat} (asked : ∀ i ≤ k, (served i).inquiry py (asking i) (i + 1 : Nat) pageSize status = .ok (pages i))
    (full : ∀ i < k, (pages i).length = pageSize.toNat) :
    List.Forall₂ (fun a r => ∃ sign, r = reportOf a sign)
      (((served k).listed py (asking 0) status).take ((k + 1) * pageSize.toNat)) ((List.range (k + 1)).flatMap pages) ∧
    ((pages k).length < pageSize.toNat →
      ((served k).listed py (asking 0) status).take ((k + 1) * pageSize.toNat) = (served k).listed py (asking 0) status) := by
  have own : ∀ i ≤ k, 1 ≤ pageSize ∧ List.Forall₂ (fun a r => ∃ sign, r = reportOf a sign)
      (page pageSize.toNat i ((served i).listed py (asking 0) status)) (pages i) := by
    intro i small
    have same : (served i).listed py (asking i) status = (served i).listed py (asking 0) status := by
      rw [MockServer.listed,coversFixed (start i) (start 0) (end_ i).symm,MockServer.listed]
    rw [← same]
    exact MockServer.inquiryPage (asked i small)
  have positive : 0 < pageSize.toNat := by
    have least := (own k (Nat.le_refl k)).1
    omega
  have grows : ∀ i, (served i).listed py (asking 0) status <+: (served (i + 1)).listed py (asking 0) status := by
    intro i
    rw [walk.next i]
    exact MockServer.listedGrows (walk.fresh i) (asking 0) status
  have joined := pagesGrow positive grows k (fun i small => by
    rw [(own i (Nat.le_of_lt small)).2.length_eq,full i small])
  refine ⟨?_,fun short => ?_⟩
  · rw [← joined]
    exact MockServer.reportsJoin (fun i small => (own i small).2)
  · rw [← (own k (Nat.le_refl k)).2.length_eq] at short
    exact pagesEnd short

/-! Two pages of one submission each, and a batch in between. -/
namespace Example

def kept (number uid : String) (receivedAt : Int) : StoredSubmission where
  referenceNumber := number
  uid := uid
  fiscalId := "A11111"
  clientId := "A11111"
  taxId := some "A111"
  invoice := []
  invoiceBytes := []
  jws := []
  signerDer := [3]
  receivedAt := receivedAt

def filled : MockServer package := { office with submissions :=
  (Dictionary.empty.put "r1" (kept "r1" "u1" 1742544000000000)).put "r2" (kept "r2" "u2" 1742544000000001) }

def between : Nat → List Arrival
  | 0 => [.invoice opening]
  | _ + 1 => []

def served : Nat → MockServer package
  | 0 => filled
  | i + 1 => (served i).run py (between i)

def since : Asking := { start := some "2025-03-21T08:00:00.000000000Z", lookedAt := 0, signedAt := fun _ => 1742544000000000 }

def listedPage (i : Nat) : List InquiryResult := ((served i).inquiry py since (i + 1 : Nat) 1 none).toOption.getD []

theorem filledFresh : filled.Throughout py [.invoice opening] := by
  refine ⟨⟨fun i held => ?_,fun i j same => (postDrawn same).2⟩,True.intro⟩
  have names : filled.submissions.keys = ["r1","r2"] := by decide
  rw [names] at held
  have first : ∀ text ∈ ["r1","r2"], text.toList.head? = some 'r' := by decide
  have other := first _ held
  simp [opening,post] at other

theorem servedFresh : ∀ i, (served i).Throughout py (between i)
  | 0 => filledFresh
  | _ + 1 => True.intro

theorem walked : MockServer.Walk py served between := ⟨servedFresh,fun _ => by rw [served]⟩

theorem sinceValid : since.Valid py := ⟨some 1742544000000000,none,by decide +kernel,rfl,rfl⟩

theorem packageSigns (state : MockState package) : Signs state := fun _ => ⟨_,rfl⟩

theorem listedPages (i : Nat) (coherent : (served i).Coherent) :
    (served i).inquiry py since (i + 1 : Nat) 1 none = .ok (listedPage i) := by
  obtain ⟨rs,made⟩ := (MockServer.inquired py coherent).readyPage (packageSigns _) since sinceValid (i + 1 : Nat) 1 (by omega)
    (by omega) (by omega) none (fun _ no => by cases no)
  rw [listedPage,made]
  rfl

theorem filledCoherent : filled.Coherent where
  keyed := by decide
  uids := by decide
  paid := by rintro p ⟨⟩

theorem servedCoherent (i : Nat) : (served i).Coherent := by
  induction i with
  | zero => exact filledCoherent
  | succ i ih =>
    rw [served]
    exact MockServer.runCoherent (servedFresh i) ih

theorem firstFull : ∀ i < 1, (listedPage i).length = (1 : Int).toNat := by
  intro i small
  obtain rfl : i = 0 := Nat.lt_one_iff.mp small
  have reports := (MockServer.inquiryPage (listedPages 0 filledCoherent)).2
  rw [← reports.length_eq]
  decide +kernel

end Example

theorem inquiriesAnswerTwice : MockServer.Inquired Example.py
    (Example.office.run Example.py [.invoice Example.opening,Example.unpaid,.invoice Example.repeating])
    (Example.office.registered Example.py [.invoice Example.opening,Example.unpaid,.invoice Example.repeating]) :=
  inquiriesAnswer Example.py rfl rfl Example.arrivalsFresh

theorem pagesWholeBetween :
    List.Forall₂ (fun a r => ∃ sign, r = reportOf a sign)
      (((Example.served 1).listed Example.py Example.since none).take ((1 + 1) * (1 : Int).toNat))
      ((List.range (1 + 1)).flatMap Example.listedPage) ∧
    ((Example.listedPage 1).length < (1 : Int).toNat →
      ((Example.served 1).listed Example.py Example.since none).take ((1 + 1) * (1 : Int).toNat) =
        (Example.served 1).listed Example.py Example.since none) :=
  pagesWhole Example.py Example.walked (fun _ => Example.since) (fun _ => rfl) (fun _ => rfl)
    (fun i _ => Example.listedPages i (Example.servedCoherent i)) Example.firstFull

end Moadian.Mock
