import Moadian.Contract.Filing

/-! What an inquiry does to the store: it writes back the copies it read at first,
each with the answer about it, and marks what a confirmed ابطالی names. -/
namespace Moadian
open Resumption Handler Trace

namespace Trace

def copiesOf : Event service → List InvoiceRecord
  | ⟨.getInvoice _,_,found⟩ => Option.toList (α := InvoiceRecord) found
  | ⟨.listAwaitingInquiry _ _,_,rows⟩ => rows
  | _ => []

def copies (tr : Trace) : List InvoiceRecord := ((touched tr).map copiesOf).flatten

theorem copiesSnoc (tr : Trace) (e : Event service) :
    copies (tr ++ [e]) = copies tr ++ if Op.isStore e.op then copiesOf e else [] := by
  unfold copies
  rw [touchedSnoc]
  split <;> simp

theorem copiesOne {e : Event service} (store : Op.isStore e.op = true) : copies [e] = copiesOf e := by
  have one := copiesSnoc [] e
  rwa [if_pos store] at one

theorem answersOne (e : Event service) : answers [e] = answerOf e := answersSnoc [] e

def looked (profile taxId : String) (found : Option InvoiceRecord) : Event service :=
  ⟨Op.findByTaxId profile taxId,(),found⟩

end Trace

inductive InquireMay (profile : Profile) (tr : Trace) : Op → Prop where
  | read {id : Int} (first : tr = []) : InquireMay profile tr (.getInvoice id)
  | list {limit : Int} (first : tr = []) : InquireMay profile tr (.listAwaitingInquiry profile.name limit)
  | ask {references : List String} (unwritten : recorded tr = false) :
      InquireMay profile tr (.getInquiryByReferenceId references)
  | quiet {o : Op} (quiet : o.quiet = true) : InquireMay profile tr o
  | judge {copy : InvoiceRecord} {result : InquiryResult} {block : Json} (member : copy ∈ copies tr)
      (handle : truthy copy.referenceNumber = true)
      (answer : Api.byReference (answers tr) copy.referenceNumber = some result) :
      InquireMay profile tr (.saveInvoice (Api.judged copy result block))
  | find {copy : InvoiceRecord} {result : InquiryResult} {block : Json} {taxId : String}
      (member : copy ∈ copies tr)
      (confirmed : (Api.judged copy result block).state = .confirmed)
      (names : Api.voids copy = some taxId) : InquireMay profile tr (.findByTaxId profile.name taxId)
  | void {copy target : InvoiceRecord} {result : InquiryResult} {block : Json} {taxId : String} {at_ : Moment}
      {before : Trace} (member : copy ∈ copies tr) (names : Api.voids copy = some taxId)
      (last : touched tr = before ++ [looked profile.name taxId (some target)])
      (other : target.id ≠ copy.id) (stands : target.state ≠ .cancelled) :
      InquireMay profile tr (.saveInvoice (Api.voided target (Api.judged copy result block) at_))

def Same (tr tr' : Trace) : Prop := copies tr' = copies tr ∧ answers tr' = answers tr

theorem sameView {tr tr' : Trace} (h : view tr' = view tr) : Same tr tr' := by
  have kept : touched tr' = touched tr := congrArg (·.1) h
  exact ⟨by unfold copies; rw [kept],congrArg (·.2.2) h⟩

theorem Same.trans {a b c : Trace} (h : Same a b) (h' : Same b c) : Same a c :=
  ⟨h'.1.trans h.1,h'.2.trans h.2⟩

theorem sameSnoc {tr : Trace} {e : Event service} (copied : copiesOf e = []) (answered : answerOf e = []) :
    Same tr (tr ++ [e]) := by
  constructor
  · rw [copiesSnoc,copied]
    split <;> simp
  · rw [answersSnoc,answered,List.append_nil]

theorem quietBlock (result : InquiryResult) : Quietly (fun _ => True) (Api.inquiryBlock result) := by
  refine quietlyBind (quietCall (o := .now) rfl) (fun at_ _ => ?_) (fun _ _ => trivial)
  refine quietlyBind (quietlyOfExcept (Q := fun _ => True) _ trivial) (fun errors _ => ?_) (fun _ _ => trivial)
  exact quietlyBind (quietlyOfExcept (Q := fun _ => True) _ trivial) (fun warnings _ => trivial) (fun _ _ => trivial)

theorem applyCancellationObeys {profile : Profile} {copy : InvoiceRecord} {result : InquiryResult}
    {block : Json} {tr : Trace} (member : copy ∈ copies tr)
    (confirmed : (Api.judged copy result block).state = .confirmed) :
    Obeys (M := service) (InquireMay profile) (fun tr' _ => Same tr tr') tr
      (Api.applyCancellation (Api.judged copy result block) profile) := by
  unfold Api.applyCancellation
  split
  · exact ⟨rfl,rfl⟩
  · rename_i taxId names
    refine performThen (.find member confirmed names) (fun _ found _ => ?_)
    have kept : Same tr (tr ++ [looked profile.name taxId found]) := sameSnoc rfl rfl
    cases found with
    | none => exact kept
    | some target =>
      simp only
      split
      · exact kept
      · rename_i open_
        obtain ⟨other,stands⟩ := not_or.mp open_
        refine performThen (.quiet rfl) (fun clock at_ _ => ?_)
        have last : touched (tr ++ [looked profile.name taxId (some target)] ++ [⟨Op.now,clock,at_⟩]) =
            touched tr ++ [looked profile.name taxId (some target)] := by
          rw [touchedSnoc,touchedSnoc]
          exact List.append_nil _
        have still : Same tr (tr ++ [looked profile.name taxId (some target)] ++ [⟨Op.now,clock,at_⟩]) :=
          kept.trans (sameSnoc rfl rfl)
        refine performThen (.void (still.1 ▸ member) names last other stands) (fun _ saved _ => ?_)
        exact (kept.trans (sameSnoc rfl rfl)).trans (sameSnoc rfl rfl)

theorem reconcileRecordObeys {profile : Profile} {copy : InvoiceRecord} {results : List InquiryResult}
    {tr : Trace} (member : copy ∈ copies tr) (handle : truthy copy.referenceNumber = true)
    (heard : answers tr = results) :
    Obeys (M := service) (InquireMay profile) (fun tr' _ => Same tr tr') tr
      (Api.reconcileRecord profile results copy) := by
  unfold Api.reconcileRecord
  split
  · exact ⟨rfl,rfl⟩
  · rename_i result answer
    refine quietThen (s := tr) (quietBlock result) rfl (fun _ o _ quiet => .quiet quiet)
      (fun tr' block same _ => ?_) (fun _ _ same _ => sameView same)
    have kept : Same tr tr' := sameView same
    have answer' : Api.byReference (answers tr') copy.referenceNumber = some result := by
      rw [kept.2,heard]; exact answer
    refine performThen (.judge (kept.1 ▸ member) handle answer') (fun inp saved _ => ?_)
    have written : Same tr (tr' ++ [wrote (Api.judged copy result block) saved]) := kept.trans (sameSnoc rfl rfl)
    split
    · rename_i confirmed
      exact obeysBind (applyCancellationObeys (written.1 ▸ member) confirmed)
        (fun tr'' _ same' => written.trans same') (fun tr'' _ same' => written.trans same')
    · exact written

theorem reconcileRecordsObeys {profile : Profile} {results : List InquiryResult} {pending : List InvoiceRecord}
    {tr : Trace} (known : ∀ copy ∈ pending, copy ∈ copies tr ∧ truthy copy.referenceNumber = true)
    (heard : answers tr = results) :
    Obeys (M := service) (InquireMay profile) (fun tr' _ => Same tr tr') tr
      (Api.reconcileRecords profile results pending) := by
  induction pending generalizing tr with
  | nil => exact ⟨rfl,rfl⟩
  | cons copy rest ih =>
    obtain ⟨member,handle⟩ := known copy List.mem_cons_self
    refine obeysBind (reconcileRecordObeys member handle heard) (fun tr' first same => ?_) (fun _ _ same => same)
    have later := @ih tr' (fun c mem => by
      rw [same.1]; exact known c (List.mem_cons_of_mem _ mem)) (same.2.trans heard)
    exact obeysBind later (fun tr'' _ same' => same.trans same') (fun tr'' _ same' => same.trans same')

theorem unwrittenSame {tr tr' : Trace} (same : touched tr' = touched tr) (h : recorded tr = false) :
    recorded tr' = false := by
  rw [← recordedTouched,same,recordedTouched,h]

theorem exchangeAsk {profile : Profile} {references : List String} (method url : String) {tr : Trace}
    (unwritten : recorded tr = false) :
    Obeys (M := service) (InquireMay profile) (fun tr' out => touched tr' = touched tr ∧
      ∃ reply : HttpReply (List InquiryResult), answers tr' = answers tr ++ (parsed reply).getD [] ∧
        ∀ r, out = .ok r → reply = .response r ∧ r.isSuccess = true)
      tr (exchange method url (perform (.getInquiryByReferenceId references))) := by
  refine performThen (.ask unwritten) (fun inp reply _ => ?_)
  have kept : touched (tr ++ [⟨Op.getInquiryByReferenceId references,inp,reply⟩]) = touched tr := by
    rw [touchedSnoc]; exact List.append_nil _
  have heard : answers (tr ++ [⟨Op.getInquiryByReferenceId references,inp,reply⟩]) =
      answers tr ++ (parsed (α := List InquiryResult) reply).getD [] := answersSnoc _ _
  cases reply with
  | failed reason => exact ⟨kept,_,heard,by simp⟩
  | response r =>
    simp only [raiseForApiError]
    split
    · rename_i success
      exact ⟨kept,_,heard,fun r' same => by cases Except.ok.inj same; exact ⟨rfl,success⟩⟩
    · exact ⟨kept,_,heard,by simp⟩

theorem askObeys {profile : Profile} (client : MoadianClient) (references : List String) {tr : Trace}
    (unwritten : recorded tr = false) :
    Obeys (M := service) (InquireMay profile) (fun tr' out => touched tr' = touched tr ∧
      ∀ results, out = .ok results → answers tr' = answers tr ++ results) tr
      (inquiryByReferenceId client references) := by
  unfold inquiryByReferenceId request
  rw [Prog.bindAssoc]
  refine quietThen (s := tr) (quietBearerToken client) rfl (fun _ o _ quiet => .quiet quiet)
    (fun tr' _ same _ => ?_) (fun _ _ same _ => ⟨congrArg (·.1) same,by simp⟩)
  have kept : touched tr' = touched tr := congrArg (·.1) same
  have silent : answers tr' = answers tr := congrArg (·.2.2) same
  refine obeysBind (exchangeAsk _ _ (unwrittenSame kept unwritten)) (fun tr'' r held => ?_)
    (fun _ _ held => ⟨held.1.trans kept,by simp⟩)
  obtain ⟨stays,reply,heard,answered⟩ := held
  obtain ⟨rfl,success⟩ := answered r rfl
  have done : ∀ out : Except Exc (List InquiryResult), (∀ results, out = .ok results → r.body = .parsed results) →
      touched tr'' = touched tr ∧ ∀ results, out = .ok results → answers tr'' = answers tr ++ results := by
    intro out body
    refine ⟨stays.trans kept,fun results same' => ?_⟩
    rw [heard,silent]
    simp [parsed,success,body results same']
  unfold decodeModelList
  cases body : r.body with
  | parsed value => exact done (.ok value) (fun results same' => by cases Except.ok.inj same'; exact body)
  | notJson reason => exact done (.error _) (by simp)
  | notArray => exact done (.error _) (by simp)
  | mismatch reason => exact done (.error _) (by simp)

theorem inquireObeys {profile : Profile} (client : MoadianClient) (chunks : List (List InvoiceRecord)) {tr : Trace}
    (unwritten : recorded tr = false) :
    Obeys (M := service) (InquireMay profile) (fun tr' out => touched tr' = touched tr ∧
      ∀ results, out = .ok results → answers tr' = answers tr ++ results) tr (Api.inquire client chunks) := by
  induction chunks generalizing tr with
  | nil => exact ⟨rfl,fun results same => by cases Except.ok.inj same; simp⟩
  | cons chunk rest ih =>
    refine obeysBind (askObeys client _ unwritten) (fun tr' first held => ?_) (fun _ _ held => ⟨held.1,by simp⟩)
    refine obeysBind (ih (unwrittenSame held.1 unwritten)) (fun tr'' later held' => ?_) (fun _ _ held' => ⟨held'.1.trans held.1,by simp⟩)
    refine ⟨held'.1.trans held.1,fun results same => ?_⟩
    cases Except.ok.inj same
    rw [held'.2 later rfl,held.2 first rfl,List.append_assoc]

theorem reconcileObeys {profile : Profile} {records : List InvoiceRecord} {tr : Trace}
    (known : ∀ copy ∈ records, copy ∈ copies tr) (silent : answers tr = []) (unwritten : recorded tr = false) :
    Obeys (M := service) (InquireMay profile) (fun _ _ => True) tr (Api.reconcile records profile) := by
  unfold Api.reconcile
  dsimp only
  split
  · trivial
  · have client : Quietly (fun _ => True) (Api.fromProfile profile) :=
      quietlyBind (quietCall (o := .fromProfile profile) rfl) (fun c _ => quietlyOfExcept c trivial)
        (fun _ _ => trivial)
    refine quietThen (s := tr) client rfl (fun _ o _ quiet => .quiet quiet) (fun tr' c same _ => ?_)
      (fun _ _ _ _ => trivial)
    have kept := sameView same
    have still := unwrittenSame (congrArg (·.1) same) unwritten
    refine obeysBind (inquireObeys c _ still) (fun tr'' results held => ?_) (fun _ _ _ => trivial)
    have heard : answers tr'' = results := by rw [held.2 results rfl,kept.2,silent]; rfl
    have copied : copies tr'' = copies tr' := by unfold copies; rw [held.1]
    refine obeysBind (reconcileRecordsObeys (fun copy member => ?_) heard) (fun _ _ _ => trivial) (fun _ _ _ => trivial)
    obtain ⟨mem,handle⟩ := List.mem_filter.mp member
    exact ⟨by rw [copied,kept.1]; exact known copy mem,handle⟩

theorem inquirePendingObeys (profile : Profile) (limit : Int) :
    Obeys (M := service) (InquireMay profile) (fun _ _ => True) [] (Api.inquirePending profile limit) := by
  unfold Api.inquirePending Api.bindInteger
  split
  · refine performThen (.list rfl) (fun inp rows _ => ?_)
    have own : copies [⟨Op.listAwaitingInquiry profile.name limit,inp,rows⟩] = rows := copiesOne rfl
    exact obeysBind (reconcileObeys (fun copy member => own.symm ▸ member) (answersOne _) rfl) (fun _ _ _ => trivial)
      (fun _ _ _ => trivial)
  · trivial

theorem inquireOneObeys (profile : Profile) (id : Int) :
    Obeys (M := service) (InquireMay profile) (fun _ _ => True) [] (Api.inquireOne profile id) := by
  refine recordOfThen (.read rfl) (fun tr row seen => ?_) (fun _ _ _ => trivial)
  split
  · trivial
  · have silent : answers tr = [] := seen.1 ▸ answersOne _
    have own : copies tr = [row] := seen.1 ▸ copiesOne rfl
    have known : ∀ copy ∈ [row], copy ∈ copies tr := fun copy member => own.symm ▸ member
    have unwritten : recorded tr = false := by rw [seen.1]; rfl
    refine obeysBind (reconcileObeys known silent unwritten) (fun _ out _ => ?_) (fun _ _ _ => trivial)
    obtain ⟨_,_,reported⟩ := out
    cases reported <;> trivial

theorem referringObeys (profile : Profile) (id subject : Int) :
    Obeys (M := service) (fun _ o => Op.writes o = false ∧ Op.isPost o = false) (fun _ _ => True) []
      (Api.referringInvoice profile id subject) := by
  unfold Api.referringInvoice
  split
  · trivial
  · refine recordOfThen ⟨rfl,rfl⟩ (fun tr row _ => ?_) (fun _ _ _ => trivial)
    split
    · trivial
    · exact performThen ⟨rfl,rfl⟩ (fun _ _ _ => trivial)

end Moadian
