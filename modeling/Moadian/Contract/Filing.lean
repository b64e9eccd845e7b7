import Moadian.Contract.Pipeline

/-! What the endpoints that save, edit, delete and file an invoice do to the
store. A record is read once, first, and written or deleted only by what the
read showed of it. -/
namespace Moadian
open Resumption Handler Trace

def ReadAs (profile : Profile) (id : Int) (touched : Trace) (row : InvoiceRecord) : Prop :=
  touched = [read id (some row)] ∧ row.id = some id ∧ row.profile = profile.name

theorem recordOfObeys (profile : Profile) (id : Int) :
    Obeys (M := service) (fun tr o => tr = [] ∧ o = .getInvoice id) (fun tr out => match out with
      | .ok row => ReadAs profile id tr row
      | .error _ => tr = [] ∨ ∃ found, tr = [read id found]) [] (Api.recordOf profile id) := by
  unfold Api.recordOf Api.bindInteger
  split
  · refine performThen ⟨rfl,rfl⟩ (fun inp found possible => ?_)
    cases found with
    | none => exact .inr ⟨none,rfl⟩
    | some row =>
      obtain ⟨w,w',answered⟩ := possible
      have looked : w.invoices.getInvoice id = some row := congrArg Prod.fst (Option.some.inj answered)
      obtain ⟨columns,_,rfl⟩ := RecordStore.getCases looked
      simp only
      split
      · exact .inr ⟨_,rfl⟩
      · rename_i own
        exact ⟨rfl,rfl,by simpa using own⟩
  · exact .inl rfl

theorem recordOfThen {β : Type} {may : Trace → Op → Prop} {ends : Trace → Except Exc β → Prop}
    {profile : Profile} {id : Int} {f : InvoiceRecord → Handler β} (allowed : may [] (.getInvoice id))
    (ok : ∀ tr row, ReadAs profile id tr row → Obeys (M := service) may ends tr (f row))
    (error : ∀ tr e, tr = [] ∨ (∃ found, tr = [read id found]) → ends tr (.error e)) :
    Obeys (M := service) may ends [] (Api.recordOf profile id >>= f) := by
  refine obeysBind (obeysMay ?_ (recordOfObeys profile id)) ok error
  rintro tr o ⟨rfl,rfl⟩
  exact allowed

/-! Drafts. -/

def SaveMay (engine : RuleEngine) (profile : Profile) (body : Invoice) (tr : Trace) (o : Op) : Prop :=
  tr = [] ∧ o = .saveInvoice (Api.draftOf engine profile body)

theorem saveObeys (engine : RuleEngine) (profile : Profile) (body : Invoice) :
    Obeys (M := service) (SaveMay engine profile body) (fun _ _ => True) []
      (Api.saveInvoice engine profile body) :=
  performThen ⟨rfl,rfl⟩ (fun _ _ _ => trivial)

def UpdateMay (engine : RuleEngine) (profile : Profile) (id : Int) (body : Invoice) (tr : Trace) (o : Op) :
    Prop :=
  (tr = [] ∧ o = .getInvoice id) ∨ ∃ row, ReadAs profile id tr row ∧ row.state.editable = true ∧
    o = .saveInvoice (Api.redraft engine row body)

theorem updateObeys (engine : RuleEngine) (profile : Profile) (id : Int) (body : Invoice) :
    Obeys (M := service) (UpdateMay engine profile id body) (fun _ _ => True) []
      (Api.updateInvoice engine profile id body) := by
  refine recordOfThen (.inl ⟨rfl,rfl⟩) (fun tr row seen => ?_) (fun _ _ _ => trivial)
  split
  · trivial
  · rename_i draft
    exact performThen (.inr ⟨row,seen,by simpa using draft,rfl⟩) (fun _ _ _ => trivial)

def DeleteMay (profile : Profile) (id : Int) (tr : Trace) (o : Op) : Prop :=
  (tr = [] ∧ o = .getInvoice id) ∨ ∃ row, ReadAs profile id tr row ∧ row.state.editable = true ∧
    o = .deleteInvoice id

theorem deleteObeys (profile : Profile) (id : Int) :
    Obeys (M := service) (DeleteMay profile id) (fun _ _ => True) [] (Api.deleteInvoice profile id) := by
  refine recordOfThen (.inl ⟨rfl,rfl⟩) (fun tr row seen => ?_) (fun _ _ _ => trivial)
  split
  · trivial
  · rename_i draft
    refine performThen (.inr ⟨row,seen,by simpa using draft,rfl⟩) (fun inp gone possible => ?_)
    cases gone <;> trivial

/-! Filing. -/

/- The record a submission moves, as its guard let it through. -/
def Took (profile : Profile) (recordId : Option Int) (touched : Trace) (record : Option InvoiceRecord) : Prop :=
  match recordId with
  | none => touched = [] ∧ record = none
  | some id => ∃ row, ReadAs profile id touched row ∧ row.state.editable = true ∧ record = some row

def Refused (engine : RuleEngine) (profile : Profile) (body : Invoice) (recordId : Option Int) (tr : Trace)
    (record : InvoiceRecord) : Prop :=
  (engine.verify body).ok = false ∧ posts tr = [] ∧ ∃ taken, Took profile recordId (touched tr) taken ∧
    record = Api.refused engine profile taken body

def Filed (engine : RuleEngine) (profile : Profile) (body : Invoice) (recordId : Option Int) (tr : Trace)
    (record : InvoiceRecord) (s : InvoiceSubmission) : Prop :=
  Sent profile.memoryId body tr s ∧ ∃ taken, Took profile recordId (touched tr) taken ∧
    record = Api.filed engine profile taken body s

inductive FileMay (engine : RuleEngine) (profile : Profile) (body : Invoice) (recordId : Option Int)
    (tr : Trace) : Op → Prop where
  | read {id : Int} (first : tr = []) (named : recordId = some id) :
      FileMay engine profile body recordId tr (.getInvoice id)
  | refuse {record : InvoiceRecord} (why : Refused engine profile body recordId tr record) :
      FileMay engine profile body recordId tr (.saveInvoice record)
  | file {record : InvoiceRecord} {s : InvoiceSubmission}
      (why : Filed engine profile body recordId tr record s) :
      FileMay engine profile body recordId tr (.saveInvoice record)
  | post {packet : Packet} {taken : Option InvoiceRecord} (once : posts tr = [])
      (guard : Took profile recordId (touched tr) taken) :
      FileMay engine profile body recordId tr (.postInvoice [packet])
  | quiet {o : Op} {taken : Option InvoiceRecord} (quiet : o.quiet = true)
      (guard : Took profile recordId (touched tr) taken) : FileMay engine profile body recordId tr o

def FileEnds (engine : RuleEngine) (profile : Profile) (body : Invoice) (recordId : Option Int) (tr : Trace) :
    Except Exc Reply → Prop
  | .ok reply => ∃ before record saved s, tr = before ++ [wrote record saved] ∧
      Filed engine profile body recordId before record s ∧
      reply = .submitted saved.id saved.state s.taxId s.uid s.referenceNumber
  | .error _ => posts tr = [] ∨ (Unanswered tr ∧ ∃ taken, Took profile recordId (touched tr) taken)

theorem draftToSendThen {β : Type} {may : Trace → Op → Prop} {ends : Trace → Except Exc β → Prop}
    {profile : Profile} {recordId : Option Int} {f : Option InvoiceRecord → Handler β}
    (allowed : ∀ id, recordId = some id → may [] (.getInvoice id))
    (ok : ∀ tr taken, Took profile recordId tr taken → posts tr = [] → touched tr = tr →
      Obeys (M := service) may ends tr (f taken))
    (error : ∀ tr e, posts tr = [] → ends tr (.error e)) :
    Obeys (M := service) may ends [] (Api.draftToSend profile recordId >>= f) := by
  cases recordId with
  | none => exact ok [] none ⟨rfl,rfl⟩ rfl rfl
  | some id =>
    unfold Api.draftToSend
    rw [Prog.bindAssoc]
    refine recordOfThen (allowed id rfl) (fun tr row seen => ?_) (fun tr e seen => error tr e ?_)
    · have same : tr = [read id (some row)] := seen.1
      split
      · exact error tr _ (by rw [same]; rfl)
      · rename_i draft
        exact ok tr (some row) ⟨row,seen,by simpa using draft,rfl⟩ (by rw [same]; rfl) (by rw [same]; rfl)
    · rcases seen with rfl | ⟨found,rfl⟩ <;> rfl

theorem submitInvoiceObeys (engine : RuleEngine) (profile : Profile) (body : Invoice) (recordId : Option Int) :
    Obeys (M := service) (FileMay engine profile body recordId) (FileEnds engine profile body recordId) []
      (Api.submitInvoice engine profile body recordId) := by
  refine draftToSendThen (fun id named => .read rfl named) (fun tr taken took none_ own => ?_)
    (fun tr e none_ => .inl none_)
  have guard : Took profile recordId (touched tr) taken := own.symm ▸ took
  split
  · rename_i bad
    have bad : (engine.verify body).ok = false := by simpa using bad
    refine performThen (.refuse ⟨bad,none_,taken,guard,rfl⟩) (fun inp saved _ => .inl ?_)
    rw [postsSnoc,none_]
    rfl
  · have client : Quietly (fun _ => True) (Api.fromProfile profile) :=
      quietlyBind (quietCall (o := .fromProfile profile) rfl) (fun c _ => quietlyOfExcept c trivial)
        (fun _ _ => trivial)
    refine quietThen (s := tr) client rfl (fun tr' o same quiet => ?_) (fun tr' c same _ => ?_)
      (fun tr' e same _ => .inl ((congrArg (·.2.1) same).trans none_))
    · have kept : touched tr' = touched tr := congrArg (·.1) same
      exact .quiet quiet (kept ▸ guard)
    · have kept : touched tr' = touched tr := congrArg (·.1) same
      have posts : posts tr' = [] := (congrArg (·.2.1) same).trans none_
      have submitting := submitObeys (Api.pipelineFor engine profile c) body posts
      rw [kept] at submitting
      refine obeysBind (obeysMay ?_ submitting) (fun tr'' submissions held => ?_) (fun tr'' e held => ?_)
      · rintro tr'' o ⟨same',quiet | ⟨once,packet,rfl⟩⟩
        · exact .quiet quiet (same' ▸ guard)
        · exact .post once (same' ▸ guard)
      · obtain ⟨same',s,rfl,sent⟩ := held
        have filed : Filed engine profile body recordId tr'' (Api.filed engine profile taken body s) s :=
          ⟨sent,taken,same' ▸ guard,rfl⟩
        exact performThen (.file filed) (fun inp saved _ => ⟨tr'',_,saved,s,rfl,filed,rfl⟩)
      · exact .inr ⟨held.2,taken,held.1 ▸ guard⟩

end Moadian
