import Moadian.Filing.Voiding

/-! What one inquiry, alone in the world, asks of the organization: request by request,
until one of them fails. -/
namespace Moadian.Filing
open Resumption Handler Trace

abbrev Runs {α : Type} (Q : World → Trace → Except Exc α → Prop) (w : World) (tr : Trace) (p : Handler α) : Prop :=
  Alone (M := service) (fun _ _ _ => True) (fun _ _ => True) Q w tr p

/-! What a trace says of the network: the numbers asked for, request by request, and
whether a request, or what it needs, has failed. -/

def askedOf : Event service → Option (List String)
  | ⟨.getInquiryByReferenceId references,_,_⟩ => some references
  | _ => none

def asked (tr : Trace) : List (List String) := tr.filterMap askedOf

def isError {α : Type} : Except Exc α → Bool
  | .ok _ => false
  | .error _ => true

def failedAt : Event service → Bool
  | ⟨.fromProfile _,_,client⟩ => isError (α := MoadianClient) client
  | ⟨.getNonce,_,reply⟩ => (parsed (α := NonceResponse) reply).isNone
  | ⟨.signToken _,_,signed⟩ => isError (α := Unit) signed
  | ⟨.getInquiryByReferenceId _,_,reply⟩ => (parsed (α := List InquiryResult) reply).isNone
  | _ => false

def failed (tr : Trace) : Bool := tr.any failedAt

theorem askedSnoc (tr : Trace) (e : Event service) : asked (tr ++ [e]) = asked tr ++ (askedOf e).toList := by
  simp only [asked,List.filterMap_append,List.append_cancel_left_eq]
  cases h : askedOf e <;> simp [h]

theorem failedSnoc (tr : Trace) (e : Event service) : failed (tr ++ [e]) = (failed tr || failedAt e) := by
  simp [failed]

structure Silent (tr tr' : Trace) : Prop where
  asked : asked tr' = asked tr
  answers : answers tr' = answers tr
  failed : failed tr' = failed tr

theorem Silent.trans {a b c : Trace} (h : Silent a b) (h' : Silent b c) : Silent a c :=
  ⟨h'.asked.trans h.asked,h'.answers.trans h.answers,h'.failed.trans h.failed⟩

theorem silentHere {e : Event service} (local_ : here e.op = true) :
    askedOf e = none ∧ answerOf e = [] ∧ failedAt e = false := by
  obtain ⟨o,inp,a⟩ := e
  cases o <;> first | exact ⟨rfl,rfl,rfl⟩ | simp [here] at local_

theorem onwardSilent {tr tr' : Trace} (h : Onward tr tr') : Silent tr tr' := by
  obtain ⟨more,rfl,all⟩ := h
  induction more using List.reverseRecOn with
  | nil => simp only [List.append_nil]; exact ⟨rfl,rfl,rfl⟩
  | append_singleton more e ih =>
    have before := ih (fun x member => all x (List.mem_append_left _ member))
    obtain ⟨asks,answer,fails⟩ := silentHere (all e (by simp))
    rw [← List.append_assoc]
    refine before.trans ⟨?_,?_,?_⟩
    · rw [askedSnoc,asks]; simp
    · rw [answersSnoc,answer,List.append_nil]
    · rw [failedSnoc,fails,Bool.or_false]

/-! Asking. Nothing is written before every request has been answered. -/

def Quick {α : Type} (w : World) (tr : Trace) (w' : World) (tr' : Trace) : Except Exc α → Prop
  | .ok _ => w' = w ∧ Silent tr tr'
  | .error _ => w' = w ∧ asked tr' = asked tr ∧ failed tr' = true

theorem sendCases {α : Type} (method url : String) (reply : HttpReply α) :
    (∃ r v, parsed reply = some v ∧ r.body = .parsed v ∧
      exchange method url (pure reply) = (pure r : Handler (Response α))) ∨
    (∃ r, parsed reply = none ∧ (∀ v, r.body ≠ .parsed v) ∧ exchange method url (pure reply) = (pure r : Handler (Response α))) ∨
    ∃ e, parsed reply = none ∧ exchange method url (pure reply) = (raise e : Handler (Response α)) := by
  cases reply with
  | failed reason => exact .inr (.inr ⟨_,rfl,rfl⟩)
  | response r =>
    by_cases success : r.isSuccess = true
    · have sent : exchange method url (pure (.response r)) = (pure r : Handler (Response α)) := by
        simp only [exchange,raiseForApiError,if_pos success,Prog.pureRet,Prog.bindRet]
      cases body : r.body with
      | parsed v => exact .inl ⟨r,v,by simp [parsed,success,body],body,sent⟩
      | notJson reason => exact .inr (.inl ⟨r,by simp [parsed,success,body],by simp [body],sent⟩)
      | notArray => exact .inr (.inl ⟨r,by simp [parsed,success,body],by simp [body],sent⟩)
      | mismatch reason => exact .inr (.inl ⟨r,by simp [parsed,success,body],by simp [body],sent⟩)
    · refine .inr (.inr ⟨apiFailure r,by simp [parsed,success],?_⟩)
      simp only [exchange,raiseForApiError,if_neg success,Prog.pureRet,Prog.bindRet]
      rfl

theorem decodeCases {α : Type} (model : String) (r : Response α) :
    (∃ v, r.body = .parsed v ∧ decodeModel model r = pure v) ∨
      ((∀ v, r.body ≠ .parsed v) ∧ ∃ e, decodeModel model r = raise e) := by
  unfold decodeModel
  cases body : r.body with
  | parsed v => exact .inl ⟨v,rfl,rfl⟩
  | notJson reason => exact .inr ⟨by simp,_,rfl⟩
  | notArray => exact .inr ⟨by simp,_,rfl⟩
  | mismatch reason => exact .inr ⟨by simp,_,rfl⟩

theorem decodeListCases {α : Type} (model : String) (r : Response (List α)) :
    (∃ v, r.body = .parsed v ∧ decodeModelList model r = pure v) ∨
      ((∀ v, r.body ≠ .parsed v) ∧ ∃ e, decodeModelList model r = raise e) := by
  unfold decodeModelList
  cases body : r.body with
  | parsed v => exact .inl ⟨v,rfl,rfl⟩
  | notJson reason => exact .inr ⟨by simp,_,rfl⟩
  | notArray => exact .inr ⟨by simp,_,rfl⟩
  | mismatch reason => exact .inr ⟨by simp,_,rfl⟩

def received {α : Type} (method url : String) (decode : Response α → Handler α) (reply : HttpReply α) : Handler α :=
  exchange method url (pure reply) >>= decode

theorem sentReceived {α : Type} (method url : String) (decode : Response α → Handler α) (send : Handler (HttpReply α)) :
    (exchange method url send >>= decode) = (send >>= received method url decode) := Prog.bindAssoc _ _ _

theorem receivedCases {α : Type} (method url : String) {decode : Response α → Handler α}
    (decodes : ∀ r, (∃ v, r.body = .parsed v ∧ decode r = pure v) ∨ ((∀ v, r.body ≠ .parsed v) ∧ ∃ e, decode r = raise e))
    (reply : HttpReply α) :
    (∃ v, parsed reply = some v ∧ received method url decode reply = pure v) ∨
      (parsed reply = none ∧ ∃ e, received method url decode reply = raise e) := by
  unfold received
  obtain ⟨r,v,value,body,sent⟩ | ⟨r,none_,other,sent⟩ | ⟨e,none_,sent⟩ := sendCases method url reply
  · rcases decodes r with ⟨v',body',decoded⟩ | ⟨other,_⟩
    · rw [body] at body'
      cases body'
      exact .inl ⟨v,value,by rw [sent]; exact decoded⟩
    · exact absurd body (other v)
  · rcases decodes r with ⟨v',body',_⟩ | ⟨_,e,decoded⟩
    · exact absurd body' (other v')
    · exact .inr ⟨none_,e,by rw [sent]; exact decoded⟩
  · exact .inr ⟨none_,e,by rw [sent]; rfl⟩

theorem quickToken (client : MoadianClient) (w : World) (tr : Trace) : Runs (Quick w tr) w tr (bearerToken client) := by
  have nonce : bearerToken client = (perform .getNonce >>= fun reply =>
      received "GET" (buildUrl client.baseUrl "nonce") (decodeModel "NonceResponse") reply >>= fun nonce =>
        perform (.signToken nonce.nonce) >>= fun signed => ofExcept signed) := rfl
  rw [nonce]
  refine aloneRead rfl (fun inp reply _ => ?_)
  rcases receivedCases "GET" (buildUrl client.baseUrl "nonce") (decodeCases "NonceResponse") reply with
    ⟨v,value,done⟩ | ⟨none_,e,done⟩
  · rw [done]
    refine aloneRead rfl (fun inp' signed _ => ?_)
    have fine : failedAt ⟨Op.getNonce,inp,reply⟩ = false := by
      change (parsed (α := NonceResponse) reply).isNone = false
      rw [value]
      rfl
    cases signed with
    | ok u =>
      refine ⟨rfl,?_,?_,?_⟩
      · rw [askedSnoc,askedSnoc]
        simp [askedOf]
      · rw [answersSnoc,answersSnoc]
        simp [answerOf]
      · rw [failedSnoc,failedSnoc,fine,Bool.or_false]
        exact Bool.or_false _
    | error e =>
      refine ⟨rfl,?_,?_⟩
      · rw [askedSnoc,askedSnoc]
        simp [askedOf]
      · rw [failedSnoc]
        exact Bool.or_true _
  · rw [done]
    refine ⟨rfl,?_,?_⟩
    · rw [askedSnoc]
      simp [askedOf]
    · have fault : failedAt ⟨Op.getNonce,inp,reply⟩ = true := by
        change (parsed (α := NonceResponse) reply).isNone = true
        rw [none_]
        rfl
      rw [failedSnoc,fault,Bool.or_true]

/- The requests are made one after the other until one fails; what is heard is what they
were answered. -/
def Heard (w : World) (tr : Trace) (asks : List (List String)) (w' : World) (tr' : Trace) :
    Except Exc (List InquiryResult) → Prop
  | .ok results => w' = w ∧ asked tr' = asked tr ++ asks ∧ answers tr' = answers tr ++ results ∧ failed tr' = failed tr
  | .error _ => w' = w ∧ (∃ made, made <+: asks ∧ asked tr' = asked tr ++ made) ∧ failed tr' = true

theorem askHeard (client : MoadianClient) (references : List String) (w : World) (tr : Trace) :
    Runs (Heard w tr [references]) w tr (inquiryByReferenceId client references) := by
  have whole : inquiryByReferenceId client references = (bearerToken client >>= fun _ =>
      perform (.getInquiryByReferenceId references) >>= fun reply =>
        received "GET" (buildUrl client.baseUrl "inquiry-by-reference-id") (decodeModelList "InquiryResult") reply) := by
    unfold inquiryByReferenceId request
    rw [Prog.bindAssoc]
    exact congrArg (Prog.bind _) (funext fun _ => sentReceived _ _ _ _)
  rw [whole]
  refine aloneBind (quickToken client w tr) (fun w1 tr1 _ quick => ?_) (fun w1 tr1 e quick => ?_)
  · obtain ⟨rfl,silent⟩ := quick
    refine aloneRead rfl (fun inp reply _ => ?_)
    rcases receivedCases "GET" (buildUrl client.baseUrl "inquiry-by-reference-id") (decodeListCases "InquiryResult") reply with
      ⟨v,value,done⟩ | ⟨none_,e,done⟩
    · rw [done]
      refine ⟨rfl,?_,?_,?_⟩
      · rw [askedSnoc,silent.asked]
        rfl
      · have answer : answerOf ⟨Op.getInquiryByReferenceId references,inp,reply⟩ = v := by
          change (parsed (α := List InquiryResult) reply).getD [] = v
          rw [value]
          rfl
        rw [answersSnoc,silent.answers,answer]
      · have fine : failedAt ⟨Op.getInquiryByReferenceId references,inp,reply⟩ = false := by
          change (parsed (α := List InquiryResult) reply).isNone = false
          rw [value]
          rfl
        rw [failedSnoc,silent.failed,fine,Bool.or_false]
    · rw [done]
      refine ⟨rfl,⟨[references],List.prefix_rfl,?_⟩,?_⟩
      · rw [askedSnoc,silent.asked]
        rfl
      · have fault : failedAt ⟨Op.getInquiryByReferenceId references,inp,reply⟩ = true := by
          change (parsed (α := List InquiryResult) reply).isNone = true
          rw [none_]
          rfl
        rw [failedSnoc,fault,Bool.or_true]
  · obtain ⟨rfl,silent,fault⟩ := quick
    exact ⟨rfl,⟨[],List.nil_prefix,by rw [silent,List.append_nil]⟩,fault⟩

def numbers (records : List InvoiceRecord) : List String := records.filterMap (·.referenceNumber)

theorem inquireHeard (client : MoadianClient) (chunks : List (List InvoiceRecord)) (w : World) (tr : Trace) :
    Runs (Heard w tr (chunks.map numbers)) w tr (Api.inquire client chunks) := by
  induction chunks generalizing w tr with
  | nil => exact ⟨rfl,by simp,by simp,rfl⟩
  | cons chunk rest ih =>
    refine aloneBind (askHeard client _ w tr) (fun w1 tr1 first heard => ?_) (fun w1 tr1 e heard => ?_)
    · obtain ⟨rfl,asks,told,fine⟩ := heard
      refine aloneBind (ih w1 tr1) (fun w2 tr2 later heard => ?_) (fun w2 tr2 e heard => ?_)
      · obtain ⟨rfl,asks',told',fine'⟩ := heard
        exact ⟨rfl,by rw [asks',asks,List.append_assoc]; rfl,by rw [told',told,List.append_assoc],fine'.trans fine⟩
      · obtain ⟨rfl,⟨made,initial,asks'⟩,fault⟩ := heard
        refine ⟨rfl,⟨numbers chunk :: made,?_,?_⟩,fault⟩
        · exact List.prefix_cons_inj _ |>.mpr initial
        · rw [asks',asks,List.append_assoc]
          rfl
    · obtain ⟨rfl,⟨made,initial,asks⟩,fault⟩ := heard
      exact ⟨rfl,⟨made,initial.trans (List.prefix_cons_inj _ |>.mpr List.nil_prefix),asks⟩,fault⟩

end Moadian.Filing
