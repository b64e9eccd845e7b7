import Mathlib.Data.List.Induction
import Moadian.Api.App
import Moadian.Resumption.Contract

/-! What a trace says about a request: the statements it made of the store, the
packets it posted and the answers it got. Everything else is quiet. -/
namespace Moadian
open Resumption

abbrev Trace := List (Event service)

def Op.isPost : Op → Bool
  | postInvoice _ => true
  | _ => false

def Op.isInquiry : Op → Bool
  | getInquiryByReferenceId _ => true
  | _ => false

theorem writesStore {o : Op} (h : o.writes = true) : o.isStore = true := by
  cases o <;> simp [Op.writes] at h <;> rfl

def Op.quiet (o : Op) : Bool := !o.isStore && !o.isPost && !o.isInquiry

namespace Trace

def touched (tr : Trace) : Trace := tr.filter (fun e => Op.isStore e.op)

def postOf : Event service → Option (List Packet × Op.Delivery)
  | ⟨.postInvoice packets,delivery,_⟩ => some (packets,delivery)
  | _ => none

def posts (tr : Trace) : List (List Packet × Op.Delivery) := tr.filterMap postOf

def parsed {α : Type} : HttpReply α → Option α
  | .failed _ => none
  | .response r => if r.isSuccess then match r.body with
      | .parsed value => some value
      | _ => none
    else none

def answerOf : Event service → List InquiryResult
  | ⟨.getInquiryByReferenceId _,_,reply⟩ => (parsed (α := List InquiryResult) reply).getD []
  | _ => []

def answers (tr : Trace) : List InquiryResult := (tr.map answerOf).flatten

def delivered (tr : Trace) : Bool := (posts tr).any (fun p => p.2.accepted)

def recorded (tr : Trace) : Bool := tr.any (fun e => Op.writes e.op)

def read (id : Int) (found : Option InvoiceRecord) : Event service := ⟨Op.getInvoice id,(),found⟩

def wrote (record : InvoiceRecord) (saved : InvoiceRecord) : Event service := ⟨Op.saveInvoice record,(),saved⟩

@[simp] theorem touchedNil : touched [] = [] := rfl

@[simp] theorem postsNil : posts [] = [] := rfl

@[simp] theorem answersNil : answers [] = [] := rfl

theorem touchedSnoc (tr : Trace) (e : Event service) :
    touched (tr ++ [e]) = touched tr ++ if Op.isStore e.op then [e] else [] := by
  simp only [touched,List.filter_append,List.filter_singleton,Bool.cond_eq_ite]

theorem postsSnoc (tr : Trace) (e : Event service) : posts (tr ++ [e]) = posts tr ++ (postOf e).toList := by
  simp only [posts,List.filterMap_append,List.append_cancel_left_eq]
  cases h : postOf e <;> simp [h]

theorem answersSnoc (tr : Trace) (e : Event service) : answers (tr ++ [e]) = answers tr ++ answerOf e := by
  simp [answers]

theorem deliveredSnoc (tr : Trace) (e : Event service) :
    delivered (tr ++ [e]) = (delivered tr || (postOf e).any (fun p => p.2.accepted)) := by
  unfold delivered
  rw [postsSnoc,List.any_append]
  cases postOf e <;> simp

theorem recordedSnoc (tr : Trace) (e : Event service) :
    recorded (tr ++ [e]) = (recorded tr || Op.writes e.op) := by
  simp [recorded]

theorem recordedTouched (tr : Trace) : recorded (touched tr) = recorded tr := by
  induction tr using List.reverseRecOn with
  | nil => rfl
  | append_singleton tr e ih =>
    rw [touchedSnoc,recordedSnoc]
    split
    · rw [recordedSnoc,ih]
    · rename_i other
      have still : Op.writes e.op = false := by
        cases h : Op.writes e.op
        · rfl
        · exact absurd (writesStore h) other
      rw [List.append_nil,ih,still,Bool.or_false]

theorem writesNone {o : Op} (h : o.isStore = false) : o.writes = false := by
  cases o <;> first | rfl | simp [Op.isStore] at h

theorem postNone {o : Op} (h : o.isPost = false) (inp : o.Input) (a : o.Ans) :
    postOf ⟨o,inp,a⟩ = none := by
  cases o <;> first | rfl | simp [Op.isPost] at h

theorem answerNone {o : Op} (h : o.isInquiry = false) (inp : o.Input) (a : o.Ans) :
    answerOf ⟨o,inp,a⟩ = [] := by
  cases o <;> first | rfl | simp [Op.isInquiry] at h

def view (tr : Trace) : Trace × List (List Packet × Op.Delivery) × List InquiryResult :=
  (touched tr,posts tr,answers tr)

theorem quietParts {o : Op} (quiet : o.quiet = true) :
    o.isStore = false ∧ o.isPost = false ∧ o.isInquiry = false := by
  simpa [Op.quiet,and_assoc] using quiet

theorem viewQuiet {o : Op} (quiet : o.quiet = true) (tr : Trace) (inp : o.Input) (a : o.Ans) :
    view (tr ++ [⟨o,inp,a⟩]) = view tr := by
  obtain ⟨store,post,inquiry⟩ := quietParts quiet
  simp only [view,touchedSnoc,postsSnoc,answersSnoc,postNone post,answerNone inquiry]
  rw [if_neg (by simpa using store)]
  simp

end Trace

/- A program that performs nothing but `allowed` operations and ends as `Q` says. -/
def Within {α : Type} (allowed : Op → Bool) (Q : Except Exc α → Prop) (p : Handler α) : Prop :=
  Obeys (M := service) (fun _ o => allowed o = true) (fun _ out => Q out) [] p

section Within
variable {α β : Type} {allowed : Op → Bool}

theorem withinFrom {Q : Except Exc α → Prop} {p : Handler α} (h : Within allowed Q p) (tr : Trace) :
    Obeys (M := service) (fun _ o => allowed o = true) (fun _ out => Q out) tr p :=
  obeysMono (fun _ _ ends => ends.2) (obeysMay (fun _ _ held => held.1)
    (obeysKeep (J := fun _ => True) (fun _ _ _ _ _ _ => trivial) h trivial))

theorem withinBind {P : Except Exc α → Prop} {Q : Except Exc β → Prop} {p : Handler α} {f : α → Handler β}
    (first : Within allowed P p) (ok : ∀ a, P (.ok a) → Within allowed Q (f a))
    (error : ∀ e, P (.error e) → Q (.error e)) : Within allowed Q (p >>= f) :=
  obeysBind first (fun tr a held => withinFrom (ok a held) tr) (fun _ e held => error e held)

theorem withinPerform {o : Op} {Q : Except Exc o.Ans → Prop} (own : allowed o = true)
    (ends : ∀ inp a, Possible service o inp a → Q (.ok a)) : Within allowed Q (Handler.perform o) :=
  ⟨own,fun inp a possible => ends inp a possible⟩

theorem withinCall {o : Op} (own : allowed o = true) : Within allowed (fun _ => True) (Handler.perform o) :=
  withinPerform own (fun _ _ _ => trivial)

theorem withinOfExcept {Q : Except Exc α → Prop} (e : Except Exc α) (held : Q e) :
    Within allowed Q (Handler.ofExcept e) := by
  cases e <;> exact held

theorem withinMono {allowed' : Op → Bool} {P Q : Except Exc α → Prop} {p : Handler α} (h : Within allowed P p)
    (wider : ∀ o, allowed o = true → allowed' o = true) (weaken : ∀ out, P out → Q out) : Within allowed' Q p :=
  obeysMono (fun _ out held => weaken out held) (obeysMay (fun _ o own => wider o own) h)

/- What no allowed operation changes of a trace is unchanged along such a program,
which may then go on to do more. -/
theorem withinThen {κ : Type} {view : Trace → κ} {may : Trace → Op → Prop} {ends : Trace → Except Exc β → Prop}
    {P : Except Exc α → Prop} {p : Handler α} {f : α → Handler β} {s tr : Trace} (first : Within allowed P p)
    (same : view tr = view s)
    (unseen : ∀ tr' (o : Op) inp a, allowed o = true → view (tr' ++ [⟨o,inp,a⟩]) = view tr')
    (may_ : ∀ tr' o, view tr' = view tr → allowed o = true → may tr' o)
    (ok : ∀ tr' a, view tr' = view s → P (.ok a) → Obeys (M := service) may ends tr' (f a))
    (error : ∀ tr' e, view tr' = view s → P (.error e) → ends tr' (.error e)) :
    Obeys (M := service) may ends tr (p >>= f) := by
  have kept : Obeys (M := service) (fun tr' o => allowed o = true ∧ view tr' = view tr)
      (fun tr' out => view tr' = view tr ∧ P out) tr p :=
    obeysKeep (fun tr' o inp a before own => (unseen tr' o inp a own).trans before) first rfl
  exact obeysBind (obeysMay (fun tr' o held => may_ tr' o held.2 held.1) kept)
    (fun tr' a held => ok tr' a (held.1.trans same) held.2)
    (fun tr' e held => error tr' e (held.1.trans same) held.2)

end Within

/- A program that only performs quiet operations and ends as `Q` says. -/
def Quietly {α : Type} (Q : Except Exc α → Prop) (p : Handler α) : Prop :=
  Obeys (M := service) (fun _ o => Op.quiet o = true) (fun _ out => Q out) [] p

section Quietly
variable {α β : Type}

theorem quietlyBind {P : Except Exc α → Prop} {Q : Except Exc β → Prop} {p : Handler α} {f : α → Handler β}
    (first : Quietly P p) (ok : ∀ a, P (.ok a) → Quietly Q (f a)) (error : ∀ e, P (.error e) → Q (.error e)) :
    Quietly Q (p >>= f) := withinBind first ok error

theorem quietlyPerform {o : Op} {Q : Except Exc o.Ans → Prop} (quiet : o.quiet = true)
    (ends : ∀ inp a, Possible service o inp a → Q (.ok a)) : Quietly Q (Handler.perform o) :=
  withinPerform quiet ends

theorem quietCall {o : Op} (quiet : o.quiet = true) : Quietly (fun _ => True) (Handler.perform o) :=
  withinCall quiet

theorem quietThen {may : Trace → Op → Prop} {ends : Trace → Except Exc β → Prop} {P : Except Exc α → Prop}
    {p : Handler α} {f : α → Handler β} {s tr : Trace} (first : Quietly P p)
    (same : Trace.view tr = Trace.view s)
    (allowed : ∀ tr' o, Trace.view tr' = Trace.view tr → Op.quiet o = true → may tr' o)
    (ok : ∀ tr' a, Trace.view tr' = Trace.view s → P (.ok a) → Obeys (M := service) may ends tr' (f a))
    (error : ∀ tr' e, Trace.view tr' = Trace.view s → P (.error e) → ends tr' (.error e)) :
    Obeys (M := service) may ends tr (p >>= f) :=
  withinThen first same (fun _ _ inp a quiet => Trace.viewQuiet quiet _ inp a) allowed ok error

theorem performThen {may : Trace → Op → Prop} {ends : Trace → Except Exc β → Prop} {o : Op} {tr : Trace}
    {f : o.Ans → Handler β} (allowed : may tr o)
    (next : ∀ inp a, Possible service o inp a → Obeys (M := service) may ends (tr ++ [⟨o,inp,a⟩]) (f a)) :
    Obeys (M := service) may ends tr (Handler.perform o >>= f) := ⟨allowed,next⟩

theorem quietlyOfExcept {Q : Except Exc α → Prop} (e : Except Exc α) (held : Q e) :
    Quietly Q (Handler.ofExcept e) := withinOfExcept e held

end Quietly
end Moadian
