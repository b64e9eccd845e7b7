import Moadian.Models.Responses
import Moadian.Resumption.Program
import Moadian.Store.Records

/-! The world a request acts on: the invoice table, and the packets the organization
has accepted. What a request does there are single operations; the answer of the
network, the clock, the keys and the counter is the environment's input. -/
namespace Moadian
open Resumption

structure Profile where
  name : String
  memoryId : String

structure Moment where
  isoformat : String
  millis : Int

structure ServerKey where
  id : String
  key : String
  algorithm : String
  purpose : Int

structure MoadianClient where
  baseUrl : String

inductive Op where
  | getInvoice (id : Int)
  | saveInvoice (record : InvoiceRecord)
  | deleteInvoice (id : Int)
  | listAwaitingInquiry (profile : String) (limit : Int)
  | findByTaxId (profile taxId : String)
  | now
  | fromProfile (profile : Profile)
  | getNonce
  | signToken (nonce : String)
  | getServerInformation
  | jweEncryptor (key : ServerKey)
  | serialSource (memoryId : String)
  | uuid4
  | signAndEncrypt (document : Json)
  | postInvoice (packets : List Packet)
  | getInquiryByReferenceId (references : List String)

namespace Op

def Ans : Op → Type
  | getInvoice _ => Option InvoiceRecord
  | saveInvoice _ => InvoiceRecord
  | deleteInvoice _ => Except Exc Unit
  | listAwaitingInquiry _ _ => List InvoiceRecord
  | findByTaxId _ _ => Option InvoiceRecord
  | now => Moment
  | fromProfile _ => Except Exc MoadianClient
  | getNonce => HttpReply NonceResponse
  | signToken _ => Except Exc Unit
  | getServerInformation => HttpReply ServerInformation
  | jweEncryptor _ => Except Exc Unit
  | serialSource _ => Except Exc Int
  | uuid4 => String
  | signAndEncrypt _ => Except Exc String
  | postInvoice _ => HttpReply BatchResponse
  | getInquiryByReferenceId _ => HttpReply (List InquiryResult)

/- Whether the packets were accepted and what is heard of it are two things. -/
structure Delivery where
  accepted : Bool
  reply : HttpReply BatchResponse

def Input : Op → Type
  | getInvoice _ => Unit
  | saveInvoice _ => Unit
  | deleteInvoice _ => Unit
  | listAwaitingInquiry _ _ => Unit
  | findByTaxId _ _ => Unit
  | now => Moment
  | fromProfile _ => Except Exc MoadianClient
  | getNonce => HttpReply NonceResponse
  | signToken _ => Except Exc Unit
  | getServerInformation => HttpReply ServerInformation
  | jweEncryptor _ => Except Exc Unit
  | serialSource _ => Except Exc Int
  | uuid4 => BitVec 128
  | signAndEncrypt _ => Except Exc String
  | postInvoice _ => Delivery
  | getInquiryByReferenceId _ => HttpReply (List InquiryResult)

end Op

def uuidText (bits : BitVec 128) : String :=
  let version := (bits &&& ~~~(0xC000#128 <<< 48) ||| 0x8000#128 <<< 48) &&& ~~~(0xF000#128 <<< 64) ||| 0x4000#128 <<< 64
  let hex := Nat.toDigits 16 version.toNat
  let digits := List.replicate (32 - hex.length) '0' ++ hex
  String.ofList (digits.take 8 ++ '-' :: (digits.drop 8).take 4 ++ '-' :: (digits.drop 12).take 4 ++
    '-' :: (digits.drop 16).take 4 ++ '-' :: digits.drop 20)

structure World where
  invoices : RecordStore
  received : List Packet

abbrev effects : Effects := ⟨Op,Op.Ans⟩

abbrev Handler (α : Type) := Prog effects Exc α

def respond : (o : Op) → o.Input → World → Option (o.Ans × World)
  | .getInvoice id, _, w => some (w.invoices.getInvoice id,w)
  | .saveInvoice record, _, w =>
    some ((w.invoices.saveInvoice record).1,{ w with invoices := (w.invoices.saveInvoice record).2 })
  | .deleteInvoice id, _, w =>
    some ((w.invoices.deleteInvoice id).1,{ w with invoices := (w.invoices.deleteInvoice id).2 })
  | .listAwaitingInquiry profile limit, _, w => some (w.invoices.listAwaitingInquiry profile limit,w)
  | .findByTaxId profile taxId, _, w => some (w.invoices.findByTaxId profile taxId,w)
  | .now, moment, w => some (moment,w)
  | .fromProfile _, client, w => some (client,w)
  | .getNonce, reply, w => some (reply,w)
  | .signToken _, signed, w => some (signed,w)
  | .getServerInformation, reply, w => some (reply,w)
  | .jweEncryptor _, ready, w => some (ready,w)
  | .serialSource _, serial, w => some (serial,w)
  | .uuid4, bits, w => some (uuidText bits,w)
  | .signAndEncrypt _, payload, w => some (payload,w)
  | .postInvoice packets, delivery, w => some (delivery.reply,
      if delivery.accepted then { w with received := w.received ++ packets } else w)
  | .getInquiryByReferenceId _, reply, w => some (reply,w)

abbrev service : Machine effects := ⟨World,Op.Input,respond⟩

namespace Handler

def perform (o : Op) : Handler o.Ans := Prog.call (E := effects) o

def raise {α : Type} (e : Exc) : Handler α := Prog.raise e

def ofExcept {α : Type} : Except Exc α → Handler α
  | .ok a => Prog.ret a
  | .error e => Prog.raise e

section OfExcept
variable {α β : Type} {x : Except Exc α} {f : α → Handler β}

theorem ofOk {a : α} (h : x = .ok a) : (ofExcept x >>= f) = f a := by
  subst h
  rfl

theorem ofError {e : Exc} (h : x = .error e) : (ofExcept x >>= f) = Prog.raise e := by
  subst h
  rfl

end OfExcept
end Handler

/-! A statement of the store, and everything else. -/

def Op.isStore : Op → Bool
  | getInvoice _ | saveInvoice _ | deleteInvoice _ | listAwaitingInquiry _ _ | findByTaxId _ _ => true
  | _ => false

def Op.writes : Op → Bool
  | saveInvoice _ | deleteInvoice _ => true
  | _ => false

theorem keepsInvoices {o : Op} (h : o.writes = false) {inp : o.Input} {w w' : World} {a : o.Ans}
    (answered : respond o inp w = some (a,w')) : w'.invoices = w.invoices := by
  cases o <;> simp [Op.writes] at h <;> cases Option.some.inj answered <;> try rfl
  split <;> rfl

theorem readAnswered {r : Int} {inp : Unit} {found : Option InvoiceRecord} {w w' : World}
    (answered : respond (.getInvoice r) inp w = some (found,w')) : found = w.invoices.getInvoice r ∧ w' = w := by
  cases Option.some.inj answered
  exact ⟨rfl,rfl⟩

theorem keepsReceived {o : Op} (h : ∀ packets, o ≠ .postInvoice packets) {inp : o.Input} {w w' : World}
    {a : o.Ans} (answered : respond o inp w = some (a,w')) : w'.received = w.received := by
  cases o <;> first | exact absurd rfl (h _) | (cases Option.some.inj answered; rfl)

end Moadian
