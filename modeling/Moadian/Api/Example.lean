import Moadian.Api.App
import Moadian.Resumption.Pool
import Moadian.Resumption.Solo
import Moadian.Rules.Patterns

/-! One fiscal memory, the organization's own well-formed invoice and a network on
which everything goes well: the concrete inputs of the runs shown below. -/
namespace Moadian.Example
open Resumption

def line : InvoiceBodyItem := {
  sstid := "2710000138624", sstt := some "سرسیلندر قطعات صنعت فولاد سازی", mu := some "164"
  am := some 2, fee := some 10000, prdis := some 20000, dis := some 500, adis := some 19500
  vra := some 9, vam := some 1755, tsstam := some 21255 }

def header : InvoiceHeader := {
  indatim := 1683997837988, ins := 1, inty := some 1, inp := some 1, tins := some "14003778990"
  tob := some 2, tprdis := some 20000, tdis := some 500, tadis := some 19500, tvam := some 1755
  todam := some 0, tbill := some 21255, setm := some 2 }

def invoice : Invoice := ⟨header,[line],[],none⟩

def under (taxid : String) : Invoice := { invoice with header := { header with taxid := taxid } }

def cancellationOf (irtaxid taxid : String) : Invoice :=
  { invoice with header := { header with taxid := taxid, ins := 3, irtaxid := some irtaxid } }

def bodiless : Invoice := ⟨header,[],[],none⟩

def pipeline : InvoicePipeline := ⟨⟨"http://mock"⟩,"A11216",Patterns.engine,true⟩

def profile : Profile := ⟨"sandbox","A11216"⟩

def reply {α : Type} (value : α) : HttpReply α := .response { status := 200, text := "", body := .parsed value }

/- The `n`-th submission: its random bits, its serial, and the number it is given.
Every inquiry is answered by `verdicts`. -/
def smooth (n : Nat) (verdicts : List InquiryResult) : Oracle service
  | .getInvoice _ => ()
  | .saveInvoice _ => ()
  | .deleteInvoice _ => ()
  | .listAwaitingInquiry _ _ => ()
  | .findByTaxId _ _ => ()
  | .now => ⟨"2023-05-13T17:10:37+00:00",1683997837988⟩
  | .fromProfile _ => .ok ⟨"http://mock"⟩
  | .getNonce => reply ⟨"nonce","2023-05-13"⟩
  | .signToken _ => .ok ()
  | .getServerInformation => reply ⟨1683997837988,[⟨"key","id",some "RSA",some 1⟩]⟩
  | .jweEncryptor _ => .ok ()
  | .serialSource _ => .ok n
  | .uuid4 => BitVec.ofNat 128 n
  | .signAndEncrypt _ => .ok "jwe"
  | .postInvoice packets => ⟨true,reply ⟨1683997837988,
      packets.map (fun p => ⟨p.requestTraceId,none,some ("ref-" ++ toString n),none⟩)⟩⟩
  | .getInquiryByReferenceId _ => reply verdicts

def unheard (n : Nat) : Oracle service
  | .postInvoice _ => ⟨true,.failed "ReadTimeout"⟩
  | o => smooth n [] o

def unlisted (n : Nat) : Oracle service
  | .postInvoice _ => ⟨true,reply ⟨1683997837988,[]⟩⟩
  | o => smooth n [] o

def drafted : World :=
  ⟨(RecordStore.saveInvoice Table.empty (Api.draftOf Patterns.engine profile invoice)).2,[]⟩

def ruling (reference : String) (status : RequestStatus) : InquiryResult :=
  { referenceNumber := some reference, status := some (.status status) }

theorem accepted : (Patterns.engine.verify invoice).ok = true := by decide +kernel

end Moadian.Example
